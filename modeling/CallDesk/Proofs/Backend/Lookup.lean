import CallDesk.Proofs.Backend.Request
import CallDesk.Proofs.Url.Segments
import Mathlib.Data.Bool.AllAny

/-! # Where calls are looked up

A client looks up a call at the percent coding of its id, below the path of the backend. The address is put
together as a text and then read, so an id is in the path that is asked for only if nothing in it moves there.
Percent coding leaves nothing that does, except in two ids: it has no other way to write one dot and two.
-/

namespace CallDesk

open Text

/-- A request gets a path in the place of an address, and carries nothing. -/
structure Request.Gets (u : Url) (path : String) (q : Request) : Prop where
  verb : q.verb = .get
  payload : q.payload = .none
  place : ∃ path, q.url = { u with path }
  target : q.url.target = path

/-- A dialog is one request that gets a path, whatever the backend is. -/
def Dialog.Gets {α : Type} (d : Dialog α) (u : Url) (path : String) : Prop :=
  ∃ q : Request, q.Gets u path ∧ ∀ (σ : Type) (b : Backend σ) (st : σ), (d.run b st).requests = [q]

theorem Dialog.Gets.same {α : Type} {d : Dialog α} {u : Url} {path other : String} (gets : d.Gets u path)
    (gets' : d.Gets u other) : path = other := by
  obtain ⟨q, isGet, sent⟩ := gets
  obtain ⟨q', isGet', sent'⟩ := gets'
  obtain rfl := List.singleton_inj.mp ((sent Unit .lost ()).symm.trans (sent' Unit .lost ()))
  exact isGet.target.symm.trans isGet'.target

namespace Client

/-- The paths at which a client looks up calls and transcripts, below a path. -/
structure LooksUp (c : Client) (u : Url) (below : String) : Prop where
  call : ∀ id ∉ [".", ".."], (c.call id).Gets u (below ++ "/calls/" ++ percentEncode id)
  transcript : ∀ id ∉ [".", ".."],
    (c.transcript id).Gets u (below ++ "/calls/" ++ percentEncode id ++ "/transcript")
  /-- One dot leads to the list of calls, and its transcript to a call. -/
  callDot : (c.call ".").Gets u (below ++ "/calls/")
  transcriptDot : (c.transcript ".").Gets u (below ++ "/calls/transcript")
  /-- Two dots lead out of the calls. -/
  callDots : (c.call "..").Gets u (below ++ "/")
  transcriptDots : (c.transcript "..").Gets u (below ++ "/transcript")

/-! ## One request -/

section

variable {α : Type} {c : Client} {u : Url} {path : String} {segments : List String}

/-- An operation that only gets a path is one request for what the address of the path is read as. -/
theorem send_gets (operation : String) (take : Reply → Except Fault α)
    (read : Url.read (c.address path) = .ok { u with path := .segments segments }) (web : Url.IsWeb u.scheme)
    (host : u.host.toList.all isRequestHostChar = true)
    (legal : ∀ token, c.token = some token → isHeaderText token = true) (alone : u.query = none) :
    (send operation take (c.request .get path none .none)).Gets u (Url.Path.segments segments).text := by
  obtain ⟨q, ok⟩ : ∃ q, c.request .get path none .none = .ok q := request_ok read web host legal
  have made := request_made ok
  obtain ⟨url, read', same⟩ := made.url
  obtain rfl := Except.ok.inj (read.symm.trans read')
  refine ⟨q, ⟨made.verb, made.payload, ⟨_, same⟩, ?_⟩, fun σ b st => ?_⟩
  · rw [same, Url.target, alone]
    exact String.append_empty
  · rw [send_requests, ok]
    rfl

end

/-- The address of a client does not end in a slash. -/
theorem of_bare (text : String) : (of text).base.toList.getLast? ≠ some '/' := by
  intro last
  rw [of, String.toList_ofList, List.getLast?_reverse] at last
  have stop := List.head?_dropWhile_not (· == '/') text.toList.reverse
  rw [last] at stop
  exact absurd stop (by decide)

/-- The address of a path starts with the first segment of the path. -/
theorem address_text (c : Client) {segment : String} (rest : List String) (filled : segment ≠ "")
    (whole : '/' ∉ segment.toList) :
    c.address (Url.Path.segments (segment :: rest)).text =
      c.base ++ "/" ++ (segment ++ (Url.Path.segments rest).text) := by
  have stop : (segment.toList ++ (Url.Path.segments rest).text.toList).dropWhile (· == '/') =
      segment.toList ++ (Url.Path.segments rest).text.toList := by
    cases first : segment.toList with
    | nil => exact absurd (String.toList_inj.mp first) filled
    | cons c others =>
      have other : c ≠ '/' := by
        rintro rfl
        exact whole (first ▸ List.mem_cons_self)
      rw [List.cons_append, List.dropWhile_cons_of_neg (by simpa using other)]
  rw [address, Url.toList_text_cons, List.dropWhile_cons_of_pos (by decide), stop, String.ofList_append,
    String.ofList_toList, String.ofList_toList]

/-- The characters of segments in percent coding, and of the slashes before them, have no meaning of their own in
a path. -/
theorem inert_of_coded {c : Char} (inert : isCoded c = true ∨ c = '/') :
    c ≠ '?' ∧ c ≠ '#' ∧ c ≠ '\\' ∧ Url.isEdge c = false := by
  rcases inert with coded | rfl
  · exact forall_isCoded (p := fun c => c ≠ '?' ∧ c ≠ '#' ∧ c ≠ '\\' ∧ Url.isEdge c = false) (by decide) coded
  · decide

theorem coded_of_mem_text {segment : String} {rest : List String}
    (coded : ∀ s ∈ segment :: rest, ∀ c ∈ s.toList, isCoded c = true) :
    ∀ c ∈ (segment ++ (Url.Path.segments rest).text).toList, isCoded c = true ∨ c = '/' := by
  intro c member
  rw [String.toList_append, List.mem_append, Url.Path.text, String.toList_ofList, List.mem_flatMap] at member
  rcases member with first | ⟨s, inside, member⟩
  · exact .inl (coded segment List.mem_cons_self c first)
  · rcases List.mem_cons.mp member with slash | member
    · exact .inr slash
    · exact .inl (coded s (List.mem_cons_of_mem _ inside) c member)

section

variable {text : String} {token : Option String} {u : Url}

/-- From the root of the backend's address, segments in percent coding are entered one after the other. -/
theorem gets_segments (base : Url.IsBase text u) (host : u.host.toList.all isRequestHostChar = true)
    (legal : ∀ t, token = some t → isHeaderText t = true) :
    ∃ root n, u.path = .segments (root ++ List.replicate n "") ∧
      (Url.Tidy (of text).base u → root.getLast? ≠ some "") ∧
      ∀ {α : Type} (operation : String) (take : Reply → Except Fault α) (segment : String) (rest : List String),
        segment ≠ "" → (∀ s ∈ segment :: rest, ∀ c ∈ s.toList, isCoded c = true) →
        (send operation take
          (((of text).bind token).request .get (Url.Path.segments (segment :: rest)).text none .none)).Gets u
            (Url.Path.segments (Url.resolveOnto root.reverse (segment :: rest))).text := by
  obtain ⟨slashes, trimmed, only⟩ := of_trimmed text
  obtain ⟨root, n, path, tidy, read⟩ := base.root trimmed only (of_bare text)
  refine ⟨root, n, path, tidy, fun operation take segment rest filled coded => ?_⟩
  have inert := fun c member => inert_of_coded (coded_of_mem_text coded c member)
  have whole : '/' ∉ segment.toList := fun member =>
    absurd (coded segment List.mem_cons_self _ member) (by decide)
  have at_root := read (segment ++ (Url.Path.segments rest).text)
    ⟨fun member => (inert _ member).1 rfl, fun member => (inert _ member).2.1 rfl⟩
    (fun member => (inert _ member).2.2.1 rfl) (fun c member => (inert c member).2.2.2)
  rw [Url.segmentsOf_text coded] at at_root
  have address := address_text ((of text).bind token) rest filled whole
  exact send_gets operation take (address ▸ at_root) base.web host legal base.query

theorem call_path (id : String) :
    "/calls/" ++ percentEncode id = (Url.Path.segments ["calls", percentEncode id]).text := by
  rw [← String.toList_inj]
  simp [Url.Path.text]

theorem transcript_path (id : String) :
    "/calls/" ++ percentEncode id ++ "/transcript" =
      (Url.Path.segments ["calls", percentEncode id, "transcript"]).text := by
  rw [← String.toList_inj]
  simp [Url.Path.text]

theorem still_percentEncode {id : String} (other : id ∉ [".", ".."]) : Url.moves (percentEncode id) = false := by
  by_contra moving
  apply other
  rcases Url.moves_percentEncode (by simpa using moving) with rfl | rfl <;> decide

/-- The segments that one dot and two lead to, from segments that have been entered, in reverse. -/
theorem resolveOnto_dots (done : List String) :
    Url.resolveOnto done ["calls", percentEncode "."] = done.reverse ++ ["calls", ""] ∧
    Url.resolveOnto done ["calls", percentEncode ".", "transcript"] = done.reverse ++ ["calls", "transcript"] ∧
    Url.resolveOnto done ["calls", percentEncode ".."] = done.reverse ++ [""] ∧
    Url.resolveOnto done ["calls", percentEncode "..", "transcript"] = done.reverse ++ ["transcript"] := by
  have one : percentEncode "." = "." := by decide +kernel
  have two : percentEncode ".." = ".." := by decide +kernel
  rw [one, two]
  simp [Url.resolveOnto, Url.isDoubleDot, Url.isSingleDot]

/-- Where a client looks up calls: each at its id, below the root of the backend's address. -/
theorem exists_looksUp (base : Url.IsBase text u) (host : u.host.toList.all isRequestHostChar = true)
    (legal : ∀ t, token = some t → isHeaderText t = true) :
    ∃ root n, u.path = .segments (root ++ List.replicate n "") ∧
      (Url.Tidy (of text).base u → root.getLast? ≠ some "") ∧
      ((of text).bind token).LooksUp u (Url.Path.segments root).text := by
  obtain ⟨root, n, path, tidy, gets⟩ := gets_segments base host legal
  refine ⟨root, n, path, tidy, ?_⟩
  have coded (id : String) : ∀ s ∈ ["calls", percentEncode id, "transcript"], ∀ c ∈ s.toList, isCoded c = true := by
    simp only [List.forall_mem_cons]
    exact ⟨List.all_eq_true.mp (by decide), isCoded_of_mem_percentEncode, List.all_eq_true.mp (by decide), by simp⟩
  have still {id : String} (other : id ∉ [".", ".."]) :
      ∀ s ∈ ["calls", percentEncode id, "transcript"], Url.moves s = false := by
    simp only [List.forall_mem_cons]
    exact ⟨by decide, still_percentEncode other, by decide, by simp⟩
  have call (id : String) {parts : List String} {tail : String}
      (leads : Url.resolveOnto root.reverse ["calls", percentEncode id] = root.reverse.reverse ++ parts)
      (shown : (Url.Path.segments parts).text = tail) :
      (((of text).bind token).call id).Gets u ((Url.Path.segments root).text ++ tail) := by
    rw [Client.call, call_path, ← shown, ← Url.text_append, ← root.reverse_reverse, ← leads]
    exact gets _ _ _ _ (by decide) fun s member => coded id s (List.mem_append_left ["transcript"] member)
  have transcript (id : String) {parts : List String} {tail : String}
      (leads : Url.resolveOnto root.reverse ["calls", percentEncode id, "transcript"] =
        root.reverse.reverse ++ parts)
      (shown : (Url.Path.segments parts).text = tail) :
      (((of text).bind token).transcript id).Gets u ((Url.Path.segments root).text ++ tail) := by
    rw [Client.transcript, transcript_path, ← shown, ← Url.text_append, ← root.reverse_reverse, ← leads]
    exact gets _ _ _ _ (by decide) (coded id)
  obtain ⟨callDot, transcriptDot, callDots, transcriptDots⟩ := resolveOnto_dots root.reverse
  refine ⟨fun id other => ?_, fun id other => ?_, call _ callDot (by decide), transcript _ transcriptDot (by decide),
    call _ callDots (by decide), transcript _ transcriptDots (by decide)⟩
  · rw [String.append_assoc]
    refine call id (Url.resolveOnto_of_still fun s member => ?_) (call_path id).symm
    exact still other s (List.mem_append_left ["transcript"] member)
  · have path := transcript id (Url.resolveOnto_of_still (still other)) (transcript_path id).symm
    rw [← String.append_assoc, ← String.append_assoc] at path
    exact path

end

/-! ## Which call is looked up -/

namespace LooksUp

variable {c : Client} {u : Url} {below path : String} {id other : String}

/-- Other ids have other paths. -/
theorem call_injective (looks : c.LooksUp u below) (plain : id ∉ [".", ".."]) (plain' : other ∉ [".", ".."])
    (gets : (c.call id).Gets u path) (gets' : (c.call other).Gets u path) : id = other := by
  have same := ((looks.call id plain).same gets).trans (gets'.same (looks.call other plain'))
  exact percentEncode_injective ((String.append_right_inj _).mp same)

theorem transcript_injective (looks : c.LooksUp u below) (plain : id ∉ [".", ".."]) (plain' : other ∉ [".", ".."])
    (gets : (c.transcript id).Gets u path) (gets' : (c.transcript other).Gets u path) : id = other := by
  have same := ((looks.transcript id plain).same gets).trans (gets'.same (looks.transcript other plain'))
  exact percentEncode_injective ((String.append_right_inj _).mp ((String.append_left_inj _).mp same))

/-- No call is at the path of a transcript. -/
theorem call_ne_transcript (looks : c.LooksUp u below) (plain : id ∉ [".", ".."]) (plain' : other ∉ [".", ".."])
    (gets : (c.call id).Gets u path) : ¬ (c.transcript other).Gets u path := by
  intro gets'
  have same := ((looks.call id plain).same gets).trans (gets'.same (looks.transcript other plain'))
  have ends : percentEncode id = percentEncode other ++ "/transcript" :=
    (String.append_right_inj _).mp (same.trans String.append_assoc)
  have coded := isCoded_of_mem_percentEncode (s := id) '/'
  rw [ends, String.toList_append] at coded
  exact absurd (coded (List.mem_append_right _ (by decide))) (by decide)

/-- What is looked up is among the calls, unless the id is two dots. -/
theorem inside_iff (looks : c.LooksUp u below) (gets : (c.call id).Gets u path ∨ (c.transcript id).Gets u path) :
    (below ++ "/calls/").toList <+: path.toList ↔ id ≠ ".." := by
  have within (rest : String) : (below ++ "/calls/").toList <+: (below ++ "/calls/" ++ rest).toList := by
    have split : (below ++ "/calls/" ++ rest).toList = (below ++ "/calls/").toList ++ rest.toList :=
      String.toList_append
    rw [split]
    exact List.prefix_append _ _
  have without {rest : String} (other : ¬ "/calls/".toList <+: rest.toList) :
      ¬ (below ++ "/calls/").toList <+: (below ++ rest).toList := by
    rw [String.toList_append, String.toList_append, List.prefix_append_right_inj]
    exact other
  by_cases two : id = ".."
  · subst two
    refine iff_of_false ?_ (not_not.mpr rfl)
    rcases gets with gets | gets
    · rw [← looks.callDots.same gets]
      exact without (by decide)
    · rw [← looks.transcriptDots.same gets]
      exact without (by decide)
  · refine iff_of_true ?_ two
    by_cases one : id = "."
    · subst one
      rcases gets with gets | gets
      · exact looks.callDot.same gets ▸ List.prefix_rfl
      · have path : below ++ "/calls/transcript" = below ++ "/calls/" ++ "transcript" := by
          rw [String.append_assoc]
          rfl
        rw [← looks.transcriptDot.same gets, path]
        exact within "transcript"
    · have plain : id ∉ [".", ".."] := by simp [one, two]
      rcases gets with gets | gets
      · rw [← (looks.call id plain).same gets]
        exact within _
      · rw [← (looks.transcript id plain).same gets, String.append_assoc]
        exact within _

end LooksUp

section

variable {text : String} {token : Option String} {u : Url}

/-- A client of a base of the web looks up calls below its root, that is below the path of the base without slashes
at its end. Looking up a call or its transcript is one request each; it is for the percent coding of the id, unless
the id is one dot or two. Such ids have paths of their own each, other than those of transcripts. What is looked up
is among the calls, except for two dots. -/
theorem lookups_below_base (base : Url.IsBase text u) (host : u.host.toList.all isRequestHostChar = true)
    (legal : ∀ t, token = some t → isHeaderText t = true) :
    ∃ root n, u.path = .segments (root ++ List.replicate n "") ∧
      (Url.Tidy (of text).base u → root.getLast? ≠ some "") ∧
      ((of text).bind token).LooksUp u (Url.Path.segments root).text ∧
      (∀ id ∉ [".", ".."], ∀ other ∉ [".", ".."], ∀ path,
        ((((of text).bind token).call id).Gets u path → (((of text).bind token).call other).Gets u path →
          id = other) ∧
        ((((of text).bind token).transcript id).Gets u path →
          (((of text).bind token).transcript other).Gets u path → id = other) ∧
        ((((of text).bind token).call id).Gets u path →
          ¬ (((of text).bind token).transcript other).Gets u path)) ∧
      ∀ id path, (((of text).bind token).call id).Gets u path ∨ (((of text).bind token).transcript id).Gets u path →
        (((Url.Path.segments root).text ++ "/calls/").toList <+: path.toList ↔ id ≠ "..") := by
  obtain ⟨root, n, path, tidy, looks⟩ := exists_looksUp base host legal
  refine ⟨root, n, path, tidy, looks, fun id plain other plain' path => ?_, fun id path => looks.inside_iff⟩
  exact ⟨looks.call_injective plain plain', looks.transcript_injective plain plain',
    looks.call_ne_transcript plain plain'⟩

/-- The address of a backend on this machine, with slashes at its end. -/
def localText : String := "http://localhost:8000/api/v1//"

def localUrl : Url :=
  { scheme := "http", host := "localhost", port := some 8000, path := .segments ["api", "v1", "", ""] }

def localClient : Client := (of localText).bind (some "abc")

theorem localUrl_isBase : Url.IsBase localText localUrl :=
  ⟨⟨by decide +kernel, .inl rfl, Url.visible_end (by decide +kernel)⟩, rfl, rfl⟩

theorem localUrl_host : localUrl.host.toList.all isRequestHostChar = true := by decide +kernel

theorem localClient_legal : ∀ t, some "abc" = some t → isHeaderText t = true := by
  rintro t ⟨⟩
  decide

/-- Every request can be made below that address. -/
theorem localClient_makes {verb : Verb} (path : String) {query : Option String} {payload : Payload} :
    ∃ q, localClient.request verb path query payload = .ok q := by
  obtain ⟨url, read, scheme, host⟩ := read_address localUrl_isBase.toIsAddress (some "abc") path
  exact request_ok read (.inl scheme) (by rw [host]; exact localUrl_host) localClient_legal

theorem localText_tidy : Url.Tidy (of localText).base localUrl := by
  have last : (Url.segmentsOf (of localText).base.toList).getLast? = some "v1" := by decide +kernel
  refine ⟨List.all_iff_forall_prop.mp (by decide +kernel), ?_⟩
  rw [last]
  rintro s ⟨⟩ moving
  exact absurd moving (by decide)

theorem lookups_below_base_local :
    Url.IsBase localText localUrl ∧ localUrl.host.toList.all isRequestHostChar = true ∧
      (∀ t, some "abc" = some t → isHeaderText t = true) ∧ Url.Tidy (of localText).base localUrl ∧
      ∃ root n, localUrl.path = .segments (root ++ List.replicate n "") ∧ root.getLast? ≠ some "" ∧
        localClient.LooksUp localUrl (Url.Path.segments root).text := by
  obtain ⟨root, n, path, full, looks, -⟩ := lookups_below_base localUrl_isBase localUrl_host localClient_legal
  exact ⟨localUrl_isBase, localUrl_host, localClient_legal, localText_tidy, root, n, path, full localText_tidy, looks⟩

theorem localClient_gets {α : Type} (operation : String) (take : Reply → Except Fault α) (path : String)
    (segments : List String)
    (read : Url.read (localClient.address path) = .ok { localUrl with path := .segments segments }) :
    (send operation take (localClient.request .get path none .none)).Gets localUrl
      (Url.Path.segments segments).text :=
  send_gets operation take read (.inl rfl) localUrl_host localClient_legal rfl

/-- Two dots are looked up outside of the calls, and the transcript of one dot at the path of a call. -/
theorem dots_are_no_ids :
    Url.IsBase localText localUrl ∧ localUrl.path.text = "/api/v1" ++ "//" ∧
      (localClient.call "..").Gets localUrl "/api/v1/" ∧
      ¬ (localClient.call "..").Gets localUrl ("/api/v1" ++ "/calls/" ++ percentEncode "..") ∧
      (localClient.transcript ".").Gets localUrl "/api/v1/calls/transcript" ∧
      (localClient.call "transcript").Gets localUrl "/api/v1/calls/transcript" ∧
      ¬ (localClient.transcript ".").Gets localUrl ("/api/v1" ++ "/calls/" ++ percentEncode "." ++ "/transcript") := by
  have outside : (localClient.call "..").Gets localUrl "/api/v1/" :=
    localClient_gets _ _ ("/calls/" ++ percentEncode "..") ["api", "v1", ""] (by decide +kernel)
  have moved : (localClient.transcript ".").Gets localUrl "/api/v1/calls/transcript" :=
    localClient_gets _ _ ("/calls/" ++ percentEncode "." ++ "/transcript") ["api", "v1", "calls", "transcript"]
      (by decide +kernel)
  have call : (localClient.call "transcript").Gets localUrl "/api/v1/calls/transcript" :=
    localClient_gets _ _ ("/calls/" ++ percentEncode "transcript") ["api", "v1", "calls", "transcript"]
      (by decide +kernel)
  refine ⟨localUrl_isBase, by decide, outside, fun named => ?_, moved, call, fun named => ?_⟩
  · exact absurd (outside.same named) (by decide +kernel)
  · exact absurd (moved.same named) (by decide +kernel)

end

end Client

end CallDesk
