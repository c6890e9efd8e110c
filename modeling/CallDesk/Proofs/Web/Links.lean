import CallDesk.Proofs.Markup.Attributes
import CallDesk.Proofs.Page.Shape
import CallDesk.Proofs.Text.Percent
import CallDesk.Proofs.Web.Route
import CallDesk.Proofs.Web.Tour

/-! # The links to calls

A row of the call history links to the page of its call, and that page is filled from a fragment for the same
call. Both addresses hold the id of the call in percent coding, so that every id is one segment of a path: no
character of an id has a meaning where the address is written in a page, where a request for it is cut, or
where its route is found.
-/

namespace CallDesk

open Text

/-! ## Coded ids -/

theorem Text.percentEncode_ne_empty {s : String} (some : s ≠ "") : percentEncode s ≠ "" := by
  intro none
  have empty : percentEncode "" = "" := by decide +kernel
  exact some (percentEncode_injective (none.trans empty.symm))

/-- A coded character has no meaning in an address or in markup. -/
theorem Text.isCoded_quiet {c : Char} (coded : isCoded c = true) :
    c ≠ '/' ∧ c ≠ '?' ∧ c ≠ '#' ∧ Html.escapeChar c = [c] :=
  forall_isCoded (p := fun c => c ≠ '/' ∧ c ≠ '?' ∧ c ≠ '#' ∧ Html.escapeChar c = [c]) (by decide) coded

namespace Web

open Html

/-! ## Routes of calls -/

namespace Route

/-- A segment after a path and a slash is an id. -/
theorem idAfter?_append {start id : String} (some : id ≠ "") (segment : '/' ∉ id.toList) :
    idAfter? start (start ++ "/" ++ id) = Option.some id := by
  have whole : (start ++ "/" ++ id).toList = start.toList ++ ['/'] ++ id.toList := by
    rw [String.toList_append, String.toList_append]
    rfl
  have filled : id.toList.isEmpty = false := by
    rw [List.isEmpty_eq_false_iff]
    exact fun none => some (String.toList_eq_nil_iff.mp none)
  rw [idAfter?, whole]
  dsimp only
  rw [if_pos (List.isPrefixOf_iff_prefix.mpr (List.prefix_append _ _)), List.drop_left, filled, Bool.false_or,
    if_neg (by simpa using segment), String.ofList_toList]

/-- A path below a path that no fixed address is below is not one of the fixed ones. -/
theorem lookup_fixed_of_prefix {start path : String} (below : start.toList <+: path.toList)
    (apart : ∀ p ∈ fixed, start.toList.isPrefixOf p.1.toList = false) : fixed.lookup path = none := by
  rw [List.lookup_eq_none_iff]
  intro p member
  rw [bne_iff_ne]
  rintro rfl
  have other := apart p member
  rw [List.isPrefixOf_iff_prefix.mpr below] at other
  contradiction

variable {id : String}

theorem segment_percentEncode (id : String) : '/' ∉ (percentEncode id).toList := fun member =>
  (isCoded_quiet (isCoded_of_mem_percentEncode _ member)).1 rfl

/-- The address of a call has the route of its page, with the coded id. -/
theorem of?_call (some : id ≠ "") : of? (Site.call id) = Option.some (.call (percentEncode id)) := by
  have address : Site.call id = Site.calls ++ "/" ++ percentEncode id := rfl
  have below : "/dashboard/calls/".toList <+: (Site.call id).toList := ⟨_, String.toList_append.symm⟩
  have found : idAfter? Site.calls (Site.call id) = Option.some (percentEncode id) := by
    rw [address]
    exact idAfter?_append (percentEncode_ne_empty some) (segment_percentEncode id)
  have listed := lookup_fixed_of_prefix below (by decide)
  simp only [of?, listed, found]

/-- A segment below the fragment of the calls has the route of the fragment of a call. -/
theorem of?_callSegment {segment : String} (some : segment ≠ "") (whole : '/' ∉ segment.toList) :
    of? ("/fragments/calls/" ++ segment) = Option.some (.callFragment segment) := by
  have below : "/fragments/calls/".toList <+: ("/fragments/calls/" ++ segment).toList := ⟨_, String.toList_append.symm⟩
  have elsewhere : idAfter? Site.calls ("/fragments/calls/" ++ segment) = none := by
    rw [idAfter?, if_neg]
    intro start
    exact absurd (comparable_starts (List.isPrefixOf_iff_prefix.mp start) below) (by decide)
  have address : "/fragments/calls/" ++ segment = "/fragments/calls" ++ "/" ++ segment := rfl
  have found : idAfter? "/fragments/calls" ("/fragments/calls/" ++ segment) = Option.some segment := by
    rw [address]
    exact idAfter?_append some whole
  have listed := lookup_fixed_of_prefix below (by decide)
  simp only [of?, listed, elsewhere, found, Option.map_some]

/-- The address of the fragment of a call has the route of that fragment, with the coded id. -/
theorem of?_callFragment (some : id ≠ "") :
    of? (Site.callFragment id) = Option.some (.callFragment (percentEncode id)) :=
  of?_callSegment (percentEncode_ne_empty some) (segment_percentEncode id)

end Route

/-- The id of a call is read from its coded form. -/
theorem callId_percentEncode (id : String) : Request.callId (percentEncode id) = .ok id := by
  rw [Request.callId, percentDecode?_percentEncode]

/-- An address with neither a query nor a fragment is the path of its request. -/
theorem get_path (headers : List (String × String)) {address : String}
    (plain : ∀ c ∈ address.toList, c ≠ '?' ∧ c ≠ '#') : (Request.get headers address).path = address := by
  have fragmentless : address.toList.takeWhile (· != '#') = address.toList :=
    List.takeWhile_eq_self_iff.mpr fun c member => bne_iff_ne.mpr (plain c member).2
  have queryless : address.toList.takeWhile (· != '?') = address.toList :=
    List.takeWhile_eq_self_iff.mpr fun c member => bne_iff_ne.mpr (plain c member).1
  rw [Request.path, Request.targetChars, Request.get, fragmentless, queryless, String.ofList_toList]

/-- The characters of the address of a call have no meaning where the address is cut or written. -/
theorem quiet_append {start id : String}
    (quiet : ∀ c ∈ start.toList, c ≠ '?' ∧ c ≠ '#' ∧ escapeChar c = [c]) :
    ∀ c ∈ (start ++ percentEncode id).toList, c ≠ '?' ∧ c ≠ '#' ∧ escapeChar c = [c] := by
  intro c member
  rw [String.toList_append] at member
  rcases List.mem_append.mp member with fixed | coded
  · exact quiet c fixed
  · exact (isCoded_quiet (isCoded_of_mem_percentEncode c coded)).2

theorem quiet_call (id : String) : ∀ c ∈ (Site.call id).toList, c ≠ '?' ∧ c ≠ '#' ∧ escapeChar c = [c] :=
  quiet_append (List.all_iff_forall_prop.mp (by decide))

theorem quiet_callFragment (id : String) :
    ∀ c ∈ (Site.callFragment id).toList, c ≠ '?' ∧ c ≠ '#' ∧ escapeChar c = [c] :=
  quiet_append (List.all_iff_forall_prop.mp (by decide))

/-! ## The row of a call -/

/-- A row has one link, the address of its call, which is written as it is. -/
theorem links_callRow (c : Call) : (Page.callRow c).writtenValues "href" = [(Site.call c.id).toList] := by
  have written := escaped_of_plain fun d member => (quiet_call c.id d member).2.2
  simp +decide [Page.callRow, Page.row, Page.callBadge, Page.badge, styled, element, text, writtenValues,
    Piece.readAttributes, Attribute.read?, written]

/-- The links in a table of calls are the addresses of its calls, row by row. -/
theorem links_callTable (calls : List Call) :
    valuesOf "href" (Page.callTable calls).render = calls.map fun c => (Site.call c.id).toList := by
  have clean : (Page.callTable calls).isClean = true := (Page.callTable_alike rfl).left
  have rows : writtenValues "href" (calls.flatMap Page.callRow) = calls.map fun c => (Site.call c.id).toList := by
    rw [writtenValues_flatMap, ← List.flatMap_singleton' (calls.map _), List.flatMap_map]
    simp only [links_callRow]
  have before : writtenValues "href" (Page.tableStart ++ [.start "tbody" []]) = [] := by decide
  have after : writtenValues "href" (.stop "tbody" :: Page.tableEnd) = [] := by decide
  rw [valuesOf_render clean]
  cases calls with
  | nil => decide
  | cons c calls =>
    have shape : Page.callTable (c :: calls) =
        Page.tableStart ++ [.start "tbody" []] ++ (c :: calls).flatMap Page.callRow ++
          .stop "tbody" :: Page.tableEnd := by
      simp [Page.callTable, Page.table, Page.tableStart, Page.tableEnd, styled, element, newline]
    rw [shape, writtenValues_append, writtenValues_append, before, rows, after, List.nil_append, List.append_nil]

/-! ## The page of a call -/

/-- The document of a page that has a place which is filled later. -/
def deferring (shell : Shell) (address : String) (placeholder : Html) : Html :=
  shell.opening ++ [.start "div" [.value "class" "deferred", .value "data-fragment" address]] ++ placeholder ++
    [.stop "div"] ++ shell.closing

theorem document_deferred (shell : Shell) (address : String) (placeholder : Html) :
    shell.document (Page.deferred address placeholder.render) = (deferring shell address placeholder).render := by
  rw [deferring, Shell.document, Page.deferred]
  simp only [render_append, String.append_assoc]

/-- A page that is filled later has one place for it, with the address that fills it. -/
theorem valuesOf_document_deferred (shell : Shell) (address : String) {placeholder : Html}
    (clean : placeholder.isClean = true) (none : placeholder.writtenValues "data-fragment" = []) :
    (valuesOf "data-fragment" (shell.document (Page.deferred address placeholder.render))).map unescape =
      [address.toList] := by
  have opening : shell.opening.isClean = true := (Shell.opening_alike rfl).left
  have closing : shell.closing.isClean = true := (Shell.closing_alike rfl).left
  have whole : (deferring shell address placeholder).isClean = true := by
    simp +decide [deferring, opening, closing, clean]
  have before : shell.opening.writtenValues "data-fragment" = [] := by
    rcases shell with ⟨title, _ | place, assistant⟩ <;>
      simp +decide [Shell.opening, Shell.head, Shell.guestBar, Shell.sidebar, Section.all, styled, element, link, plain,
        single, text, newline, lines, writtenValues, Piece.readAttributes, Attribute.read?]
  have after : shell.closing.writtenValues "data-fragment" = [] := by
    rw [Shell.closing, Shell.assistantLink]
    cases (if shell.assistant.enabled then shell.assistant.url else Option.none) <;>
      simp +decide [element, text, newline, lines, writtenValues, Piece.readAttributes, Attribute.read?]
  have place : writtenValues "data-fragment"
      [.start "div" [.value "class" "deferred", .value "data-fragment" address]] =
        [address.toList.flatMap escapeChar] := by
    simp +decide [writtenValues, Piece.readAttributes, Attribute.read?]
  have end_ : writtenValues "data-fragment" [.stop "div"] = [] := rfl
  rw [document_deferred, valuesOf_render whole, deferring]
  simp only [writtenValues_append, before, place, none, end_, after, List.nil_append, List.append_nil, List.map_cons,
    List.map_nil, unescape_escaped]

/-! ## From a row to its call -/

section

variable {s : Settings} {headers : List (String × String)} {token : String}

/-- The page of a call is at the address of the call, and is filled from the fragment of the call. -/
theorem respond_call (signedIn : (Request.get headers Site.calls).token? = some token) {id : String}
    (filled : id ≠ "") :
    respond s (.get headers (Site.call id)) = .done (callPage s id) := by
  have path := get_path headers fun c member => ⟨(quiet_call id c member).1, (quiet_call id c member).2.1⟩
  have found : Route.of? (Request.get headers (Site.call id)).path = some (.call (percentEncode id)) := by
    rw [path, Route.of?_call filled]
  rw [respond_private signedIn found rfl rfl, privateRoute, callId_percentEncode, taken]

/-- The fragment of a call loads that call. -/
theorem respond_callFragment (signedIn : (Request.get headers Site.calls).token? = some token) {id : String}
    (filled : id ≠ "") :
    respond s (.get headers (Site.callFragment id)) =
      (CallDetail.load (client s (some token)) id).map (fragment Page.callDetail) := by
  have path := get_path headers fun c member =>
    ⟨(quiet_callFragment id c member).1, (quiet_callFragment id c member).2.1⟩
  have found : Route.of? (Request.get headers (Site.callFragment id)).path =
      some (.callFragment (percentEncode id)) := by
    rw [path, Route.of?_callFragment filled]
  rw [respond_private signedIn found rfl rfl, privateRoute, callId_percentEncode, taken, callFragment]

theorem call_injective {id other : String} (same : Site.call other = Site.call id) : other = id := by
  have texts : ("/dashboard/calls/" ++ percentEncode other).toList = ("/dashboard/calls/" ++ percentEncode id).toList :=
    congrArg String.toList same
  rw [String.toList_append, String.toList_append] at texts
  exact percentEncode_injective (String.toList_inj.mp (List.append_cancel_left texts))

/-- The links in a table of calls are the addresses of its calls, as they stand in the text of the page. Such an
address is routed to the page of a call with exactly its id, whatever the characters of the id are; the place in
that page is filled from an address that is routed to the fragment of a call with exactly the same id, which loads
that call. Other ids have other links. -/
theorem call_links_lead_to_call (signedIn : (Request.get headers Site.calls).token? = some token) {id : String}
    (filled : id ≠ "") :
    (∀ calls, valuesOf "href" (Page.callTable calls).render = calls.map fun c => (Site.call c.id).toList) ∧
    (∃ segment, Route.of? (Request.get headers (Site.call id)).path = some (.call segment) ∧
      Request.callId segment = .ok id) ∧
    (∃ page, respond s (.get headers (Site.call id)) = .done (.page page) ∧
      (valuesOf "data-fragment" page).map unescape = [(Site.callFragment id).toList]) ∧
    (∃ segment, Route.of? (Request.get headers (Site.callFragment id)).path = some (.callFragment segment) ∧
      Request.callId segment = .ok id) ∧
    respond s (.get headers (Site.callFragment id)) =
      (CallDetail.load (client s (some token)) id).map (fragment Page.callDetail) ∧
    ∀ other, Site.call other = Site.call id → other = id := by
  have linked : (Request.get headers (Site.call id)).path = Site.call id :=
    get_path headers fun c member => ⟨(quiet_call id c member).1, (quiet_call id c member).2.1⟩
  have filler : (Request.get headers (Site.callFragment id)).path = Site.callFragment id :=
    get_path headers fun c member => ⟨(quiet_callFragment id c member).1, (quiet_callFragment id c member).2.1⟩
  have place : (valuesOf "data-fragment" (callPage s id).body).map unescape = [(Site.callFragment id).toList] :=
    valuesOf_document_deferred _ _ (Page.spinner_alike _ "").left (by decide)
  refine ⟨links_callTable, ⟨_, ?_, callId_percentEncode id⟩, ⟨_, respond_call signedIn filled, place⟩,
    ⟨_, ?_, callId_percentEncode id⟩, respond_callFragment signedIn filled, fun other => call_injective⟩
  · rw [linked, Route.of?_call filled]
  · rw [filler, Route.of?_callFragment filled]

theorem call_links_lead_to_call_unusual :
    (Request.get [("cookie", "vd_access_token=abc")] Site.calls).token? = some "abc" ∧ "../a?b#c%2F\"é <" ≠ "" ∧
    ∃ page, respond {} (.get [("cookie", "vd_access_token=abc")] (Site.call "../a?b#c%2F\"é <")) = .done (.page page) ∧
      (valuesOf "data-fragment" page).map unescape = [(Site.callFragment "../a?b#c%2F\"é <").toList] := by
  have signedIn : (Request.get [("cookie", "vd_access_token=abc")] Site.calls).token? = some "abc" := by decide +kernel
  have filled : "../a?b#c%2F\"é <" ≠ "" := by decide
  obtain ⟨-, -, page, -⟩ := call_links_lead_to_call (s := {}) signedIn filled
  exact ⟨signedIn, filled, page⟩

end

end Web

end CallDesk
