import CallDesk.Proofs.Backend.Operation
import CallDesk.Proofs.Page.Shape

/-! # A call and its transcript

A call is asked for first. Its transcript is asked for only when the call does not bring one, and what becomes of
that request decides the transcript and nothing else: the call is loaded all the same, and the page that shows it
differs in one section only, which no text can close.
-/

namespace CallDesk

open Text Html

/-! ## Loading -/

namespace Client

variable {c : Client} {id : String} {q : Request}

/-- The address of a transcript is that of its call with one more segment. -/
theorem transcript_address (c : Client) (id : String) :
    c.address ("/calls/" ++ percentEncode id ++ "/transcript") =
      c.address ("/calls/" ++ percentEncode id) ++ "/" ++ "transcript" := by
  rw [transcript_path, call_path, address_text c _ (by decide) (by decide), address_text c _ (by decide) (by decide)]
  rw [← String.toList_inj]
  simp [Url.Path.text]

/-- The address of a call ends in a character that its readers keep. -/
theorem call_address_ends (c : Client) (id : String) :
    ∀ d ∈ (c.address ("/calls/" ++ percentEncode id)).toList.getLast?, Url.isEdge d = false := by
  have coded : ∀ s ∈ ["calls", percentEncode id], ∀ d ∈ s.toList, isCoded d = true := by
    simp only [List.forall_mem_cons]
    exact ⟨List.all_eq_true.mp (by decide), isCoded_of_mem_percentEncode, by simp⟩
  obtain ⟨rest, starts⟩ : ∃ rest, ("calls" ++ (Url.Path.segments [percentEncode id]).text).toList = 'c' :: rest :=
    ⟨_, String.toList_append⟩
  intro d last
  rw [call_path, address_text c _ (by decide) (by decide), String.toList_append, starts, List.getLast?_append_cons,
    ← starts] at last
  exact (inert_of_coded (coded_of_mem_text coded d (List.mem_of_getLast? last))).2.2.2

/-- A transcript can be asked for when its call can. -/
theorem transcript_made (made : c.request .get ("/calls/" ++ percentEncode id) none .none = .ok q) :
    ∃ q', c.request .get ("/calls/" ++ percentEncode id ++ "/transcript") none .none = .ok q' := by
  have legal : ∀ token, c.token = some token → isHeaderText token = true := fun token bound =>
    ((request_made made).bears token bound).legal
  obtain ⟨url, read, web, host⟩ := (addresses_iff legal).mpr ⟨q, made⟩
  have address : Url.IsAddress (c.address ("/calls/" ++ percentEncode id)) url := ⟨read, web, call_address_ends c id⟩
  obtain ⟨path, query, fragment, read'⟩ := address.read_slash (List.append_nil _).symm (by simp) "transcript"
  rw [← transcript_address] at read'
  exact request_ok read' web host legal

end Client

namespace CallDetail

/-- How the load of a call ends, when the two requests that it may make are `q` and `q'`. -/
inductive Loads (c : Client) (id : String) (q q' : Request) {σ : Type} (b : Backend σ) (st : σ) :
    Trace σ (Except Fault CallDetail) → Prop
  | missing {fault : Fault} (failed : ((c.call id).run b st).result = .error fault) :
      Loads c id q q' b st ⟨.error fault, [q], (b.answer st q).2⟩
  | brought {call : Call} {turns : List Turn} (told : ((c.call id).run b st).result = .ok call)
      (brings : call.transcript = some turns) :
      Loads c id q q' b st ⟨.ok ⟨{ call with transcript := none }, .ready turns⟩, [q], (b.answer st q).2⟩
  | fetched {call : Call} {transcript : Transcript} (told : ((c.call id).run b st).result = .ok call)
      (bare : call.transcript = none)
      (had : ((c.transcript id).run b (b.answer st q).2).result = .ok transcript) :
      Loads c id q q' b st ⟨.ok ⟨{ call with transcript := none }, .ready transcript.turns⟩, [q, q'],
        (b.answer (b.answer st q).2 q').2⟩
  | unfetched {call : Call} {fault : Fault} (told : ((c.call id).run b st).result = .ok call)
      (bare : call.transcript = none)
      (failed : ((c.transcript id).run b (b.answer st q).2).result = .error fault) :
      Loads c id q q' b st ⟨.ok ⟨{ call with transcript := none }, .failed fault.userMessage⟩, [q, q'],
        (b.answer (b.answer st q).2 q').2⟩

variable {c : Client} {id : String} {q q' : Request} {σ τ : Type}

theorem load_run (made : c.request .get ("/calls/" ++ percentEncode id) none .none = .ok q)
    (made' : c.request .get ("/calls/" ++ percentEncode id ++ "/transcript") none .none = .ok q') (b : Backend σ)
    (st : σ) : Loads c id q q' b st ((load c id).run b st) := by
  obtain ⟨answer, asked, -⟩ := (Client.Operation.call id).run_made made b st
  obtain ⟨answer', asked', -⟩ := (Client.Operation.transcript id).run_made made' b (b.answer st q).2
  have told : ((c.call id).run b st).result = answer := by rw [asked]
  have told' : ((c.transcript id).run b (b.answer st q).2).result = answer' := by rw [asked']
  rw [load, Dialog.run_bind, asked]
  cases answer with
  | error fault => exact .missing told
  | ok call =>
    dsimp only
    cases brings : call.transcript with
    | some turns => exact .brought told brings
    | none =>
      dsimp only
      rw [Dialog.run_map, asked']
      cases answer' with
      | ok transcript => exact .fetched told brings told'
      | error fault => exact .unfetched told brings told'

/-- For a call that brings no transcript two replies are told. -/
theorem load_replies (made : c.request .get ("/calls/" ++ percentEncode id) none .none = .ok q)
    (made' : c.request .get ("/calls/" ++ percentEncode id ++ "/transcript") none .none = .ok q') {b : Backend σ}
    {st : σ} {call : Call} (told : ((c.call id).run b st).result = .ok call) (bare : call.transcript = none) :
    (load c id).replies b st = [(b.answer st q).1, (b.answer (b.answer st q).2 q').1] := by
  obtain ⟨answer, asked, -⟩ := (Client.Operation.call id).run_made made b st
  rw [load, Dialog.replies_bind, (Client.Operation.call id).replies_made made, told]
  dsimp only
  rw [bare]
  dsimp only
  rw [Dialog.replies_map, (Client.Operation.transcript id).replies_made made', asked, List.singleton_append]

/-- Loads that fail with the same fault, or of the same call with any transcripts. -/
inductive SameButTranscript : Except Fault CallDetail → Except Fault CallDetail → Prop
  | failed (fault : Fault) : SameButTranscript (.error fault) (.error fault)
  | loaded (call : Call) (transcript transcript' : View (List Turn)) :
      SameButTranscript (.ok ⟨call, transcript⟩) (.ok ⟨call, transcript'⟩)

/-- Backends that tell the same of a call have the same call loaded, whatever they tell of its transcript. -/
theorem load_same {b : Backend σ} {b' : Backend τ} {st : σ} {st' : τ}
    (made : c.request .get ("/calls/" ++ percentEncode id) none .none = .ok q)
    (same : (b'.answer st' q).1 = (b.answer st q).1) :
    SameButTranscript ((load c id).run b st).result ((load c id).run b' st').result := by
  have told := (Client.Operation.call id).result_congr made same
  rw [load, Dialog.run_bind, Dialog.run_bind]
  dsimp only
  rw [told]
  cases ((c.call id).run b st).result with
  | error fault => exact .failed fault
  | ok call =>
    dsimp only
    cases call.transcript with
    | some turns => exact .loaded _ _ _
    | none =>
      dsimp only
      rw [Dialog.run_map, Dialog.run_map]
      exact .loaded _ _ _

end CallDetail

/-! ## Showing -/

namespace Html

/-- Whether a tag opens or closes a section. -/
def isSectionTag (tag : Tag) : Bool :=
  tag.takeWhile (· != ' ') == "section".toList || tag.takeWhile (· != ' ') == "/section".toList

/-- A page ends with a section that holds contents below its title: a scanner is between tags where the section
opens and where it closes, and no tag in between opens or closes a section. -/
structure EndsWithSection (page before title contents : String) : Prop where
  whole : page = before ++ "<section class=\"card\"><h2>" ++ title ++ "</h2>" ++ contents ++ "</section>"
  outside : (Scanner.scan before).state = .text
  inside : (Scanner.scan contents).state = .text
  closed : ∀ tag ∈ (Scanner.scan contents).tags, isSectionTag tag = false

end Html

namespace Page

open Html

theorem turnItem_sectionless (t : Turn) : ∀ tag ∈ (turnItem t).tags, isSectionTag tag = false := by
  rcases t with ⟨_, _, _ | _⟩ <;> simp +decide [turnItem]

/-- What a transcript is shown as has no sections. -/
theorem transcriptState_sectionless (transcript : View (List Turn)) :
    ∀ tag ∈ (transcriptState transcript).tags, isSectionTag tag = false := by
  cases transcript with
  | loading => decide
  | failed message => simp +decide [transcriptState, banner]
  | ready turns =>
    have items : ∀ tag ∈ tags (turns.flatMap turnItem), isSectionTag tag = false := by
      intro tag member
      rw [tags, List.filterMap_flatMap] at member
      obtain ⟨t, -, inside⟩ := List.mem_flatMap.mp member
      exact turnItem_sectionless t tag inside
    rw [transcriptState, Page.transcript]
    split
    · simp +decide
    · simpa +decide [or_imp, forall_and] using items

/-- The page of a call up to the section of its transcript. -/
def beforeTranscript (call : Call) : Html := lines [
  element "a" [.value "class" "back-link", .value "href" Site.calls] (.named "larr" :: text " All calls"),
  callFacts call,
  Html.optional call.summary (fun s => card "Summary" (plain "p" s)) ++
    Html.optional call.recordingUrl (fun url => card "Recording" (player url)) ++ newline]

/-- The page of a call ends with the section of its transcript, in which there is nothing else. -/
theorem callDetail_endsWithSection (call : Call) (transcript : View (List Turn)) :
    EndsWithSection (callDetail (.ready ⟨call, transcript⟩)).render (beforeTranscript call).render "Transcript"
      (transcriptState transcript).render := by
  have facts : (callFacts call).isClean = true := (callFacts_alike call call).left
  have summary : (Html.optional call.summary fun s => card "Summary" (plain "p" s)).isClean = true :=
    (optional_alike (fun s t => card_alike "Summary" (plain_alike "p" s t (by decide))) rfl).left
  have recording : (Html.optional call.recordingUrl fun url => card "Recording" (player url)).isClean = true :=
    (optional_alike (fun s t => card_alike "Recording" (player_alike s t)) rfl).left
  have outer : (beforeTranscript call).isClean = true := by
    simp +decide [beforeTranscript, facts, summary, recording]
  have inner : (transcriptState transcript).isClean = true := (transcriptState_alike rfl).left
  refine ⟨?_, ?_, ?_, ?_⟩
  · have cut : callDetail (.ready ⟨call, transcript⟩) = beforeTranscript call ++
        (.start "section" [.value "class" "card"] :: plain "h2" "Transcript") ++ transcriptState transcript ++
          [.stop "section"] := by
      simp [callDetail, beforeTranscript, card, lines, styled, element]
    have opens : render (.start "section" [.value "class" "card"] :: plain "h2" "Transcript") =
        "<section class=\"card\"><h2>" ++ "Transcript" ++ "</h2>" := by decide +kernel
    have closes : render [.stop "section"] = "</section>" := by decide +kernel
    simp only [cut, render_append, opens, closes, String.append_assoc]
  · rw [Scanner.scan_render outer]
  · rw [Scanner.scan_render inner]
  · rw [Scanner.scan_render inner]
    exact transcriptState_sectionless transcript

end Page

namespace CallDetail

variable {c : Client} {id : String} {q q' : Request} {σ : Type}

/-- A transcript neither keeps a call from being shown nor changes it. A call that cannot be had is one request; so
is one that brings its transcript, and any other call is followed by one request for its transcript, which fills the
transcript or says in it why there is none. Whatever is told of a transcript, the call that is loaded is the same,
and the page that shows it is the same up to what its last section holds. -/
theorem transcript_keeps_call (c : Client) (id : String) :
    (∀ why, c.request .get ("/calls/" ++ percentEncode id) none .none = .error why →
      ∀ {σ : Type} (b : Backend σ) (st : σ), ∃ detail, (load c id).run b st = ⟨.error (.unreachable detail), [], st⟩) ∧
    (∀ q, c.request .get ("/calls/" ++ percentEncode id) none .none = .ok q →
      ∃ q', c.request .get ("/calls/" ++ percentEncode id ++ "/transcript") none .none = .ok q' ∧
        (∀ {σ : Type} (b : Backend σ) (st : σ), Loads c id q q' b st ((load c id).run b st)) ∧
        ∀ {σ τ : Type} (b : Backend σ) (b' : Backend τ) (st : σ) (st' : τ),
          (b'.answer st' q).1 = (b.answer st q).1 →
            SameButTranscript ((load c id).run b st).result ((load c id).run b' st').result) ∧
    ∀ call, ∃ before, ∀ transcript, EndsWithSection (Page.callDetail (.ready ⟨call, transcript⟩)).render before
      "Transcript" (Page.transcriptState transcript).render := by
  refine ⟨fun why unmade σ b st => ?_, fun q made => ?_, fun call => ⟨_, Page.callDetail_endsWithSection call⟩⟩
  · obtain ⟨detail, run⟩ := (Client.Operation.call id).run_unmade unmade b st
    refine ⟨detail, ?_⟩
    rw [load, Dialog.run_bind, run]
    rfl
  · obtain ⟨q', made'⟩ := Client.transcript_made made
    exact ⟨q', made', fun b st => load_run made made' b st, fun b b' st st' same => load_same made same⟩

/-- A call without a transcript. -/
def bareCall : Call :=
  { id := "c1", phoneNumber := "+15550100", status := .completed
    createdAt := ⟨⟨2024, 6, 3, by decide⟩, 30600, 0, by decide⟩ }

/-- What a backend tells of a call without a transcript, and then of the transcript. -/
def bareReplies : List Reply := [.answer 200 (some (Json.encode Call.toJson bareCall)), .answer 404 none]

/-- The call is told of by any success that holds it. -/
theorem call_bareCall {b : Backend σ} {st : σ}
    (made : c.request .get ("/calls/" ++ percentEncode "c1") none .none = .ok q)
    (told : (b.answer st q).1 = .answer 200 (some (Json.encode Call.toJson bareCall))) :
    ((c.call "c1").run b st).result = .ok bareCall := by
  obtain ⟨answer, run, comes⟩ := (Client.Operation.call "c1").run_made made b st
  rw [told] at comes
  rw [run]
  exact comes.value ⟨by decide, by decide⟩ (Call.codec.roundTrip.back bareCall)

theorem transcript_keeps_call_bare :
    ∃ q q', Client.localClient.request .get ("/calls/" ++ percentEncode "c1") none .none = .ok q ∧
      Client.localClient.request .get ("/calls/" ++ percentEncode "c1" ++ "/transcript") none .none = .ok q' ∧
      (load Client.localClient "c1").run .teller bareReplies = ⟨.ok ⟨bareCall, .failed "Not Found"⟩, [q, q'], []⟩ := by
  obtain ⟨q, made⟩ := Client.localClient_makes_call
  obtain ⟨q', made', loads, -⟩ := (transcript_keeps_call Client.localClient "c1").2.1 q made
  have told : ((Client.localClient.call "c1").run .teller bareReplies).result = .ok bareCall := call_bareCall made rfl
  have failed : ((Client.localClient.transcript "c1").run .teller (Backend.teller.answer bareReplies q).2).result =
      .error (.ofStatus 404 "Not Found") := by
    obtain ⟨answer, run, comes⟩ := (Client.Operation.transcript "c1").run_made made' .teller
      (Backend.teller.answer bareReplies q).2
    have words : Backend.failureText 404 [] = "Not Found" := by decide +kernel
    rw [run, ← words]
    exact comes.failed (by decide)
  refine ⟨q, q', made, made', ?_⟩
  have ends := loads .teller bareReplies
  generalize (load Client.localClient "c1").run .teller bareReplies = trace at ends ⊢
  cases ends with
  | missing failed' =>
    rw [told] at failed'
    cases failed'
  | brought told' brings =>
    rw [told] at told'
    obtain rfl := Except.ok.inj told'
    cases brings
  | fetched told' bare had =>
    rw [failed] at had
    cases had
  | unfetched told' bare failed' =>
    rw [told] at told'
    rw [failed] at failed'
    obtain rfl := Except.ok.inj told'
    obtain rfl := Except.error.inj failed'
    rfl

end CallDetail

end CallDesk
