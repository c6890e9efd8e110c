import CallDesk.Page.CallDetail
import CallDesk.Page.Calls
import CallDesk.Page.Campaigns
import CallDesk.Page.Contacts
import CallDesk.Page.Document
import CallDesk.Page.Overview
import CallDesk.Page.Public
import CallDesk.Proofs.Markup.Scanner
import Mathlib.Data.List.Forall2

/-! # The shape of a page

What a page shows comes from strangers: from the backend, from forms, from addresses. None of it
can become markup. Two pages are alike when their names are clean and their outlines are the same;
each part of a page is shown to be alike for any two values that agree on how many items there
are, which options are present, which case applies, which links lead on and which voice is chosen.
The main statement puts this together for every part: a scanner ends in a text, and what it finds
depends on the shape alone.
-/

namespace CallDesk

/-- Pages with clean names and the same outline. -/
structure Html.Alike (g h : Html) : Prop where
  left : g.isClean = true
  right : h.isClean = true
  tags : g.tags = h.tags

namespace Html.Alike

variable {g h g' h' : Html}

/-- Pages that are alike are the same to a scanner. -/
theorem scan (same : Alike g h) : Scanner.scan g.render = { tags := g.tags } ∧
    Scanner.scan h.render = { tags := g.tags } :=
  ⟨Scanner.scan_render same.left, by rw [same.tags]; exact Scanner.scan_render same.right⟩

theorem append (first : Alike g h) (second : Alike g' h') : Alike (g ++ g') (h ++ h') where
  left := by rw [isClean_append, first.left, second.left, Bool.and_self]
  right := by rw [isClean_append, first.right, second.right, Bool.and_self]
  tags := by rw [tags_append, tags_append, first.tags, second.tags]

/-- Listings are alike when their items are, pair by pair. -/
theorem flatMap {α : Type} {f k : α → Html} {items others : List α}
    (same : List.Forall₂ (fun a b => Alike (f a) (k b)) items others) :
    Alike (items.flatMap f) (others.flatMap k) := by
  induction same with
  | nil => exact ⟨rfl, rfl, rfl⟩
  | cons item _ ih => exact item.append ih

/-- Listings of equal length are alike when any two items are. -/
theorem flatMap_of_length {α : Type} {f : α → Html} (each : ∀ a b, Alike (f a) (f b))
    {items others : List α} (same : items.length = others.length) :
    Alike (items.flatMap f) (others.flatMap f) :=
  flatMap (List.forall₂_iff_get.mpr ⟨same, fun _ _ _ => each _ _⟩)

end Html.Alike

open Html

namespace Page

/-! ## Parts -/

theorem spinner_alike (label other : String) : Alike (spinner label) (spinner other) := by
  constructor <;> simp +decide [spinner]

theorem banner_alike (message other : String) {action instead : Option Action}
    (same : action.isSome = instead.isSome) :
    Alike (banner message action) (banner other instead) := by
  cases action <;> cases instead <;> simp at same <;> constructor <;>
    simp +decide [banner]

theorem player_alike (address other : String) : Alike (player address) (player other) := by
  constructor <;> simp +decide [player]

/-! ## Listings -/

private theorem isEmpty_of_length {α : Type} {items others : List α} (same : items.length = others.length) :
    items.isEmpty = others.isEmpty := by
  cases items <;> cases others <;> simp at same ⊢

theorem callRow_alike (c d : Call) : Alike (callRow c) (callRow d) := by
  constructor <;> simp +decide [callRow, row, callBadge, badge]

theorem table_alike (style : String) (titles : List String) {rows others : Html} (same : Alike rows others) :
    Alike (table style titles rows) (table style titles others) := by
  have heads : isClean (titles.flatMap (plain "th")) = true :=
    isClean_flatMap titles fun _ => by simp +decide
  constructor
  · simp +decide [table, heads, same.left]
  · simp +decide [table, heads, same.right]
  · simp [table, same.tags]

theorem noCalls_alike : Alike noCalls noCalls := ⟨by decide, by decide, rfl⟩

theorem callTable_alike {calls others : List Call} (same : calls.length = others.length) :
    Alike (callTable calls) (callTable others) := by
  have empty := isEmpty_of_length same
  have rows := Alike.flatMap_of_length callRow_alike same
  unfold callTable
  rw [empty]
  split
  · exact noCalls_alike
  · exact table_alike _ _ rows

theorem campaignRow_alike (c d : Campaign) : Alike (campaignRow c) (campaignRow d) := by
  constructor <;> simp +decide [campaignRow, row, campaignBadge, badge]

theorem rowError_alike (e f : RowError) : Alike (rowError e) (rowError f) := by
  constructor <;> simp +decide [rowError, row]

/-- Turns are alike when both or neither tell their time. -/
theorem turnItem_alike {t u : Turn} (same : t.time.isSome = u.time.isSome) :
    Alike (turnItem t) (turnItem u) := by
  rcases t with ⟨_, _, _ | _⟩ <;> rcases u with ⟨_, _, _ | _⟩ <;> simp at same <;> constructor <;>
    simp +decide [turnItem]

theorem transcript_alike {turns others : List Turn}
    (same : turns.map (·.time.isSome) = others.map (·.time.isSome)) :
    Alike (transcript turns) (transcript others) := by
  have items : Alike (turns.flatMap turnItem) (others.flatMap turnItem) := by
    apply Alike.flatMap
    have pairs := List.forall₂_map_left_iff.mp (List.forall₂_map_right_iff.mp (List.forall₂_eq_eq_eq ▸ same))
    exact pairs.imp fun _ _ => turnItem_alike
  have empty := isEmpty_of_length (by simpa using congrArg List.length same)
  unfold transcript
  rw [empty]
  split
  · constructor <;> simp +decide
  · constructor
    · simp +decide [items.left]
    · simp +decide [items.right]
    · simp [items.tags]

/-! ## Pages -/

section

variable {p q : Pager} (base other : String)

/-- Links to a page are alike when there is such a page for both or for neither. -/
theorem pageLink_alike (label : String) {page instead : Option UInt32} (same : page.isSome = instead.isSome) :
    Alike (pageLink base label page) (pageLink other label instead) := by
  cases page <;> cases instead <;> simp at same <;> constructor <;> simp +decide [pageLink]

theorem pagerLinks_alike (previous : p.previous?.isSome = q.previous?.isSome)
    (next : p.next?.isSome = q.next?.isSome) : Alike (pagerLinks p base) (pagerLinks q other) := by
  have back := pageLink_alike base other "Previous" previous
  have on := pageLink_alike base other "Next" next
  constructor
  · simp +decide [pagerLinks, back.left, on.left]
  · simp +decide [pagerLinks, back.right, on.right]
  · simp [pagerLinks, back.tags, on.tags]

end

end Page

/-- A view with its message left out and its data seen through `f`. -/
def View.shape {α β : Type} (f : α → β) : View α → View β
  | .loading => .loading
  | .failed _ => .failed ""
  | .ready a => .ready (f a)

/-- Views of one shape are alike when loading and failing are and when data that `f` does not tell
apart are. -/
theorem View.alike {α β : Type} {f : α → β} {page : View α → Html} {v w : View α}
    (same : v.shape f = w.shape f) (loading : Alike (page .loading) (page .loading))
    (failed : ∀ message other, Alike (page (.failed message)) (page (.failed other)))
    (ready : ∀ a b, f a = f b → Alike (page (.ready a)) (page (.ready b))) : Alike (page v) (page w) := by
  cases v with
  | loading => cases w <;> simp [View.shape] at same; exact loading
  | failed message => cases w <;> simp [View.shape] at same; exact failed _ _
  | ready a => cases w <;> simp [View.shape] at same; exact ready _ _ same

namespace Page

theorem callHistory_alike {v w : View CallHistory}
    (same : v.shape (fun h => (h.calls.length, h.pager.previous?.isSome, h.pager.next?.isSome)) =
      w.shape (fun h => (h.calls.length, h.pager.previous?.isSome, h.pager.next?.isSome))) :
    Alike (callHistory v) (callHistory w) := by
  refine View.alike same (spinner_alike _ _) (fun _ _ => banner_alike _ _ rfl) fun h k agree => ?_
  simp only [Prod.mk.injEq] at agree
  obtain ⟨calls, previous, next⟩ := agree
  have empty := isEmpty_of_length calls
  simp only [callHistory, empty]
  split
  · exact noCalls_alike
  · refine .append (.append ?_ (callTable_alike calls)) (pagerLinks_alike _ _ previous next)
    constructor <;> simp +decide

theorem campaigns_alike {v w : View (List Campaign)} (same : v.shape List.length = w.shape List.length) :
    Alike (campaigns v) (campaigns w) := by
  refine View.alike same (spinner_alike _ _) (fun _ _ => banner_alike _ _ rfl) fun l m agree => ?_
  simp only [campaigns, isEmpty_of_length agree]
  split
  · exact ⟨by decide, by decide, rfl⟩
  · exact table_alike _ _ (Alike.flatMap_of_length campaignRow_alike agree)

/-- The voice that a form offers as chosen, if the chosen one is among those on offer. -/
def selectedVoice (chosen : String) : Option String :=
  (voiceOptions.map (·.1)).find? fun voice => decide (voice = chosen)

theorem selectedVoice_eq_some_iff {voice : String} (known : voice ∈ voiceOptions.map (·.1)) (chosen : String) :
    selectedVoice chosen = some voice ↔ voice = chosen := by
  constructor
  · intro found
    simpa using List.find?_some found
  · rintro rfl
    have present : (selectedVoice voice).isSome = true :=
      List.find?_isSome.mpr ⟨voice, known, decide_eq_true rfl⟩
    obtain ⟨other, found⟩ := Option.isSome_iff_exists.mp present
    have same : other = voice := by simpa using List.find?_some found
    rw [found, same]

/-- An option of the choice of a voice. -/
def voiceOption (chosen : String) (option : String × String) : Html :=
  element "option" (.value "value" option.1 :: if option.1 = chosen then [.flag "selected"] else [])
    (text option.2)

theorem voiceOption_alike {chosen other : String} {option : String × String}
    (same : option.1 = chosen ↔ option.1 = other) :
    Alike (voiceOption chosen option) (voiceOption other option) := by
  simp only [voiceOption, same]
  split <;> constructor <;> simp +decide

theorem voiceChoice_alike {chosen other : String} (same : selectedVoice chosen = selectedVoice other) :
    Alike (voiceChoice chosen) (voiceChoice other) := by
  have options : ∀ option ∈ voiceOptions, Alike (voiceOption chosen option) (voiceOption other option) := by
    intro option member
    have known : option.1 ∈ voiceOptions.map (·.1) := List.mem_map_of_mem member
    apply voiceOption_alike
    rw [← selectedVoice_eq_some_iff known, ← selectedVoice_eq_some_iff known, same]
  have items := Alike.flatMap (List.forall₂_same.mpr options)
  change Alike (element "select" (fieldNamed "voice") (voiceOptions.flatMap (voiceOption chosen)))
    (element "select" (fieldNamed "voice") (voiceOptions.flatMap (voiceOption other)))
  constructor
  · simp +decide [fieldNamed, items.left]
  · simp +decide [fieldNamed, items.right]
  · simp [fieldNamed, items.tags]

theorem campaignForm_alike {form other : CampaignForm} {error instead : Option String}
    (voice : selectedVoice (form.voice.getD "alloy") = selectedVoice (other.voice.getD "alloy"))
    (rejected : error.isSome = instead.isSome) :
    Alike (campaignForm form error) (campaignForm other instead) := by
  have voices := voiceChoice_alike voice
  have reason : Alike (Html.optional error fun message => banner message none)
      (Html.optional instead fun message => banner message none) := by
    cases error <;> cases instead <;> simp at rejected
    · exact ⟨rfl, rfl, rfl⟩
    · exact banner_alike _ _ rfl
  constructor
  · simp +decide [campaignForm, heading, fieldLabel, textField, fieldNamed, voices.left, reason.left]
  · simp +decide [campaignForm, heading, fieldLabel, textField, fieldNamed, voices.right, reason.right]
  · simp [campaignForm, heading, fieldLabel, textField, fieldNamed, voices.tags, reason.tags]

theorem importResult_alike {r q : ImportResult} (same : r.errors.length = q.errors.length) :
    Alike (importResult r) (importResult q) := by
  have rows := table_alike "table import-errors" ["Row", "Phone", "Error"]
    (Alike.flatMap_of_length rowError_alike same)
  cases empty : q.errors.isEmpty <;>
    simp only [importResult, ImportResult.hasRowErrors, isEmpty_of_length same, empty]
  · constructor
    · simp +decide [counter, rows.left]
    · simp +decide [counter, rows.right]
    · simp [counter, rows.tags]
  · constructor <;> simp +decide [counter]

/-- What an upload is seen as: nothing, a failure, or the number of rejected rows. -/
def uploadShape : Upload → Option (Option Nat)
  | .idle => none
  | .failed _ => some none
  | .imported result => some (some result.errors.length)

theorem uploadOutcome_alike {u v : Upload} (same : uploadShape u = uploadShape v) :
    Alike (uploadOutcome u) (uploadOutcome v) := by
  cases u with
  | idle => cases v <;> simp [uploadShape] at same; exact ⟨rfl, rfl, rfl⟩
  | failed message => cases v <;> simp [uploadShape] at same; exact banner_alike _ _ rfl
  | imported result => cases v <;> simp [uploadShape] at same; exact importResult_alike same

theorem contacts_alike {u v : Upload} (same : uploadShape u = uploadShape v) :
    Alike (contacts u) (contacts v) := by
  have outcome := uploadOutcome_alike same
  constructor
  · simp +decide [contacts, heading, uploadForm, outcome.left]
  · simp +decide [contacts, heading, uploadForm, outcome.right]
  · simp [contacts, heading, uploadForm, outcome.tags]

theorem overview_alike {v w : View Overview}
    (same : v.shape (fun data => data.recentCalls.length) = w.shape (fun data => data.recentCalls.length)) :
    Alike (overview v) (overview w) := by
  refine View.alike same (spinner_alike _ _) (fun _ _ => banner_alike _ _ rfl) fun a b agree => ?_
  have calls := callTable_alike agree
  constructor
  · simp +decide [overview, counters, counter, calls.left]
  · simp +decide [overview, counters, counter, calls.right]
  · simp [overview, counters, counter, calls.tags]

theorem transcriptState_alike {v w : View (List Turn)}
    (same : v.shape (fun turns => turns.map (·.time.isSome)) = w.shape fun turns => turns.map (·.time.isSome)) :
    Alike (transcriptState v) (transcriptState w) :=
  View.alike same (spinner_alike _ _) (fun _ _ => banner_alike _ _ rfl) fun _ _ => transcript_alike

theorem card_alike (title : String) {contents others : Html} (same : Alike contents others) :
    Alike (card title contents) (card title others) := by
  constructor
  · simp +decide [card, same.left]
  · simp +decide [card, same.right]
  · simp [card, same.tags]

theorem plain_alike (tag s t : String) (clean : isCleanName tag = true) : Alike (plain tag s) (plain tag t) := by
  constructor <;> simp [clean]

theorem callFacts_alike (c d : Call) : Alike (callFacts c) (callFacts d) := by
  constructor <;> simp +decide [callFacts, described, callBadge, badge]

/-- What is shown of an optional value is alike for any two values. -/
theorem optional_alike {α : Type} {f : α → Html} (each : ∀ a b, Alike (f a) (f b)) {a b : Option α}
    (same : a.isSome = b.isSome) : Alike (Html.optional a f) (Html.optional b f) := by
  cases a <;> cases b <;> simp at same
  · exact ⟨rfl, rfl, rfl⟩
  · exact each _ _

end Page

/-- What the page of a call depends on: whether there are a summary and a recording, and the shape
of the transcript. -/
structure CallDetail.Shape where
  summarised : Bool
  recorded : Bool
  transcript : View (List Bool)

/-- The shape of a call with its transcript. -/
def CallDetail.shape (d : CallDetail) : CallDetail.Shape where
  summarised := d.call.summary.isSome
  recorded := d.call.recordingUrl.isSome
  transcript := d.transcript.shape fun turns => turns.map (·.time.isSome)

namespace Page

theorem callDetail_alike {v w : View CallDetail} (same : v.shape CallDetail.shape = w.shape CallDetail.shape) :
    Alike (callDetail v) (callDetail w) := by
  refine View.alike same (spinner_alike _ _) (fun _ _ => banner_alike _ _ rfl) fun d e agree => ?_
  simp only [CallDetail.shape, CallDetail.Shape.mk.injEq] at agree
  obtain ⟨summarised, recorded, turns⟩ := agree
  have facts := callFacts_alike d.call e.call
  have words := card_alike "Transcript" (transcriptState_alike turns)
  have summary := optional_alike (fun s t => card_alike "Summary" (plain_alike "p" s t (by decide))) summarised
  have recording := optional_alike (fun s t => card_alike "Recording" (player_alike s t)) recorded
  constructor
  · simp +decide [callDetail, facts.left, words.left, summary.left, recording.left]
  · simp +decide [callDetail, facts.right, words.right, summary.right, recording.right]
  · simp [callDetail, facts.tags, words.tags, summary.tags, recording.tags]

end Page

/-- The end of a sign-in with its message left out. -/
def SignInView.shape : SignInView → SignInView
  | .redirecting => .redirecting
  | .confirmed _ => .confirmed ""
  | .failed _ => .failed ""

theorem Page.signInEnd_alike {v w : SignInView} (same : v.shape = w.shape) :
    Alike (signInEnd v) (signInEnd w) := by
  cases v with
  | redirecting => cases w <;> cases same; exact spinner_alike _ _
  | confirmed message => cases w <;> cases same; constructor <;> simp +decide [signInEnd]
  | failed message =>
    cases w <;> cases same
    exact .append ⟨by decide, by decide, rfl⟩ (banner_alike _ _ rfl)

/-! ## Documents -/

namespace Shell

/-- Whether the link to the assistant is shown. -/
def assisted (s : Shell) : Bool := s.assistant.enabled && s.assistant.url.isSome

theorem assisted_eq (s : Shell) :
    s.assisted = (if s.assistant.enabled then s.assistant.url else none).isSome := by
  unfold assisted
  split <;> simp [*]

variable {s t : Shell}

theorem opening_alike (guest : s.place.isSome = t.place.isSome) : Alike s.opening t.opening := by
  rcases s with ⟨_, _ | _, _⟩ <;> rcases t with ⟨_, _ | _, _⟩ <;> simp at guest <;> constructor <;>
    simp +decide [opening, head, guestBar, sidebar, Section.all]

theorem closing_alike (same : s.assisted = t.assisted) : Alike s.closing t.closing := by
  have link : Alike (assistantLink s.assistant) (assistantLink t.assistant) := by
    apply Page.optional_alike
    · intro a b
      constructor <;> simp +decide
    · simpa only [assisted_eq] using same
  constructor
  · simp +decide [closing, link.left]
  · simp +decide [closing, link.right]
  · simp [closing, link.tags]

end Shell

end CallDesk
