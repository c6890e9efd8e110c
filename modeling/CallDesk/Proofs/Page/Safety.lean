import CallDesk.Proofs.Page.Shape

/-! # Markup safety

Every part of a page that shows what strangers wrote, with everything it shows. The main statement
is that no text in it can open or close a tag, end the value of an attribute or add one: after the
part a scanner is between tags, and the tags and attributes it finds are a function of the shape.
-/

namespace CallDesk

open Html

/-- A text that is markup: a scanner is between tags after it. -/
structure Markup where
  text : String
  sound : (Scanner.scan text).state = .text

/-- The tags of markup. -/
def Markup.tags (m : Markup) : List Tag := (Scanner.scan m.text).tags

/-- A part of a page, with what it shows. -/
inductive Part where
  | callTable (calls : List Call)
  | transcript (turns : List Turn)
  | importResult (result : ImportResult)
  | player (address : String)
  | banner (message : String) (action : Option Action)
  | pagerLinks (pager : Pager) (base : String)
  | spinner (label : String)
  | callHistory (view : View CallHistory)
  | campaigns (view : View (List Campaign))
  | campaignForm (form : CampaignForm) (error : Option String)
  | contacts (upload : Upload)
  | callDetail (view : View CallDetail)
  | overview (view : View Overview)
  | signInEnd (view : SignInView)
  /-- A whole document, whose body is markup. -/
  | document (shell : Shell) (body : Markup)

namespace Part

/-- The text of a part. -/
def render : Part → String
  | callTable calls => (Page.callTable calls).render
  | transcript turns => (Page.transcript turns).render
  | importResult result => (Page.importResult result).render
  | player address => (Page.player address).render
  | banner message action => (Page.banner message action).render
  | pagerLinks pager base => (Page.pagerLinks pager base).render
  | spinner label => (Page.spinner label).render
  | callHistory view => (Page.callHistory view).render
  | campaigns view => (Page.campaigns view).render
  | campaignForm form error => (Page.campaignForm form error).render
  | contacts upload => (Page.contacts upload).render
  | callDetail view => (Page.callDetail view).render
  | overview view => (Page.overview view).render
  | signInEnd view => (Page.signInEnd view).render
  | document shell body => shell.document body.text

/-- How many items a part shows, what is present, which case applies, which links lead on, which
voice is chosen. Of the texts, numbers and times that a part shows nothing is left. -/
inductive Shape where
  | callTable (rows : Nat)
  | transcript (timed : List Bool)
  | importResult (rejected : Nat)
  | player
  | banner (linked : Bool)
  | pagerLinks (previous next : Bool)
  | spinner
  | callHistory (view : View (Nat × Bool × Bool))
  | campaigns (view : View Nat)
  | campaignForm (voice : Option String) (rejected : Bool)
  | contacts (upload : Option (Option Nat))
  | callDetail (view : View CallDetail.Shape)
  | overview (view : View Nat)
  | signInEnd (view : SignInView)
  | document (inside assisted : Bool) (body : List Tag)

/-- The shape of a part. -/
def shape : Part → Shape
  | callTable calls => .callTable calls.length
  | transcript turns => .transcript (turns.map (·.time.isSome))
  | importResult result => .importResult result.errors.length
  | player _ => .player
  | banner _ action => .banner action.isSome
  | pagerLinks pager _ => .pagerLinks pager.previous?.isSome pager.next?.isSome
  | spinner _ => .spinner
  | callHistory view =>
    .callHistory (view.shape fun h => (h.calls.length, h.pager.previous?.isSome, h.pager.next?.isSome))
  | campaigns view => .campaigns (view.shape List.length)
  | campaignForm form error =>
    .campaignForm (Page.selectedVoice (form.voice.getD "alloy")) error.isSome
  | contacts upload => .contacts (Page.uploadShape upload)
  | callDetail view => .callDetail (view.shape CallDetail.shape)
  | overview view => .overview (view.shape fun data => data.recentCalls.length)
  | signInEnd view => .signInEnd view.shape
  | document shell body => .document shell.place.isSome shell.assisted body.tags

end Part

/-- A document is scanned to what surrounds the body and, in between, the tags of the body. -/
theorem Shell.scan_document (shell : Shell) (body : Markup) :
    Scanner.scan (shell.document body.text) =
      { tags := shell.opening.tags ++ body.tags ++ shell.closing.tags } := by
  have before := Scanner.scan_render (opening_alike (rfl : shell.place.isSome = _)).left
  have after := Scanner.scan_render (closing_alike (rfl : shell.assisted = _)).left
  have inside := Scanner.scan_eq_of_state body.sound
  exact Scanner.scan_append (Scanner.scan_append before inside) after

namespace Part

/-- Parts that a scanner cannot tell apart and that leave it between tags. -/
def Indistinct (p q : Part) : Prop :=
  ∃ tags, Scanner.scan p.render = { tags } ∧ Scanner.scan q.render = { tags }

theorem document_indistinct {s t : Shell} {body other : Markup}
    (same : (document s body).shape = (document t other).shape) :
    Indistinct (document s body) (document t other) := by
  obtain ⟨inside, assisted, bodies⟩ := Shape.document.inj same
  refine ⟨_, Shell.scan_document s body, ?_⟩
  rw [(Shell.opening_alike inside).tags, bodies, (Shell.closing_alike assisted).tags]
  exact Shell.scan_document t other

/-- Parts of one shape are the same to a scanner. -/
theorem indistinct_of_shape_eq {p q : Part} (same : p.shape = q.shape) : Indistinct p q := by
  cases p with
  | callTable calls =>
    cases q with
    | callTable _ => exact ⟨_, (Page.callTable_alike (Shape.callTable.inj same)).scan⟩
    | _ => cases same
  | transcript turns =>
    cases q with
    | transcript _ => exact ⟨_, (Page.transcript_alike (Shape.transcript.inj same)).scan⟩
    | _ => cases same
  | importResult result =>
    cases q with
    | importResult _ => exact ⟨_, (Page.importResult_alike (Shape.importResult.inj same)).scan⟩
    | _ => cases same
  | player address =>
    cases q with
    | player _ => exact ⟨_, (Page.player_alike _ _).scan⟩
    | _ => cases same
  | banner message action =>
    cases q with
    | banner _ _ => exact ⟨_, (Page.banner_alike _ _ (Shape.banner.inj same)).scan⟩
    | _ => cases same
  | pagerLinks pager base =>
    cases q with
    | pagerLinks _ _ =>
      obtain ⟨previous, next⟩ := Shape.pagerLinks.inj same
      exact ⟨_, (Page.pagerLinks_alike _ _ previous next).scan⟩
    | _ => cases same
  | spinner label =>
    cases q with
    | spinner _ => exact ⟨_, (Page.spinner_alike _ _).scan⟩
    | _ => cases same
  | callHistory view =>
    cases q with
    | callHistory _ => exact ⟨_, (Page.callHistory_alike (Shape.callHistory.inj same)).scan⟩
    | _ => cases same
  | campaigns view =>
    cases q with
    | campaigns _ => exact ⟨_, (Page.campaigns_alike (Shape.campaigns.inj same)).scan⟩
    | _ => cases same
  | campaignForm form error =>
    cases q with
    | campaignForm _ _ =>
      obtain ⟨voice, rejected⟩ := Shape.campaignForm.inj same
      exact ⟨_, (Page.campaignForm_alike voice rejected).scan⟩
    | _ => cases same
  | contacts upload =>
    cases q with
    | contacts _ => exact ⟨_, (Page.contacts_alike (Shape.contacts.inj same)).scan⟩
    | _ => cases same
  | callDetail view =>
    cases q with
    | callDetail _ => exact ⟨_, (Page.callDetail_alike (Shape.callDetail.inj same)).scan⟩
    | _ => cases same
  | overview view =>
    cases q with
    | overview _ => exact ⟨_, (Page.overview_alike (Shape.overview.inj same)).scan⟩
    | _ => cases same
  | signInEnd view =>
    cases q with
    | signInEnd _ => exact ⟨_, (Page.signInEnd_alike (Shape.signInEnd.inj same)).scan⟩
    | _ => cases same
  | document shell body =>
    cases q with
    | document _ _ => exact document_indistinct same
    | _ => cases same

/-- After every part a scanner is between tags, and parts of one shape have the same tags with the
same attributes, whatever texts, numbers and times they show. -/
theorem shape_decides_markup :
    (∀ p : Part, (Scanner.scan p.render).state = .text) ∧
      ∀ p q : Part, p.shape = q.shape → (Scanner.scan p.render).tags = (Scanner.scan q.render).tags := by
  refine ⟨fun p => ?_, fun p q same => ?_⟩
  · obtain ⟨tags, scanned, _⟩ := indistinct_of_shape_eq (rfl : p.shape = p.shape)
    rw [scanned]
  · obtain ⟨tags, left, right⟩ := indistinct_of_shape_eq same
    rw [left, right]

/-- A form that is full of markup has the tags of a plain one. -/
theorem shape_decides_markup_of_form :
    (campaignForm { name := "\"><script>", goal := some "</textarea>" } (some "<b>")).shape =
        (campaignForm { name := "Spring" } (some "Too long")).shape ∧
      (Scanner.scan (campaignForm { name := "\"><script>", goal := some "</textarea>" } (some "<b>")).render).tags =
        (Scanner.scan (campaignForm { name := "Spring" } (some "Too long")).render).tags :=
  ⟨rfl, shape_decides_markup.2 _ _ rfl⟩

end Part

end CallDesk
