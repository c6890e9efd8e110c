import CallDesk.Backend.Client
import CallDesk.FileName
import CallDesk.Page.CallDetail
import CallDesk.Page.Calls
import CallDesk.Page.Contacts
import CallDesk.Page.Overview
import CallDesk.Session.Callback
import CallDesk.Settings.Basic

/-! # What pages ask the backend for

Each page has one dialog that gets what it shows. The call history asks a second time when the
page asked for is past the end of the listing. A call shows without its transcript when only that
cannot be had. The overview asks for its two parts at the same time.
-/

namespace CallDesk

/-- A page of the call history; one past the end of the listing is replaced by the last one. -/
def CallHistory.load (c : Client) (page pageSize : UInt32) : Answer CallHistory :=
  (c.calls (max page 1) pageSize).bind fun
    | .error fault => .done (.error fault)
    | .ok listing =>
      let pager := Pager.of page listing.pageSize listing.total
      let last := pager.clamped
      if 0 < listing.total ∧ last.page ≠ pager.page then
        (c.calls last.page pageSize).map fun answer => answer.map fun listing =>
          ⟨listing.calls, (Pager.of last.page listing.pageSize listing.total).clamped⟩
      else .done (.ok ⟨listing.calls, pager⟩)

/-- A call and its transcript, which is asked for when the call does not bring it. -/
def CallDetail.load (c : Client) (id : String) : Answer CallDetail :=
  (c.call id).bind fun
    | .error fault => .done (.error fault)
    | .ok call =>
      let bare := { call with transcript := none }
      match call.transcript with
      | some turns => .done (.ok ⟨bare, .ready turns⟩)
      | none => (c.transcript id).map fun answer =>
        .ok ⟨bare, .ofExcept (answer.map (·.turns))⟩

/-- The counters and the calls of a race, or the failure of one of them: of two failures, the
earlier one. -/
def Overview.join (race : Race) (limit : UInt32) : Except Fault Overview :=
  match Client.summaryOf race.first, Client.callsOf limit race.second with
  | .ok summary, .ok recent => .ok ⟨summary, recent.calls⟩
  | .error fault, .ok _ => .error fault
  | .ok _, .error fault => .error fault
  | .error first, .error second => .error (if race.secondIsEarlier then second else first)

def Overview.load (c : Client) (limit : UInt32) : Answer Overview :=
  match c.summaryRequest, c.callsRequest 1 limit with
  | .ok summary, .ok recent => .both summary recent fun race => .done (Overview.join race limit)
  | .error detail, _ =>
    .done (.error (.unreachable ("Failed to get dashboard summary: " ++ detail)))
  | .ok _, .error detail => .done (.error (.unreachable ("Failed to list calls: " ++ detail)))

/-- Sends a form when its required fields are filled. -/
def CampaignForm.submit (c : Client) (form : CampaignForm) : Answer Campaign :=
  match form.normalized.check with
  | .error fault => .done (.error fault)
  | .ok () => c.createCampaign form.normalized

/-- Sends a file of contacts when its name says that it is one. -/
def Upload.send (c : Client) (name : Option String) (contents : Text.Bytes) : Dialog Upload :=
  match name.filter FileName.isCsv with
  | none => .done (.failed Upload.selectFile)
  | some name => (c.importContacts name contents).map fun
    | .ok result => .imported result
    | .error fault => .failed fault.userMessage

/-- Follows a callback. After a sign-in the profile is created with the new token; whether that
succeeds does not matter. -/
def Callback.follow (c : Client) (auth : SignInSettings) (callback : Callback) :
    Dialog Resolution :=
  let outcome := callback.outcome
  let resolution := outcome.resolution auth.confirmationDelay
  match outcome with
  | .authenticated tokens =>
    ((c.bind (some tokens.access)).createProfile auth.profilePath).bestEffort.map
      fun _ => resolution
  | _ => .done resolution

end CallDesk
