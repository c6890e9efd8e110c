import CallDesk.Campaign
import CallDesk.Session.Message
import CallDesk.Web.MediaType
import CallDesk.Web.Multipart

/-! # What requests bring

Requests bring the page of a listing in their query, the id of a call in their path, and forms and
messages in their body. What does not have its form is refused before anything is done.
-/

namespace CallDesk

open Text

/-- A form that is read from pairs: required fields have to be there, and no field is given twice.
Pairs with other keys are skipped. -/
def CampaignForm.ofPairs? (pairs : List (String × String)) : Option CampaignForm := do
  let known := pairs.filter fun p => fieldNames.contains p.1
  if (known.map (·.1)).Nodup then
    let name ← known.lookup "name"
    let systemPrompt ← known.lookup "system_prompt"
    return { name, systemPrompt, description := known.lookup "description"
             voice := known.lookup "voice", goal := known.lookup "goal" }
  else none

namespace Web

/-- Why a request is refused. -/
inductive Refusal where
  /-- The path holds bytes that are no text. -/
  | unreadablePath
  /-- The query asks for something that is no page. -/
  | unreadableQuery
  /-- The body does not have the type that the route takes. -/
  | otherType
  /-- The body is too large. -/
  | tooLarge
  /-- The body is not what its type says. -/
  | malformed
  /-- The body does not hold what the route takes. -/
  | unsuitable
deriving DecidableEq

namespace Refusal

def status : Refusal → Nat
  | unreadablePath => 400
  | unreadableQuery => 400
  | otherType => 415
  | tooLarge => 413
  | malformed => 400
  | unsuitable => 422

def reason : Refusal → String
  | unreadablePath => "The path cannot be read"
  | unreadableQuery => "The query cannot be read"
  | otherType => "The body has another type"
  | tooLarge => "The body is too large"
  | malformed => "The body cannot be read"
  | unsuitable => "The body does not hold what is expected"

def response (r : Refusal) : Response := .refusal r.status r.reason

end Refusal

/-- The largest body of a message or a form, in bytes. -/
def maxBody : Nat := 2 * 1024 * 1024

def maxUpload : Nat := 10 * 1024 * 1024

namespace Request

/-- The id of a call, as a path holds it, without its percent coding. -/
def callId (segment : String) : Except Refusal String :=
  match percentDecode? segment with
  | some id => .ok id
  | none => .error .unreadablePath

/-- The page that the query of a request asks for, if it asks for one. -/
def page (r : Request) : Except Refusal (Option UInt32) :=
  match (formPairs (utf8 r.query)).filter (·.1 == "page") with
  | [] => .ok none
  | [(_, val)] => match unsigned? (UInt32.size - 1) val with
    | some n => .ok (some (UInt32.ofNat n))
    | none => .error .unreadableQuery
  | _ => .error .unreadableQuery

/-- The body of a request, when it is not too large. -/
def bodyWithin (r : Request) (limit : Nat) : Except Refusal Bytes :=
  if r.body.length ≤ limit then .ok r.body else .error .tooLarge

def formType : String := "application/x-www-form-urlencoded"

def isForm (r : Request) : Bool :=
  (r.header? "content-type").any fun t => formType.toList.isPrefixOf t.toList

def campaignForm (r : Request) : Except Refusal CampaignForm :=
  if r.isForm then do
    let body ← r.bodyWithin maxBody
    match CampaignForm.ofPairs? (formPairs body) with
    | some form => .ok form
    | none => .error .unsuitable
  else .error .otherType

/-- The address of a callback that a request brings. -/
def callbackAddress (r : Request) : Except Refusal String :=
  if r.mediaType?.any MediaType.isJson then do
    let body ← r.bodyWithin maxBody
    match Session.Message.read body with
    | .ok address => .ok address
    | .error .malformed => .error .malformed
    | .error .unsuitable => .error .unsuitable
  else .error .otherType

/-- The form field with the file of an upload. -/
def fileField : String := "file"

/-- The file that a request brings: `none` when the body cannot be read or is too large, and then
the part that holds the file, if there is one. The body is taken to come in one piece; one that
comes in several is read up to the end of the file alone, and may go on beyond the limit. -/
def uploadedFile (r : Request) : Except Refusal (Option (Option Multipart.Part)) :=
  match r.mediaType?.bind MediaType.boundary? with
  | none => .error .malformed
  | some boundary =>
    if r.body.length ≤ maxUpload then .ok (Multipart.part? boundary fileField r.body)
    else .ok none

end Request

end Web

end CallDesk
