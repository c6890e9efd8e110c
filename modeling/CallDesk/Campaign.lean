import CallDesk.Fault
import CallDesk.Json.Record
import CallDesk.Transcript

/-! # Campaigns

Campaigns as the backend tells them, in either form of their listing, and the form that creates
one. A form is trimmed before it is sent, and its two required fields must not be blank.
-/

namespace CallDesk

/-- How a campaign stands. -/
inductive CampaignStatus where
  | draft
  | running
  | paused
  | completed
  /-- Any status that is not known here. -/
  | other
deriving DecidableEq

namespace CampaignStatus

def all : List CampaignStatus := [draft, running, paused, completed, other]

def wireName : CampaignStatus → String
  | draft => "draft"
  | running => "running"
  | paused => "paused"
  | completed => "completed"
  | other => "other"

def label : CampaignStatus → String
  | draft => "Draft"
  | running => "Running"
  | paused => "Paused"
  | completed => "Completed"
  | other => "Unknown"

/-- The style classes of the badge of a status. -/
def badgeClass : CampaignStatus → String
  | draft | other => "badge"
  | running => "badge badge-success"
  | paused => "badge badge-warning"
  | completed => "badge badge-info"

def ofName (name : String) : CampaignStatus := (all.find? (·.wireName == name)).getD other

def ofJson? (v : Json) : Option CampaignStatus := v.choice?.map ofName

def toJson (s : CampaignStatus) : Json := .text s.wireName

end CampaignStatus

/-- A campaign. -/
structure Campaign where
  id : String
  name : String
  description : Option String := none
  systemPrompt : String := ""
  voice : Option String := none
  goal : Option String := none
  status : CampaignStatus
  totalLeads : UInt64 := 0
  callsMade : UInt64 := 0
  createdAt : Option Instant := none
deriving DecidableEq

namespace Campaign

def fieldNames : List String :=
  ["id", "name", "description", "system_prompt", "voice", "goal", "status", "total_leads",
    "calls_made", "created_at"]

def ofJson? (v : Json) : Option Campaign := do
  let fs ← v.fields? fieldNames
  let id ← fs.required "id" Json.text?
  let name ← fs.required "name" Json.text?
  let description ← fs.optional "description" Json.text?
  let systemPrompt ← fs.orElse "system_prompt" "" Json.text?
  let voice ← fs.optional "voice" Json.text?
  let goal ← fs.optional "goal" Json.text?
  let status ← fs.required "status" CampaignStatus.ofJson?
  let totalLeads ← fs.orElse "total_leads" 0 Json.uint64?
  let callsMade ← fs.orElse "calls_made" 0 Json.uint64?
  let createdAt ← fs.optional "created_at" Instant.ofJson?
  return { id, name, description, systemPrompt, voice, goal, status, totalLeads, callsMade,
           createdAt }

def toJson (c : Campaign) : Json := .record [
  ("id", .text c.id),
  ("name", .text c.name),
  ("description", .option .text c.description),
  ("system_prompt", .text c.systemPrompt),
  ("voice", .option .text c.voice),
  ("goal", .option .text c.goal),
  ("status", c.status.toJson),
  ("total_leads", .nat c.totalLeads.toNat),
  ("calls_made", .nat c.callsMade.toNat),
  ("created_at", .option Instant.toJson c.createdAt)]

/-- Reads an object that has a listing of campaigns as its member `campaigns`. -/
def wrapped? : Json → Option (List Campaign)
  | .object members => do
    let fs ← Json.named? ["campaigns"] members
    fs.required "campaigns" (Json.list? ofJson?)
  | _ => none

/-- Reads a listing of campaigns: as an object that has one, or else as an array of them. The
listing is taken whole before that, so that nothing in it may be unsound. -/
def listOfJson? (v : Json) : Option (List Campaign) :=
  if v.isSound then (wrapped? v).or (Json.list? ofJson? v) else none

/-- An array is read in one way only. -/
theorem listOfJson?_array (items : List Json) :
    listOfJson? (.array items) =
      if (Json.array items).isSound then items.mapM ofJson? else none := rfl

/-- An object is read in one way only: what is wrong with it is not made good by the other. -/
theorem listOfJson?_object (members : List (Option String × Json)) :
    listOfJson? (.object members) =
      if (Json.object members).isSound then wrapped? (.object members) else none := by
  have bare : Json.list? ofJson? (.object members) = none := rfl
  rw [listOfJson?, bare, Option.or_none]

end Campaign

/-- The voices that a campaign may use, with their labels; the first one is the usual one. -/
def voiceOptions : List (String × String) := [
  ("alloy", "Alloy (neutral)"),
  ("echo", "Echo (male)"),
  ("nova", "Nova (female)"),
  ("shimmer", "Shimmer (warm)")]

/-- What a rule finds wrong with a field: the name of the rule, and its words for the user if it has
any. -/
structure FieldError where
  rule : String
  message : Option String := none
deriving DecidableEq

/-- An error in words: its own, or else those that every error has. -/
def FieldError.text (e : FieldError) : String := e.message.getD ("Validation error: " ++ e.rule)

/-- What is wrong with a form: the errors of each field that has any. The order of the fields means
nothing. -/
abbrev FieldErrors := List (String × List FieldError)

namespace FieldErrors

/-- The words of the first error of a field. -/
def message? (errors : FieldErrors) (field : String) : Option String :=
  ((errors.lookup field).bind List.head?).bind FieldError.message

/-- The errors of all fields, each field on a line of its own. -/
def text (errors : FieldErrors) : String :=
  "\n".intercalate (errors.map fun (field, found) =>
    field ++ ": " ++ ", ".intercalate (found.map FieldError.text))

/-- The fields of a form that have rules, in the order of the form. -/
def order : List String := ["name", "system_prompt"]

/-- The words for the first field, in the order of the form, that has any. -/
def told? (errors : FieldErrors) : Option Fault :=
  order.findSome? fun field => (errors.message? field).map (Fault.invalid field)

/-- What errors come to: the words for one field are told, or else all errors as errors of the whole
form. -/
def verdict (errors : FieldErrors) : Except Fault Unit :=
  if errors.isEmpty then .ok ()
  else .error (errors.told?.getD (.invalid "campaign" errors.text))

end FieldErrors

/-- The form that creates a campaign. -/
structure CampaignForm where
  name : String := ""
  description : Option String := none
  systemPrompt : String := ""
  voice : Option String := none
  goal : Option String := none
deriving DecidableEq

namespace CampaignForm

def fieldNames : List String := ["name", "description", "system_prompt", "voice", "goal"]

def ofJson? (v : Json) : Option CampaignForm := do
  let fs ← v.fields? fieldNames
  let name ← fs.required "name" Json.text?
  let description ← fs.optional "description" Json.text?
  let systemPrompt ← fs.required "system_prompt" Json.text?
  let voice ← fs.optional "voice" Json.text?
  let goal ← fs.optional "goal" Json.text?
  return { name, description, systemPrompt, voice, goal }

/-- A member for an optional text; none when there is no text. -/
def member (name : String) : Option String → List (String × Json)
  | some s => [(name, .text s)]
  | none => []

/-- Writes a form; absent fields are left out. -/
def toJson (f : CampaignForm) : Json := .record (
  ("name", .text f.name) :: member "description" f.description ++
    ("system_prompt", .text f.systemPrompt) :: member "voice" f.voice ++ member "goal" f.goal)

/-- An optional text without blanks at its ends; nothing when it is blank. -/
def trimmed? (s : Option String) : Option String :=
  (s.map Text.trim).filter fun t => !t.isEmpty

/-- The form without blanks at the ends of its fields and without blank optional ones. -/
def normalized (f : CampaignForm) : CampaignForm where
  name := Text.trim f.name
  description := trimmed? f.description
  systemPrompt := Text.trim f.systemPrompt
  voice := trimmed? f.voice
  goal := trimmed? f.goal

/-- A required text must have something in it besides blanks. -/
def required (text message : String) : List FieldError :=
  if (Text.trim text).isEmpty then [⟨"required", some message⟩] else []

/-- What is wrong with a form. -/
def errors (f : CampaignForm) : FieldErrors :=
  [("name", required f.name "Campaign name is required"),
    ("system_prompt", required f.systemPrompt "System prompt is required")].filter
      fun (_, found) => !found.isEmpty

/-- Checks a form; the first field with an error, in the order of the form, is told. -/
@[irreducible] def check (f : CampaignForm) : Except Fault Unit := f.errors.verdict

end CampaignForm

end CallDesk
