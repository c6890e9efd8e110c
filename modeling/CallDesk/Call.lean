import CallDesk.Duration
import CallDesk.Transcript

/-! # Calls

Calls and pages of calls as the backend tells them. A status that is not known is kept as `other`,
so that a new one never hides a listing.
-/

namespace CallDesk

/-- How a call stands. -/
inductive CallStatus where
  | answered
  | completed
  | failed
  | noAnswer
  | busy
  | inProgress
  /-- Any status that is not known here. -/
  | other
deriving DecidableEq

namespace CallStatus

def all : List CallStatus := [answered, completed, failed, noAnswer, busy, inProgress, other]

def wireName : CallStatus → String
  | answered => "answered"
  | completed => "completed"
  | failed => "failed"
  | noAnswer => "no_answer"
  | busy => "busy"
  | inProgress => "in_progress"
  | other => "other"

def label : CallStatus → String
  | answered => "Answered"
  | completed => "Completed"
  | failed => "Failed"
  | noAnswer => "No Answer"
  | busy => "Busy"
  | inProgress => "In Progress"
  | other => "Unknown"

/-- The style classes of the badge of a status. -/
def badgeClass : CallStatus → String
  | answered | completed => "badge badge-success"
  | failed => "badge badge-danger"
  | noAnswer | busy => "badge badge-warning"
  | inProgress => "badge badge-info"
  | other => "badge"

def ofName (name : String) : CallStatus := (all.find? (·.wireName == name)).getD other

def ofJson? (v : Json) : Option CallStatus := v.choice?.map ofName

def toJson (s : CallStatus) : Json := .text s.wireName

end CallStatus

/-- A call. -/
structure Call where
  id : String
  phoneNumber : String
  status : CallStatus
  outcome : Option String := none
  duration : Option UInt64 := none
  createdAt : Instant
  summary : Option String := none
  recordingUrl : Option String := none
  /-- The turns, when they come with the call. -/
  transcript : Option (List Turn) := none
deriving DecidableEq

/-- Reads a duration: a natural number as it is, another number rounded. -/
def durationOfJson? : Json → Option (Option UInt64)
  | .null => some none
  | .number n => n.number?.map fun
    | .natural k => some (UInt64.ofNat k)
    | other => secondsOfDouble other.toDouble
  | _ => none

namespace Call

def fieldNames : List String :=
  ["id", "phone_number", "status", "outcome", "duration_seconds", "created_at", "summary",
    "recording_url", "transcript"]

def ofJson? (v : Json) : Option Call := do
  let fs ← v.fields? fieldNames
  let id ← fs.required "id" Json.text?
  let phoneNumber ← fs.required "phone_number" Json.text?
  let status ← fs.required "status" CallStatus.ofJson?
  let outcome ← fs.optional "outcome" Json.text?
  let duration ← fs.orElse "duration_seconds" none durationOfJson?
  let createdAt ← fs.required "created_at" Instant.ofJson?
  let summary ← fs.optional "summary" Json.text?
  let recordingUrl ← fs.optional "recording_url" Json.text?
  let transcript ← fs.optional "transcript" (Json.list? Turn.ofJson?)
  return { id, phoneNumber, status, outcome, duration, createdAt, summary, recordingUrl,
           transcript }

def toJson (c : Call) : Json := .record [
  ("id", .text c.id),
  ("phone_number", .text c.phoneNumber),
  ("status", c.status.toJson),
  ("outcome", .option .text c.outcome),
  ("duration_seconds", .option (fun n => .nat n.toNat) c.duration),
  ("created_at", c.createdAt.toJson),
  ("summary", .option .text c.summary),
  ("recording_url", .option .text c.recordingUrl),
  ("transcript", .option (.list Turn.toJson) c.transcript)]

end Call

/-- One page of the listing of calls. -/
structure CallsPage where
  calls : List Call := []
  /-- The number of calls on all pages. -/
  total : UInt64 := 0
  page : UInt32 := 1
  pageSize : UInt32 := 0
deriving DecidableEq

namespace CallsPage

def fieldNames : List String := ["calls", "total", "page", "page_size"]

def ofJson? (v : Json) : Option CallsPage := do
  let fs ← v.fields? fieldNames
  let calls ← fs.orElse "calls" [] (Json.list? Call.ofJson?)
  let total ← fs.orElse "total" 0 Json.uint64?
  let page ← fs.orElse "page" 1 Json.uint32?
  let pageSize ← fs.orElse "page_size" 0 Json.uint32?
  return { calls, total, page, pageSize }

def toJson (p : CallsPage) : Json := .record [
  ("calls", .list Call.toJson p.calls),
  ("total", .nat p.total.toNat),
  ("page", .nat p.page.toNat),
  ("page_size", .nat p.pageSize.toNat)]

end CallsPage

end CallDesk
