import CallDesk.Json.Record
import CallDesk.Text.Blank
import CallDesk.Time.Reader

/-! # Transcripts

What was said in a call, turn by turn, and the counters shown with it.
-/

namespace CallDesk

/-- Who speaks in a turn. -/
inductive Role where
  /-- The person who was called. -/
  | contact
  /-- The voice agent. -/
  | agent
deriving DecidableEq

namespace Role

def wireName : Role → String
  | contact => "user"
  | agent => "assistant"

def label : Role → String
  | contact => "Contact"
  | agent => "Agent"

def ofName? (name : String) : Option Role :=
  [contact, agent].find? (·.wireName == name)

def ofJson? (v : Json) : Option Role := v.choice?.bind ofName?

def toJson (r : Role) : Json := .text r.wireName

end Role

def Instant.ofJson? (v : Json) : Option Instant := v.text?.bind Instant.read?

def Instant.toJson (t : Instant) : Json := .text t.text

/-- One utterance. -/
structure Turn where
  role : Role
  content : String
  time : Option Instant := none
deriving DecidableEq

namespace Turn

def fieldNames : List String := ["role", "content", "timestamp"]

def ofJson? (v : Json) : Option Turn := do
  let fs ← v.fields? fieldNames
  let role ← fs.required "role" Role.ofJson?
  let content ← fs.required "content" Json.text?
  let time ← fs.optional "timestamp" Instant.ofJson?
  return { role, content, time }

def toJson (t : Turn) : Json := .record [
  ("role", t.role.toJson),
  ("content", .text t.content),
  ("timestamp", .option Instant.toJson t.time)]

end Turn

/-- The turns of a call. -/
structure Transcript where
  callId : String
  turns : List Turn
deriving DecidableEq

/-- Counters of a list of turns. -/
structure TranscriptStats where
  turnCount : Nat
  wordCount : Nat
  /-- The trimmed contents, one after the other on lines of their own. -/
  fullText : String
deriving DecidableEq

def TranscriptStats.ofTurns (turns : List Turn) : TranscriptStats where
  turnCount := turns.length
  wordCount := turns.foldl (fun n t => n + Text.wordCount t.content) 0
  fullText := "\n".intercalate (turns.map fun t => Text.trim t.content)

namespace Transcript

def fieldNames : List String := ["call_id", "turns"]

def ofJson? (v : Json) : Option Transcript := do
  let fs ← v.fields? fieldNames
  let callId ← fs.orElse "call_id" "" Json.text?
  let turns ← fs.orElse "turns" [] (Json.list? Turn.ofJson?)
  return { callId, turns }

def toJson (t : Transcript) : Json := .record [
  ("call_id", .text t.callId),
  ("turns", .list Turn.toJson t.turns)]

def stats (t : Transcript) : TranscriptStats := .ofTurns t.turns

end Transcript

end CallDesk
