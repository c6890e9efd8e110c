/-! # What can go wrong

One type of causes for the whole library. `message` is the text for a log, `userMessage` the text
for a page: the latter tells a user what the backend said or what to correct, and nothing about
addresses, files or the network.
-/

namespace CallDesk

/-- Why an operation failed. -/
inductive Fault where
  /-- A file could not be read or written. -/
  | file (detail : String)
  /-- The settings could not be read. -/
  | settings (detail : String)
  /-- A form was rejected before anything was sent. -/
  | invalid (field message : String)
  /-- The backend answered with a status that is neither success nor 401. -/
  | refused (status : Nat) (message : String)
  /-- The backend gave no answer that could be read. -/
  | unreachable (detail : String)
  /-- The backend does not accept the token. -/
  | unauthorized (message : String)
  /-- An answer could not be decoded. -/
  | undecodable (detail : String)
  /-- The database failed. -/
  | database (detail : String)
  /-- Anything else, told by its message alone. -/
  | other (message : String)
deriving DecidableEq

namespace Fault

def message : Fault → String
  | file detail => "I/O error: " ++ detail
  | settings detail => "Configuration error: " ++ detail
  | invalid field message => "Validation error: " ++ field ++ " - " ++ message
  | refused status message => "HTTP " ++ toString status ++ ": " ++ message
  | unreachable detail => "Transport error: " ++ detail
  | unauthorized message => "Authentication failed: " ++ message
  | undecodable detail => "Serialization error: " ++ detail
  | database detail => "Database error: " ++ detail
  | other message => message

def userMessage : Fault → String
  | refused _ message => message
  | invalid _ message => message
  | unreachable _ => "Unable to reach the server. Please try again."
  | unauthorized message => message
  | undecodable _ => "Received an unexpected response from the server"
  | other message => message
  | file _ => "Something went wrong"
  | settings _ => "Something went wrong"
  | database _ => "Something went wrong"

def isUnauthorized : Fault → Bool
  | unauthorized _ => true
  | _ => false

def hasSource : Fault → Bool
  | file _ => true
  | undecodable _ => true
  | _ => false

end Fault

/-- How a program ends that could not do its work: what it tried and, if known, why not. -/
structure Failure where
  attempt : String
  cause : Option String := none

namespace Failure

def message (f : Failure) : String :=
  match f.cause with
  | some cause => f.attempt ++ ": " ++ cause
  | none => f.attempt

def hasSource (f : Failure) : Bool := f.cause.isSome

def ofFault (f : Fault) : Failure := { attempt := f.message }

/-- A failure to do something, with the fault underneath. -/
def during (attempt : String) (f : Fault) : Failure := { attempt, cause := some f.message }

end Failure

end CallDesk
