import CallDesk.Json.Reader

/-! # What the page of a sign-in posts

A message with one field, the address that the page was opened with. It is an object, or an array
with the address alone. The first fault in the order of the text decides how a message is refused:
as no JSON, or as JSON that is not such a message. What follows the message does not count.
-/

namespace CallDesk.Session

open Text Json

/-- Why a message is refused. -/
inductive MessageError where
  /-- The text is no JSON. -/
  | malformed
  /-- The text is JSON, but not what is expected. -/
  | unsuitable
deriving DecidableEq

namespace Message

/-- How something that stands in the place of a text is refused. Of an array or an object only the
first character is looked at. -/
def misfit (s : Bytes) : MessageError :=
  match skipSpace s with
  | 91 :: _ => .unsuitable
  | 123 :: _ => .unsuitable
  | s => match takeValue? s with
    | some (.string none, _) => .malformed
    | some (.number n, _) => if n.number?.isSome then .unsuitable else .malformed
    | some _ => .unsuitable
    | none => .malformed

def textOff (s : Bytes) : Except MessageError (String × Bytes) :=
  match skipSpace s with
  | 34 :: rest => match stringOff? {} .plain rest with
    | some (some t, rest) => .ok (t, rest)
    | _ => .error .malformed
  | s => .error (misfit s)

def fieldName : String := "url"

/-- Takes the value of a member off the front, and the address if it is the one. -/
def memberOff (name : String) (found : Option String) (s : Bytes) :
    Except MessageError (Option String × Bytes) :=
  if name = fieldName then (textOff s).map fun (t, rest) => (some t, rest)
  else match takeValue? s with
    | some (_, rest) => .ok (found, rest)
    | none => .error .malformed

/-- Reads the members of an object from the name of one of them on; the fuel is at least the number
of bytes. -/
def readMembers (fuel : Nat) (found : Option String) (s : Bytes) : Except MessageError String :=
  match fuel, quotedOff? (skipSpace s) with
  | fuel + 1, some (some name, s) =>
    if name = fieldName ∧ found.isSome then .error .unsuitable
    else match skipSpace s with
      | 58 :: s => match memberOff name found s with
        | .error e => .error e
        | .ok (found, s) => match skipSpace s with
          | 44 :: s => readMembers fuel found s
          | 125 :: _ => match found with
            | some t => .ok t
            | none => .error .unsuitable
          | _ => .error .malformed
      | _ => .error .malformed
  | _, _ => .error .malformed

def read (s : Bytes) : Except MessageError String :=
  match skipSpace s with
  | 91 :: rest => match skipSpace rest with
    | 93 :: _ => .error .unsuitable
    | rest => match textOff rest with
      | .error e => .error e
      | .ok (t, rest) => match skipSpace rest with
        | 93 :: _ => .ok t
        | _ => .error .malformed
  | 123 :: rest => match skipSpace rest with
    | 125 :: _ => .error .unsuitable
    | rest => readMembers (rest.length + 1) none rest
  | s => .error (misfit s)

end Message

end CallDesk.Session
