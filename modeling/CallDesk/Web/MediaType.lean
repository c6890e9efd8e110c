import CallDesk.Text.Percent
import CallDesk.Web.Message

/-! # Media types

The type of a body, as its header tells it: a kind and a subtype, the latter with an ending after
its last plus sign, and parameters. A parameter between quotes is taken as it stands and is not
empty.
-/

namespace CallDesk.Web

open Text

/-- A media type. The kind, the subtype and the names of parameters are in lower case. -/
structure MediaType where
  kind : String
  /-- The subtype, without its ending. -/
  subtype : String
  ending : Option String := none
  params : List (String × String) := []
deriving DecidableEq

namespace MediaType

def isToken (c : Char) : Bool :=
  isAlphanumeric c.toNat ||
    ['!', '#', '$', '%', '&', '\'', '*', '+', '-', '.', '^', '_', Char.ofNat 96, '|', '~'].contains
      c

/-- Takes the rest of a quoted value off the front; its first character may be any. -/
def quotedOff? (cs : List Char) : Option (List Char × List Char) :=
  let plain (c : Char) : Bool := 31 < c.toNat && c.toNat != 127
  match cs with
  | [] => none
  | c :: rest =>
    let (val, rest) := rest.span fun d => plain d && d != '"'
    match rest with
    | '"' :: rest => if plain c then some (c :: val, rest) else none
    | _ => none

/-- Reads parameters; the fuel is at least the number of characters. -/
def params? (fuel : Nat) (cs : List Char) : Option (List (String × String)) :=
  match fuel, cs.dropWhile (· == ' ') with
  | _, [] => some []
  | 0, _ => none
  | fuel + 1, cs =>
    let (name, rest) := cs.span isToken
    if name.isEmpty then none
    else match rest with
      | '=' :: '"' :: rest => do
        let (val, rest) ← quotedOff? rest
        let after ← match rest.dropWhile (· == ' ') with
          | [] => some []
          | ';' :: rest => params? fuel rest
          | _ => none
        return (lower (.ofList name), .ofList val) :: after
      | '=' :: rest =>
        let (val, rest) := rest.span isToken
        match rest with
        | [] => some [(lower (.ofList name), .ofList val)]
        | ';' :: rest =>
          if val.isEmpty then none
          else (params? fuel rest).map ((lower (.ofList name), .ofList val) :: ·)
        | _ => none
      | _ => none

/-- Cuts the ending off a subtype, at the last plus sign that is not its first character. -/
def cutEnding (subtype : List Char) : List Char × Option (List Char) :=
  match cut? '+' subtype.reverse with
  | some (ending, rest) =>
    if rest.isEmpty then (subtype, none) else (rest.reverse, some ending.reverse)
  | none => (subtype, none)

def read? (s : String) : Option MediaType := do
  let (kind, rest) := s.toList.span isToken
  if kind.isEmpty then none
  match rest with
  | '/' :: rest =>
    let (subtype, rest) := rest.span isToken
    let params ← match rest with
      | [] => some []
      | ';' :: rest => if subtype.isEmpty then none else params? rest.length rest
      | _ => none
    let (subtype, ending) := cutEnding subtype
    return {
      kind := lower (.ofList kind), subtype := lower (.ofList subtype)
      ending := ending.map fun e => lower (.ofList e), params }
  | _ => none

def isJson (t : MediaType) : Bool :=
  t.kind == "application" && (t.subtype == "json" || t.ending == some "json")

/-- The boundary between the parts of a form. -/
def boundary? (t : MediaType) : Option String :=
  if t.kind == "multipart" && t.subtype == "form-data" && t.ending.isNone then
    t.params.lookup "boundary"
  else none

end MediaType

def Request.mediaType? (r : Request) : Option MediaType :=
  (r.header? "content-type").bind MediaType.read?

end CallDesk.Web
