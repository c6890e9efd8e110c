import CallDesk.Json.Basic
import CallDesk.Number.Shortest
import CallDesk.Settings.Basic

/-! # Trees of values

What a file and variables say before it is known what it means. Layers are laid over one another:
tables are joined member by member, anything else is replaced. A value is taken as the kind that a
setting has: numbers, words and truth values stand for one another where that makes sense.
-/

namespace CallDesk

/-- A tree of values. No table has two members of one name. -/
inductive Tree where
  | null
  | bool (b : Bool)
  | whole (n : Int)
  | double (x : Double)
  | text (s : String)
  | list (items : List Tree)
  | table (members : List (String × Tree))

namespace Tree

/-- The members of a tree; one that is no table has none. -/
def members : Tree → List (String × Tree)
  | table ms => ms
  | _ => []

def setIn (name : String) (v : Tree) : List (String × Tree) → List (String × Tree)
  | [] => [(name, v)]
  | (n, w) :: rest => if n = name then (name, v) :: rest else (n, w) :: setIn name v rest

/-- Sets a member; a tree that is no table becomes one. -/
def set (t : Tree) (name : String) (v : Tree) : Tree := .table (setIn name v t.members)

mutual

def lay (name : String) (v t : Tree) : Tree :=
  match v with
  | .table ms => t.set name (layAll ms ((t.members.lookup name).getD (.table [])))
  | v => t.set name v

def layAll : List (String × Tree) → Tree → Tree
  | [], t => t
  | (name, v) :: rest, t => layAll rest (lay name v t)

end

/-- Lays a value over the place that a path of names leads to. -/
def layAt (v : Tree) : List String → Tree → Tree
  | [], t => t
  | [name], t => lay name v t
  | name :: path, t => t.set name (layAt v path ((t.members.lookup name).getD .null))

def isNameChar (c : Char) : Bool :=
  Text.isAlphanumeric c.toNat || c == ' ' || c == '_' || c == '-'

/-- The names between the dots of a key, when all of them can be names. -/
def path? (key : String) : Option (List String) :=
  let names := Text.splitAll '.' key.toList
  if names.all fun name => !name.isEmpty && name.all isNameChar then some (names.map .ofList)
  else none

/-- Lays a layer over a tree. Its keys are paths where they can be. -/
def layer (t : Tree) (entries : List (String × Tree)) : Tree :=
  entries.foldl (fun t (key, v) => layAt v ((path? key).getD [key]) t) t

/-! ## Reading -/

mutual

/-- The tree of a message. Of members with the same name the last one counts, and whole numbers of
more than 64 bits with a sign are doubles. -/
def ofJson : Json → Tree
  | .null => .null
  | .bool b => .bool b
  | .number n => match n.number? with
    | some (.natural k) => if k < UInt64.size / 2 then .whole k else .double (.ofNat k)
    | some (.negative k) => .whole (-k)
    | some (.double x) => .double x
    | none => .null
  | .string s => .text (s.getD "")
  | .array items => .list (ofItems items)
  | .object ms => .table (ofMembers [] ms)

def ofItems : List Json → List Tree
  | [] => []
  | v :: rest => ofJson v :: ofItems rest

/-- The members of an object, set after those already read. -/
def ofMembers (read : List (String × Tree)) : List (Option String × Json) → List (String × Tree)
  | [] => read
  | (name, v) :: rest => ofMembers (setIn (name.getD "") (ofJson v) read) rest

end

/-! ## Taking values -/

def yesWords : List String := ["true", "on", "yes"]

def noWords : List String := ["false", "off", "no"]

/-- A text in lower case, as far as ASCII goes. -/
def lower (s : String) : String := .ofList (s.toList.map FileName.lower)

/-- The whole number that a double stands for: the nearest one, a half going away from zero, kept
within 64 bits. -/
def natOfDouble (x : Double) : Nat :=
  if x.isNaN || x.negative then 0
  else if x.isFinite then min x.roundHalfUp (UInt64.size - 1) else UInt64.size - 1

/-- The natural number that a tree stands for. -/
def toNat? : Tree → Option Nat
  | whole n => if 0 ≤ n then some n.toNat else none
  | bool b => some b.toNat
  | double x => some (natOfDouble x)
  | text s =>
    if yesWords.contains (lower s) then some 1
    else if noWords.contains (lower s) then some 0
    else Text.unsigned? (UInt64.size - 1) s
  | _ => none

def toBool? : Tree → Option Bool
  | bool b => some b
  | whole n => some (n != 0)
  | double x => some (x.isNaN || x.units != 0)
  | text s =>
    if ("1" :: yesWords).contains (lower s) then some true
    else if ("0" :: noWords).contains (lower s) then some false
    else none
  | _ => none

def toText? : Tree → Option String
  | text s => some s
  | bool true => some "true"
  | bool false => some "false"
  | whole n => some (if n < 0 then "-" ++ Text.decimal n.natAbs else Text.decimal n.natAbs)
  | double x => some x.plain
  | _ => none

/-- The fields of a record: the members of a table, or the items of a list in order. -/
def fields? (names : List String) : Tree → Option (Fields Tree)
  | table ms => some (ms.filter fun m => names.contains m.1)
  | list items => some (names.zip items)
  | _ => none

def source : Source Tree where
  fields? := fields?
  text? := toText?
  bool? := toBool?
  nat? limit t := t.toNat?.filter (· ≤ limit)
  isNull
    | .null => true
    | _ => false

end Tree

end CallDesk
