import CallDesk.Json.Basic

/-! # Records

A record has named fields in a declared order. It is written as an object; an array with the
values in order is accepted too, and may leave out fields at its end. Members with other names are
skipped, whatever they hold; a field given twice is refused. Each field then says what its absence
means: refused, a default, or nothing.
-/

namespace CallDesk

/-- The values given for the fields of a record, by name. -/
abbrev Fields (α : Type) := List (String × α)

namespace Fields

variable {α β : Type}

def required (fs : Fields α) (name : String) (read : α → Option β) : Option β :=
  (fs.lookup name).bind read

def orElse (fs : Fields α) (name : String) (absent : β) (read : α → Option β) : Option β :=
  match fs.lookup name with
  | none => some absent
  | some v => read v

def optional (fs : Fields Json) (name : String) (read : Json → Option β) : Option (Option β) :=
  match fs.lookup name with
  | none => some none
  | some .null => some none
  | some v => (read v).map some

end Fields

namespace Json

/-- The members of an object that are fields, each at most once. -/
def named? (names : List String) : List (Option String × Json) → Option (Fields Json)
  | [] => some []
  | (none, _) :: _ => none
  | (some name, v) :: rest => do
    let found ← named? names rest
    if names.contains name then
      if found.any (·.1 == name) then none else some ((name, v) :: found)
    else some found

/-- The fields of a record with the given names. -/
def fields? (names : List String) : Json → Option (Fields Json)
  | .object members => named? names members
  | .array items => if items.length ≤ names.length then some (names.zip items) else none
  | _ => none

def natWithin? (limit : Nat) : Json → Option Nat
  | .number n => match n.number? with
    | some (.natural k) => if k ≤ limit then some k else none
    | _ => none
  | _ => none

def uint64? (v : Json) : Option UInt64 := (natWithin? (UInt64.size - 1) v).map UInt64.ofNat

def uint32? (v : Json) : Option UInt32 := (natWithin? (UInt32.size - 1) v).map UInt32.ofNat

def uint16? (v : Json) : Option UInt16 := (natWithin? (UInt16.size - 1) v).map UInt16.ofNat

def bool? : Json → Option Bool
  | .bool b => some b
  | _ => none

def double? : Json → Option Double
  | .number n => n.number?.map Number.toDouble
  | _ => none

def list? {α : Type} (read : Json → Option α) : Json → Option (List α)
  | .array items => items.mapM read
  | _ => none

/-- The name of a choice: a string, or an object whose only member has the name and is null. -/
def choice? : Json → Option String
  | .string s => s
  | .object [(name, .null)] => name
  | _ => none

end Json

end CallDesk
