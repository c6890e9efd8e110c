import CallDesk.Text.FormData

/-! # File names

The extension of a file is what follows the last dot of the last part of its path. A part whose
only dot is its first character has none, and neither has `..`.
-/

namespace CallDesk.FileName

open Text

/-- The parts of a path that name something, from the end: empty parts and `.` are skipped, but for
a `.` at the very start. -/
def parts (path : String) : List (List Char) :=
  match splitAll '/' path.toList with
  | [] => []
  | first :: rest =>
    ((if first.isEmpty then [] else [first]) ++
      rest.filter fun part => !part.isEmpty && part != ['.']).reverse

def split? (name : List Char) : Option (List Char × List Char) :=
  if name == ['.', '.'] then none
  else match cut? '.' name.reverse with
    | some (ext, stem) => if stem.isEmpty then none else some (stem.reverse, ext.reverse)
    | none => none

/-- The extension of the last part of a path. -/
def extension? (path : String) : Option (List Char) :=
  match parts path with
  | [] => none
  | name :: _ => (split? name).map (·.2)

/-- An ASCII letter in lower case; any other character as it is. -/
def lower (c : Char) : Char := if 'A' ≤ c ∧ c ≤ 'Z' then Char.ofNat (c.toNat + 32) else c

/-- Whether a file has one of the given extensions, in any case of ASCII letters. -/
def hasExtension (path : String) (allowed : List String) : Bool :=
  match extension? path with
  | some ext => allowed.any fun a => a.toList.map lower == ext.map lower
  | none => false

/-- Whether a file is named like a table of comma-separated values. -/
def isCsv (path : String) : Bool := hasExtension path ["csv"]

end CallDesk.FileName
