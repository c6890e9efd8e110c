import CallDesk.Text.FormData
import CallDesk.Web.Message

/-! # Forms in parts

The parts of a form stand between boundaries. A part has headers, a blank line and contents, which
end before the line of the next boundary. What stands before the first boundary does not count,
and neither does what follows the part that is looked for.
-/

namespace CallDesk.Web.Multipart

open Text

/-- Cuts at the first place where a pattern stands, onto what was passed, kept in reverse. -/
def cutAtOnto? (pattern passed : Bytes) : Bytes → Option (Bytes × Bytes)
  | [] => if pattern.isEmpty then some (passed.reverse, []) else none
  | b :: rest =>
    if pattern.isPrefixOf (b :: rest) then
      some (passed.reverse, (b :: rest).drop pattern.length)
    else cutAtOnto? pattern (b :: passed) rest

/-- The bytes before and after the first place where a pattern stands. -/
def cutAt? (pattern s : Bytes) : Option (Bytes × Bytes) := cutAtOnto? pattern [] s

def lineEnd : Bytes := [13, 10]

def isNameByte (b : UInt8) : Bool :=
  isAlphanumeric b.toNat ||
    ([33, 35, 36, 37, 38, 39, 42, 43, 45, 46, 94, 95, 96, 124, 126] : Bytes).contains b

def isValueByte (b : UInt8) : Bool := (32 ≤ b && b != 127) || b == 9

def isLineBlank (b : UInt8) : Bool := b == 32 || b == 9

def header? (line : Bytes) : Option (String × Bytes) :=
  let (name, rest) := line.span isNameByte
  match rest with
  | 58 :: rest =>
    let val := ((rest.dropWhile isLineBlank).reverse.dropWhile isLineBlank).reverse
    if name.isEmpty || !val.all isValueByte then none else some (lower (decodeLossy name), val)
  | _ => none

/-- A line without a carriage return at its end. -/
def bareLine (line : Bytes) : Bytes :=
  match line.reverse with
  | 13 :: rest => rest.reverse
  | _ => line

def maxHeaders : Nat := 32

/-- Reads the headers of a part: the lines before the first blank one. -/
def headers? (block : Bytes) : Option (List (String × Bytes)) := do
  let lines := ((splitAll 10 block).map bareLine).takeWhile fun line => !line.isEmpty
  let found ← lines.mapM header?
  if found.length ≤ maxHeaders then some found else none

/-- Takes a quoted value off the front, up to the first quote that no backslash precedes, onto what
was read, kept in reverse. A backslash before a quote is dropped. -/
def quotedOnto? (read : Bytes) : Bytes → Option Bytes
  | [] => none
  | 92 :: 34 :: rest => quotedOnto? (34 :: read) rest
  | 34 :: _ => some read.reverse
  | b :: rest => quotedOnto? (b :: read) rest

def attributeValue? (s : Bytes) : Option String := do
  let (_, rest) ← cut? 61 s
  match rest.dropWhile isLineBlank with
  | 34 :: rest => (quotedOnto? [] rest).bind decode?
  | rest => decode? (rest.takeWhile fun b => b != 59 && b != 32)

/-- The value of a label of a header. The name counts where nothing, a blank or a semicolon
precedes it. -/
def label? (name : Bytes) (fuel : Nat) (s : Bytes) : Option String :=
  match fuel, cutAt? name s with
  | 0, _ => none
  | _, none => none
  | fuel + 1, some (before, after) =>
    match before.reverse with
    | b :: _ => if isLineBlank b || b == 59 then attributeValue? after else label? name fuel after
    | [] => attributeValue? after

/-- A part of a form. -/
structure Part where
  name : Option String
  fileName : Option String
  contents : Bytes

/-- A label in the header that describes a part; of several headers the last one counts. -/
def described? (headers : List (String × Bytes)) (label : String) : Option String :=
  (headers.reverse.lookup "content-disposition").bind fun val =>
    label? (utf8 label) (val.length + 1) val

/-- Takes the rest of a boundary and a part off the front. The outer `none` is a form that cannot
be read, the inner one the end of the form. -/
def partOff? (boundary : Bytes) (s : Bytes) : Option (Option (Part × Bytes)) :=
  match s with
  | 45 :: 45 :: _ => some none
  | _ => do
    if s.length < 2 then none
    match s.dropWhile isLineBlank with
    | 13 :: 10 :: rest =>
      let (block, rest) ← cutAt? (lineEnd ++ lineEnd) rest
      let headers ← headers? block
      let (contents, rest) ← cutAt? (lineEnd ++ [45, 45] ++ boundary) rest
      return some ({ name := described? headers "name",
                     fileName := described? headers "filename", contents }, rest)
    | _ => none

/-- The first part of a name after a boundary; the fuel is at least the number of parts. -/
def partFrom? (boundary : Bytes) (name : String) (fuel : Nat) (s : Bytes) :
    Option (Option Part) :=
  match fuel with
  | 0 => none
  | fuel + 1 => match partOff? boundary s with
    | none => none
    | some none => some none
    | some (some (part, rest)) =>
      if part.name == some name then some (some part) else partFrom? boundary name fuel rest

/-- The first part of a name in a form. The outer `none` is a form that cannot be read. -/
def part? (boundary name : String) (body : Bytes) : Option (Option Part) :=
  match cutAt? ([45, 45] ++ utf8 boundary) body with
  | none => none
  | some (_, rest) => partFrom? (utf8 boundary) name (rest.length + 1) rest

end CallDesk.Web.Multipart
