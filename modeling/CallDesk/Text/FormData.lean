import CallDesk.Text.Percent

/-! # Form data

Pairs of texts in one line: pairs are separated by `&`, key and value by the first `=`, a blank is
`+`, and other bytes are percent coded. Reading never fails: empty parts between `&` are skipped,
a part without `=` has the empty value, and bytes that are not UTF-8 give replacement characters.
-/

namespace CallDesk.Text

/-- Splits at every element that equals `sep`, onto the pieces already read, kept in reverse. -/
def splitOnto {α : Type} [BEq α] (sep : α) (done : List (List α)) (current : List α) :
    List α → List (List α)
  | [] => (current.reverse :: done).reverse
  | a :: rest =>
    if a == sep then splitOnto sep (current.reverse :: done) [] rest
    else splitOnto sep done (a :: current) rest

/-- The pieces of a list between the elements that equal `sep`. -/
def splitAll {α : Type} [BEq α] (sep : α) (l : List α) : List (List α) := splitOnto sep [] [] l

/-- The parts of a list before and after the first element that equals `sep`. -/
def cut? {α : Type} [BEq α] (sep : α) (l : List α) : Option (List α × List α) :=
  match l.span (· != sep) with
  | (_, []) => none
  | (before, _ :: after) => some (before, after)

/-- A key or value of form data: plus signs are blanks, percent coding is taken away. -/
def formText (bytes : Bytes) : String :=
  decodeLossy (unpercent (bytes.map fun b => if b == 43 then 32 else b))

def formPairs (bytes : Bytes) : List (String × String) :=
  (splitAll 38 bytes).filterMap fun part =>
    if part.isEmpty then none
    else match cut? 61 part with
      | some (key, val) => some (formText key, formText val)
      | none => some (formText part, "")

/-- The bytes that stand for themselves in form data: letters, digits, `*`, `-`, `.` and `_`. -/
def isFormPlain (b : UInt8) : Bool :=
  isAlphanumeric b.toNat || b == 42 || b == 45 || b == 46 || b == 95

def formEncode (s : String) : List Char :=
  (utf8 s).flatMap fun b =>
    if b == 32 then ['+'] else if isFormPlain b then [Char.ofNat b.toNat] else percentByte b

def formLine (pairs : List (String × String)) : String :=
  "&".intercalate (pairs.map fun (key, val) => .ofList (formEncode key ++ '=' :: formEncode val))

end CallDesk.Text
