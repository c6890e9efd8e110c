import CallDesk.Json.Basic
import CallDesk.Text.Percent

/-! # Writing JSON

A value is written without white space. In strings only the quote, the backslash and control
characters are escaped; every other character is written as itself.
-/

namespace CallDesk

open Text

/-- The digits, point and exponent of a numeral. -/
def Numeral.render (n : Numeral) : List Char :=
  (if n.negative then ['-'] else []) ++ n.whole.map Digit.char ++
    (if n.fraction.isEmpty then [] else '.' :: n.fraction.map Digit.char) ++
    (match n.exponent with
      | none => []
      | some (down, ds) => 'e' :: (if down then ['-'] else []) ++ ds.map Digit.char)

namespace Json

def escape (c : Char) : List Char :=
  if c == '"' then ['\\', '"']
  else if c == '\\' then ['\\', '\\']
  else if 32 ≤ c.toNat then [c]
  else if c.toNat == 8 then ['\\', 'b']
  else if c.toNat == 9 then ['\\', 't']
  else if c.toNat == 10 then ['\\', 'n']
  else if c.toNat == 12 then ['\\', 'f']
  else if c.toNat == 13 then ['\\', 'r']
  else ['\\', 'u', '0', '0', hexLower (c.toNat / 16), hexLower (c.toNat % 16)]

def quote (s : String) : List Char := '"' :: s.toList.flatMap escape ++ ['"']

mutual

/-- The characters of a value. A string that holds no text is written as the empty one. -/
def chars : Json → List Char
  | .null => ['n', 'u', 'l', 'l']
  | .bool true => ['t', 'r', 'u', 'e']
  | .bool false => ['f', 'a', 'l', 's', 'e']
  | .number n => n.render
  | .string s => quote (s.getD "")
  | .array items => '[' :: itemChars true items
  | .object members => '{' :: memberChars true members

/-- The items of an array and its closing bracket. -/
def itemChars (first : Bool) : List Json → List Char
  | [] => [']']
  | v :: rest => (if first then [] else [',']) ++ chars v ++ itemChars false rest

/-- The members of an object and its closing brace. -/
def memberChars (first : Bool) : List (Option String × Json) → List Char
  | [] => ['}']
  | (name, v) :: rest =>
    (if first then [] else [',']) ++ quote (name.getD "") ++ ':' :: chars v ++
      memberChars false rest

end

def render (v : Json) : String := .ofList (chars v)

end Json

end CallDesk
