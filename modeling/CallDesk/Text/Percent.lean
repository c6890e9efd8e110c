import CallDesk.Text.Utf8

/-! # Percent coding

A byte is written as `%` and two upper-case hexadecimal digits. Which bytes stay as they are
differs by place; each place is one predicate on ASCII bytes. Reading is common to all: a `%` not
followed by two hexadecimal digits stands for itself.
-/

namespace CallDesk.Text

/-- The upper-case hexadecimal digit of a number below sixteen. -/
def hexUpper (n : Nat) : Char := if n < 10 then Char.ofNat (48 + n) else Char.ofNat (55 + n)

/-- The lower-case hexadecimal digit of a number below sixteen. -/
def hexLower (n : Nat) : Char := if n < 10 then Char.ofNat (48 + n) else Char.ofNat (87 + n)

/-- The value of a hexadecimal digit, given as its ASCII code, in either case. -/
def hexValue? (n : Nat) : Option Nat :=
  if 48 ≤ n ∧ n ≤ 57 then some (n - 48)
  else if 65 ≤ n ∧ n ≤ 70 then some (n - 55)
  else if 97 ≤ n ∧ n ≤ 102 then some (n - 87)
  else none

/-- An ASCII letter or digit, given as its code. -/
def isAlphanumeric (n : Nat) : Bool :=
  (48 ≤ n && n ≤ 57) || (65 ≤ n && n ≤ 90) || (97 ≤ n && n ≤ 122)

/-- The bytes that stand for themselves in a cookie value and in a path segment: letters, digits,
`-`, `.`, `_` and `~`. -/
def isUnreserved (b : UInt8) : Bool :=
  isAlphanumeric b.toNat || b == 45 || b == 46 || b == 95 || b == 126

def percentByte (b : UInt8) : List Char :=
  ['%', hexUpper (b.toNat / 16), hexUpper (b.toNat % 16)]

/-- Bytes in percent coding; those that `keep` accepts stand for themselves. -/
def percentBytes (keep : UInt8 → Bool) (bytes : Bytes) : List Char :=
  bytes.flatMap fun b => if keep b then [Char.ofNat b.toNat] else percentByte b

/-- A text in percent coding, in which only unreserved characters stand for themselves. -/
def percentEncode (s : String) : String := .ofList (percentBytes isUnreserved (utf8 s))

/-- Takes percent coding away, onto the bytes already read, which are kept in reverse. -/
def unpercentOnto (read : Bytes) : Bytes → Bytes
  | [] => read.reverse
  | [a] => (a :: read).reverse
  | [a, b] => (b :: a :: read).reverse
  | a :: b :: c :: rest =>
    if a == 37 then
      match hexValue? b.toNat, hexValue? c.toNat with
      | some high, some low => unpercentOnto (UInt8.ofNat (high * 16 + low) :: read) rest
      | _, _ => unpercentOnto (a :: read) (b :: c :: rest)
    else unpercentOnto (a :: read) (b :: c :: rest)

/-- The bytes that percent coding stands for. -/
def unpercent (bytes : Bytes) : Bytes := unpercentOnto [] bytes

/-- Reads a text in percent coding; `none` when the bytes are not UTF-8. -/
def percentDecode? (s : String) : Option String := decode? (unpercent (utf8 s))

end CallDesk.Text
