/-! # Decimal digits

Numbers are written and read digit by digit over lists, so that writing and reading can be
compared. A digit is a `Fin 10`; the value of a list of digits is read from the left.
-/

namespace CallDesk.Text

abbrev Digit := Fin 10

def Digit.char (d : Digit) : Char := Char.ofNat (48 + d.val)

/-- The digit that a character stands for, among ASCII digits. -/
def digit? (c : Char) : Option Digit :=
  if h : 48 ≤ c.toNat ∧ c.toNat ≤ 57 then some ⟨c.toNat - 48, by omega⟩ else none

def tenTo (k : Nat) : Nat := Nat.pow 10 k

/-- The value of digits read from the left, starting from `n`. -/
def valueFrom (n : Nat) (ds : List Digit) : Nat := ds.foldl (fun v d => v * 10 + d.val) n

def value (ds : List Digit) : Nat := valueFrom 0 ds

/-- The digits of a number, put in front of others. -/
def digitsOnto (n : Nat) (after : List Digit) : List Digit :=
  let last : Digit := ⟨n % 10, Nat.mod_lt n (by decide)⟩
  if h : n < 10 then last :: after else digitsOnto (n / 10) (last :: after)
termination_by n
decreasing_by omega

/-- The decimal digits of a number, without leading zeros; zero has one digit. -/
def digits (n : Nat) : List Digit := digitsOnto n []

def decimal (n : Nat) : String := .ofList ((digits n).map Digit.char)

/-- The decimal text of a number, filled with zeros on the left up to `width` digits. -/
def padded (width n : Nat) : String :=
  let ds := digits n
  .ofList ((List.replicate (width - ds.length) '0') ++ ds.map Digit.char)

/-- Reads a list of characters that are all digits; the empty list is not a number. -/
def allDigits? : List Char → Option (List Digit)
  | [] => none
  | cs => cs.mapM digit?

/-- Reads an unsigned number of at most `limit`; a plus sign may stand before it, and zeros. -/
def unsigned? (limit : Nat) (s : String) : Option Nat :=
  let cs := match s.toList with
    | '+' :: rest => rest
    | cs => cs
  match allDigits? cs with
  | some ds => if value ds ≤ limit then some (value ds) else none
  | none => none

end CallDesk.Text
