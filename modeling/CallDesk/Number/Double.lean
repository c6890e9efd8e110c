import CallDesk.Text.Digits

/-! # Doubles

A double is its 64 bits. The magnitude of a finite one is a whole number of `2^-1074`, its
`units`, so every rule about doubles is a rule about natural numbers: rounding a ratio to a
double, to a whole number or to decimal places is one division with ties to even.
-/

namespace CallDesk

/-- A double of the IEEE 754 standard, given by its bits. -/
structure Double where
  bits : UInt64
deriving DecidableEq, Inhabited

/-- The whole number nearest to `n / d`; a tie goes to the even neighbour. -/
def roundHalfEven (n d : Nat) : Nat :=
  let q := n / d
  let r := n % d
  if d < 2 * r || (d == 2 * r && q % 2 == 1) then q + 1 else q

namespace Double

open Text

def twoTo (k : Nat) : Nat := Nat.pow 2 k

def one : Nat := twoTo 1074

def negative (x : Double) : Bool := x.bits.toNat / twoTo 63 == 1

def exponentField (x : Double) : Nat := x.bits.toNat / twoTo 52 % twoTo 11

def fraction (x : Double) : Nat := x.bits.toNat % twoTo 52

def isFinite (x : Double) : Bool := x.exponentField != 2047

def isNaN (x : Double) : Bool := x.exponentField == 2047 && x.fraction != 0

/-- The magnitude of a finite double, as a number of `2^-1074`. -/
def units (x : Double) : Nat :=
  if x.exponentField = 0 then x.fraction
  else (twoTo 52 + x.fraction) * twoTo (x.exponentField - 1)

/-- The bits of a magnitude given in units; one that no finite double has is infinite. -/
def magnitudeBits (u : Nat) : Nat :=
  if u < twoTo 52 then u
  else
    let shift := Nat.log2 u - 52
    if 2046 ≤ shift then 2047 * twoTo 52
    else (shift + 1) * twoTo 52 + (u / twoTo shift - twoTo 52)

/-- The double of a sign and a magnitude in units that some double has. -/
def ofUnits (negative : Bool) (u : Nat) : Double :=
  ⟨UInt64.ofNat ((if negative then twoTo 63 else 0) + magnitudeBits u)⟩

/-- Rounds `n / d` units to the units of the nearest double; ties go to the even one. -/
def nearestUnits (n d : Nat) : Nat :=
  let shift := Nat.log2 (n / d) - 52
  roundHalfEven n (d * twoTo shift) * twoTo shift

def ofRatio (negative : Bool) (n d : Nat) : Double := ofUnits negative (nearestUnits (n * one) d)

def infinite (negative : Bool) : Double := ofUnits negative (twoTo 2098)

/-- The double nearest to `± n · 10^e`. A power of ten so large or so small that `n` does not matter
is not computed. -/
def ofDecimal (negative : Bool) (n : Nat) (e : Int) : Double :=
  if n = 0 ∨ e + (Text.digits n).length < -400 then ofUnits negative 0
  else if 400 < e then infinite negative
  else if 0 ≤ e then ofRatio negative (n * tenTo e.toNat) 1
  else ofRatio negative n (tenTo (-e).toNat)

def ofNat (n : Nat) : Double := ofRatio false n 1

def negate (x : Double) : Double := ofUnits (!x.negative) x.units

/-- The product of two finite doubles, rounded. -/
def mul (x y : Double) : Double :=
  ofUnits (x.negative != y.negative) (nearestUnits (x.units * y.units) one)

/-- The quotient of two finite doubles, rounded; the divisor is not zero. -/
def div (x y : Double) : Double :=
  ofUnits (x.negative != y.negative) (nearestUnits (x.units * one) y.units)

/-- The whole number nearest to the magnitude of a finite double; a half goes up. -/
def roundHalfUp (x : Double) : Nat := (2 * x.units + one) / (2 * one)

/-- The text of a number of tenths, hundredths and so on, by the number of decimal places. -/
def placesText (places scaled : Nat) : String :=
  let whole := Text.decimal (scaled / tenTo places)
  if places = 0 then whole
  else whole ++ "." ++ Text.padded places (scaled % tenTo places)

/-- A finite double with a fixed number of decimal places. The exact value is rounded, ties go to
the even neighbour, and the sign is kept for a zero too. -/
def fixed (places : Nat) (x : Double) : String :=
  (if x.negative then "-" else "") ++ placesText places (roundHalfEven (x.units * tenTo places) one)

end Double

end CallDesk
