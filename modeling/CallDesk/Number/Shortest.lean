import CallDesk.Number.Double

/-! # The fewest decimal digits of a double

The text of a double is the shortest decimal that reads back as it, and of the shortest the one
nearest to it. The search asks, for one digit, two digits and so on, whether one of the two
neighbours of the value on that decimal grid reads back.
-/

namespace CallDesk.Double

open Text

/-- A decimal `digits · 10^exponent`. -/
structure Decimal where
  digits : Nat
  exponent : Int
deriving DecidableEq

def Decimal.nearest (d : Decimal) : Nat :=
  if 0 ≤ d.exponent then nearestUnits (d.digits * tenTo d.exponent.toNat * one) 1
  else nearestUnits (d.digits * one) (tenTo (-d.exponent).toNat)

/-- The number of decimal digits of a number that is not zero. -/
def digitCount (n : Nat) : Nat := (Text.digits n).length

/-- The exponent of the leading digit of `u` units: the `e` with `10^e ≤ u / one < 10^(e+1)`. -/
def leading (u : Nat) : Int :=
  if one ≤ u then (digitCount (u / one) : Int) - 1
  else
    -- below one: scaled by 10^330 the value has a whole part
    (digitCount (u * tenTo 330 / one) : Int) - 1 - 330

/-- The two neighbours of `u` units on the grid of step `10^e`, the nearer one first. -/
def neighbours (u : Nat) (e : Int) : List Decimal :=
  let (n, d) := if 0 ≤ e then (u, one * tenTo e.toNat) else (u * tenTo (-e).toNat, one)
  let low := n / d
  let near := roundHalfEven n d
  if near = low then [⟨low, e⟩, ⟨low + 1, e⟩] else [⟨low + 1, e⟩, ⟨low, e⟩]

/-- The first grid, from `places` digits on, on which a neighbour of `u` reads back. -/
def search (u : Nat) (fuel places : Nat) : Decimal :=
  let e := leading u - (places : Int) + 1
  match (neighbours u e).find? (·.nearest == u), fuel with
  | some d, _ => d
  | none, fuel + 1 => search u fuel (places + 1)
  | none, 0 => ⟨u, 0⟩

/-- The shortest decimal of `u` units; seventeen digits always suffice. -/
def shortest (u : Nat) : Decimal := if u = 0 then ⟨0, 0⟩ else search u 17 1

def Decimal.plain (d : Decimal) : String :=
  if 0 ≤ d.exponent then Text.decimal (d.digits * tenTo d.exponent.toNat)
  else
    let places := (-d.exponent).toNat
    let fractionDigits := ((Text.padded places (d.digits % tenTo places)).toList.reverse.dropWhile
      (· == '0')).reverse
    let whole := Text.decimal (d.digits / tenTo places)
    if fractionDigits.isEmpty then whole else whole ++ "." ++ .ofList fractionDigits

/-- The shortest text of a double, never with an exponent. -/
def plain (x : Double) : String :=
  if x.isNaN then "NaN"
  else (if x.negative then "-" else "") ++
    (if x.isFinite then (shortest x.units).plain else "inf")

end CallDesk.Double
