import CallDesk.Text.Percent

/-! # Labels in Punycode

A label of a domain name that starts with `xn--` stands for characters beyond ASCII: what precedes
its last hyphen are the characters of ASCII among them, what follows are the places of the others,
as numbers with digits of varying worth.
-/

namespace CallDesk.Url.Punycode

/-- The value of a digit: letters, then decimal digits. -/
def digit? (c : Char) : Option Nat :=
  let n := c.toNat
  if 97 ≤ n ∧ n ≤ 122 then some (n - 97)
  else if 65 ≤ n ∧ n ≤ 90 then some (n - 65)
  else if 48 ≤ n ∧ n ≤ 57 then some (n - 22)
  else none

/-- Divides by 35 until at most 455 is left, and counts 36 for each time. -/
def settle (delta k : Nat) : Nat × Nat :=
  if h : 455 < delta then settle (delta / 35) (k + 36) else (delta, k)
termination_by delta
decreasing_by omega

/-- The bias after a number `delta` that places the last of `count` characters. -/
def adapt (delta count : Nat) (isFirst : Bool) : Nat :=
  let delta := if isFirst then delta / 700 else delta / 2
  let (delta, k) := settle (delta + delta / count) 0
  k + 36 * delta / (delta + 38)

/-- What has been decoded, and how far the number that is being read has come. -/
structure State where
  /-- The code points decoded so far, in order. -/
  out : List Nat
  /-- The code point to insert next, before the number is added. -/
  point : Nat := 128
  bias : Nat := 72
  /-- The place after the last insertion, where the number starts. -/
  start : Nat := 0
  /-- The number so far, from the start on. -/
  place : Nat := 0
  weight : Nat := 1
  position : Nat := 36

namespace State

/-- The least digit that goes on with a number. -/
def threshold (s : State) : Nat :=
  if s.position ≤ s.bias then 1 else min 26 (s.position - s.bias)

/-- Reads a digit. A number that ends inserts a code point. -/
def read? (s : State) (d : Nat) : Option State :=
  let place := s.place + d * s.weight
  if d < s.threshold then
    let count := s.out.length + 1
    let point := s.point + place / count
    let index := place % count
    if 0x10FFFF < point then none
    else some {
      out := s.out.take index ++ point :: s.out.drop index
      point, bias := adapt (place - s.start) count (s.start == 0)
      start := index + 1, place := index + 1 }
  else some { s with
    place, weight := s.weight * (36 - s.threshold), position := s.position + 36 }

end State

/-- Reads digits; the last number has to end. -/
def readFrom? (s : State) : List Char → Option (List Nat)
  | [] => if s.weight == 1 then some s.out else none
  | c :: rest => do readFrom? (← s.read? (← digit? c)) rest

/-- The code points of a label, from what follows `xn--`. -/
def decode? (cs : List Char) : Option (List Nat) :=
  let digits := (cs.reverse.takeWhile (· != '-')).reverse
  let plain := (cs.take (cs.length - digits.length)).dropLast
  readFrom? { out := plain.map Char.toNat } digits

end CallDesk.Url.Punycode
