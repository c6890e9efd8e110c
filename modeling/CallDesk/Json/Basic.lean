import CallDesk.Number.Double
import CallDesk.Text.Utf8

/-! # JSON values

A value keeps what its text said: numbers as they were spelled, members in order and with
repetitions, and strings that hold no Unicode text (a lone surrogate escape, bytes that are not
UTF-8) as `none`. What a reader of a value makes of these is decided where the value is used: a
member that is skipped may hold anything, a value that is taken whole must be `isSound`.
-/

namespace CallDesk

open Text

/-- A number as it was spelled. -/
structure Numeral where
  negative : Bool := false
  /-- The digits before the point. -/
  whole : List Digit
  /-- The digits after the point, none when there is no point. -/
  fraction : List Digit := []
  /-- Whether the exponent is negative, and its digits. -/
  exponent : Option (Bool × List Digit) := none
deriving DecidableEq

/-- A JSON value. -/
inductive Json where
  | null
  | bool (b : Bool)
  | number (n : Numeral)
  | string (s : Option String)
  | array (items : List Json)
  | object (members : List (Option String × Json))

/-- What a numeral denotes: a natural number below `2^64`, a negative whole number of at least
`-2^63`, or a double. -/
inductive Number where
  | natural (n : Nat)
  | negative (n : Nat)
  | double (x : Double)

namespace Numeral

def ofNat (n : Nat) : Numeral := { whole := digits n }

/-- Adds digits to `n` as long as it stays below `2^64`; the digits left over, if any. -/
def gather (n : Nat) : List Digit → Nat × List Digit
  | [] => (n, [])
  | d :: rest =>
    if n * 10 + d.val < UInt64.size then gather (n * 10 + d.val) rest else (n, d :: rest)

def powerOfTen (k : Nat) : Double := .ofNat (tenTo k)

/-- `x / 10^k`: powers above the 308th are divided off in steps of `10^308`. -/
def shrink (x : Double) (k : Nat) : Double :=
  if k ≤ 308 then x.div (powerOfTen k)
  else if x.units = 0 then x
  else shrink (x.div (powerOfTen 308)) (k - 308)
termination_by k

/-- The double of `n · 10^e`, rounded after the conversion of `n` and after the scaling; `none`
when it is too large. -/
def scale? (n : Nat) (e : Int) : Option Double :=
  let x := Double.ofNat n
  if e < 0 then some (shrink x (-e).toNat)
  else if e ≤ 308 then
    let y := x.mul (powerOfTen e.toNat)
    if y.isFinite then some y else none
  else if n = 0 then some x else none

/-- The exponents that are taken at their word; above, a number is zero or too large. -/
def exponentLimit : Nat := UInt32.size / 2 - 1

/-- The double of a significand, the exponent that its digits imply and the one written. -/
def double? (negative : Bool) (n : Nat) (implied : Int) :
    Option (Bool × List Digit) → Option Double
  | none => sign (scale? n implied)
  | some (down, ds) =>
    let e := value ds
    if exponentLimit < e then
      if n = 0 ∨ down then some (.ofUnits negative 0) else none
    else sign (scale? n (if down then implied - e else implied + e))
where
  sign (x : Option Double) : Option Double := if negative then x.map .negate else x

/-- What a numeral denotes; `none` when it is beyond the doubles. The significand is made of the
leading digits that fit in 64 bits. Whole numbers that fit are exact. -/
def number? (n : Numeral) : Option Number :=
  let (whole, extra) := gather 0 n.whole
  if extra.isEmpty && n.fraction.isEmpty && n.exponent.isNone then
    if !n.negative then some (.natural whole)
    else if whole = 0 ∨ UInt64.size / 2 < whole then some (.double (.negate (.ofNat whole)))
    else some (.negative whole)
  else
    let (all, cut) := gather whole n.fraction
    let used : Nat := n.fraction.length - cut.length
    (double? n.negative all (extra.length - used) n.exponent).map .double

end Numeral

def Number.toDouble : Number → Double
  | natural n => .ofNat n
  | negative n => .negate (.ofNat n)
  | double x => x

namespace Json

def text (s : String) : Json := .string (some s)

def nat (n : Nat) : Json := .number (.ofNat n)

/-- An object with members of the given names. -/
def record (members : List (String × Json)) : Json :=
  .object (members.map fun (name, v) => (some name, v))

/-- The value of an optional one: null when there is none. -/
def option {α : Type} (f : α → Json) : Option α → Json
  | none => .null
  | some a => f a

def list {α : Type} (f : α → Json) (l : List α) : Json := .array (l.map f)

mutual

/-- Every string is text, every number is within the doubles, and arrays and objects are nested at
most `depth` deep. -/
def soundWithin (depth : Nat) : Json → Bool
  | .null => true
  | .bool _ => true
  | .number n => n.number?.isSome
  | .string s => s.isSome
  | .array items => match depth with
    | 0 => false
    | depth + 1 => itemsSound depth items
  | .object members => match depth with
    | 0 => false
    | depth + 1 => membersSound depth members

def itemsSound (depth : Nat) : List Json → Bool
  | [] => true
  | v :: rest => soundWithin depth v && itemsSound depth rest

/-- `soundWithin` for the members of an object, names included. -/
def membersSound (depth : Nat) : List (Option String × Json) → Bool
  | [] => true
  | (name, v) :: rest => name.isSome && soundWithin depth v && membersSound depth rest

end

/-- How deep arrays and objects may be nested in a value that is taken whole. -/
def maxDepth : Nat := 127

def isSound (v : Json) : Bool := soundWithin maxDepth v

/-- The member of an object with a name; of several, the last. -/
def member? (name : String) : Json → Option Json
  | .object members => (members.reverse.find? (·.1 == some name)).map (·.2)
  | _ => none

def text? : Json → Option String
  | .string s => s
  | _ => none

end Json

end CallDesk
