import CallDesk.Time.Instant
import CallDesk.Text.Blank

/-! # Reading timestamps

The form of Internet timestamps, read leniently: blanks may stand before every number, after every
number and at the end; month, day, hour, minute and second may have one digit; a year with a sign
may have any number of digits; the date ends with `T`, `t` or a blank. Digits of the fraction after
the ninth are dropped. The offset has two digits of hours and two of minutes, with any colons and
blanks between them, and may be spelled `Z` or `UTC` in either case.
-/

namespace CallDesk.Instant

open Text

/-- Takes at most `most` digits off the front, onto those already read, kept in reverse. -/
def digitsOff (read : List Digit) : Nat → List Char → List Digit × List Char
  | 0, s => (read.reverse, s)
  | _, [] => (read.reverse, [])
  | most + 1, c :: rest => match digit? c with
    | some d => digitsOff (d :: read) most rest
    | none => (read.reverse, c :: rest)

/-- Takes a number of one to `most` digits off the front. -/
def numberOff? (most : Nat) (s : List Char) : Option (Nat × List Char) :=
  match digitsOff [] most s with
  | ([], _) => none
  | (ds, rest) => some (value ds, rest)

/-- Takes a number of one or two digits, with blanks before it, off the front. -/
def pairOff? (s : List Char) : Option (Nat × List Char) :=
  numberOff? 2 (trimLeft s)

def yearOff? (s : List Char) : Option (Int × List Char) :=
  match trimLeft s with
  | '-' :: rest => (numberOff? rest.length rest).map fun (n, rest) => (-(n : Int), rest)
  | '+' :: rest => (numberOff? rest.length rest).map fun (n, rest) => ((n : Int), rest)
  | s => (numberOff? 4 s).map fun (n, rest) => ((n : Int), rest)

/-- Takes a separator, with blanks before it, off the front. -/
def separatorOff? (c : Char) (s : List Char) : Option (List Char) :=
  match trimLeft s with
  | d :: rest => if d == c then some rest else none
  | [] => none

def dateOff? (s : List Char) : Option (Date × List Char) := do
  let (year, s) ← yearOff? s
  let s ← separatorOff? '-' s
  let (month, s) ← pairOff? s
  let s ← separatorOff? '-' s
  let (day, s) ← pairOff? s
  let date ← Date.of? year month day
  return (date, s)

/-- Takes the mark between date and time off the front. -/
def markOff? : List Char → Option (List Char)
  | c :: rest => if c == 'T' || c == 't' || c == ' ' then some rest else none
  | [] => none

/-- The nanoseconds of at most nine digits of a fraction. -/
def nanosOf (ds : List Digit) : Nat := value ds * tenTo (9 - ds.length)

/-- Takes the fraction of a second off the front, if there is one. -/
def fractionOff? : List Char → Option (Nat × List Char)
  | '.' :: rest => match digitsOff [] 9 rest with
    | ([], _) => none
    | (ds, rest) => some (nanosOf ds, rest.dropWhile fun c => (digit? c).isSome)
  | s => some (0, s)

/-- Takes a time of day off the front: its second of the day and nanoseconds. -/
def timeOff? (s : List Char) : Option ((Nat × Nat) × List Char) := do
  let (hour, s) ← pairOff? s
  let s ← separatorOff? ':' s
  let (minute, s) ← pairOff? s
  let s ← separatorOff? ':' s
  let (second, s) ← pairOff? s
  let (nano, s) ← fractionOff? s
  if 24 ≤ hour ∨ 60 ≤ minute ∨ 60 < second then none
  else
    let start := hour * 3600 + minute * 60
    return (if second = 60 then (start + 59, nanosPerSecond + nano) else (start + second, nano), s)

def twoDigitsOff? : List Char → Option (Nat × List Char)
  | a :: b :: rest => match digit? a, digit? b with
    | some a, some b => some (value [a, b], rest)
    | _, _ => none
  | _ => none

/-- Takes hours and minutes of an offset off the front: its minutes, below a day. -/
def spanOff? (s : List Char) : Option (Nat × List Char) := do
  let (hours, s) ← twoDigitsOff? s
  let (minutes, s) ← twoDigitsOff? (s.dropWhile fun c => c == ':' || isBlank c)
  if 60 ≤ minutes ∨ 24 ≤ hours then none else return (hours * 60 + minutes, s)

def isLetter (upper c : Char) : Bool := c == upper || c.toNat == upper.toNat + 32

/-- Takes an offset off the front: the minutes that the local time is ahead of UTC. -/
def offsetOff? (s : List Char) : Option (Int × List Char) :=
  match trimLeft s with
  | [] => none
  | c :: rest =>
    if isLetter 'Z' c then some (0, rest)
    else if c == '+' then (spanOff? rest).map fun (n, rest) => ((n : Int), rest)
    else if c == '-' || c.toNat == 0x2212 then
      (spanOff? rest).map fun (n, rest) => (-(n : Int), rest)
    else match c :: rest with
      | u :: t :: c :: rest =>
        if isLetter 'U' u && isLetter 'T' t && isLetter 'C' c then some (0, rest) else none
      | _ => none

def readChars? (s : List Char) : Option Instant := do
  let (date, s) ← dateOff? s
  let s ← markOff? s
  let ((second, nano), s) ← timeOff? s
  let (minutes, s) ← offsetOff? s
  if (trimLeft s).isEmpty then ofLocal? date second nano minutes else none

def read? (s : String) : Option Instant := readChars? s.toList

end CallDesk.Instant
