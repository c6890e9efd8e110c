import CallDesk.Settings.Tree
import CallDesk.Time.Reader
import CallDesk.Toml.Text

/-! # Numbers and times in TOML

Digits may be grouped by underscores, each between two digits. Whole numbers have 64 bits with a
sign. Dates and times are kept as texts in one form: a capital `T`, at most nine digits of a
fraction and none that are zeros at its end.
-/

namespace CallDesk.Toml

open Text

/-- Takes more digits off the front, onto those already read, which are kept in reverse. -/
def moreDigits? (digit? : Char → Option Nat) (read : List Nat) :
    List Char → Option (List Nat × List Char)
  | [] => some (read.reverse, [])
  | '_' :: c :: rest => match digit? c with
    | some d => moreDigits? digit? (d :: read) rest
    | none => none
  | ['_'] => none
  | c :: rest => match digit? c with
    | some d => moreDigits? digit? (d :: read) rest
    | none => some (read.reverse, c :: rest)

/-- Takes digits off the front, at least one. -/
def groupOff? (digit? : Char → Option Nat) : List Char → Option (List Nat × List Char)
  | c :: rest => match digit? c with
    | some d => moreDigits? digit? [d] rest
    | none => none
  | [] => none

/-- The value of a digit in a base of at most sixteen. -/
def digitIn? (base : Nat) (c : Char) : Option Nat := (hexValue? c.toNat).filter (· < base)

def valueIn (base : Nat) (ds : List Nat) : Nat := ds.foldl (fun n d => n * base + d) 0

/-- A whole number, if it has 64 bits with a sign. -/
def wholeOf? (negative : Bool) (n : Nat) : Option Tree :=
  if negative then if n ≤ UInt64.size / 2 then some (.whole (-n)) else none
  else if n < UInt64.size / 2 then some (.whole n) else none

/-- Takes a whole number of another base, after its mark, off the front. -/
def basedOff? (base : Nat) (s : List Char) : Option (Tree × List Char) := do
  let (ds, s) ← groupOff? (digitIn? base) s
  return (← wholeOf? false (valueIn base ds), s)

/-- Takes the sign of an exponent off the front: whether it is negative. -/
def signOff : List Char → Bool × List Char
  | '-' :: rest => (true, rest)
  | '+' :: rest => (false, rest)
  | s => (false, s)

/-- Takes the digits before a point off the front: a lone zero, or digits that do not start with
one. -/
def wholeOff? : List Char → Option (List Nat × List Char)
  | '0' :: rest => some ([0], rest)
  | s => groupOff? (digitIn? 10) s

/-- Takes the exponent off the front, if there is one. -/
def exponentOff? : List Char → Option (Option Int × List Char)
  | [] => some (none, [])
  | c :: rest =>
    if c == 'e' || c == 'E' then do
      let (down, rest) := signOff rest
      let (ds, rest) ← groupOff? (digitIn? 10) rest
      let n := valueIn 10 ds
      return (some (if down then -n else n), rest)
    else some (none, c :: rest)

/-- Takes the point and the digits after it off the front, if there is a point. -/
def fractionOff? : List Char → Option (Option (List Nat) × List Char)
  | '.' :: rest => (groupOff? (digitIn? 10) rest).map fun (ds, rest) => (some ds, rest)
  | s => some (none, s)

/-- A number with a point or an exponent. One that is too large is refused, unless it is
negative. -/
def doubleOf? (negative : Bool) (whole fraction : List Nat) (exponent : Int) : Option Tree :=
  let x := Double.ofDecimal negative (valueIn 10 (whole ++ fraction)) (exponent - fraction.length)
  if x.isFinite || negative then some (.double x) else none

/-- Takes a decimal number, after its sign, off the front. -/
def decimalOff? (negative : Bool) (s : List Char) : Option (Tree × List Char) := do
  let (whole, s) ← wholeOff? s
  let (fraction, s) ← fractionOff? s
  let (exponent, s) ← exponentOff? s
  if fraction.isNone && exponent.isNone then return (← wholeOf? negative (valueIn 10 whole), s)
  else return (← doubleOf? negative whole (fraction.getD []) (exponent.getD 0), s)

def notANumber : Double := ⟨0x7FF8000000000000⟩

def numberOff? (s : List Char) : Option (Tree × List Char) :=
  let (negative, rest) := signOff s
  match rest with
  | 'i' :: 'n' :: 'f' :: rest => some (.double (.infinite negative), rest)
  | 'n' :: 'a' :: 'n' :: rest => some (.double notANumber, rest)
  | rest => match s with
    | '0' :: 'x' :: rest => basedOff? 16 rest
    | '0' :: 'o' :: rest => basedOff? 8 rest
    | '0' :: 'b' :: rest => basedOff? 2 rest
    | _ => decimalOff? negative rest

def markOff? (mark : Char) : List Char → Option (List Char)
  | c :: rest => if c == mark then some rest else none
  | [] => none

/-- Takes two digits off the front that are at most `most`: their number and the digits. -/
def pairOff? (most : Nat) (s : List Char) : Option (Nat × List Char) :=
  (Instant.twoDigitsOff? s).filter (·.1 ≤ most)

def dateOff? (s : List Char) : Option (String × List Char) := do
  let (century, rest) ← pairOff? 99 s
  let (year, rest) ← pairOff? 99 rest
  let (month, rest) ← pairOff? 12 (← markOff? '-' rest)
  let (day, rest) ← pairOff? 31 (← markOff? '-' rest)
  if isDate (century * 100 + year : Nat) month day then return (.ofList (s.take 10), rest)
  else none

def fractionText (ds : List Char) : String :=
  let shown := ((ds.take 9).reverse.dropWhile (· == '0')).reverse
  if shown.isEmpty then "" else .ofList ('.' :: shown)

/-- Takes a fraction of a second off the front, if there is one. -/
def secondFractionOff : List Char → String × List Char
  | '.' :: rest =>
    let (ds, after) := rest.span Char.isDigit
    if ds.isEmpty then ("", '.' :: rest) else (fractionText ds, after)
  | s => ("", s)

def timeOff? (s : List Char) : Option (String × List Char) := do
  let (_, rest) ← pairOff? 23 s
  let (_, rest) ← pairOff? 59 (← markOff? ':' rest)
  let (_, rest) ← pairOff? 60 (← markOff? ':' rest)
  let (fraction, rest) := secondFractionOff rest
  return (.ofList (s.take 8) ++ fraction, rest)

/-- Takes an offset off the front. One of no minutes is positive. -/
def offsetOff? (s : List Char) : Option (String × List Char) :=
  match s with
  | 'Z' :: rest => some ("Z", rest)
  | 'z' :: rest => some ("Z", rest)
  | c :: rest => do
    if c != '+' && c != '-' then none
    let (hours, after) ← pairOff? 23 rest
    let (minutes, after) ← pairOff? 59 (← markOff? ':' after)
    let sign := if hours = 0 ∧ minutes = 0 then '+' else c
    return (.ofList (sign :: rest.take 5), after)
  | [] => none

/-- Takes the time that belongs to a date off the front, if there is one. -/
def datedTimeOff (s : List Char) : String × List Char :=
  match s with
  | c :: rest =>
    if c == 'T' || c == 't' || c == ' ' then
      match timeOff? rest with
      | some (time, rest) =>
        let (offset, rest) := (offsetOff? rest).getD ("", rest)
        ("T" ++ time ++ offset, rest)
      | none => ("", s)
    else ("", s)
  | [] => ("", s)

/-- Takes a date, a time or both off the front. -/
def momentOff? (s : List Char) : Option (Tree × List Char) :=
  match dateOff? s with
  | some (date, rest) =>
    let (time, rest) := datedTimeOff rest
    some (.text (date ++ time), rest)
  | none => (timeOff? s).map fun (time, rest) => (.text time, rest)

def truthOff? (s : List Char) : Option (Tree × List Char) :=
  match s with
  | 't' :: 'r' :: 'u' :: 'e' :: rest => some (.bool true, rest)
  | 'f' :: 'a' :: 'l' :: 's' :: 'e' :: rest => some (.bool false, rest)
  | _ => none

/-- Takes a value that is no list and no table off the front. -/
def scalarOff? (s : List Char) : Option (Tree × List Char) :=
  match s with
  | [] => none
  | c :: _ =>
    if c == '"' || c == '\'' then (textOff? s).map fun (t, rest) => (.text t, rest)
    else if c == 't' || c == 'f' then truthOff? s
    else match momentOff? s with
      | some found => some found
      | none => numberOff? s

end CallDesk.Toml
