import CallDesk.Text.Digits

/-! # Calendar dates

Dates of the Gregorian calendar, extended to all years from -262143 to 262142. A `Date` holds a
proof that its day exists, so the days before and after one are the only ways to leave it.
-/

namespace CallDesk

def isLeapYear (year : Int) : Bool := (year % 4 == 0 && year % 100 != 0) || year % 400 == 0

/-- The number of days of a month; zero for a month that does not exist. -/
def daysIn (year : Int) (month : Nat) : Nat :=
  match month with
  | 2 => if isLeapYear year then 29 else 28
  | 4 | 6 | 9 | 11 => 30
  | 1 | 3 | 5 | 7 | 8 | 10 | 12 => 31
  | _ => 0

/-- Whether a year, month and day are a date that can be told. -/
def isDate (year : Int) (month day : Nat) : Bool :=
  -262143 ≤ year && year ≤ 262142 && 1 ≤ day && day ≤ daysIn year month

/-- A date. -/
structure Date where
  year : Int
  month : Nat
  day : Nat
  exists_day : isDate year month day = true
deriving DecidableEq

namespace Date

/-- The date of a year, month and day, if there is one. -/
def of? (year : Int) (month day : Nat) : Option Date :=
  if h : isDate year month day = true then some ⟨year, month, day, h⟩ else none

/-- The date after `d`, unless `d` is the last one. -/
def next? (d : Date) : Option Date :=
  if d.day < daysIn d.year d.month then of? d.year d.month (d.day + 1)
  else if d.month < 12 then of? d.year (d.month + 1) 1
  else of? (d.year + 1) 1 1

/-- The date before `d`, unless `d` is the first one. -/
def previous? (d : Date) : Option Date :=
  if 1 < d.day then of? d.year d.month (d.day - 1)
  else if 1 < d.month then of? d.year (d.month - 1) (daysIn d.year (d.month - 1))
  else of? (d.year - 1) 12 31

/-- A year: four digits from 0 to 9999, else a sign and at least four digits. -/
def yearText (year : Int) : String :=
  if 0 ≤ year ∧ year ≤ 9999 then Text.padded 4 year.toNat
  else if year < 0 then "-" ++ Text.padded 4 (-year).toNat
  else "+" ++ Text.padded 4 year.toNat

/-- Year, month and day, separated by hyphens. -/
def text (d : Date) : String :=
  yearText d.year ++ "-" ++ Text.padded 2 d.month ++ "-" ++ Text.padded 2 d.day

@[simp] theorem of?_self (d : Date) : of? d.year d.month d.day = some d := by
  simp [of?, d.exists_day]

end Date

end CallDesk
