import CallDesk.Time.Date

/-! # Instants

An instant is a date and a time of day in UTC, down to nanoseconds. A leap second is the last
second of a minute with a thousand million nanoseconds or more, and is written as second 60.
-/

namespace CallDesk

def secondsPerDay : Nat := 86400

def nanosPerSecond : Nat := 1000000000

/-- Whether a second of the day and its nanoseconds are a time that can be told. -/
def isTime (second nano : Nat) : Bool :=
  second < secondsPerDay &&
    (nano < nanosPerSecond || (nano < 2 * nanosPerSecond && second % 60 == 59))

/-- An instant, in UTC. -/
structure Instant where
  date : Date
  /-- The second of the day. -/
  second : Nat
  nano : Nat
  is_time : isTime second nano = true
deriving DecidableEq

namespace Instant

/-- The instant of a date and a time of day, if there is one. -/
def of? (date : Date) (second nano : Nat) : Option Instant :=
  if h : isTime second nano = true then some ⟨date, second, nano, h⟩ else none

@[simp] theorem of?_self (t : Instant) : of? t.date t.second t.nano = some t := by
  simp [of?, t.is_time]

/-- The instant whose local date and time, `minutes` ahead of UTC, are given. -/
def ofLocal? (date : Date) (second nano : Nat) (minutes : Int) : Option Instant :=
  let utc : Int := second - minutes * 60
  if utc < 0 then do
    let date ← date.previous?
    of? date (utc + secondsPerDay).toNat nano
  else if secondsPerDay ≤ utc then do
    let date ← date.next?
    of? date (utc - secondsPerDay).toNat nano
  else of? date utc.toNat nano

/-- The second of the minute, 60 for a leap second. -/
def shownSecond (t : Instant) : Nat := t.second % 60 + t.nano / nanosPerSecond

def hourMinute (t : Instant) : String :=
  Text.padded 2 (t.second / 3600) ++ ":" ++ Text.padded 2 (t.second / 60 % 60)

def clock (t : Instant) : String := t.hourMinute ++ ":" ++ Text.padded 2 t.shownSecond

def minuteText (t : Instant) : String := t.date.text ++ " " ++ t.hourMinute

def secondText (t : Instant) : String := t.date.text ++ " " ++ t.clock

/-- The fraction of a second: nothing, or three, six or nine digits, as few as are exact. -/
def fractionText (t : Instant) : String :=
  let nano := t.nano % nanosPerSecond
  if nano = 0 then ""
  else if nano % 1000000 = 0 then "." ++ Text.padded 3 (nano / 1000000)
  else if nano % 1000 = 0 then "." ++ Text.padded 6 (nano / 1000)
  else "." ++ Text.padded 9 nano

/-- The instant in the form of Internet timestamps. -/
def text (t : Instant) : String := t.date.text ++ "T" ++ t.clock ++ t.fractionText ++ "Z"

end Instant

end CallDesk
