import CallDesk.Number.Double

/-! # Durations and minute counters

A duration is a whole number of seconds that may be unknown. It is shown as minutes and two digits
of seconds; hours are not split off.
-/

namespace CallDesk

def missing : String := "--"

def durationText : Option UInt64 → String
  | some seconds =>
    Text.decimal (seconds.toNat / 60) ++ ":" ++ Text.padded 2 (seconds.toNat % 60)
  | none => missing

def minutesText (minutes : Double) : String :=
  if minutes.isFinite then minutes.fixed 1 else missing

/-- The seconds of a number: rounded to the nearest whole second, a half up, and cut off at the
largest counter. A negative number is no duration, a negative zero is zero. -/
def secondsOfDouble (x : Double) : Option UInt64 :=
  if x.isFinite && (!x.negative || x.units == 0) then
    some (UInt64.ofNat (min x.roundHalfUp (UInt64.size - 1)))
  else none

end CallDesk
