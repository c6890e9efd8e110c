import CallDesk.Proofs.Time.Reader

/-! # The calendar as a count of days

The days of the calendar are counted from the first day of year 1. The day after a date has the next number and
the one before it the number before, across the ends of months, of years and of centuries, and no two dates have
the same number. So the instant of a local time is that many seconds away from it, whatever days lie between.
-/

namespace CallDesk

/-! ## Days -/

/-- The days of the years before a year, counted from year 1. -/
def daysBeforeYear (year : Int) : Int := 365 * (year - 1) + (year - 1) / 4 - (year - 1) / 100 + (year - 1) / 400

/-- The days of a year before a month, those of the months before it. -/
def daysBeforeMonth (year : Int) : Nat → Nat
  | 0 => 0
  | month + 1 => daysBeforeMonth year month + daysIn year month

/-- The number of a day, counted from the first day of year 1, which has the number 1. -/
def dayNumber (year : Int) (month day : Nat) : Int := daysBeforeYear year + daysBeforeMonth year month + day

theorem isLeapYear_iff (year : Int) : isLeapYear year = true ↔ year % 4 = 0 ∧ year % 100 ≠ 0 ∨ year % 400 = 0 := by
  simp only [isLeapYear, Bool.or_eq_true, Bool.and_eq_true, beq_iff_eq, bne_iff_ne]

theorem daysBeforeYear_succ (year : Int) :
    daysBeforeYear (year + 1) = daysBeforeYear year + (if isLeapYear year then 366 else 365) := by
  have leap := isLeapYear_iff year
  rw [daysBeforeYear, daysBeforeYear]
  split
  · next long =>
    have divisible := leap.mp long
    omega
  · next short =>
    have other := mt leap.mpr short
    omega

theorem daysBeforeYear_mono {year later : Int} (le : year ≤ later) : daysBeforeYear year ≤ daysBeforeYear later := by
  rw [daysBeforeYear, daysBeforeYear]
  omega

theorem daysBeforeMonth_succ (year : Int) (month : Nat) :
    daysBeforeMonth year (month + 1) = daysBeforeMonth year month + daysIn year month := rfl

theorem daysBeforeMonth_mono (year : Int) {month later : Nat} (le : month ≤ later) :
    daysBeforeMonth year month ≤ daysBeforeMonth year later := by
  induction le with
  | refl => exact Nat.le_refl _
  | step _ ih =>
    rw [daysBeforeMonth_succ]
    exact Nat.le_trans ih (Nat.le_add_right _ _)

theorem daysBeforeMonth_january (year : Int) : daysBeforeMonth year 1 = 0 := rfl

/-- The months of a year make up the year. -/
theorem daysBeforeMonth_end (year : Int) : daysBeforeMonth year 13 = if isLeapYear year then 366 else 365 := by
  simp only [daysBeforeMonth, daysIn]
  split <;> rfl

namespace Date

/-- The number of the day of a date. -/
def number (d : Date) : Int := dayNumber d.year d.month d.day

theorem day_bounds (d : Date) : 1 ≤ d.day ∧ d.day ≤ daysIn d.year d.month := by
  have told := d.exists_day
  simp only [isDate, Bool.and_eq_true, decide_eq_true_eq] at told
  exact ⟨told.1.2, told.2⟩

theorem month_bounds (d : Date) : 1 ≤ d.month ∧ d.month ≤ 12 := by
  obtain ⟨first, last⟩ := d.day_bounds
  unfold daysIn at last
  split at last <;> omega

theorem of?_eq_some {year : Int} {month day : Nat} {d : Date} (made : of? year month day = some d) :
    d.year = year ∧ d.month = month ∧ d.day = day := by
  rw [of?] at made
  split at made
  · obtain rfl := Option.some.inj made
    exact ⟨rfl, rfl, rfl⟩
  · contradiction

theorem number_of? {year : Int} {month day : Nat} {d : Date} (made : of? year month day = some d) :
    d.number = dayNumber year month day := by
  obtain ⟨rfl, rfl, rfl⟩ := of?_eq_some made
  rfl

/-- The last day of December is the last one of the year. -/
theorem number_last (year : Int) : dayNumber year 12 31 + 1 = dayNumber (year + 1) 1 1 := by
  have whole := daysBeforeMonth_end year
  have december := daysBeforeMonth_succ year 12
  rw [dayNumber, dayNumber, daysBeforeYear_succ, daysBeforeMonth_january]
  rw [whole, show daysIn year 12 = 31 from rfl] at december
  split at december
  · next leap =>
    rw [if_pos leap]
    omega
  · next common =>
    rw [if_neg common]
    omega

/-- The day after a date has the next number. -/
theorem number_next? {d e : Date} (next : d.next? = some e) : e.number = d.number + 1 := by
  obtain ⟨first, last⟩ := d.day_bounds
  obtain ⟨-, december⟩ := d.month_bounds
  rw [next?] at next
  split at next
  · rw [number_of? next, number, dayNumber, dayNumber]
    omega
  split at next
  · rw [number_of? next, number, dayNumber, dayNumber, daysBeforeMonth_succ]
    omega
  · have month : d.month = 12 := by omega
    rw [month, show daysIn d.year 12 = 31 from rfl] at last
    have day : d.day = 31 := by
      next short _ =>
      rw [month, show daysIn d.year 12 = 31 from rfl] at short
      omega
    rw [number_of? next, number, month, day, number_last]

/-- The day before a date has the number before. -/
theorem number_previous? {d e : Date} (previous : d.previous? = some e) : e.number = d.number - 1 := by
  obtain ⟨first, -⟩ := d.day_bounds
  obtain ⟨january, -⟩ := d.month_bounds
  rw [previous?] at previous
  split at previous
  · rw [number_of? previous, number, dayNumber, dayNumber]
    omega
  split at previous
  · have month := daysBeforeMonth_succ d.year (d.month - 1)
    rw [Nat.sub_add_cancel january] at month
    rw [number_of? previous, number, dayNumber, dayNumber, month]
    omega
  · have day : d.day = 1 := by omega
    have month : d.month = 1 := by omega
    have last := number_last (d.year - 1)
    rw [Int.sub_add_cancel] at last
    rw [number_of? previous, number, month, day, ← last, Int.add_sub_cancel]

/-- A date comes before those of later years, of later months and of later days. -/
theorem number_lt {d e : Date} (before : d.year < e.year ∨ d.year = e.year ∧ (d.month < e.month ∨
    d.month = e.month ∧ d.day < e.day)) : d.number < e.number := by
  obtain ⟨-, last⟩ := d.day_bounds
  obtain ⟨first, -⟩ := e.day_bounds
  have inMonth := daysBeforeMonth_succ d.year d.month
  rw [number, number, dayNumber, dayNumber]
  rcases before with year | ⟨year, month | ⟨month, day⟩⟩
  · have inYear : daysBeforeMonth d.year (d.month + 1) ≤ daysBeforeMonth d.year 13 :=
      daysBeforeMonth_mono d.year (Nat.succ_le_succ d.month_bounds.2)
    have whole := daysBeforeMonth_end d.year
    have next := daysBeforeYear_succ d.year
    have later := daysBeforeYear_mono (Int.add_one_le_iff.mpr year)
    split at whole
    · next leap =>
      rw [if_pos leap] at next
      omega
    · next common =>
      rw [if_neg common] at next
      omega
  · have later : daysBeforeMonth d.year (d.month + 1) ≤ daysBeforeMonth d.year e.month :=
      daysBeforeMonth_mono d.year (Nat.succ_le_of_lt month)
    rw [← year]
    omega
  · rw [← year, ← month]
    omega

/-- No two dates have the same number. -/
theorem number_injective : Function.Injective number := by
  intro d e same
  have notBefore := mt (@number_lt d e) (by omega)
  have notAfter := mt (@number_lt e d) (by omega)
  have year : d.year = e.year := by omega
  have month : d.month = e.month := by omega
  have day : d.day = e.day := by omega
  cases d
  cases e
  dsimp only at year month day
  subst year month day
  rfl

end Date

/-! ## Seconds -/

namespace Instant

/-- The seconds of UTC from the start of day 0. -/
def seconds (t : Instant) : Int := t.date.number * 86400 + t.second

/-- The date of an instant is that of its seconds. -/
theorem number_date (t : Instant) : t.date.number = t.seconds / 86400 := by
  have day := second_lt t
  rw [seconds]
  omega

theorem second_eq (t : Instant) : (t.second : Int) = t.seconds % 86400 := by
  have day := second_lt t
  rw [seconds]
  omega

/-- An instant is known by its seconds and its nanoseconds. -/
theorem eq_of_seconds {t u : Instant} (seconds : t.seconds = u.seconds) (nano : t.nano = u.nano) : t = u := by
  have date : t.date = u.date := Date.number_injective (by rw [number_date, number_date, seconds])
  have second : t.second = u.second := Int.natCast_inj.mp (by rw [second_eq, second_eq, seconds])
  cases t
  cases u
  dsimp only at date second nano
  subst date second nano
  rfl

theorem of?_eq_some {date : Date} {second nano : Nat} {t : Instant} (made : of? date second nano = some t) :
    t.date = date ∧ t.second = second ∧ t.nano = nano := by
  rw [of?] at made
  split at made
  · obtain rfl := Option.some.inj made
    exact ⟨rfl, rfl, rfl⟩
  · contradiction

/-- The instant of a local time is as many minutes before it as the local time is ahead, which is at most a day. -/
theorem seconds_ofLocal? {date : Date} {second nano : Nat} {minutes : Int} (within : minutes ≤ 1440) {t : Instant}
    (made : ofLocal? date second nano minutes = some t) :
    t.seconds = date.number * 86400 + second - minutes * 60 ∧ t.nano = nano := by
  have day : secondsPerDay = 86400 := rfl
  rw [ofLocal?, day] at made
  split at made
  · next early =>
    obtain ⟨before, previous, made⟩ := Option.bind_eq_some_iff.mp made
    obtain ⟨rfl, shown, nano⟩ := of?_eq_some made
    have number := Date.number_previous? previous
    exact ⟨by rw [seconds, number, shown]; omega, nano⟩
  split at made
  · next late =>
    obtain ⟨after, next, made⟩ := Option.bind_eq_some_iff.mp made
    obtain ⟨rfl, shown, nano⟩ := of?_eq_some made
    have number := Date.number_next? next
    exact ⟨by rw [seconds, number, shown]; omega, nano⟩
  · obtain ⟨rfl, shown, nano⟩ := of?_eq_some made
    exact ⟨by rw [seconds, shown]; omega, nano⟩

end Instant

end CallDesk
