import CallDesk.Proofs.Time.Calendar

/-! # How timestamps are spelled

The spellings of a timestamp as a grammar: which numbers, separators and blanks may stand where, and what they
denote together. A timestamp that is read is spelled in one of these ways, and the instant that is read is the
one that its spelling denotes. So timestamps with one meaning are read as one instant, in whatever way each of
them is spelled.
-/

namespace CallDesk

open Text

/-- What a timestamp says: a local date and time, and by how many minutes the local time is ahead of UTC. -/
structure Stamp where
  year : Int
  month : Nat
  day : Nat
  hour : Nat
  minute : Nat
  /-- The second of the minute, 60 for a leap second. -/
  second : Nat
  /-- The digits of the fraction of the second. -/
  fraction : List Digit
  ahead : Int

/-- A point in time: the seconds of UTC from the start of day 0, and nanoseconds. In a leap second, the
nanoseconds go on from the second before it. -/
structure Moment where
  seconds : Int
  nano : Nat
deriving DecidableEq

namespace Stamp

/-- The moment that is meant. -/
def moment (a : Stamp) : Moment where
  seconds := dayNumber a.year a.month a.day * 86400 + (a.hour * 3600 + a.minute * 60 + min a.second 59 : Nat) -
    a.ahead * 60
  nano := (if a.second = 60 then 10 ^ 9 else 0) + value a.fraction * 10 ^ 9 / 10 ^ a.fraction.length

/-! ## Spellings -/

def Blanks (s : List Char) : Prop := ∀ c ∈ s, isBlank c = true

/-- A number of one or two digits, after blanks. -/
inductive Pair : Nat → List Char → Prop
  | digits {gap : List Char} {ds : List Digit} (blanks : Blanks gap) (some : ds ≠ []) (short : ds.length ≤ 2) :
    Pair (value ds) (gap ++ ds.map Digit.char)

/-- A year, after blanks: up to four digits, or any number of them after a sign. -/
inductive Year : Int → List Char → Prop
  | plain {gap : List Char} {ds : List Digit} (blanks : Blanks gap) (some : ds ≠ []) (short : ds.length ≤ 4) :
    Year (value ds) (gap ++ ds.map Digit.char)
  | minus {gap : List Char} {ds : List Digit} (blanks : Blanks gap) (some : ds ≠ []) :
    Year (-value ds) (gap ++ '-' :: ds.map Digit.char)
  | plus {gap : List Char} {ds : List Digit} (blanks : Blanks gap) (some : ds ≠ []) :
    Year (value ds) (gap ++ '+' :: ds.map Digit.char)

/-- A separator, after blanks. -/
inductive Separator (c : Char) : List Char → Prop
  | after {gap : List Char} (blanks : Blanks gap) : Separator c (gap ++ [c])

/-- The fraction of a second, or none. -/
inductive Fraction : List Digit → List Char → Prop
  | none : Fraction [] []
  | point {ds : List Digit} (some : ds ≠ []) : Fraction ds ('.' :: ds.map Digit.char)

/-- Hours and minutes of two digits each, as minutes below a day, with colons and blanks between them. -/
inductive Span : Nat → List Char → Prop
  | digits {a b c d : Digit} {gap : List Char} (between : ∀ x ∈ gap, x = ':' ∨ isBlank x = true)
    (hours : value [a, b] < 24) (minutes : value [c, d] < 60) :
    Span (value [a, b] * 60 + value [c, d]) (a.char :: b.char :: (gap ++ [c.char, d.char]))

/-- An offset: a letter, the name of the universal time, or a span after a sign. -/
inductive Offset : Int → List Char → Prop
  | letter {c : Char} (zulu : c = 'Z' ∨ c = 'z') : Offset 0 [c]
  | name {u t c : Char} (first : u = 'U' ∨ u = 'u') (second : t = 'T' ∨ t = 't') (third : c = 'C' ∨ c = 'c') :
    Offset 0 [u, t, c]
  | ahead {n : Nat} {s : List Char} (span : Span n s) : Offset n ('+' :: s)
  | behind {n : Nat} {s : List Char} {sign : Char} (minus : sign = '-' ∨ sign = '−') (span : Span n s) :
    Offset (-n) (sign :: s)

/-- Year, month and day with their separators. -/
inductive Day : Int → Nat → Nat → List Char → Prop
  | parts {year : Int} {month day : Nat} {s first s' second s'' : List Char} (told : Year year s)
    (hyphen : Separator '-' first) (told' : Pair month s') (hyphen' : Separator '-' second) (told'' : Pair day s'') :
    Day year month day (s ++ (first ++ (s' ++ (second ++ s''))))

/-- Hour, minute, second and fraction with their separators. -/
inductive Clock : Nat → Nat → Nat → List Digit → List Char → Prop
  | parts {hour minute second : Nat} {fraction : List Digit} {s first s' last s'' rest : List Char} (told : Pair hour s)
    (colon : Separator ':' first) (told' : Pair minute s') (colon' : Separator ':' last) (told'' : Pair second s'')
    (point : Fraction fraction rest) :
    Clock hour minute second fraction (s ++ (first ++ (s' ++ (last ++ (s'' ++ rest)))))

/-- The spellings of a timestamp: a date, a mark, a time of day and an offset, with blanks before and after it. -/
inductive Spells (a : Stamp) : List Char → Prop
  | parts {day clock gap zone last : List Char} {mark : Char} (date : Day a.year a.month a.day day)
    (marked : mark = 'T' ∨ mark = 't' ∨ mark = ' ') (time : Clock a.hour a.minute a.second a.fraction clock)
    (blanks : Blanks gap) (offset : Offset a.ahead zone) (trailing : Blanks last) :
    Spells a (day ++ mark :: (clock ++ (gap ++ zone ++ last)))

end Stamp

/-- The text of a timestamp and the moment that it means. -/
def Denotes (s : String) (m : Moment) : Prop := ∃ a : Stamp, a.Spells s.toList ∧ a.moment = m

/-- The moment of an instant. -/
def Instant.moment (t : Instant) : Moment := ⟨t.seconds, t.nano⟩

namespace Instant

open Stamp

/-! ## Pieces -/

/-- What takes a piece off the front of a text takes nothing else, and takes it whatever comes after it that
does not go on with it. -/
structure Takes {α : Type} (off : List Char → Option (α × List Char)) (piece : α → List Char → Prop)
    (stop : List Char → Prop) : Prop where
  sound : ∀ {s x rest}, off s = some (x, rest) → ∃ front, s = front ++ rest ∧ piece x front
  complete : ∀ {x front rest}, piece x front → stop rest → off (front ++ rest) = some (x, rest)

/-- A text that does not start with a digit. -/
def NoDigit (s : List Char) : Prop := ∀ c ∈ s.head?, digit? c = none

theorem trimLeft_gap {gap : List Char} (blanks : Blanks gap) (rest : List Char) :
    trimLeft (gap ++ rest) = trimLeft rest := by
  rw [trimLeft, List.dropWhile_append_of_pos blanks]
  rfl

theorem exists_gap (s : List Char) : ∃ gap, Blanks gap ∧ s = gap ++ trimLeft s :=
  ⟨s.takeWhile isBlank, fun _ => List.mem_takeWhile_imp, (List.takeWhile_append_dropWhile).symm⟩

/-- A blank is no digit. -/
theorem digit?_of_isBlank {c : Char} (blank : isBlank c = true) : digit? c = none := by
  cases read : digit? c with
  | none => rfl
  | some d =>
    rw [eq_char_of_digit? read, isBlank_char] at blank
    contradiction

/-- Blanks and what follows them do not start with a digit, if what follows does not. -/
theorem noDigit_gap {gap rest : List Char} (blanks : Blanks gap) (stop : NoDigit rest) : NoDigit (gap ++ rest) := by
  cases gap with
  | nil => exact stop
  | cons b gap =>
    rintro c ⟨⟩
    exact digit?_of_isBlank (blanks b List.mem_cons_self)

theorem noDigit_cons {c : Char} (other : digit? c = none) (rest : List Char) : NoDigit (c :: rest) := by
  rintro _ ⟨⟩
  exact other

/-- The digits that are read stood at the front, and there were no more to be read. -/
theorem digitsOff_sound {read ds : List Digit} {most : Nat} {s rest : List Char}
    (taken : digitsOff read most s = (ds, rest)) :
    ∃ more, ds = read.reverse ++ more ∧ more.length ≤ most ∧ s = more.map Digit.char ++ rest ∧
      (more.length = most ∨ NoDigit rest) := by
  fun_induction digitsOff read most s with
  | case1 read s =>
    obtain ⟨rfl, rfl⟩ := Prod.mk.inj taken
    exact ⟨[], (List.append_nil _).symm, Nat.le_refl 0, rfl, .inl rfl⟩
  | case2 read most =>
    obtain ⟨rfl, rfl⟩ := Prod.mk.inj taken
    exact ⟨[], (List.append_nil _).symm, Nat.zero_le _, rfl, .inr nofun⟩
  | case3 read most c s d found ih =>
    obtain ⟨more, rfl, short, rfl, all⟩ := ih taken
    refine ⟨d :: more, ?_, Nat.succ_le_succ short, ?_, all.imp_left (congrArg (· + 1))⟩
    · rw [List.reverse_cons, List.append_assoc]
      rfl
    · rw [eq_char_of_digit? found]
      rfl
  | case4 read most c s other =>
    obtain ⟨rfl, rfl⟩ := Prod.mk.inj taken
    exact ⟨[], (List.append_nil _).symm, Nat.zero_le _, rfl, .inr (noDigit_cons other s)⟩

theorem numberOff?_sound {most n : Nat} {s rest : List Char} (taken : numberOff? most s = some (n, rest)) :
    ∃ ds, ds ≠ [] ∧ ds.length ≤ most ∧ n = value ds ∧ s = ds.map Digit.char ++ rest := by
  rw [numberOff?] at taken
  split at taken
  · contradiction
  · next ds rest' some found =>
    obtain ⟨rfl, rfl⟩ := Prod.mk.inj (Option.some.inj taken)
    obtain ⟨_, rfl, short, shown, -⟩ := digitsOff_sound found
    exact ⟨_, some, short, rfl, shown⟩

theorem takes_pair : Takes pairOff? Pair NoDigit where
  sound {s n rest} taken := by
    obtain ⟨gap, blanks, front⟩ := exists_gap s
    obtain ⟨ds, some, short, rfl, shown⟩ := numberOff?_sound taken
    exact ⟨gap ++ ds.map Digit.char, by rw [List.append_assoc, ← shown, ← front], .digits blanks some short⟩
  complete {n front rest} piece stop := by
    obtain ⟨blanks, some, short⟩ := piece
    rw [pairOff?, List.append_assoc, trimLeft_gap blanks, trimLeft_digits some,
      numberOff?_chars some short (.inr stop)]

theorem takes_year : Takes yearOff? Year NoDigit where
  sound {s year rest} taken := by
    obtain ⟨gap, blanks, front⟩ := exists_gap s
    rw [yearOff?] at taken
    split at taken
    · next tail signed =>
      obtain ⟨⟨n, rest'⟩, found, made⟩ := Option.map_eq_some_iff.mp taken
      obtain ⟨rfl, rfl⟩ := Prod.mk.inj made
      obtain ⟨ds, some, -, rfl, rfl⟩ := numberOff?_sound found
      exact ⟨gap ++ '-' :: ds.map Digit.char, by rw [front, signed, List.append_assoc]; rfl, .minus blanks some⟩
    · next tail signed =>
      obtain ⟨⟨n, rest'⟩, found, made⟩ := Option.map_eq_some_iff.mp taken
      obtain ⟨rfl, rfl⟩ := Prod.mk.inj made
      obtain ⟨ds, some, -, rfl, rfl⟩ := numberOff?_sound found
      exact ⟨gap ++ '+' :: ds.map Digit.char, by rw [front, signed, List.append_assoc]; rfl, .plus blanks some⟩
    · obtain ⟨⟨n, rest'⟩, found, made⟩ := Option.map_eq_some_iff.mp taken
      obtain ⟨rfl, rfl⟩ := Prod.mk.inj made
      obtain ⟨ds, some, short, rfl, shown⟩ := numberOff?_sound found
      exact ⟨gap ++ ds.map Digit.char, by rw [List.append_assoc, ← shown, ← front], .plain blanks some short⟩
  complete {year front rest} piece stop := by
    have signed {ds : List Digit} (some : ds ≠ []) :
        numberOff? (ds.map Digit.char ++ rest).length (ds.map Digit.char ++ rest) = Option.some (value ds, rest) := by
      have fits : ds.length ≤ (ds.map Digit.char ++ rest).length := by
        rw [List.length_append, List.length_map]
        exact Nat.le_add_right _ _
      exact numberOff?_chars some fits (.inr stop)
    have untrimmed {gap s : List Char} (blanks : Blanks gap) : yearOff? (gap ++ s) = yearOff? s := by
      rw [yearOff?, yearOff?, trimLeft_gap blanks]
    rcases piece with ⟨blanks, some, short⟩ | ⟨blanks, some⟩ | ⟨blanks, some⟩
    · rw [List.append_assoc, untrimmed blanks, yearOff?_digits some, numberOff?_chars some short (.inr stop)]
      rfl
    · rw [List.append_assoc, untrimmed blanks, List.cons_append, yearOff?_minus, signed some]
      rfl
    · rw [List.append_assoc, untrimmed blanks, List.cons_append, yearOff?_plus, signed some]
      rfl

/-- A separator is taken with the blanks before it. -/
theorem separatorOff?_iff {c : Char} (visible : isBlank c = false) {s rest : List Char} :
    separatorOff? c s = some rest ↔ ∃ front, s = front ++ rest ∧ Separator c front := by
  constructor
  · intro taken
    obtain ⟨gap, blanks, front⟩ := exists_gap s
    rw [separatorOff?] at taken
    split at taken
    · next d tail shown =>
      split at taken
      · next same =>
        obtain rfl := beq_iff_eq.mp same
        obtain rfl := Option.some.inj taken
        exact ⟨gap ++ [d], by rw [front, shown, List.append_assoc]; rfl, .after blanks⟩
      · contradiction
    · contradiction
  · rintro ⟨_, rfl, ⟨blanks⟩⟩
    have self := separatorOff?_self visible rest
    rw [separatorOff?] at self ⊢
    rw [List.append_assoc, trimLeft_gap blanks]
    exact self

theorem markOff?_iff {s rest : List Char} :
    markOff? s = some rest ↔ ∃ mark, s = mark :: rest ∧ (mark = 'T' ∨ mark = 't' ∨ mark = ' ') := by
  cases s with
  | nil => simp [markOff?]
  | cons c s =>
    simp only [markOff?, Bool.or_eq_true, beq_iff_eq, or_assoc, Option.ite_none_right_eq_some, Option.some_inj,
      List.cons.injEq]
    constructor
    · rintro ⟨marked, rfl⟩
      exact ⟨c, ⟨rfl, rfl⟩, marked⟩
    · rintro ⟨_, ⟨rfl, rfl⟩, marked⟩
      exact ⟨marked, rfl⟩

/-! ## Dates and times of day -/

/-- No digit comes after the piece before a separator. -/
theorem noDigit_separator {c : Char} (other : digit? c = none) {front : List Char} (shown : Separator c front)
    (rest : List Char) : NoDigit (front ++ rest) := by
  obtain ⟨blanks⟩ := shown
  rw [List.append_assoc]
  exact noDigit_gap blanks (noDigit_cons other rest)

theorem separatorOff?_front {c : Char} (visible : isBlank c = false) {front : List Char} (shown : Separator c front)
    (rest : List Char) : separatorOff? c (front ++ rest) = some rest :=
  (separatorOff?_iff visible).mpr ⟨front, rfl, shown⟩

/-- A date is read as its year, month and day. -/
theorem dateOff?_day {year : Int} {month day : Nat} {front rest : List Char} (shown : Day year month day front)
    (stop : NoDigit rest) : dateOff? (front ++ rest) = (Date.of? year month day).map fun date => (date, rest) := by
  obtain ⟨told, hyphen, told', hyphen', told''⟩ := shown
  have visible : isBlank '-' = false := by decide
  have other : digit? '-' = none := by decide
  simp only [List.append_assoc, dateOff?, takes_year.complete told (noDigit_separator other hyphen _),
    separatorOff?_front visible hyphen, takes_pair.complete told' (noDigit_separator other hyphen' _),
    separatorOff?_front visible hyphen', takes_pair.complete told'' stop, Option.bind_eq_bind, Option.bind_some]
  cases Date.of? year month day <;> rfl

theorem exists_day {s rest : List Char} {date : Date} (taken : dateOff? s = some (date, rest)) :
    ∃ front, s = front ++ rest ∧ Day date.year date.month date.day front := by
  simp only [dateOff?, Option.bind_eq_bind, Option.bind_eq_some_iff, Prod.exists] at taken
  obtain ⟨year, s₁, taken₁, s₂, taken₂, month, s₃, taken₃, s₄, taken₄, day, s₅, taken₅, d, made, same⟩ := taken
  obtain ⟨rfl, rfl⟩ := Prod.mk.inj (Option.some.inj same)
  obtain ⟨rfl, rfl, rfl⟩ := Date.of?_eq_some made
  obtain ⟨_, rfl, told⟩ := takes_year.sound taken₁
  obtain ⟨_, rfl, hyphen⟩ := (separatorOff?_iff (by decide)).mp taken₂
  obtain ⟨_, rfl, told'⟩ := takes_pair.sound taken₃
  obtain ⟨_, rfl, hyphen'⟩ := (separatorOff?_iff (by decide)).mp taken₄
  obtain ⟨_, rfl, told''⟩ := takes_pair.sound taken₅
  exact ⟨_, by simp only [List.append_assoc], .parts told hyphen told' hyphen' told''⟩

/-- Digits at the front, and then something else. -/
theorem exists_digits (s : List Char) :
    ∃ (ds : List Digit) (rest : List Char), s = ds.map Digit.char ++ rest ∧ NoDigit rest := by
  induction s with
  | nil => exact ⟨[], [], rfl, nofun⟩
  | cons c s ih =>
    cases read : digit? c with
    | none => exact ⟨[], c :: s, rfl, noDigit_cons read s⟩
    | some d =>
      obtain ⟨ds, rest, shown, stop⟩ := ih
      refine ⟨d :: ds, rest, ?_, stop⟩
      rw [shown, eq_char_of_digit? read]
      rfl

/-- Of the digits at the front the first ones are taken, as many as may be. -/
theorem digitsOff_take (most : Nat) (ds : List Digit) {rest : List Char} (stop : NoDigit rest) :
    digitsOff [] most (ds.map Digit.char ++ rest) = (ds.take most, (ds.drop most).map Digit.char ++ rest) := by
  have parts : ds.map Digit.char ++ rest =
      (ds.take most).map Digit.char ++ ((ds.drop most).map Digit.char ++ rest) := by
    rw [← List.append_assoc, ← List.map_append, List.take_append_drop]
  have ended : most = (ds.take most).length ∨ NoDigit ((ds.drop most).map Digit.char ++ rest) := by
    rcases Nat.le_total most ds.length with long | short
    · exact .inl (List.length_take_of_le long).symm
    · rw [List.drop_of_length_le short]
      exact .inr stop
  rw [parts]
  exact digitsOff_chars (List.length_take_le most ds) ended []

theorem dropWhile_digits {rest : List Char} (stop : NoDigit rest) (ds : List Digit) :
    (ds.map Digit.char ++ rest).dropWhile (fun c => (digit? c).isSome) = rest := by
  induction ds with
  | nil =>
    cases rest with
    | nil => rfl
    | cons c rest =>
      rw [List.map_nil, List.nil_append, List.dropWhile_cons_of_neg (by rw [stop c rfl]; decide)]
  | cons d ds ih => rw [List.map_cons, List.cons_append, List.dropWhile_cons_of_pos (by rw [digit?_char]; rfl), ih]

/-- The first nine digits of a fraction are its nanoseconds, and the others are dropped. -/
theorem nanosOf_take (ds : List Digit) : nanosOf (ds.take 9) = value ds * 10 ^ 9 / 10 ^ ds.length := by
  have ten (k : Nat) : 0 < 10 ^ k := Nat.pow_pos (by decide)
  rcases Nat.le_total ds.length 9 with short | long
  · have power : 10 ^ 9 = 10 ^ (9 - ds.length) * 10 ^ ds.length := by rw [← Nat.pow_add, Nat.sub_add_cancel short]
    rw [List.take_of_length_le short, nanosOf, power, ← Nat.mul_assoc, Nat.mul_div_cancel _ (ten _)]
    rfl
  · have nine : (ds.take 9).length = 9 := List.length_take_of_le long
    have parts := value_append (ds.take 9) (ds.drop 9)
    have count : ds.length = 9 + (ds.drop 9).length := by
      rw [List.length_drop]
      omega
    have one : tenTo (9 - 9) = 1 := rfl
    rw [List.take_append_drop] at parts
    rw [nanosOf, nine, one, Nat.mul_one, parts, count, Nat.pow_add, Nat.mul_comm (10 ^ 9),
      Nat.mul_div_mul_right _ _ (ten 9), Nat.mul_comm (value _), Nat.mul_add_div (ten _),
      Nat.div_eq_of_lt (value_lt _), Nat.add_zero]

/-- The digits after a point are read as nanoseconds, if there are any. -/
theorem fractionOff?_point (ds : List Digit) {rest : List Char} (stop : NoDigit rest) :
    fractionOff? ('.' :: (ds.map Digit.char ++ rest)) =
      if ds = [] then none else some (value ds * 10 ^ 9 / 10 ^ ds.length, rest) := by
  rw [fractionOff?, digitsOff_take 9 ds stop]
  cases ds with
  | nil => rfl
  | cons d ds =>
    rw [if_neg (List.cons_ne_nil d ds), ← nanosOf_take, List.take_succ_cons]
    dsimp only
    rw [dropWhile_digits stop]

theorem fractionOff?_pointless {s : List Char} (pointless : s.head? ≠ some '.') : fractionOff? s = some (0, s) := by
  unfold fractionOff?
  split
  · contradiction
  · rfl

theorem takes_fraction :
    Takes fractionOff? (fun n s => ∃ ds, Fraction ds s ∧ n = value ds * 10 ^ 9 / 10 ^ ds.length)
      (fun s => NoDigit s ∧ s.head? ≠ some '.') where
  sound {s n rest} taken := by
    by_cases pointed : s.head? = some '.'
    · obtain ⟨tail, rfl⟩ := List.head?_eq_some_iff.mp pointed
      obtain ⟨ds, after, rfl, stop⟩ := exists_digits tail
      rw [fractionOff?_point ds stop] at taken
      split at taken
      · contradiction
      · next some =>
        obtain ⟨rfl, rfl⟩ := Prod.mk.inj (Option.some.inj taken)
        exact ⟨'.' :: ds.map Digit.char, rfl, ds, .point some, rfl⟩
    · rw [fractionOff?_pointless pointed] at taken
      obtain ⟨rfl, rfl⟩ := Prod.mk.inj (Option.some.inj taken)
      exact ⟨[], rfl, [], .none, rfl⟩
  complete {n front rest} piece stop := by
    obtain ⟨ds, piece, rfl⟩ := piece
    obtain ⟨stop, pointless⟩ := stop
    cases piece with
    | none => exact fractionOff?_pointless pointless
    | point some => rw [List.cons_append, fractionOff?_point ds stop, if_neg some]

/-- The second of the day and the nanoseconds that a time of day is read as. -/
def dayTime (hour minute second : Nat) (fraction : List Digit) : Nat × Nat :=
  (hour * 3600 + minute * 60 + min second 59,
    (if second = 60 then 10 ^ 9 else 0) + value fraction * 10 ^ 9 / 10 ^ fraction.length)

/-- A time of day ends where its fraction does, and there where its seconds do if it has none. -/
def NoFraction (s : List Char) : Prop := NoDigit s ∧ s.head? ≠ some '.'

theorem noDigit_fraction {ds : List Digit} {front rest : List Char} (shown : Fraction ds front) (stop : NoDigit rest) :
    NoDigit (front ++ rest) := by
  cases shown with
  | none => exact stop
  | point => exact noDigit_cons (by decide) _

/-- A time of day is read as its hour, minute and second, if these exist. -/
theorem timeOff?_spelled {hour minute second : Nat} {fraction : List Digit} {front rest : List Char}
    (shown : Clock hour minute second fraction front) (stop : NoFraction rest) :
    timeOff? (front ++ rest) =
      if 24 ≤ hour ∨ 60 ≤ minute ∨ 60 < second then none else some (dayTime hour minute second fraction, rest) := by
  obtain ⟨told, colon, told', colon', told'', point⟩ := shown
  have visible : isBlank ':' = false := by decide
  have other : digit? ':' = none := by decide
  simp only [List.append_assoc, timeOff?, takes_pair.complete told (noDigit_separator other colon _),
    separatorOff?_front visible colon, takes_pair.complete told' (noDigit_separator other colon' _),
    separatorOff?_front visible colon', takes_pair.complete told'' (noDigit_fraction point stop.1),
    takes_fraction.complete ⟨_, point, rfl⟩ stop, Option.bind_eq_bind, Option.bind_some]
  split
  · rfl
  · next proper =>
    rw [dayTime]
    split
    · next leap => rw [leap]; rfl
    · next plain =>
      have small : min second 59 = second := by omega
      rw [small, Nat.zero_add]
      rfl

theorem exists_clock {s rest : List Char} {p : Nat × Nat} (taken : timeOff? s = some (p, rest)) :
    ∃ front hour minute second fraction, s = front ++ rest ∧ Clock hour minute second fraction front := by
  simp only [timeOff?, Option.bind_eq_bind, Option.bind_eq_some_iff, Prod.exists] at taken
  obtain ⟨hour, s₁, taken₁, s₂, taken₂, minute, s₃, taken₃, s₄, taken₄, second, s₅, taken₅, nano, s₆, taken₆, made⟩ :=
    taken
  split at made
  · contradiction
  obtain ⟨-, rfl⟩ := Prod.mk.inj (Option.some.inj made)
  obtain ⟨_, rfl, told⟩ := takes_pair.sound taken₁
  obtain ⟨_, rfl, colon⟩ := (separatorOff?_iff (by decide)).mp taken₂
  obtain ⟨_, rfl, told'⟩ := takes_pair.sound taken₃
  obtain ⟨_, rfl, colon'⟩ := (separatorOff?_iff (by decide)).mp taken₄
  obtain ⟨_, rfl, told''⟩ := takes_pair.sound taken₅
  obtain ⟨_, rfl, fraction, point, -⟩ := takes_fraction.sound taken₆
  exact ⟨_, hour, minute, second, fraction, by simp only [List.append_assoc],
    .parts told colon told' colon' told'' point⟩

/-! ## Offsets -/

theorem isLetter_iff {upper lower c : Char} (cased : lower.toNat = upper.toNat + 32) :
    isLetter upper c = true ↔ c = upper ∨ c = lower := by
  rw [isLetter, Bool.or_eq_true, beq_iff_eq, beq_iff_eq, ← cased, Char.toNat_inj]

theorem twoDigitsOff?_iff {s rest : List Char} {n : Nat} :
    twoDigitsOff? s = some (n, rest) ↔ ∃ a b : Digit, n = value [a, b] ∧ s = a.char :: b.char :: rest := by
  constructor
  · intro taken
    unfold twoDigitsOff? at taken
    split at taken
    · split at taken
      · next a b first second =>
        obtain ⟨rfl, rfl⟩ := Prod.mk.inj (Option.some.inj taken)
        exact ⟨a, b, rfl, by rw [eq_char_of_digit? first, eq_char_of_digit? second]⟩
      · contradiction
    · contradiction
  · rintro ⟨a, b, rfl, rfl⟩
    simp only [twoDigitsOff?, digit?_char]

/-- Whatever stands between hours and minutes is left out. -/
theorem dropWhile_between {gap : List Char} (between : ∀ x ∈ gap, x = ':' ∨ isBlank x = true) (d : Digit)
    (rest : List Char) :
    (gap ++ d.char :: rest).dropWhile (fun c => c == ':' || isBlank c) = d.char :: rest := by
  have apart : ∀ x ∈ gap, (x == ':' || isBlank x) = true := by
    intro x member
    rw [Bool.or_eq_true, beq_iff_eq]
    exact between x member
  have other : (d.char == ':' || isBlank d.char) = false := by
    have all : ∀ d : Fin 10, (Digit.char d == ':') = false := by decide
    rw [all d, isBlank_char]
    rfl
  rw [List.dropWhile_append_of_pos apart]
  exact List.dropWhile_cons_of_neg (by rw [other]; decide)

theorem takes_span : Takes spanOff? Span fun _ => True where
  sound {s n rest} taken := by
    simp only [spanOff?, Option.bind_eq_bind, Option.bind_eq_some_iff, Prod.exists] at taken
    obtain ⟨hours, s₁, taken₁, minutes, s₂, taken₂, made⟩ := taken
    split at made
    · contradiction
    next proper =>
    obtain ⟨rfl, rfl⟩ := Prod.mk.inj (Option.some.inj made)
    obtain ⟨a, b, rfl, rfl⟩ := twoDigitsOff?_iff.mp taken₁
    obtain ⟨c, d, rfl, shown⟩ := twoDigitsOff?_iff.mp taken₂
    have between : ∀ x ∈ s₁.takeWhile (fun c => c == ':' || isBlank c), x = ':' ∨ isBlank x = true := by
      intro x member
      have apart := List.mem_takeWhile_imp member
      rwa [Bool.or_eq_true, beq_iff_eq] at apart
    refine ⟨_, ?_, .digits between (by omega) (by omega)⟩
    rw [List.cons_append, List.cons_append, List.append_assoc, List.cons_append, List.cons_append, List.nil_append,
      ← shown, List.takeWhile_append_dropWhile]
  complete {n front rest} piece _ := by
    obtain ⟨between, hours, minutes⟩ := piece
    rename_i a b c d gap
    have shape : gap ++ [c.char, d.char] ++ rest = gap ++ c.char :: (d.char :: rest) := List.append_assoc gap _ rest
    rw [List.cons_append, List.cons_append, shape, spanOff?, twoDigitsOff?_iff.mpr ⟨a, b, rfl, rfl⟩,
      Option.bind_eq_bind, Option.bind_some]
    dsimp only
    rw [dropWhile_between between, twoDigitsOff?_iff.mpr ⟨c, d, rfl, rfl⟩, Option.bind_some]
    exact if_neg (by omega)

theorem offsetOff?_plus (s : List Char) :
    offsetOff? ('+' :: s) = (spanOff? s).map fun p => ((p.1 : Int), p.2) := by
  rw [offsetOff?, trimLeft_cons (by decide)]
  rfl

theorem offsetOff?_minus {sign : Char} (minus : sign = '-' ∨ sign = '−') (s : List Char) :
    offsetOff? (sign :: s) = (spanOff? s).map fun p => (-(p.1 : Int), p.2) := by
  rcases minus with rfl | rfl
  · rw [offsetOff?, trimLeft_cons (by decide)]
    rfl
  · rw [offsetOff?, trimLeft_cons (by decide)]
    rfl

/-- An offset is taken with the blanks before it. -/
theorem takes_offset :
    Takes offsetOff? (fun n s => ∃ gap zone, s = gap ++ zone ∧ Blanks gap ∧ Offset n zone) fun _ => True where
  sound {s n rest} taken := by
    obtain ⟨gap, blanks, front⟩ := exists_gap s
    have after {zone : List Char} (shown : trimLeft s = zone ++ rest) (offset : Offset n zone) :
        ∃ front, s = front ++ rest ∧ ∃ gap zone, front = gap ++ zone ∧ Blanks gap ∧ Offset n zone :=
      ⟨gap ++ zone, by rw [List.append_assoc, ← shown, ← front], gap, zone, rfl, blanks, offset⟩
    rw [offsetOff?] at taken
    split at taken
    · contradiction
    next c tail shown =>
    split at taken
    · next zulu =>
      obtain ⟨rfl, rfl⟩ := Prod.mk.inj (Option.some.inj taken)
      exact after shown (.letter ((isLetter_iff rfl).mp zulu))
    split at taken
    · next plus =>
      obtain rfl := beq_iff_eq.mp plus
      obtain ⟨⟨k, rest'⟩, found, made⟩ := Option.map_eq_some_iff.mp taken
      obtain ⟨rfl, rfl⟩ := Prod.mk.inj made
      obtain ⟨_, rfl, span⟩ := takes_span.sound found
      exact after shown (.ahead span)
    split at taken
    · next minus =>
      have sign : c = '-' ∨ c = '−' := by
        rw [Bool.or_eq_true, beq_iff_eq, beq_iff_eq] at minus
        exact minus.imp_right fun code => Char.toNat_inj.mp code
      obtain ⟨⟨k, rest'⟩, found, made⟩ := Option.map_eq_some_iff.mp taken
      obtain ⟨rfl, rfl⟩ := Prod.mk.inj made
      obtain ⟨_, rfl, span⟩ := takes_span.sound found
      exact after shown (.behind sign span)
    split at taken
    · next u t c tail same =>
      split at taken
      · next name =>
        rw [Bool.and_eq_true, Bool.and_eq_true] at name
        obtain ⟨⟨first, second⟩, third⟩ := name
        obtain ⟨rfl, rfl⟩ := Prod.mk.inj (Option.some.inj taken)
        rw [same] at shown
        exact after shown
          (.name ((isLetter_iff rfl).mp first) ((isLetter_iff rfl).mp second) ((isLetter_iff rfl).mp third))
      · contradiction
    · contradiction
  complete {n front rest} piece _ := by
    obtain ⟨gap, zone, rfl, blanks, offset⟩ := piece
    have untrimmed (s : List Char) : offsetOff? (gap ++ s) = offsetOff? s := by
      rw [offsetOff?, offsetOff?, trimLeft_gap blanks]
    rw [List.append_assoc, untrimmed]
    cases offset with
    | letter zulu => rcases zulu with rfl | rfl <;> rfl
    | name first second third =>
      rcases first with rfl | rfl <;> rcases second with rfl | rfl <;> rcases third with rfl | rfl <;> rfl
    | ahead span =>
      rw [List.cons_append, offsetOff?_plus, takes_span.complete span trivial]
      rfl
    | behind minus span =>
      rw [List.cons_append, offsetOff?_minus minus, takes_span.complete span trivial]
      rfl

/-- An offset is less than a day. -/
theorem offset_lt {n : Int} {zone : List Char} (offset : Offset n zone) : n < 1440 := by
  have span {n : Nat} {s : List Char} (shown : Span n s) : n < 1440 := by
    obtain ⟨-, hours, minutes⟩ := shown
    omega
  cases offset with
  | letter | name => decide
  | ahead shown => exact Int.ofNat_lt.mpr (span shown)
  | behind _ shown =>
    have small := span shown
    omega

/-- No time of day goes on with what an offset starts with. -/
theorem noFraction_offset {n : Int} {gap zone : List Char} (blanks : Blanks gap) (offset : Offset n zone)
    (rest : List Char) : NoFraction (gap ++ zone ++ rest) := by
  have start : ∃ c tail, zone = c :: tail ∧ digit? c = none ∧ c ≠ '.' := by
    cases offset with
    | letter zulu => rcases zulu with rfl | rfl <;> exact ⟨_, _, rfl, by decide, by decide⟩
    | name first => rcases first with rfl | rfl <;> exact ⟨_, _, rfl, by decide, by decide⟩
    | ahead => exact ⟨_, _, rfl, by decide, by decide⟩
    | behind minus => rcases minus with rfl | rfl <;> exact ⟨_, _, rfl, by decide, by decide⟩
  obtain ⟨c, tail, rfl, other, pointless⟩ := start
  rw [List.append_assoc]
  refine ⟨noDigit_gap blanks (noDigit_cons other _), ?_⟩
  cases gap with
  | nil => exact fun same => pointless (Option.some.inj same)
  | cons b gap =>
    intro same
    obtain rfl := Option.some.inj same
    exact absurd (blanks _ List.mem_cons_self) (by decide)

/-! ## Timestamps -/

/-- The instant that a timestamp means, if it has one: there are such a date and such a time of day, and the date of
the instant can be told. -/
def ofStamp? (a : Stamp) : Option Instant :=
  (Date.of? a.year a.month a.day).bind fun date =>
    if 24 ≤ a.hour ∨ 60 ≤ a.minute ∨ 60 < a.second then none
    else
      let (second, nano) := dayTime a.hour a.minute a.second a.fraction
      ofLocal? date second nano a.ahead

/-- A timestamp is read as the instant that it means. -/
theorem readChars?_spells {a : Stamp} {s : List Char} (shown : a.Spells s) : readChars? s = ofStamp? a := by
  obtain ⟨date, marked, time, blanks, offset, trailing⟩ := shown
  rename_i day clock gap zone last mark
  have unread : digit? mark = none := by rcases marked with rfl | rfl | rfl <;> decide
  have ended : trimLeft last = [] := by
    have gone := trimLeft_gap trailing []
    rwa [List.append_nil] at gone
  rw [readChars?, dateOff?_day date (noDigit_cons unread _), ofStamp?]
  cases Date.of? a.year a.month a.day with
  | none => rfl
  | some made =>
    simp only [Option.map_some, Option.bind_eq_bind, Option.bind_some, markOff?_iff.mpr ⟨mark, rfl, marked⟩,
      timeOff?_spelled time (noFraction_offset blanks offset last)]
    split
    · rfl
    · rw [Option.bind_some, takes_offset.complete ⟨gap, zone, rfl, blanks, offset⟩ trivial, Option.bind_some, ended]
      rfl

/-- A timestamp that is read is spelled in one of the ways. -/
theorem exists_spells {s : List Char} {t : Instant} (read : readChars? s = some t) : ∃ a : Stamp, a.Spells s := by
  simp only [readChars?, Option.bind_eq_bind, Option.bind_eq_some_iff, Prod.exists] at read
  obtain ⟨date, s₁, taken₁, s₂, taken₂, second, nano, s₃, taken₃, minutes, s₄, taken₄, made⟩ := read
  split at made
  · next ended =>
    obtain ⟨_, rfl, day⟩ := exists_day taken₁
    obtain ⟨mark, rfl, marked⟩ := markOff?_iff.mp taken₂
    obtain ⟨_, hour, minute, second, fraction, rfl, clock⟩ := exists_clock taken₃
    obtain ⟨_, rfl, gap, zone, rfl, blanks, offset⟩ := takes_offset.sound taken₄
    have trailing : Blanks s₄ := by
      obtain ⟨last, blank, shown⟩ := exists_gap s₄
      rw [List.isEmpty_iff.mp ended, List.append_nil] at shown
      rwa [shown]
    exact ⟨⟨date.year, date.month, date.day, hour, minute, second, fraction, minutes⟩,
      .parts day marked clock blanks offset trailing⟩
  · contradiction

/-- The instant of a timestamp is at its moment. -/
theorem moment_ofStamp? {a : Stamp} (less : a.ahead < 1440) {t : Instant} (made : ofStamp? a = some t) :
    t.moment = a.moment := by
  obtain ⟨date, told, made⟩ := Option.bind_eq_some_iff.mp made
  split at made
  · contradiction
  obtain ⟨seconds, nano⟩ := seconds_ofLocal? (Int.le_of_lt less) made
  rw [moment, seconds, nano, Date.number_of? told]
  rfl

end Instant

open Instant in
theorem Stamp.Spells.ahead_lt {a : Stamp} {s : List Char} (shown : a.Spells s) : a.ahead < 1440 := by
  obtain ⟨-, -, -, -, offset, -⟩ := shown
  exact offset_lt offset

open Instant in
/-- A text that is read as an instant denotes its moment and no other. -/
theorem denotes_iff {s : String} {t : Instant} (read : read? s = some t) (m : Moment) :
    Denotes s m ↔ m = t.moment := by
  have means {a : Stamp} (shown : a.Spells s.toList) : a.moment = t.moment := by
    rw [read?, readChars?_spells shown] at read
    exact (moment_ofStamp? shown.ahead_lt read).symm
  constructor
  · rintro ⟨a, shown, rfl⟩
    exact means shown
  · rintro rfl
    obtain ⟨a, shown⟩ := exists_spells read
    exact ⟨a, shown, means shown⟩

end CallDesk
