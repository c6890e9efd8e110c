import CallDesk.Proofs.Text.Digits
import CallDesk.Time.Reader

/-! # Reading timestamps that were written

Every instant is read back from its text: years before 0 and after 9999, which are written with a sign,
fractions of any precision down to nanoseconds, and leap seconds.
-/

namespace CallDesk.Instant

open Text

/-! ## Numbers in timestamps -/

theorem trimLeft_cons {c : Char} (visible : isBlank c = false) (s : List Char) : trimLeft (c :: s) = c :: s :=
  List.dropWhile_cons_of_neg (by simp [visible])

theorem isBlank_char (d : Digit) : isBlank d.char = false := by
  have all : ∀ d : Fin 10, isBlank (Digit.char d) = false := by decide
  exact all d

/-- Digits do not start with a blank. -/
theorem trimLeft_digits {ds : List Digit} (some : ds ≠ []) (rest : List Char) :
    trimLeft (ds.map Digit.char ++ rest) = ds.map Digit.char ++ rest := by
  obtain ⟨d, others, rfl⟩ := List.exists_cons_of_ne_nil some
  exact trimLeft_cons (isBlank_char d) _

/-- Digits are read up to the most that may be read, or to what is not a digit. -/
theorem digitsOff_chars {ds : List Digit} {most : Nat} {rest : List Char} (fits : ds.length ≤ most)
    (stop : most = ds.length ∨ ∀ c ∈ rest.head?, digit? c = none) (read : List Digit) :
    digitsOff read most (ds.map Digit.char ++ rest) = (read.reverse ++ ds, rest) := by
  induction ds generalizing most read with
  | nil =>
    rw [List.append_nil, List.map_nil, List.nil_append]
    rcases stop with rfl | other
    · rw [List.length_nil, digitsOff]
    · cases most with
      | zero => rw [digitsOff]
      | succ most =>
        cases rest with
        | nil => rfl
        | cons c rest =>
          have none := other c rfl
          rw [digitsOff, none]
  | cons d ds ih =>
    obtain ⟨most, rfl⟩ : ∃ k, most = k + 1 := ⟨most - 1, by rw [List.length_cons] at fits; omega⟩
    have stop' : most = ds.length ∨ ∀ c ∈ rest.head?, digit? c = none :=
      stop.imp_left fun same => by rw [List.length_cons] at same; omega
    rw [List.map_cons, List.cons_append, digitsOff, digit?_char]
    dsimp only
    rw [ih (Nat.le_of_succ_le_succ fits) stop', List.reverse_cons, List.append_assoc]
    rfl

theorem numberOff?_chars {ds : List Digit} {most : Nat} {rest : List Char} (some : ds ≠ [])
    (fits : ds.length ≤ most) (stop : most = ds.length ∨ ∀ c ∈ rest.head?, digit? c = none) :
    numberOff? most (ds.map Digit.char ++ rest) = Option.some (value ds, rest) := by
  have read := digitsOff_chars fits stop []
  rw [List.reverse_nil, List.nil_append] at read
  obtain ⟨d, others, rfl⟩ := List.exists_cons_of_ne_nil some
  rw [numberOff?, read]

/-- Two digits are read as their number, whatever comes after them. -/
theorem pairOff?_padded {n : Nat} (small : n < 100) (rest : List Char) :
    pairOff? ((padded 2 n).toList ++ rest) = some (n, rest) := by
  have length : (paddedDigits 2 n).length = 2 := length_paddedDigits small (by decide)
  rw [toList_padded, pairOff?, trimLeft_digits (paddedDigits_ne_nil 2 n),
    numberOff?_chars (paddedDigits_ne_nil 2 n) (Nat.le_of_eq length) (.inl length.symm), value_paddedDigits]

theorem separatorOff?_self {c : Char} (visible : isBlank c = false) (rest : List Char) :
    separatorOff? c (c :: rest) = some rest := by
  rw [separatorOff?, trimLeft_cons visible]
  exact if_pos (beq_self_eq_true c)

/-! ## Dates -/

theorem yearOff?_minus (rest : List Char) :
    yearOff? ('-' :: rest) = (numberOff? rest.length rest).map fun (n, rest) => (-(n : Int), rest) := by
  rw [yearOff?, trimLeft_cons (by decide)]
  rfl

theorem yearOff?_plus (rest : List Char) :
    yearOff? ('+' :: rest) = (numberOff? rest.length rest).map fun (n, rest) => ((n : Int), rest) := by
  rw [yearOff?, trimLeft_cons (by decide)]
  rfl

/-- A year that starts with a digit has no sign. -/
theorem yearOff?_digits {ds : List Digit} (some : ds ≠ []) (rest : List Char) :
    yearOff? (ds.map Digit.char ++ rest) =
      (numberOff? 4 (ds.map Digit.char ++ rest)).map fun (n, rest) => ((n : Int), rest) := by
  have all : ∀ d : Fin 10, Digit.char d ≠ '-' ∧ Digit.char d ≠ '+' := by decide
  rw [yearOff?, trimLeft_digits some]
  obtain ⟨d, others, rfl⟩ := List.exists_cons_of_ne_nil some
  obtain ⟨minus, plus⟩ := all d
  split
  · next same => exact absurd (List.cons.inj same).1 minus
  · next same => exact absurd (List.cons.inj same).1 plus
  · rfl

/-- A year is read up to the hyphen after it. -/
theorem yearOff?_yearText (year : Int) (rest : List Char) :
    yearOff? ((Date.yearText year).toList ++ '-' :: rest) = some (year, '-' :: rest) := by
  have stop : ∀ c ∈ ('-' :: rest).head?, digit? c = none := by
    rintro c ⟨⟩
    decide
  have signed (n : Nat) : numberOff? ((padded 4 n).toList ++ '-' :: rest).length
      ((padded 4 n).toList ++ '-' :: rest) = some (n, '-' :: rest) := by
    have fits : (paddedDigits 4 n).length ≤ ((paddedDigits 4 n).map Digit.char ++ '-' :: rest).length := by
      rw [List.length_append, List.length_map]
      exact Nat.le_add_right _ _
    rw [toList_padded, numberOff?_chars (paddedDigits_ne_nil 4 n) fits (.inr stop), value_paddedDigits]
  unfold Date.yearText
  split
  · next plain =>
    obtain ⟨n, rfl⟩ := Int.eq_ofNat_of_zero_le plain.1
    have small : n < 10 ^ 4 := by omega
    have length : (paddedDigits 4 n).length = 4 := length_paddedDigits small (by decide)
    rw [Int.toNat_natCast, toList_padded, yearOff?_digits (paddedDigits_ne_nil 4 n),
      numberOff?_chars (paddedDigits_ne_nil 4 n) (Nat.le_of_eq length) (.inr stop), value_paddedDigits]
    rfl
  split
  · next negative =>
    have value : -((-year).toNat : Int) = year := by omega
    have text : ("-" ++ padded 4 (-year).toNat).toList ++ '-' :: rest =
        '-' :: ((padded 4 (-year).toNat).toList ++ '-' :: rest) := by
      rw [String.toList_append]
      rfl
    rw [text, yearOff?_minus, signed, Option.map_some]
    dsimp only
    rw [value]
  · next large nonnegative =>
    have value : (year.toNat : Int) = year := by omega
    have text : ("+" ++ padded 4 year.toNat).toList ++ '-' :: rest =
        '+' :: ((padded 4 year.toNat).toList ++ '-' :: rest) := by
      rw [String.toList_append]
      rfl
    rw [text, yearOff?_plus, signed, Option.map_some]
    dsimp only
    rw [value]

theorem month_lt (d : Date) : d.month < 100 := by
  have told := d.exists_day
  simp only [isDate, Bool.and_eq_true, decide_eq_true_eq] at told
  obtain ⟨⟨-, first⟩, last⟩ := told
  unfold daysIn at last
  split at last <;> omega

theorem day_lt (d : Date) : d.day < 100 := by
  have told := d.exists_day
  simp only [isDate, Bool.and_eq_true, decide_eq_true_eq] at told
  have last := told.2
  have most : daysIn d.year d.month ≤ 31 := by
    unfold daysIn
    split
    · split <;> decide
    all_goals decide
  omega

theorem dateOff?_text (d : Date) (rest : List Char) : dateOff? (d.text.toList ++ rest) = some (d, rest) := by
  have text : d.text.toList ++ rest = (Date.yearText d.year).toList ++ '-' :: ((padded 2 d.month).toList ++
      '-' :: ((padded 2 d.day).toList ++ rest)) := by
    simp only [Date.text, String.toList_append, List.append_assoc]
    rfl
  simp only [text, dateOff?, yearOff?_yearText, pairOff?_padded (month_lt d), pairOff?_padded (day_lt d),
    separatorOff?_self (by decide : isBlank '-' = false), Date.of?_self, Option.bind_eq_bind, Option.bind_some]
  rfl

/-! ## Times of day -/

/-- A fraction of at most nine digits is read as nanoseconds. -/
theorem fractionOff?_padded {n width : Nat} (small : n < 10 ^ width) (some : 0 < width) (most : width ≤ 9)
    (rest : List Char) :
    fractionOff? (("." ++ padded width n).toList ++ 'Z' :: rest) =
      Option.some (n * 10 ^ (9 - width), 'Z' :: rest) := by
  have length : (paddedDigits width n).length = width := length_paddedDigits small some
  have stop : ∀ c ∈ ('Z' :: rest).head?, digit? c = none := by
    rintro c ⟨⟩
    decide
  have fits : (paddedDigits width n).length ≤ 9 := by omega
  have read := digitsOff_chars fits (.inr stop) []
  have text : ("." ++ padded width n).toList ++ 'Z' :: rest =
      '.' :: ((paddedDigits width n).map Digit.char ++ 'Z' :: rest) := by
    rw [String.toList_append, toList_padded]
    rfl
  have given : nanosOf (paddedDigits width n) = n * 10 ^ (9 - width) := by
    rw [nanosOf, value_paddedDigits, length]
    rfl
  rw [List.reverse_nil, List.nil_append] at read
  obtain ⟨d, others, digits⟩ := List.exists_cons_of_ne_nil (paddedDigits_ne_nil width n)
  rw [digits] at read given
  rw [text, digits, fractionOff?, read]
  dsimp only
  rw [given]
  rfl

/-- A fraction of a second is read up to the mark of the offset after it. -/
theorem fractionOff?_fractionText (t : Instant) (rest : List Char) :
    fractionOff? (t.fractionText.toList ++ 'Z' :: rest) = some (t.nano % nanosPerSecond, 'Z' :: rest) := by
  have below : t.nano % nanosPerSecond < 1000000000 := Nat.mod_lt _ (by decide)
  unfold fractionText
  generalize t.nano % nanosPerSecond = nano at below
  dsimp only
  split
  · next none =>
    rw [none]
    rfl
  split
  · have milli : nano / 1000000 < 10 ^ 3 := by omega
    rw [fractionOff?_padded milli (by decide) (by decide)]
    have whole : nano / 1000000 * 10 ^ (9 - 3) = nano := by omega
    rw [whole]
  split
  · have micro : nano / 1000 < 10 ^ 6 := by omega
    rw [fractionOff?_padded micro (by decide) (by decide)]
    have whole : nano / 1000 * 10 ^ (9 - 6) = nano := by omega
    rw [whole]
  · rw [fractionOff?_padded below (by decide) (by decide)]
    have whole : nano * 10 ^ (9 - 9) = nano := by omega
    rw [whole]

theorem second_lt (t : Instant) : t.second < 86400 := by
  have told := t.is_time
  simp only [isTime, Bool.and_eq_true, decide_eq_true_eq] at told
  exact told.1

/-- More nanoseconds than a second has belong to the last second of a minute. -/
theorem nano_lt (t : Instant) : t.nano < 1000000000 ∨ t.nano < 2000000000 ∧ t.second % 60 = 59 := by
  have told := t.is_time
  simp only [isTime, Bool.and_eq_true, Bool.or_eq_true, decide_eq_true_eq, beq_iff_eq] at told
  exact told.2

/-- The time of day of an instant is read, a leap second as one. -/
theorem timeOff?_clock (t : Instant) (rest : List Char) :
    timeOff? (t.clock.toList ++ (t.fractionText.toList ++ 'Z' :: rest)) = some ((t.second, t.nano), 'Z' :: rest) := by
  have day := second_lt t
  have within := nano_lt t
  have hour : t.second / 3600 < 24 := by omega
  have shown : t.shownSecond ≤ 60 := by
    rw [shownSecond, nanosPerSecond]
    omega
  have text : t.clock.toList ++ (t.fractionText.toList ++ 'Z' :: rest) =
      (padded 2 (t.second / 3600)).toList ++ ':' :: ((padded 2 (t.second / 60 % 60)).toList ++
        ':' :: ((padded 2 t.shownSecond).toList ++ (t.fractionText.toList ++ 'Z' :: rest))) := by
    simp only [clock, hourMinute, String.toList_append, List.append_assoc]
    rfl
  simp only [text, timeOff?, pairOff?_padded (by omega : t.second / 3600 < 100),
    pairOff?_padded (by omega : t.second / 60 % 60 < 100), pairOff?_padded (by omega : t.shownSecond < 100),
    separatorOff?_self (by decide : isBlank ':' = false), fractionOff?_fractionText,
    Option.bind_eq_bind, Option.bind_some]
  rw [if_neg (by omega)]
  -- Second 60 is written for the nanoseconds beyond a second, and for them only.
  have parts : (if t.shownSecond = 60
      then (t.second / 3600 * 3600 + t.second / 60 % 60 * 60 + 59, nanosPerSecond + t.nano % nanosPerSecond)
      else (t.second / 3600 * 3600 + t.second / 60 % 60 * 60 + t.shownSecond, t.nano % nanosPerSecond)) =
        (t.second, t.nano) := by
    rw [shownSecond, nanosPerSecond]
    split <;> apply Prod.ext <;> dsimp only <;> omega
  rw [parts]
  rfl

/-! ## Instants -/

/-- Every instant is read back from its text. -/
theorem read?_text (t : Instant) : read? t.text = some t := by
  have text : t.text.toList = t.date.text.toList ++ 'T' :: (t.clock.toList ++ (t.fractionText.toList ++ ['Z'])) := by
    simp only [Instant.text, String.toList_append, List.append_assoc]
    rfl
  have mark (rest : List Char) : markOff? ('T' :: rest) = some rest := rfl
  have offset : offsetOff? ['Z'] = some (0, []) := by decide
  have universal : ofLocal? t.date t.second t.nano 0 = some t := by
    have day := second_lt t
    have same : ((t.second : Int) - 0 * 60).toNat = t.second := by omega
    rw [ofLocal?, if_neg (by omega), if_neg (by rw [secondsPerDay]; omega), same, of?_self]
  simp only [read?, readChars?, text, dateOff?_text, mark, timeOff?_clock, offset, Option.bind_eq_bind,
    Option.bind_some]
  exact universal

end CallDesk.Instant
