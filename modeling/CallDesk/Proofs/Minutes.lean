import CallDesk.Duration
import CallDesk.Proofs.Number.Double
import CallDesk.Proofs.Text.Digits
import CallDesk.Proofs.Text.Split
import Mathlib.Tactic.Linarith

/-! # Minutes with one decimal place

A counter of minutes is shown rounded to tenths. The tenths that are shown are the whole number nearest to ten
times the value of the double, the even one of two that are equally near, with the value taken exactly. Rounding in
that way keeps the order, below zero and around it as well, so that of two counters the smaller one is never shown
as the larger one.
-/

namespace CallDesk

open Text

/-! ## The nearest whole number -/

/-- The whole number that is nearest to a rational one, and even if another one is as near. -/
structure IsNearest (q : ℚ) (n : ℤ) : Prop where
  least (m : ℤ) : |q - n| ≤ |q - m|
  even {m : ℤ} (other : m ≠ n) (tie : |q - m| = |q - n|) : Even n

/-- The nearest whole number is at most a half away, and even if it is as far as that. -/
theorem isNearest_iff {q : ℚ} {n : ℤ} : IsNearest q n ↔ |q - n| ≤ 1 / 2 ∧ (|q - n| = 1 / 2 → Even n) := by
  constructor
  · intro nearest
    -- the neighbours on both sides are not nearer
    have above := sq_le_sq.mpr (nearest.least (n + 1))
    have below := sq_le_sq.mpr (nearest.least (n - 1))
    push_cast at above below
    have half : |q - n| ≤ 1 / 2 := abs_le.mpr ⟨by linarith, by linarith⟩
    refine ⟨half, fun far => ?_⟩
    rcases (abs_eq (by norm_num)).mp far with up | down
    · refine nearest.even (m := n + 1) (by omega) ?_
      rw [far]
      push_cast
      rw [show q - (n + 1) = -(1 / 2) by linarith]
      norm_num
    · refine nearest.even (m := n - 1) (by omega) ?_
      rw [far]
      push_cast
      rw [show q - (n - 1) = 1 / 2 by linarith]
      norm_num
  · rintro ⟨half, even⟩
    -- a whole number apart from this one is a half away at least
    have apart : ∀ m : ℤ, m ≠ n → 1 / 2 ≤ |q - m| := by
      intro m other
      have one : (1 : ℚ) ≤ |(m : ℚ) - n| := by exact_mod_cast Int.one_le_abs (sub_ne_zero.mpr other)
      have way := abs_sub_le (m : ℚ) q n
      rw [abs_sub_comm (m : ℚ) q] at way
      linarith
    constructor
    · intro m
      rcases eq_or_ne m n with rfl | other
      · exact le_refl _
      · exact le_trans half (apart m other)
    · intro m other tie
      exact even (le_antisymm half (tie ▸ apart m other))

/-- Rounding to the nearest whole number keeps the order. -/
theorem IsNearest.mono {q r : ℚ} {m n : ℤ} (le : q ≤ r) (left : IsNearest q m) (right : IsNearest r n) : m ≤ n := by
  by_contra less
  obtain ⟨near, even⟩ := isNearest_iff.mp left
  obtain ⟨near', even'⟩ := isNearest_iff.mp right
  have next : (n : ℚ) + 1 ≤ m := by exact_mod_cast Int.not_le.mp less
  have low := (abs_le.mp near).1
  have high := (abs_le.mp near').2
  -- both are ties, of the same two neighbours, and only one of these is even
  have tie : q - m = -(1 / 2) := by linarith
  have tie' : r - n = 1 / 2 := by linarith
  have neighbours : (m : ℚ) = n + 1 := by linarith
  have successor : m = n + 1 := by exact_mod_cast neighbours
  have odd : ¬ Even (n + 1) := Int.not_even_iff_odd.mpr (even' (by rw [tie']; norm_num)).add_one
  exact odd (successor ▸ even (by rw [tie]; norm_num))

theorem IsNearest.unique {q : ℚ} {m n : ℤ} (left : IsNearest q m) (right : IsNearest q n) : m = n :=
  Int.le_antisymm (left.mono (le_refl q) right) (right.mono (le_refl q) left)

theorem IsNearest.neg {q : ℚ} {n : ℤ} (nearest : IsNearest q n) : IsNearest (-q) (-n) := by
  have mirrored : |-q - ((-n : ℤ) : ℚ)| = |q - n| := by
    push_cast
    rw [neg_sub_neg, abs_sub_comm]
  obtain ⟨half, even⟩ := isNearest_iff.mp nearest
  rw [isNearest_iff, mirrored]
  exact ⟨half, fun far => (even far).neg⟩

/-! ## Rounding a ratio -/

section

variable {n d r : ℕ}

/-- A ratio is its quotient and a fraction that the rest makes. -/
theorem ratio_eq (positive : 0 < d) : (n : ℚ) / d = (n / d : ℕ) + ((n % d : ℕ) : ℚ) / d := by
  have some : (d : ℚ) ≠ 0 := Nat.cast_ne_zero.mpr (Nat.ne_of_gt positive)
  rw [eq_comm, add_comm, div_add' _ _ _ some, div_left_inj' some]
  exact_mod_cast Nat.mod_add_div' n d

theorem half_lt_iff (positive : 0 < d) : 1 / 2 < (r : ℚ) / d ↔ d < 2 * r := by
  rw [div_lt_div_iff₀ two_pos (Nat.cast_pos.mpr positive), one_mul, mul_comm]
  exact_mod_cast Iff.rfl

theorem eq_half_iff (positive : 0 < d) : (r : ℚ) / d = 1 / 2 ↔ d = 2 * r := by
  have some : (d : ℚ) ≠ 0 := Nat.cast_ne_zero.mpr (Nat.ne_of_gt positive)
  rw [div_eq_div_iff some two_ne_zero, one_mul, mul_comm, eq_comm]
  exact_mod_cast Iff.rfl

/-- A ratio is rounded to the nearest whole number. -/
theorem roundHalfEven_isNearest (positive : 0 < d) : IsNearest ((n : ℚ) / d) (roundHalfEven n d : ℕ) := by
  have more := half_lt_iff (r := n % d) positive
  have tie := eq_half_iff (r := n % d) positive
  have nonneg : 0 ≤ ((n % d : ℕ) : ℚ) / d := div_nonneg (Nat.cast_nonneg _) (Nat.cast_nonneg _)
  have below : ((n % d : ℕ) : ℚ) / d < 1 := by
    rw [div_lt_one (Nat.cast_pos.mpr positive)]
    exact_mod_cast Nat.mod_lt n positive
  have parts := ratio_eq (n := n) positive
  generalize ((n % d : ℕ) : ℚ) / d = rest at more tie nonneg below parts
  have condition : (decide (d < 2 * (n % d)) || d == 2 * (n % d) && n / d % 2 == 1) = true ↔
      1 / 2 < rest ∨ rest = 1 / 2 ∧ n / d % 2 = 1 := by
    rw [Bool.or_eq_true, decide_eq_true_iff, Bool.and_eq_true, beq_iff_eq, beq_iff_eq, more, tie]
  rw [isNearest_iff, Int.cast_natCast, Int.even_coe_nat, Nat.even_iff, parts, roundHalfEven]
  split
  · next up =>
    rw [condition] at up
    have enough : 1 / 2 ≤ rest := up.elim le_of_lt fun same => ge_of_eq same.1
    have distance : ((n / d : ℕ) : ℚ) + rest - (n / d + 1 : ℕ) = -(1 - rest) := by
      push_cast
      ring
    rw [distance, abs_neg, abs_of_pos (by linarith)]
    refine ⟨by linarith, fun far => ?_⟩
    obtain large | ⟨-, odd⟩ := up
    · linarith
    · omega
  · next down =>
    rw [condition, not_or, not_and] at down
    rw [add_sub_cancel_left, abs_of_nonneg nonneg]
    exact ⟨not_lt.mp down.1, fun far => Nat.mod_two_ne_one.mp (down.2 far)⟩

end

namespace Double

/-! ## Decimal places -/

/-- The magnitude of a double, in units of one of its decimal places. -/
theorem abs_value (x : Double) : |x.value| = x.units / one := by
  have magnitude : |(x.units : ℚ) / one| = x.units / one :=
    abs_of_nonneg (div_nonneg (Nat.cast_nonneg _) (le_of_lt cast_one_pos))
  rw [value_eq, abs_mul, magnitude]
  cases x.negative
  · rw [if_neg Bool.false_ne_true, abs_one, one_mul]
  · rw [if_pos rfl, abs_neg, abs_one, one_mul]

/-- The number of tenths, hundredths and so on that is shown is the nearest one. -/
theorem scaled_isNearest (places : ℕ) (x : Double) :
    IsNearest (10 ^ places * |x.value|) (roundHalfEven (x.units * tenTo places) one : ℕ) := by
  have power : (tenTo places : ℚ) = 10 ^ places := Nat.cast_pow 10 places
  have rounded := roundHalfEven_isNearest (n := x.units * tenTo places) (twoTo_pos 1074)
  rw [Nat.cast_mul, power] at rounded
  rw [abs_value, ← mul_div_assoc, mul_comm (10 ^ places : ℚ)]
  exact rounded

/-- With the sign, what is shown is nearest to the value itself. -/
theorem signed_isNearest {places n : ℕ} {x : Double} (nearest : IsNearest (10 ^ places * |x.value|) n) :
    IsNearest (10 ^ places * x.value) ((if x.negative then -1 else 1) * n) := by
  have signed : x.value = (if x.negative then -1 else 1) * |x.value| := by rw [abs_value, value_eq]
  rw [signed]
  cases x.negative
  · rw [if_neg Bool.false_ne_true, if_neg Bool.false_ne_true, one_mul, one_mul]
    exact nearest
  · rw [if_pos rfl, if_pos rfl, neg_one_mul, neg_one_mul, mul_neg]
    exact nearest.neg

end Double

/-! ## The text -/

/-- A text that consists of a minus sign or none, a whole number without superfluous zeros, a point and as many
digits as there are places. All the digits together say how many tenths, hundredths and so on are shown. -/
def ShowsDecimal (places : ℕ) (s : String) (negative : Bool) (scaled : ℕ) : Prop :=
  ∃ whole fraction : List Digit,
    s.toList = (if negative then ['-'] else []) ++ whole.map Digit.char ++ '.' :: fraction.map Digit.char ∧
      IsCanonical whole ∧ fraction.length = places ∧ value (whole ++ fraction) = scaled

/-- The number that a text shows as a decimal. -/
def ShowsNumber (s : String) (q : ℚ) : Prop :=
  ∃ places negative scaled, ShowsDecimal places s negative scaled ∧
    q = (if negative then -1 else 1) * scaled / 10 ^ places

/-- There is one text for a number of tenths, hundredths and so on. -/
theorem showsDecimal_iff {places : ℕ} (some : 0 < places) (s : String) (negative : Bool) (scaled : ℕ) :
    ShowsDecimal places s negative scaled ↔
      s = (if negative then "-" else "") ++ Double.placesText places scaled := by
  have power : 0 < tenTo places := Nat.pow_pos (by decide)
  have less : scaled % tenTo places < tenTo places := Nat.mod_lt _ power
  have written : ((if negative then "-" else "") ++ Double.placesText places scaled).toList =
      (if negative then ['-'] else []) ++ (digits (scaled / tenTo places)).map Digit.char ++
        '.' :: (paddedDigits places (scaled % tenTo places)).map Digit.char := by
    rw [Double.placesText, if_neg (Nat.ne_of_gt some), String.toList_append, String.toList_append,
      String.toList_append, toList_decimal, toList_padded]
    cases negative <;> simp
  constructor
  · rintro ⟨whole, fraction, shown, canonical, count, rfl⟩
    have split : value (whole ++ fraction) = tenTo places * value whole + value fraction := by
      rw [value_append, count, Nat.mul_comm]
      rfl
    have last : value fraction < tenTo places := count ▸ value_lt fraction
    rw [split, Nat.mul_add_div power, Nat.div_eq_of_lt last, Nat.add_zero, Nat.mul_add_mod, Nat.mod_eq_of_lt last,
      canonical.digits_value] at written
    have padded : paddedDigits places (value fraction) = fraction :=
      eq_of_value_eq ((length_paddedDigits last some).trans count.symm) (value_paddedDigits _ _)
    rw [padded, ← split, ← shown] at written
    exact String.toList_inj.mp written.symm
  · rintro rfl
    refine ⟨_, _, written, isCanonical_digits _, length_paddedDigits less some, ?_⟩
    rw [value_append, value_digits, value_paddedDigits, length_paddedDigits less some]
    exact Nat.div_add_mod' scaled (tenTo places)

/-- A text shows one number of tenths, hundredths and so on. -/
theorem ShowsDecimal.unique {s : String} {places places' scaled scaled' : ℕ} {negative negative' : Bool}
    (shown : ShowsDecimal places s negative scaled) (shown' : ShowsDecimal places' s negative' scaled') :
    places = places' ∧ negative = negative' ∧ scaled = scaled' := by
  obtain ⟨whole, fraction, text, -, rfl, rfl⟩ := shown
  obtain ⟨whole', fraction', text', -, rfl, rfl⟩ := shown'
  have point : ∀ (sign : Bool) (ds : List Digit), '.' ∉ (if sign then ['-'] else []) ++ ds.map Digit.char := by
    intro sign ds
    have digits := not_mem_digits (c := '.') (by decide) ds
    cases sign <;> simpa using digits
  have minus : ∀ ds es : List Digit, '-' :: ds.map Digit.char ≠ es.map Digit.char := by
    intro ds es same
    exact not_mem_digits (c := '-') (by decide) es (same ▸ List.mem_cons_self)
  have cut := cut?_eq_some_iff.mpr ⟨text, point _ _⟩
  rw [cut?_eq_some_iff.mpr ⟨text', point _ _⟩] at cut
  obtain ⟨front, back⟩ := Prod.mk.inj (Option.some.inj cut)
  obtain rfl := List.map_injective_iff.mpr Digit.char_injective back
  have signs : negative = negative' ∧ whole = whole' := by
    cases negative <;> cases negative'
    · exact ⟨rfl, (List.map_injective_iff.mpr Digit.char_injective front).symm⟩
    · exact absurd front (minus _ _)
    · exact absurd front.symm (minus _ _)
    · exact ⟨rfl, (List.map_injective_iff.mpr Digit.char_injective (List.cons.inj front).2).symm⟩
  obtain ⟨rfl, rfl⟩ := signs
  exact ⟨rfl, rfl, rfl⟩

theorem ShowsNumber.unique {s : String} {p q : ℚ} (shown : ShowsNumber s p) (shown' : ShowsNumber s q) : p = q := by
  obtain ⟨places, negative, scaled, text, rfl⟩ := shown
  obtain ⟨places', negative', scaled', text', rfl⟩ := shown'
  obtain ⟨rfl, rfl, rfl⟩ := text.unique text'
  rfl

/-! ## Minutes -/

theorem minutesText_of_not_finite {x : Double} (infinite : x.isFinite = false) : minutesText x = "--" := by
  rw [minutesText, infinite]
  rfl

/-- The text of a finite counter is the one that shows the tenths nearest to it. -/
theorem minutesText_eq_iff {x : Double} (finite : x.isFinite = true) (s : String) :
    minutesText x = s ↔ ∃ n : ℕ, IsNearest (10 * |x.value|) n ∧ ShowsDecimal 1 s x.negative n := by
  have nearest := x.scaled_isNearest 1
  rw [pow_one] at nearest
  have text : minutesText x = (if x.negative then "-" else "") ++
      Double.placesText 1 (roundHalfEven (x.units * tenTo 1) Double.one) := by
    rw [minutesText, if_pos finite, Double.fixed]
  constructor
  · rintro rfl
    exact ⟨_, nearest, (showsDecimal_iff Nat.one_pos _ _ _).mpr text⟩
  · rintro ⟨n, nearest', shown⟩
    obtain rfl : _ = n := by exact_mod_cast nearest.unique nearest'
    rw [text, (showsDecimal_iff Nat.one_pos _ _ _).mp shown]

/-- A finite counter shows a number, and a number of tenths nearest to it. -/
theorem exists_showsNumber {x : Double} (finite : x.isFinite = true) :
    ∃ n : ℤ, IsNearest (10 * x.value) n ∧ ShowsNumber (minutesText x) (n / 10) := by
  obtain ⟨n, nearest, shown⟩ := (minutesText_eq_iff finite _).mp rfl
  have tenths : IsNearest (10 ^ 1 * |x.value|) n := by rwa [pow_one]
  have signed := Double.signed_isNearest tenths
  rw [pow_one] at signed
  refine ⟨_, signed, 1, x.negative, n, shown, ?_⟩
  rw [pow_one]
  cases x.negative <;> simp

/-- A counter of minutes that is no number or infinite is shown as unknown. Any other is shown with a sign just when
its sign bit is set, and with the tenths that are the whole number nearest to ten times its exact magnitude, ties to
even; no other text is. The number that is shown does not decrease when the counter does not. -/
theorem minutes_rounded_to_tenths :
    (∀ x : Double, x.isFinite = false → minutesText x = "--") ∧
    (∀ x : Double, x.isFinite = true → ∀ s, minutesText x = s ↔
      ∃ n : ℕ, IsNearest (10 * |x.value|) n ∧ ShowsDecimal 1 s x.negative n) ∧
    (∀ s p q, ShowsNumber s p → ShowsNumber s q → p = q) ∧
    ∀ x y : Double, x.isFinite = true → y.isFinite = true → x.value ≤ y.value →
      ∃ p q, ShowsNumber (minutesText x) p ∧ ShowsNumber (minutesText y) q ∧ p ≤ q := by
  refine ⟨fun x => minutesText_of_not_finite, fun x => minutesText_eq_iff, fun s p q => ShowsNumber.unique, ?_⟩
  intro x y finite finite' le
  obtain ⟨m, nearest, shown⟩ := exists_showsNumber finite
  obtain ⟨n, nearest', shown'⟩ := exists_showsNumber finite'
  have tenths : m ≤ n := nearest.mono (by linarith) nearest'
  have cast : (m : ℚ) ≤ n := by exact_mod_cast tenths
  exact ⟨_, _, shown, shown', by linarith⟩

/-- Twelve and a quarter lies between two tenths and is shown as the even one, the next double as the other one. A
negative zero keeps its sign, and is not above them. -/
theorem minutes_rounded_to_tenths_tie :
    minutesText ⟨0x7ff8000000000000⟩ = "--" ∧ minutesText ⟨0x4028800000000000⟩ = "12.2" ∧
      minutesText ⟨0x4028800000000001⟩ = "12.3" ∧ minutesText ⟨0x8000000000000000⟩ = "-0.0" ∧
      (∀ p, ShowsNumber "-0.0" p → p = 0) ∧ ∃ p q, ShowsNumber "-0.0" p ∧ ShowsNumber "12.2" q ∧ p ≤ q := by
  obtain ⟨unknown, rounded, one, ordered⟩ := minutes_rounded_to_tenths
  have quarter : Double.value ⟨0x4028800000000000⟩ = 49 / 4 := by
    rw [Double.value, show Double.negative _ = false by decide, show Double.exponentField _ = 1026 by decide,
      show Double.fraction _ = 2 ^ 51 + 2 ^ 47 by decide]
    norm_num
  have next : Double.value ⟨0x4028800000000001⟩ = 49 / 4 + 1 / 2 ^ 49 := by
    rw [Double.value, show Double.negative _ = false by decide, show Double.exponentField _ = 1026 by decide,
      show Double.fraction _ = 2 ^ 51 + 2 ^ 47 + 1 by decide]
    norm_num
  have zero : Double.value ⟨0x8000000000000000⟩ = 0 := by
    rw [Double.value, show Double.exponentField _ = 0 by decide, show Double.fraction _ = 0 by decide]
    norm_num
  have even : minutesText ⟨0x4028800000000000⟩ = "12.2" := by
    have shown : ShowsDecimal 1 "12.2" false 122 :=
      ⟨[1, 2], [2], by decide, ⟨by decide, by decide⟩, rfl, by decide⟩
    refine (rounded _ (by decide) _).mpr ⟨122, isNearest_iff.mpr ?_, shown⟩
    rw [quarter]
    exact ⟨by norm_num [abs_of_pos], fun _ => by decide⟩
  have above : minutesText ⟨0x4028800000000001⟩ = "12.3" := by
    have shown : ShowsDecimal 1 "12.3" false 123 :=
      ⟨[1, 2], [3], by decide, ⟨by decide, by decide⟩, rfl, by decide⟩
    refine (rounded _ (by decide) _).mpr ⟨123, isNearest_iff.mpr ?_, shown⟩
    rw [next]
    norm_num [abs_of_pos, abs_of_neg]
  have negative : ShowsDecimal 1 "-0.0" true 0 := ⟨[0], [0], by decide, ⟨by decide, by decide⟩, rfl, by decide⟩
  have signed : minutesText ⟨0x8000000000000000⟩ = "-0.0" := by
    refine (rounded _ (by decide) _).mpr ⟨0, isNearest_iff.mpr ?_, negative⟩
    rw [zero]
    norm_num
  refine ⟨unknown _ (by decide), even, above, signed, fun p shown => ?_, ?_⟩
  · exact one _ _ _ shown ⟨1, true, 0, negative, by norm_num⟩
  · have pair := ordered ⟨0x8000000000000000⟩ ⟨0x4028800000000000⟩ (by decide) (by decide)
      (by rw [zero, quarter]; norm_num)
    rwa [signed, even] at pair

end CallDesk
