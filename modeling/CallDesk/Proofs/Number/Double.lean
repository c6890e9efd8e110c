import CallDesk.Number.Double
import Mathlib.Algebra.Order.Floor.Semifield
import Mathlib.Data.Nat.Log
import Mathlib.Data.Rat.Floor
import Mathlib.Tactic.FieldSimp

/-! # Doubles as rational numbers

The value of a finite double is given by its sign, its exponent and its fraction, as the standard has it. Its
units say the same. Rounding never leads from what a finite double can hold to an infinite one: a sum of units
that is at most the largest one stays so when it is rounded.
-/

namespace CallDesk

/-! ## Rounding to whole numbers -/

/-- Rounding does not lead past a whole number. -/
theorem roundHalfEven_le {n d m : Nat} (positive : 0 < d) (bound : n ≤ m * d) : roundHalfEven n d ≤ m := by
  have quotient : n / d ≤ m := Nat.div_le_of_le_mul (by rwa [Nat.mul_comm])
  rw [roundHalfEven]
  split
  · next up =>
    rcases Nat.lt_or_eq_of_le quotient with less | same
    · exact less
    · -- at the bound itself nothing is left to round up
      have whole := Nat.div_add_mod n d
      rw [same, Nat.mul_comm] at whole
      have none : n % d = 0 := by omega
      rw [none] at up
      simp only [Nat.mul_zero, Nat.not_lt_zero, decide_false, Bool.false_or, Bool.and_eq_true, beq_iff_eq] at up
      omega
  · exact quotient

theorem div_le_roundHalfEven (n d : Nat) : n / d ≤ roundHalfEven n d := by
  rw [roundHalfEven]
  split
  · exact Nat.le_succ _
  · exact Nat.le_refl _

namespace Double

theorem twoTo_eq (k : Nat) : twoTo k = 2 ^ k := rfl

theorem twoTo_pos (k : Nat) : 0 < twoTo k := Nat.two_pow_pos k

theorem twoTo_add (j k : Nat) : twoTo (j + k) = twoTo j * twoTo k := Nat.pow_add 2 j k

theorem twoTo_le {j k : Nat} (le : j ≤ k) : twoTo j ≤ twoTo k := Nat.pow_le_pow_right (by decide) le

/-- The largest units of a finite double. -/
def largest : Nat := (twoTo 53 - 1) * twoTo 2045

/-! ## The parts of a double -/

/-- A double that is built from a sign, an exponent and a fraction has these. -/
theorem ofUnits_parts {u e f : Nat} (negative : Bool) (exponent : e < 2048) (fraction : f < twoTo 52)
    (bits : magnitudeBits u = e * twoTo 52 + f) :
    (ofUnits negative u).negative = negative ∧ (ofUnits negative u).exponentField = e ∧
      (ofUnits negative u).fraction = f := by
  have sign : (if negative then twoTo 63 else 0) = (if negative then 1 else 0) * twoTo 63 := by
    cases negative <;> rfl
  have one : (if negative then 1 else 0 : Nat) ≤ 1 := by cases negative <;> decide
  have same : negative = ((if negative then 1 else 0 : Nat) == 1) := by cases negative <;> rfl
  rw [Double.negative, exponentField, Double.fraction, ofUnits, bits, sign]
  simp only [twoTo_eq] at fraction ⊢
  generalize (if negative then 1 else 0 : Nat) = s at one same
  rw [UInt64.toNat_ofNat_of_lt' (by rw [UInt64.size]; omega)]
  refine ⟨?_, by omega, by omega⟩
  have top : (s * 2 ^ 63 + (e * 2 ^ 52 + f)) / 2 ^ 63 = s := by omega
  rw [top, same]

/-- The leading bit of a number of units. -/
theorem leading_bounds {u : Nat} (large : twoTo 52 ≤ u) :
    52 ≤ Nat.log2 u ∧ twoTo 52 ≤ u / twoTo (Nat.log2 u - 52) ∧ u / twoTo (Nat.log2 u - 52) < twoTo 53 := by
  have some : u ≠ 0 := Nat.ne_of_gt (Nat.lt_of_lt_of_le (twoTo_pos 52) large)
  have enough : 52 ≤ Nat.log2 u := (Nat.le_log2 some).mpr large
  have low := Nat.log2_self_le some
  have high : u < 2 ^ (Nat.log2 u + 1) := Nat.lt_log2_self
  refine ⟨enough, ?_, ?_⟩
  · rw [Nat.le_div_iff_mul_le (twoTo_pos _), ← twoTo_add, Nat.add_sub_cancel' enough]
    exact low
  · rw [Nat.div_lt_iff_lt_mul (twoTo_pos _), ← twoTo_add]
    rw [show 53 + (Nat.log2 u - 52) = Nat.log2 u + 1 by omega]
    exact high

theorem log2_lt {u k : Nat} (some : 0 < k) (small : u < twoTo k) : Nat.log2 u < k := by
  rcases Nat.eq_zero_or_pos u with rfl | positive
  · rwa [Nat.log2_zero]
  · exact (Nat.log2_lt (Nat.ne_of_gt positive)).mpr small

theorem log2_lt_of_le_largest {u : Nat} (bound : u ≤ largest) : Nat.log2 u < 2098 := by
  have below : largest < twoTo 53 * twoTo 2045 :=
    Nat.mul_lt_mul_of_pos_right (Nat.sub_lt (twoTo_pos 53) Nat.one_pos) (twoTo_pos 2045)
  rw [← twoTo_add] at below
  exact log2_lt (by decide) (Nat.lt_of_le_of_lt bound below)

/-- The parts of the double of a number of units: the leading 53 bits of it, and where they stand. -/
theorem ofUnits_fields (negative : Bool) {u : Nat} (bound : u ≤ largest) :
    (ofUnits negative u).negative = negative ∧
    ((u < twoTo 52 ∧ (ofUnits negative u).exponentField = 0 ∧ (ofUnits negative u).fraction = u) ∨
      (twoTo 52 ≤ u ∧ (ofUnits negative u).exponentField = Nat.log2 u - 52 + 1 ∧ Nat.log2 u - 52 + 1 ≤ 2046 ∧
        (ofUnits negative u).fraction = u / twoTo (Nat.log2 u - 52) - twoTo 52)) := by
  rcases Nat.lt_or_ge u (twoTo 52) with small | large
  · have bits : magnitudeBits u = 0 * twoTo 52 + u := by rw [magnitudeBits, if_pos small, Nat.zero_mul, Nat.zero_add]
    obtain ⟨sign, exponent, fraction⟩ := ofUnits_parts negative (by decide) small bits
    exact ⟨sign, .inl ⟨small, exponent, fraction⟩⟩
  · obtain ⟨enough, low, high⟩ := leading_bounds large
    have length := log2_lt_of_le_largest bound
    have bits : magnitudeBits u =
        (Nat.log2 u - 52 + 1) * twoTo 52 + (u / twoTo (Nat.log2 u - 52) - twoTo 52) := by
      rw [magnitudeBits, if_neg (Nat.not_lt.mpr large)]
      exact if_neg (by omega)
    have rest : u / twoTo (Nat.log2 u - 52) - twoTo 52 < twoTo 52 := by
      rw [show twoTo 53 = twoTo 52 + twoTo 52 from rfl] at high
      omega
    obtain ⟨sign, exponent, fraction⟩ := ofUnits_parts negative (by omega) rest bits
    exact ⟨sign, .inr ⟨large, exponent, by omega, fraction⟩⟩

theorem isFinite_ofUnits (negative : Bool) {u : Nat} (bound : u ≤ largest) : (ofUnits negative u).isFinite = true := by
  rw [isFinite, bne_iff_ne]
  obtain ⟨-, ⟨-, exponent, -⟩ | ⟨-, exponent, most, -⟩⟩ := ofUnits_fields negative bound
  · rw [exponent]
    decide
  · omega

/-- A double holds at least the leading bit of the units that it is made of. -/
theorem le_units_ofUnits (negative : Bool) {u k : Nat} (bound : u ≤ largest) (low : twoTo k ≤ u) :
    twoTo k ≤ (ofUnits negative u).units := by
  obtain ⟨-, ⟨-, exponent, fraction⟩ | ⟨large, exponent, -, fraction⟩⟩ := ofUnits_fields negative bound
  · rw [units, if_pos exponent, fraction]
    exact low
  · obtain ⟨enough, least, -⟩ := leading_bounds large
    have some : u ≠ 0 := Nat.ne_of_gt (Nat.lt_of_lt_of_le (twoTo_pos 52) large)
    have place : k ≤ Nat.log2 u := (Nat.le_log2 some).mpr low
    rw [units, if_neg (by omega), exponent, fraction, Nat.add_sub_cancel' least, Nat.add_sub_cancel]
    calc twoTo k ≤ twoTo (52 + (Nat.log2 u - 52)) := twoTo_le (by omega)
      _ = twoTo 52 * twoTo (Nat.log2 u - 52) := twoTo_add _ _
      _ ≤ _ := Nat.mul_le_mul_right _ least

theorem units_le_largest {x : Double} (finite : x.isFinite = true) : x.units ≤ largest := by
  have exponent : x.exponentField ≤ 2046 := by
    have below : x.exponentField < twoTo 11 := Nat.mod_lt _ (twoTo_pos 11)
    rw [isFinite, bne_iff_ne] at finite
    rw [show twoTo 11 = 2048 from rfl] at below
    omega
  have fraction : x.fraction < twoTo 52 := Nat.mod_lt _ (twoTo_pos 52)
  have double : twoTo 53 = twoTo 52 + twoTo 52 := rfl
  have one : 1 ≤ twoTo 2045 := twoTo_pos 2045
  rw [units, largest]
  split
  · calc x.fraction ≤ (twoTo 53 - 1) * 1 := by omega
      _ ≤ _ := Nat.mul_le_mul_left _ one
  · exact Nat.mul_le_mul (by omega) (twoTo_le (by omega))

/-! ## Rounding to doubles -/

variable {n d : Nat}

/-- Rounding does not lead past the largest units. -/
theorem nearestUnits_le (positive : 0 < d) (bound : n ≤ largest * d) : nearestUnits n d ≤ largest := by
  have quotient : n / d ≤ largest := Nat.div_le_of_le_mul (by rwa [Nat.mul_comm])
  have length := log2_lt_of_le_largest quotient
  rw [nearestUnits]
  rcases Nat.lt_or_ge (Nat.log2 (n / d) - 52) 2045 with small | large
  · have high : n / d < twoTo (Nat.log2 (n / d) + 1) := Nat.lt_log2_self
    have wider : twoTo (Nat.log2 (n / d) + 1) ≤ twoTo (53 + (Nat.log2 (n / d) - 52)) := twoTo_le (by omega)
    have below : n ≤ twoTo 53 * (d * twoTo (Nat.log2 (n / d) - 52)) := by
      rw [Nat.mul_left_comm, ← twoTo_add]
      refine Nat.le_of_lt (Nat.lt_of_lt_of_le ((Nat.div_lt_iff_lt_mul positive).mp high) ?_)
      rw [Nat.mul_comm]
      exact Nat.mul_le_mul_left d wider
    have rounded := roundHalfEven_le (Nat.mul_pos positive (twoTo_pos _)) below
    calc _ ≤ twoTo 53 * twoTo 2044 := Nat.mul_le_mul rounded (twoTo_le (by omega))
      _ = twoTo 52 * twoTo 2045 := by rw [← twoTo_add, ← twoTo_add]
      _ ≤ largest := Nat.mul_le_mul_right _ (by decide)
  · have top : Nat.log2 (n / d) - 52 = 2045 := by omega
    rw [top]
    refine Nat.mul_le_mul_right _ (roundHalfEven_le (Nat.mul_pos positive (twoTo_pos _)) ?_)
    rw [largest, Nat.mul_assoc, Nat.mul_comm (twoTo 2045) d] at bound
    exact bound

/-- Rounding does not lead below a power of two. -/
theorem le_nearestUnits {k : Nat} (positive : 0 < d) (low : twoTo k * d ≤ n) : twoTo k ≤ nearestUnits n d := by
  have quotient : twoTo k ≤ n / d := (Nat.le_div_iff_mul_le positive).mpr low
  have some : n / d ≠ 0 := Nat.ne_of_gt (Nat.lt_of_lt_of_le (twoTo_pos k) quotient)
  have place : k ≤ Nat.log2 (n / d) := (Nat.le_log2 some).mpr quotient
  have leading := Nat.log2_self_le some
  rw [nearestUnits]
  have rounded := div_le_roundHalfEven n (d * twoTo (Nat.log2 (n / d) - 52))
  have shifted : twoTo (Nat.log2 (n / d) - (Nat.log2 (n / d) - 52)) ≤ n / (d * twoTo (Nat.log2 (n / d) - 52)) := by
    rw [← Nat.div_div_eq_div_mul, Nat.le_div_iff_mul_le (twoTo_pos _), ← twoTo_add,
      Nat.sub_add_cancel (Nat.sub_le _ _)]
    exact leading
  calc twoTo k ≤ twoTo (Nat.log2 (n / d) - (Nat.log2 (n / d) - 52) + (Nat.log2 (n / d) - 52)) := twoTo_le (by omega)
    _ = twoTo (Nat.log2 (n / d) - (Nat.log2 (n / d) - 52)) * twoTo (Nat.log2 (n / d) - 52) := twoTo_add _ _
    _ ≤ _ := Nat.mul_le_mul_right _ (Nat.le_trans shifted rounded)

theorem isFinite_negate {x : Double} (finite : x.isFinite = true) : x.negate.isFinite = true :=
  isFinite_ofUnits _ (units_le_largest finite)

/-- A quotient by at least one is finite. -/
theorem isFinite_div {x y : Double} (finite : x.isFinite = true) (one_le : one ≤ y.units) :
    (x.div y).isFinite = true := by
  have positive : 0 < y.units := Nat.lt_of_lt_of_le (twoTo_pos 1074) one_le
  exact isFinite_ofUnits _ (nearestUnits_le positive (Nat.mul_le_mul (units_le_largest finite) one_le))

/-- A whole number within the largest units is finite, and at least one when it is not zero. -/
theorem ofNat_spec {n : Nat} (bound : n * one ≤ largest) :
    (ofNat n).isFinite = true ∧ (1 ≤ n → one ≤ (ofNat n).units) := by
  have rounded : nearestUnits (n * one) 1 ≤ largest := nearestUnits_le Nat.one_pos (by rwa [Nat.mul_one])
  refine ⟨isFinite_ofUnits false rounded, fun positive => ?_⟩
  refine le_units_ofUnits false rounded (le_nearestUnits Nat.one_pos ?_)
  rw [Nat.mul_one]
  exact Nat.le_mul_of_pos_left _ positive

/-! ## Values -/

/-- The value of a finite double: its fraction, behind a leading one unless the exponent is the lowest, times the
power of two that the exponent gives. -/
def value (x : Double) : ℚ :=
  (if x.negative then -1 else 1) * (if x.exponentField = 0 then (x.fraction : ℚ) else 2 ^ 52 + x.fraction) *
    2 ^ ((max x.exponentField 1 : ℤ) - 1075)

theorem cast_twoTo (k : Nat) : (twoTo k : ℚ) = 2 ^ k := by
  rw [twoTo_eq, Nat.cast_pow, Nat.cast_ofNat]

theorem cast_one_pos : (0 : ℚ) < one := Nat.cast_pos.mpr (twoTo_pos 1074)

/-- The value of a double is that of its units. -/
theorem value_eq (x : Double) : x.value = (if x.negative then -1 else 1) * (x.units / one) := by
  have two : (2 : ℚ) ≠ 0 := two_ne_zero
  rw [value, mul_assoc, units]
  congr 1
  rw [eq_div_iff (ne_of_gt cast_one_pos), one, cast_twoTo, mul_assoc, ← zpow_natCast 2 1074, ← zpow_add₀ two]
  split
  · next lowest => simp [lowest]
  · next higher =>
    have power : (max x.exponentField 1 : ℤ) - 1075 + (1074 : ℕ) = (x.exponentField - 1 : ℕ) := by omega
    rw [power, zpow_natCast, Nat.cast_mul, Nat.cast_add, cast_twoTo, cast_twoTo]

/-- A value is not negative just when there is no sign or nothing that it could change. -/
theorem value_nonneg_iff (x : Double) : 0 ≤ x.value ↔ (!x.negative || x.units == 0) = true := by
  rw [value_eq]
  cases x.negative with
  | false =>
    rw [if_neg Bool.false_ne_true, one_mul]
    exact iff_of_true (div_nonneg (Nat.cast_nonneg _) (le_of_lt cast_one_pos)) rfl
  | true =>
    have positive := cast_one_pos
    rw [if_pos rfl, neg_one_mul, Left.nonneg_neg_iff, div_le_iff₀ positive, zero_mul, Bool.not_true, Bool.false_or,
      beq_iff_eq, Nat.cast_nonpos]

/-- The whole number of a value that is not negative is the one below it and a half. -/
theorem floor_value {x : Double} (nonneg : 0 ≤ x.value) : ⌊x.value + 1 / 2⌋₊ = x.roundHalfUp := by
  have magnitude : x.value = x.units / one := by
    rw [value_nonneg_iff, Bool.or_eq_true, beq_iff_eq, Bool.not_eq_true'] at nonneg
    rw [value_eq]
    rcases nonneg with plain | zero
    · rw [plain, if_neg Bool.false_ne_true, one_mul]
    · rw [zero, Nat.cast_zero, zero_div, mul_zero]
  have positive := cast_one_pos
  have half : (x.units : ℚ) / one + 1 / 2 = ((2 * x.units + one : ℕ) : ℚ) / ((2 * one : ℕ) : ℚ) := by
    push_cast
    field_simp
  rw [magnitude, half, Nat.floor_div_eq_div]
  rfl

end Double

end CallDesk
