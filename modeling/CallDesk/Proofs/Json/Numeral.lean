import CallDesk.Proofs.Json.Record
import CallDesk.Proofs.Number.Double

/-! # What numerals denote

A whole number of at most 64 bits that is spelled with digits alone denotes itself, and no other numeral denotes
a natural number. Whatever else a numeral denotes is a finite double: one that would be infinite denotes nothing.
-/

namespace CallDesk

open Text

namespace Numeral

/-- A numeral of digits alone: without a sign, a fraction and an exponent. -/
def IsPlain (n : Numeral) : Prop := n.negative = false ∧ n.fraction = [] ∧ n.exponent = none

/-- A numeral that denotes a natural number of at most 64 bits exactly. -/
def IsNatural (n : Numeral) : Prop := n.IsPlain ∧ value n.whole < UInt64.size

/-! ## Significands -/

theorem gather_lt {n : Nat} (small : n < UInt64.size) (ds : List Digit) : (gather n ds).1 < UInt64.size := by
  induction ds generalizing n with
  | nil => exact small
  | cons d ds ih =>
    rw [gather]
    split
    · next fits => exact ih fits
    · exact small

/-- When no digits are left over, all of them have been gathered. -/
theorem eq_valueFrom_of_gather {n m : Nat} {ds : List Digit} (all : gather n ds = (m, [])) : m = valueFrom n ds := by
  induction ds generalizing n with
  | nil => exact (Prod.mk.inj all).1.symm
  | cons d ds ih =>
    rw [gather] at all
    split at all
    · exact ih all
    · exact absurd (Prod.mk.inj all).2 (List.cons_ne_nil _ _)

theorem number?_of_isNatural {n : Numeral} (natural : n.IsNatural) : n.number? = some (.natural (value n.whole)) := by
  obtain ⟨⟨positive, fraction, exponent⟩, small⟩ := natural
  rw [number?, gather_of_lt small, positive, fraction, exponent]
  rfl

/-- Only such numerals denote natural numbers. -/
theorem isNatural_of_number? {n : Numeral} {k : Nat} (found : n.number? = some (.natural k)) : n.IsNatural := by
  have small := gather_lt (by decide : 0 < UInt64.size) n.whole
  simp only [number?] at found
  split at found
  · next plain =>
    simp only [Bool.and_eq_true, List.isEmpty_iff, Option.isNone_iff_eq_none] at plain
    obtain ⟨⟨whole, fraction⟩, exponent⟩ := plain
    have all := eq_valueFrom_of_gather (Prod.ext rfl whole : gather 0 n.whole = ((gather 0 n.whole).1, []))
    rw [all] at small
    cases sign : n.negative with
    | false => exact ⟨⟨sign, fraction, exponent⟩, small⟩
    | true =>
      rw [sign] at found
      simp only [Bool.not_true, Bool.false_eq_true, if_false] at found
      split at found
      · cases Option.some.inj found
      · cases Option.some.inj found
  · obtain ⟨x, -, same⟩ := Option.map_eq_some_iff.mp found
    cases same

/-! ## Doubles -/

theorem tenTo_le {j k : Nat} (le : j ≤ k) : tenTo j ≤ tenTo k := Nat.pow_le_pow_right (by decide) le

open Double in
theorem powerOfTen_spec {k : Nat} (small : k ≤ 308) :
    (powerOfTen k).isFinite = true ∧ one ≤ (powerOfTen k).units := by
  have power : tenTo 308 ≤ (twoTo 53 - 1) * twoTo 971 := by decide +kernel
  have bound : tenTo k * one ≤ largest := by
    calc tenTo k * one ≤ tenTo 308 * one := Nat.mul_le_mul_right _ (tenTo_le small)
      _ ≤ (twoTo 53 - 1) * twoTo 971 * one := Nat.mul_le_mul_right _ power
      _ = largest := by rw [Nat.mul_assoc, one, ← twoTo_add, largest]
  obtain ⟨finite, least⟩ := ofNat_spec bound
  exact ⟨finite, least (Nat.pow_pos (by decide))⟩

theorem isFinite_shrink {x : Double} (finite : x.isFinite = true) (k : Nat) : (shrink x k).isFinite = true := by
  fun_induction shrink x k with
  | case1 x k small => exact Double.isFinite_div finite (powerOfTen_spec small).2
  | case2 x k _ _ => exact finite
  | case3 x k _ _ ih => exact ih (Double.isFinite_div finite (powerOfTen_spec (Nat.le_refl 308)).2)

open Double in
theorem isFinite_ofNat {n : Nat} (small : n < UInt64.size) : (Double.ofNat n).isFinite = true := by
  have word : n ≤ twoTo 64 := Nat.le_of_lt small
  have bound : n * one ≤ largest := by
    rw [one]
    calc n * twoTo 1074 ≤ twoTo 64 * twoTo 1074 := Nat.mul_le_mul_right _ word
      _ = twoTo 52 * twoTo 1086 := by rw [← twoTo_add, ← twoTo_add]
      _ ≤ largest := Nat.mul_le_mul (by decide) (twoTo_le (by decide))
  exact (ofNat_spec bound).1

theorem isFinite_scale? {n : Nat} {e : Int} {x : Double} (small : n < UInt64.size) (found : scale? n e = some x) :
    x.isFinite = true := by
  have finite := isFinite_ofNat small
  simp only [scale?] at found
  split at found
  · obtain rfl := Option.some.inj found
    exact isFinite_shrink finite _
  split at found
  · split at found
    · next within =>
      obtain rfl := Option.some.inj found
      exact within
    · contradiction
  split at found
  · obtain rfl := Option.some.inj found
    exact finite
  · contradiction

theorem isFinite_double? {negative : Bool} {n : Nat} {implied : Int} {exponent : Option (Bool × List Digit)}
    {x : Double} (small : n < UInt64.size) (found : double? negative n implied exponent = some x) :
    x.isFinite = true := by
  have signed {y : Option Double} (finite : ∀ z, y = some z → z.isFinite = true)
      (found : double?.sign negative y = some x) : x.isFinite = true := by
    rw [double?.sign] at found
    split at found
    · obtain ⟨z, told, rfl⟩ := Option.map_eq_some_iff.mp found
      exact Double.isFinite_negate (finite z told)
    · exact finite x found
  cases exponent with
  | none => exact signed (fun z => isFinite_scale? small) found
  | some written =>
    obtain ⟨down, ds⟩ := written
    simp only [double?] at found
    split at found
    · split at found
      · obtain rfl := Option.some.inj found
        exact Double.isFinite_ofUnits negative (Nat.zero_le _)
      · contradiction
    · exact signed (fun z => isFinite_scale? small) found

/-- What a numeral denotes is never infinite. -/
theorem isFinite_number? {n : Numeral} {m : Number} (found : n.number? = some m) : m.toDouble.isFinite = true := by
  have small := gather_lt (by decide : 0 < UInt64.size) n.whole
  simp only [number?] at found
  split at found
  · split at found
    · obtain rfl := Option.some.inj found
      exact isFinite_ofNat small
    split at found
    all_goals
      obtain rfl := Option.some.inj found
      exact Double.isFinite_negate (isFinite_ofNat small)
  · obtain ⟨x, told, rfl⟩ := Option.map_eq_some_iff.mp found
    exact isFinite_double? (gather_lt small n.fraction) told

end Numeral

end CallDesk
