import CallDesk.Proofs.Text.FormData
import CallDesk.Text.Digits
import Mathlib.Algebra.Group.Nat.Defs
import Mathlib.Data.List.Induction

/-! # Decimal numbers and back

A number is written with digits alone, at least one of them, and its digits are read as the number. No
digit has a meaning in form data, so that a number stands in an address as it is written.
-/

namespace CallDesk.Text

theorem digitsOnto_eq (n : Nat) (after : List Digit) : digitsOnto n after = digits n ++ after := by
  induction n using Nat.strongRecOn generalizing after with
  | ind n ih =>
    rw [digits, digitsOnto.eq_def n after, digitsOnto.eq_def n []]
    dsimp only
    by_cases small : n < 10
    · rw [dif_pos small, dif_pos small]
      rfl
    · rw [dif_neg small, dif_neg small, ih (n / 10) (by omega), ih (n / 10) (by omega), List.append_assoc]
      rfl

/-- The digits of a number are those of its tenth and its last one. -/
theorem digits_of_ge {n : Nat} (large : 10 ≤ n) :
    digits n = digits (n / 10) ++ [⟨n % 10, Nat.mod_lt n (by decide)⟩] := by
  rw [digits, digitsOnto, dif_neg (Nat.not_lt.mpr large), digitsOnto_eq]

theorem digits_of_lt {n : Nat} (small : n < 10) : digits n = [⟨n % 10, Nat.mod_lt n (by decide)⟩] := by
  rw [digits, digitsOnto, dif_pos small]

theorem digits_ne_nil (n : Nat) : digits n ≠ [] := by
  rcases Nat.lt_or_ge n 10 with small | large
  · rw [digits_of_lt small]
    exact List.cons_ne_nil _ _
  · rw [digits_of_ge large]
    exact List.append_ne_nil_of_right_ne_nil _ (List.cons_ne_nil _ _)

/-- The digits of a number have its value. -/
theorem value_digits (n : Nat) : value (digits n) = n := by
  induction n using Nat.strongRecOn with
  | ind n ih =>
    rcases Nat.lt_or_ge n 10 with small | large
    · rw [digits_of_lt small]
      simp [value, valueFrom, Nat.mod_eq_of_lt small]
    · have tenth := ih (n / 10) (by omega)
      rw [value, valueFrom] at tenth
      rw [digits_of_ge large, value, valueFrom, List.foldl_append, tenth]
      simp only [List.foldl_cons, List.foldl_nil]
      omega

theorem toNat_digit (d : Digit) : d.char.toNat = 48 + d.val := by
  have all : ∀ d : Fin 10, (Digit.char d).toNat = 48 + d.val := by decide
  exact all d

theorem digit?_char (d : Digit) : digit? d.char = some d := by
  have all : ∀ d : Fin 10, digit? (Digit.char d) = some d := by decide
  exact all d

theorem Digit.char_injective : Function.Injective Digit.char := by
  intro d e same
  have read := digit?_char d
  rw [same, digit?_char] at read
  exact (Option.some.inj read).symm

/-- A character that is a digit is the one that it is written as. -/
theorem eq_char_of_digit? {c : Char} {d : Digit} (read : digit? c = some d) : c = d.char := by
  rw [digit?] at read
  split at read
  · obtain rfl := Option.some.inj read
    refine Char.toNat_inj.mp ?_
    rw [toNat_digit]
    dsimp only
    omega
  · contradiction

theorem toList_decimal (n : Nat) : (decimal n).toList = (digits n).map Digit.char := by
  rw [decimal, String.toList_ofList]

/-- A number is read back from its digits. -/
theorem allDigits?_decimal (n : Nat) : allDigits? (decimal n).toList = some (digits n) := by
  have each : ∀ ds : List Digit, (ds.map Digit.char).mapM digit? = some ds := by
    intro ds
    induction ds with
    | nil => rfl
    | cons d ds ih => simp [List.mapM_cons, digit?_char, ih]
  rw [toList_decimal]
  cases written : (digits n).map Digit.char with
  | nil => exact absurd (List.map_eq_nil_iff.mp written) (digits_ne_nil n)
  | cons c cs =>
    rw [allDigits?.eq_2 _ (by simp), ← written, each]

/-- A character before the digits is none of them. -/
theorem not_mem_digits {c : Char} (before : c.toNat < 48) (ds : List Digit) : c ∉ ds.map Digit.char := by
  intro member
  obtain ⟨d, -, rfl⟩ := List.mem_map.mp member
  rw [toNat_digit] at before
  omega

theorem unsigned?_decimal {limit n : Nat} (within : n ≤ limit) : unsigned? limit (decimal n) = some n := by
  have unsigned : ∀ rest, (decimal n).toList ≠ '+' :: rest := by
    intro rest plus
    have sign := not_mem_digits (c := '+') (by decide) (digits n)
    rw [← toList_decimal, plus] at sign
    exact sign List.mem_cons_self
  simp only [unsigned?, allDigits?_decimal, value_digits, within, if_true]

/-- A number stands in form data as it is written. -/
theorem formEncode_decimal (n : Nat) : formEncode (decimal n) = (decimal n).toList := by
  have plain : ∀ d : Fin 10, (Digit.char d).toNat < 128 ∧ isFormPlain (asciiByte (Digit.char d)) = true := by decide
  apply formEncode_plain
  intro c member
  rw [toList_decimal] at member
  obtain ⟨d, -, rfl⟩ := List.mem_map.mp member
  exact plain d

/-- A number is written after its name and an equals sign. -/
theorem formPart_decimal {key : String} (plain : ∀ c ∈ key.toList, c.toNat < 128 ∧ isFormPlain (asciiByte c) = true)
    (n : Nat) : formPart (key, decimal n) = key.toList ++ '=' :: (decimal n).toList := by
  rw [formPart, formEncode_plain plain, formEncode_decimal]

/-! ## Values of digits -/

theorem valueFrom_eq (n : Nat) (ds : List Digit) : valueFrom n ds = n * 10 ^ ds.length + value ds := by
  induction ds generalizing n with
  | nil => simp [valueFrom, value]
  | cons d ds ih =>
    have first := ih (n * 10 + d.val)
    have second := ih (0 * 10 + d.val)
    rw [valueFrom] at first second
    rw [value, valueFrom, valueFrom, List.foldl_cons, List.foldl_cons, first, second, List.length_cons, Nat.pow_succ,
      Nat.zero_mul, Nat.zero_add, Nat.add_mul, Nat.mul_assoc, Nat.mul_comm 10, Nat.add_assoc]

theorem value_append (ds es : List Digit) : value (ds ++ es) = value ds * 10 ^ es.length + value es := by
  rw [← valueFrom_eq, value, value, valueFrom, valueFrom, valueFrom, List.foldl_append]

theorem value_cons (d : Digit) (ds : List Digit) : value (d :: ds) = d.val * 10 ^ ds.length + value ds := by
  rw [value, valueFrom, List.foldl_cons, Nat.zero_mul, Nat.zero_add]
  exact valueFrom_eq d.val ds

/-- The value of digits is below the power of ten of their count. -/
theorem value_lt (ds : List Digit) : value ds < 10 ^ ds.length := by
  induction ds with
  | nil => decide
  | cons d ds ih =>
    have bound : d.val * 10 ^ ds.length ≤ 9 * 10 ^ ds.length := Nat.mul_le_mul_right _ (by omega)
    rw [value_cons, List.length_cons, Nat.pow_succ]
    omega

/-! ## Leading zeros -/

/-- A number below a power of ten has at most that many digits. -/
theorem length_digits_le {n width : Nat} (small : n < 10 ^ width) (some : 0 < width) : (digits n).length ≤ width := by
  induction width generalizing n with
  | zero => contradiction
  | succ width ih =>
    rcases Nat.lt_or_ge n 10 with one | large
    · rw [digits_of_lt one]
      exact Nat.le_add_left 1 width
    · have tenth : n / 10 < 10 ^ width := by
        rw [Nat.pow_succ] at small
        omega
      have more : 0 < width := by
        rcases Nat.eq_zero_or_pos width with rfl | more
        · rw [Nat.pow_zero] at tenth
          omega
        · exact more
      rw [digits_of_ge large, List.length_append, List.length_singleton]
      exact Nat.add_le_add_right (ih tenth more) 1

/-- A number of several digits does not start with a zero. -/
theorem head?_digits_ne_zero {n : Nat} (positive : 0 < n) : (digits n).head? ≠ some 0 := by
  induction n using Nat.strongRecOn with
  | ind n ih =>
    rcases Nat.lt_or_ge n 10 with small | large
    · rw [digits_of_lt small, List.head?_cons]
      intro zero
      have rest : n % 10 = 0 := congrArg Fin.val (Option.some.inj zero)
      omega
    · obtain ⟨d, ds, tenth⟩ := List.exists_cons_of_ne_nil (digits_ne_nil (n / 10))
      have first := ih (n / 10) (by omega) (by omega)
      rw [tenth] at first
      rwa [digits_of_ge large, tenth]

/-- The digits of a number start with a zero only when it is zero. -/
theorem digits_of_head?_zero {n : Nat} (zero : (digits n).head? = some 0) : digits n = [0] := by
  rcases Nat.eq_zero_or_pos n with rfl | positive
  · exact digits_of_lt (by decide)
  · exact absurd zero (head?_digits_ne_zero positive)

/-- Digits of which none is a superfluous leading zero. -/
structure IsCanonical (ds : List Digit) : Prop where
  filled : ds ≠ []
  leading : ds.head? = some 0 → ds = [0]

theorem isCanonical_digits (n : Nat) : IsCanonical (digits n) := ⟨digits_ne_nil n, digits_of_head?_zero⟩

/-- Canonical digits are those of the number that they say. -/
theorem IsCanonical.digits_value {ds : List Digit} (canonical : IsCanonical ds) : digits (value ds) = ds := by
  have last : ∀ d : Digit, value [d] = d.val := fun d => Nat.zero_add d.val
  have lone : ∀ d : Digit, digits (value [d]) = [d] := by
    intro d
    rw [last, digits_of_lt d.isLt]
    exact congrArg (fun e => [e]) (Fin.ext (Nat.mod_eq_of_lt d.isLt))
  -- from the right, as the digits of a number are taken from its remainders
  induction ds using List.reverseRecOn with
  | nil => exact absurd rfl canonical.filled
  | append_singleton es d ih =>
    cases es with
    | nil => exact lone d
    | cons e rest =>
      have nonzero : e ≠ 0 := by
        rintro rfl
        exact List.append_ne_nil_of_right_ne_nil rest (List.cons_ne_nil d []) (List.cons.inj (canonical.leading rfl)).2
      have front := ih ⟨List.cons_ne_nil e rest, fun zero => absurd (Option.some.inj zero) nonzero⟩
      have split : value (e :: rest ++ [d]) = value (e :: rest) * 10 + d.val := by
        rw [value_append, last, List.length_singleton, Nat.pow_one]
      have positive : 0 < value (e :: rest) := by
        refine Nat.pos_of_ne_zero fun zero => nonzero ?_
        rw [zero, digits_of_lt (by decide)] at front
        exact (List.cons.inj front).1.symm
      have digit := d.isLt
      have tenth : (value (e :: rest) * 10 + d.val) / 10 = value (e :: rest) := by omega
      rw [split, digits_of_ge (by omega), tenth, front]
      congr 2
      exact Fin.ext (by dsimp only; omega)

/-- As many digits that say the same number are the same digits. -/
theorem eq_of_value_eq {ds es : List Digit} (count : ds.length = es.length) (same : value ds = value es) :
    ds = es := by
  induction ds generalizing es with
  | nil => exact (List.length_eq_zero_iff.mp count.symm).symm
  | cons d ds ih =>
    obtain ⟨e, es, rfl⟩ := List.exists_cons_of_length_eq_add_one count.symm
    have counts : ds.length = es.length := Nat.succ.inj count
    rw [value_cons, value_cons, counts] at same
    have below := value_lt ds
    have below' := value_lt es
    rw [counts] at below
    have power : 0 < 10 ^ es.length := Nat.pow_pos (by decide)
    have leading : d.val = e.val := by
      have quotient := congrArg (· / 10 ^ es.length) same
      simpa only [Nat.mul_comm _ (10 ^ es.length), Nat.mul_add_div power, Nat.div_eq_of_lt below,
        Nat.div_eq_of_lt below', Nat.add_zero] using quotient
    rw [leading] at same
    rw [Fin.ext leading, ih counts (Nat.add_left_cancel same)]

/-- The digits of a number after zeros, up to `width` digits. -/
def paddedDigits (width n : Nat) : List Digit :=
  List.replicate (width - (digits n).length) ⟨0, by decide⟩ ++ digits n

theorem toList_padded (width n : Nat) : (padded width n).toList = (paddedDigits width n).map Digit.char := by
  rw [padded, String.toList_ofList, paddedDigits, List.map_append, List.map_replicate]
  rfl

theorem paddedDigits_ne_nil (width n : Nat) : paddedDigits width n ≠ [] :=
  List.append_ne_nil_of_right_ne_nil _ (digits_ne_nil n)

theorem length_paddedDigits {width n : Nat} (small : n < 10 ^ width) (some : 0 < width) :
    (paddedDigits width n).length = width := by
  have fits := length_digits_le small some
  rw [paddedDigits, List.length_append, List.length_replicate]
  omega

/-- Zeros before the digits of a number do not change its value. -/
theorem value_paddedDigits (width n : Nat) : value (paddedDigits width n) = n := by
  have zeros : ∀ k, valueFrom 0 (List.replicate k ⟨0, by decide⟩) = 0 := by
    intro k
    induction k with
    | zero => rfl
    | succ k ih =>
      rw [List.replicate_succ, valueFrom, List.foldl_cons]
      exact ih
  rw [paddedDigits, value, valueFrom, List.foldl_append]
  have start := zeros (width - (digits n).length)
  rw [valueFrom] at start
  rw [start]
  exact value_digits n

end CallDesk.Text
