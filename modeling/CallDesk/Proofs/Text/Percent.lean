import CallDesk.Proofs.Text.Utf8
import CallDesk.Text.Percent

/-! # Percent coding and back

Percent coding writes any text with letters, digits and five other characters of ASCII, and taking
it away gives the text back: no text is altered on its way through an address or a cookie, and two
texts with the same coding are the same.
-/

namespace CallDesk.Text

/-- A character that percent coding writes. -/
def isCoded (c : Char) : Bool := isAlphanumeric c.toNat || ['%', '-', '.', '_', '~'].contains c

/-- Coded characters are visible characters of ASCII. -/
theorem isCoded_bounds {c : Char} (coded : isCoded c = true) : 33 ≤ c.toNat ∧ c.toNat < 127 := by
  simp only [isCoded, isAlphanumeric, Bool.or_eq_true, Bool.and_eq_true, decide_eq_true_eq,
    List.contains_eq_mem, List.mem_cons, List.not_mem_nil, or_false] at coded
  rcases coded with ((bounds | bounds) | bounds) | rfl | rfl | rfl | rfl | rfl
  · omega
  · omega
  · omega
  all_goals decide

theorem isCoded_hexUpper {n : Nat} (digit : n < 16) : isCoded (hexUpper n) = true := by
  have all : ∀ n : Fin 16, isCoded (hexUpper n) = true := by decide
  exact all ⟨n, digit⟩

theorem toNat_ofNat {n : Nat} (small : n < 0xD800) : (Char.ofNat n).toNat = n := by
  have valid : n.isValidChar := Or.inl small
  rw [Char.ofNat, dif_pos valid]
  rfl

theorem isCoded_unreserved {b : UInt8} (plain : isUnreserved b = true) :
    isCoded (Char.ofNat b.toNat) = true := by
  simp only [isUnreserved, Bool.or_eq_true, beq_iff_eq] at plain
  rcases plain with (((alphanumeric | rfl) | rfl) | rfl) | rfl
  · have code : (Char.ofNat b.toNat).toNat = b.toNat :=
      toNat_ofNat (Nat.lt_trans b.toNat_lt (by decide))
    rw [isCoded, code, alphanumeric, Bool.true_or]
  all_goals decide

/-- Every character of a coded text is a coded one. -/
theorem isCoded_of_mem_percentEncode {s : String} : ∀ c ∈ (percentEncode s).toList, isCoded c = true := by
  intro c member
  rw [percentEncode, String.toList_ofList, percentBytes] at member
  obtain ⟨b, _, member⟩ := List.mem_flatMap.mp member
  split at member
  · next plain =>
    rw [List.mem_singleton.mp member]
    exact isCoded_unreserved plain
  · have high : b.toNat / 16 < 16 := Nat.div_lt_of_lt_mul b.toNat_lt
    have low : b.toNat % 16 < 16 := Nat.mod_lt _ (by decide)
    simp only [percentByte, List.mem_cons, List.not_mem_nil, or_false] at member
    rcases member with rfl | rfl | rfl
    · decide
    · exact isCoded_hexUpper high
    · exact isCoded_hexUpper low

/-- There are few coded characters, so what holds of them all can be tested. -/
theorem forall_isCoded {p : Char → Prop}
    (each : ∀ n : Fin 127, isCoded (Char.ofNat n) = true → p (Char.ofNat n)) {c : Char} (coded : isCoded c = true) :
    p c := by
  have holds := each ⟨c.toNat, (isCoded_bounds coded).2⟩
  rw [Char.ofNat_toNat] at holds
  exact holds coded

/-! ## Taking it away -/

section

variable (read rest : Bytes)

/-- A byte other than `%` stands for itself. -/
theorem unpercentOnto_cons {b : UInt8} (plain : b ≠ 37) :
    unpercentOnto read (b :: rest) = unpercentOnto (b :: read) rest := by
  have other : (b == 37) = false := beq_false_of_ne plain
  match rest with
  | [] => rfl
  | [_] => rfl
  | _ :: _ :: _ => simp only [unpercentOnto, other, Bool.false_eq_true, ↓reduceIte]

theorem hexValue?_hexUpper {n : Nat} (digit : n < 16) : hexValue? (hexUpper n).toNat = some n := by
  have all : ∀ n : Fin 16, hexValue? (hexUpper n).toNat = some n.val := by decide
  exact all ⟨n, digit⟩

/-- A coded byte is read back. -/
theorem unpercentOnto_percentByte (b : UInt8) :
    unpercentOnto read ((percentByte b).flatMap String.utf8EncodeChar ++ rest) =
      unpercentOnto (b :: read) rest := by
  have high : b.toNat / 16 < 16 := Nat.div_lt_of_lt_mul b.toNat_lt
  have low : b.toNat % 16 < 16 := Nat.mod_lt _ (by decide)
  have bytes : (percentByte b).flatMap String.utf8EncodeChar =
      [37, UInt8.ofNat (hexUpper (b.toNat / 16)).toNat, UInt8.ofNat (hexUpper (b.toNat % 16)).toNat] := by
    have h := (isCoded_bounds (isCoded_hexUpper high)).2
    have l := (isCoded_bounds (isCoded_hexUpper low)).2
    simp only [percentByte, List.flatMap_cons, List.flatMap_nil, utf8EncodeChar_ascii (Nat.lt_succ_of_lt h),
      utf8EncodeChar_ascii (Nat.lt_succ_of_lt l), utf8EncodeChar_ascii (by decide : '%'.toNat < 128)]
    rfl
  have value : b.toNat / 16 * 16 + b.toNat % 16 = b.toNat := by omega
  have code (n : Nat) (digit : n < 16) : (UInt8.ofNat (hexUpper n).toNat).toNat = (hexUpper n).toNat :=
    UInt8.toNat_ofNat_of_lt' (Nat.lt_trans (isCoded_bounds (isCoded_hexUpper digit)).2 (by decide))
  rw [bytes, List.cons_append, List.cons_append, List.cons_append, List.nil_append, unpercentOnto]
  simp only [code _ high, code _ low, hexValue?_hexUpper high, hexValue?_hexUpper low, value, UInt8.ofNat_toNat,
    beq_self_eq_true, ↓reduceIte]

/-- Coded bytes are read back. -/
theorem unpercentOnto_percentBytes (bytes : Bytes) :
    unpercentOnto read ((percentBytes isUnreserved bytes).flatMap String.utf8EncodeChar ++ rest) =
      unpercentOnto (bytes.reverse ++ read) rest := by
  induction bytes generalizing read with
  | nil => rfl
  | cons b bytes ih =>
    rw [percentBytes, List.flatMap_cons, ← percentBytes, List.flatMap_append, List.append_assoc]
    split
    · next plain =>
      have ascii := (isCoded_bounds (isCoded_unreserved plain)).2
      have same : UInt8.ofNat (Char.ofNat b.toNat).toNat = b := by
        rw [toNat_ofNat (Nat.lt_trans b.toNat_lt (by decide)), UInt8.ofNat_toNat]
      have other : b ≠ 37 := by
        rintro rfl
        exact absurd plain (by decide)
      rw [List.flatMap_singleton, utf8EncodeChar_ascii (Nat.lt_succ_of_lt ascii), same, List.singleton_append,
        unpercentOnto_cons _ _ other, ih]
      simp
    · rw [unpercentOnto_percentByte, ih]
      simp

end

/-- The bytes of a coded text stand for the bytes of the text. -/
theorem unpercent_percentEncode (s : String) : unpercent (utf8 (percentEncode s)) = utf8 s := by
  have whole := unpercentOnto_percentBytes [] [] (utf8 s)
  rw [List.append_nil, List.append_nil] at whole
  rw [unpercent, percentEncode, utf8_ofList, whole, unpercentOnto, List.reverse_reverse]

/-- Every text is read back from its percent coding. -/
theorem percentDecode?_percentEncode (s : String) : percentDecode? (percentEncode s) = some s := by
  rw [percentDecode?, unpercent_percentEncode, decode?_utf8]

/-- Texts with the same coding are the same. -/
theorem percentEncode_injective {s t : String} (same : percentEncode s = percentEncode t) : s = t := by
  have decoded := percentDecode?_percentEncode s
  rw [same, percentDecode?_percentEncode] at decoded
  exact (Option.some.inj decoded).symm

end CallDesk.Text
