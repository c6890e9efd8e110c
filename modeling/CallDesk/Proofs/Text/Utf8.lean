import CallDesk.Text.Utf8

/-! # Reading back what was written

The bytes of a text are the codes of its characters, one after the other. Read byte by byte they
give the characters back: after each character the reader is between characters again. So every
text is read as it was written, and two texts with the same bytes are the same.
-/

namespace CallDesk.Text

private theorem toList_loop (bytes : ByteArray) (i : Nat) (taken : Bytes) :
    ByteArray.toList.loop bytes i taken = taken.reverse ++ bytes.data.toList.drop i := by
  fun_induction ByteArray.toList.loop bytes i taken with
  | case1 i taken inside ih =>
    have bound : i < bytes.data.toList.length := inside
    have byte : bytes.get! i = bytes.data.toList[i] := by
      simp [ByteArray.get!, getElem!_pos bytes.data i inside]
    rw [ih, byte, List.drop_eq_getElem_cons bound]
    simp
  | case2 i taken outside =>
    have bound : bytes.data.toList.length ≤ i := Nat.le_of_not_lt outside
    simp [List.drop_eq_nil_of_le bound]

/-- The bytes of a text are the codes of its characters. -/
theorem utf8_eq_flatMap (s : String) : utf8 s = s.toList.flatMap String.utf8EncodeChar := by
  have code : s.toByteArray = s.toList.utf8Encode := String.utf8Encode_toList.symm
  rw [utf8, String.toUTF8_eq_toByteArray, code, ByteArray.toList, toList_loop]
  simp [List.utf8Encode]

theorem utf8_ofList (cs : List Char) : utf8 (.ofList cs) = cs.flatMap String.utf8EncodeChar := by
  rw [utf8_eq_flatMap, String.toList_ofList]

/-- A character of ASCII is one byte, its own code. -/
theorem utf8EncodeChar_ascii {c : Char} (ascii : c.toNat < 128) :
    String.utf8EncodeChar c = [UInt8.ofNat c.toNat] := by
  have small : c.val.toNat ≤ 0x7f := Nat.le_of_lt_succ ascii
  simp only [String.utf8EncodeChar, small, ↓reduceIte]
  rfl

/-! ## Leading bytes -/

section

variable {b : UInt8}

private theorem lead?_of_two (low : 0xC2 ≤ b.toNat) (high : b.toNat < 0xE0) :
    lead? b = some ⟨0x80, 0xBF, 0, b.toNat - 0xC0⟩ := by
  have first : ¬ b < 0xC2 := by rw [UInt8.lt_iff_toNat_lt]; exact Nat.not_lt.mpr low
  have second : b < 0xE0 := UInt8.lt_iff_toNat_lt.mpr high
  simp only [lead?, first, second, ↓reduceIte]

private theorem lead?_of_three (low : 0xE0 ≤ b.toNat) (high : b.toNat < 0xF0) :
    ∃ l h, lead? b = some ⟨l, h, 1, b.toNat - 0xE0⟩ ∧ l.toNat = (if b.toNat = 0xE0 then 0xA0 else 0x80) ∧
      h.toNat = if b.toNat = 0xED then 0x9F else 0xBF := by
  by_cases least : b.toNat = 0xE0
  · obtain rfl : b = 0xE0 := UInt8.toNat_inj.mp least
    exact ⟨0xA0, 0xBF, rfl, rfl, rfl⟩
  by_cases surrogate : b.toNat = 0xED
  · obtain rfl : b = 0xED := UInt8.toNat_inj.mp surrogate
    exact ⟨0x80, 0x9F, rfl, rfl, rfl⟩
  have first : ¬ b < 0xC2 := by
    rw [UInt8.lt_iff_toNat_lt]
    exact Nat.not_lt.mpr (Nat.le_trans (by decide) low)
  have second : ¬ b < 0xE0 := by rw [UInt8.lt_iff_toNat_lt]; exact Nat.not_lt.mpr low
  have third : (b == 0xE0) = false := beq_false_of_ne fun h => least (h ▸ rfl)
  have fourth : (b == 0xED) = false := beq_false_of_ne fun h => surrogate (h ▸ rfl)
  have fifth : b < 0xF0 := UInt8.lt_iff_toNat_lt.mpr high
  refine ⟨0x80, 0xBF, ?_, by rw [if_neg least]; rfl, by rw [if_neg surrogate]; rfl⟩
  simp only [lead?, first, second, third, fourth, fifth, ↓reduceIte, Bool.false_eq_true]

private theorem lead?_of_four (low : 0xF0 ≤ b.toNat) (high : b.toNat ≤ 0xF4) :
    ∃ l h, lead? b = some ⟨l, h, 2, b.toNat - 0xF0⟩ ∧ l.toNat = (if b.toNat = 0xF0 then 0x90 else 0x80) ∧
      h.toNat = if b.toNat = 0xF4 then 0x8F else 0xBF := by
  have cases : b.toNat = 0xF0 ∨ b.toNat = 0xF1 ∨ b.toNat = 0xF2 ∨ b.toNat = 0xF3 ∨ b.toNat = 0xF4 := by
    omega
  rcases cases with h | h | h | h | h
  · obtain rfl : b = 0xF0 := UInt8.toNat_inj.mp h
    exact ⟨0x90, 0xBF, rfl, rfl, rfl⟩
  · obtain rfl : b = 0xF1 := UInt8.toNat_inj.mp h
    exact ⟨0x80, 0xBF, rfl, rfl, rfl⟩
  · obtain rfl : b = 0xF2 := UInt8.toNat_inj.mp h
    exact ⟨0x80, 0xBF, rfl, rfl, rfl⟩
  · obtain rfl : b = 0xF3 := UInt8.toNat_inj.mp h
    exact ⟨0x80, 0xBF, rfl, rfl, rfl⟩
  · obtain rfl : b = 0xF4 := UInt8.toNat_inj.mp h
    exact ⟨0x80, 0x8F, rfl, rfl, rfl⟩

end

/-! ## One character -/

section

variable {b : UInt8} {bits : Nat}

private theorem piecesOnto_cons (read : List (Option Char)) (p : Pending) (b : UInt8) (rest : Bytes) :
    piecesOnto read p (b :: rest) =
      piecesOnto ((advance p b).1.reverse ++ read) (advance p b).2 rest := rfl

private theorem fresh_led {l : Lead} (high : 0x80 ≤ b.toNat) (led : lead? b = some l) :
    advance .none b = ([], .led l) := by
  have large : ¬ b < 0x80 := by rw [UInt8.lt_iff_toNat_lt]; exact Nat.not_lt.mpr high
  simp only [advance, fresh, large, ↓reduceIte, led]

private theorem advance_led {l h : UInt8} {start more : Nat} (low : l.toNat ≤ b.toNat)
    (high : b.toNat ≤ h.toNat) :
    advance (.led ⟨l, h, more, start⟩) b =
      match more with
      | 0 => ([some (Char.ofNat (extend start b))], .none)
      | n + 1 => ([], .inside (extend start b) (n + 1)) := by
  have inside : (l ≤ b && b ≤ h) = true := by
    simp only [Bool.and_eq_true, decide_eq_true_eq, UInt8.le_iff_toNat_le]
    exact ⟨low, high⟩
  exact if_pos inside

private theorem isTail_of_bounds (low : 0x80 ≤ b.toNat) (high : b.toNat ≤ 0xBF) : isTail b = true := by
  simp only [isTail, Bool.and_eq_true, decide_eq_true_eq, UInt8.le_iff_toNat_le]
  exact ⟨low, high⟩

private theorem advance_last (tail : isTail b = true) :
    advance (.inside bits 1) b = ([some (Char.ofNat (extend bits b))], .none) := by
  simp only [advance, tail, ↓reduceIte, Nat.le_refl]

private theorem advance_inner (tail : isTail b = true) :
    advance (.inside bits 2) b = ([], .inside (extend bits b) 1) := by
  simp only [advance, tail, ↓reduceIte, Nat.reduceLeDiff, Nat.reduceSub]

private theorem toNat_byte {n : Nat} (small : n < 256) : (UInt8.ofNat n).toNat = n :=
  UInt8.toNat_ofNat_of_lt' small

private theorem toNat_tail (k : Nat) : (UInt8.ofNat (k % 0x40 + 0x80)).toNat = k % 0x40 + 0x80 :=
  toNat_byte (by omega)

private theorem isTail_tail (k : Nat) : isTail (UInt8.ofNat (k % 0x40 + 0x80)) = true := by
  apply isTail_of_bounds <;> rw [toNat_tail] <;> omega

private theorem extend_tail (n k : Nat) : extend n (UInt8.ofNat (k % 0x40 + 0x80)) = n * 64 + k % 64 := by
  have bits := toNat_tail k
  unfold extend
  omega

section

variable (read : List (Option Char)) (rest : Bytes) {v : Nat}

private theorem read_one (high : v ≤ 0x7f) :
    piecesOnto read .none (UInt8.ofNat v :: rest) = piecesOnto (some (Char.ofNat v) :: read) .none rest := by
  have code : (UInt8.ofNat v).toNat = v := toNat_byte (by omega)
  have small : UInt8.ofNat v < 0x80 := by
    rw [UInt8.lt_iff_toNat_lt, code]
    exact Nat.lt_succ_of_le high
  simp only [piecesOnto_cons, advance, fresh, small, ↓reduceIte, code]
  rfl

private theorem read_two (low : 0x7f < v) (high : v ≤ 0x7ff) :
    piecesOnto read .none (UInt8.ofNat (v / 64 % 0x20 + 0xc0) :: UInt8.ofNat (v % 0x40 + 0x80) :: rest) =
      piecesOnto (some (Char.ofNat v) :: read) .none rest := by
  have code : (UInt8.ofNat (v / 64 % 0x20 + 0xc0)).toNat = v / 64 + 0xc0 := by
    rw [toNat_byte (by omega)]
    omega
  have led := lead?_of_two (b := UInt8.ofNat (v / 64 % 0x20 + 0xc0)) (by omega) (by omega)
  have above : (0x80 : UInt8).toNat ≤ (UInt8.ofNat (v % 0x40 + 0x80)).toNat := by
    rw [toNat_tail]
    exact Nat.le_add_left ..
  have below : (UInt8.ofNat (v % 0x40 + 0x80)).toNat ≤ (0xBF : UInt8).toNat := by
    rw [toNat_tail]
    exact (by omega : v % 0x40 + 0x80 ≤ 0xBF)
  have total : (v / 64 + 0xc0 - 0xc0) * 64 + v % 64 = v := by omega
  rw [piecesOnto_cons, fresh_led (by omega) led, piecesOnto_cons, advance_led above below]
  simp only [extend_tail, code, total]
  rfl

private theorem read_three (low : 0x7ff < v) (high : v ≤ 0xffff) (valid : v < 0xD800 ∨ 0xDFFF < v) :
    piecesOnto read .none (UInt8.ofNat (v / 4096 % 0x10 + 0xe0) :: UInt8.ofNat (v / 64 % 0x40 + 0x80) ::
      UInt8.ofNat (v % 0x40 + 0x80) :: rest) = piecesOnto (some (Char.ofNat v) :: read) .none rest := by
  have code : (UInt8.ofNat (v / 4096 % 0x10 + 0xe0)).toNat = v / 4096 + 0xe0 := by
    rw [toNat_byte (by omega)]
    omega
  obtain ⟨l, h, led, least, most⟩ :=
    lead?_of_three (b := UInt8.ofNat (v / 4096 % 0x10 + 0xe0)) (by omega) (by omega)
  -- the second byte rules out long forms and surrogates by the bounds its leading byte sets
  have above : l.toNat ≤ (UInt8.ofNat (v / 64 % 0x40 + 0x80)).toNat := by
    rw [toNat_tail, least, code]
    split <;> omega
  have below : (UInt8.ofNat (v / 64 % 0x40 + 0x80)).toNat ≤ h.toNat := by
    rw [toNat_tail, most, code]
    split <;> omega
  have total : ((v / 4096 + 0xe0 - 0xe0) * 64 + v / 64 % 64) * 64 + v % 64 = v := by omega
  rw [piecesOnto_cons, fresh_led (by omega) led, piecesOnto_cons, advance_led above below]
  simp only [extend_tail, code]
  rw [piecesOnto_cons, advance_last (isTail_tail _), extend_tail, total]
  rfl

private theorem read_four (low : 0xffff < v) (high : v < 0x110000) :
    piecesOnto read .none (UInt8.ofNat (v / 262144 % 0x08 + 0xf0) :: UInt8.ofNat (v / 4096 % 0x40 + 0x80) ::
      UInt8.ofNat (v / 64 % 0x40 + 0x80) :: UInt8.ofNat (v % 0x40 + 0x80) :: rest) =
      piecesOnto (some (Char.ofNat v) :: read) .none rest := by
  have code : (UInt8.ofNat (v / 262144 % 0x08 + 0xf0)).toNat = v / 262144 + 0xf0 := by
    rw [toNat_byte (by omega)]
    omega
  obtain ⟨l, h, led, least, most⟩ :=
    lead?_of_four (b := UInt8.ofNat (v / 262144 % 0x08 + 0xf0)) (by omega) (by omega)
  have above : l.toNat ≤ (UInt8.ofNat (v / 4096 % 0x40 + 0x80)).toNat := by
    rw [toNat_tail, least, code]
    split <;> omega
  have below : (UInt8.ofNat (v / 4096 % 0x40 + 0x80)).toNat ≤ h.toNat := by
    rw [toNat_tail, most, code]
    split <;> omega
  have total : (((v / 262144 + 0xf0 - 0xf0) * 64 + v / 4096 % 64) * 64 + v / 64 % 64) * 64 + v % 64 = v := by
    omega
  rw [piecesOnto_cons, fresh_led (by omega) led, piecesOnto_cons, advance_led above below]
  simp only [extend_tail, code]
  rw [piecesOnto_cons, advance_inner (isTail_tail _), piecesOnto_cons, advance_last (isTail_tail _),
    extend_tail, extend_tail, total]
  rfl

/-- The code of a character is read as that character, and the reader is between characters again. -/
theorem piecesOnto_char (c : Char) :
    piecesOnto read .none (String.utf8EncodeChar c ++ rest) = piecesOnto (some c :: read) .none rest := by
  have whole : Char.ofNat c.val.toNat = c := Char.ofNat_toNat c
  have valid : c.val.toNat < 0xD800 ∨ (0xDFFF < c.val.toNat ∧ c.val.toNat < 0x110000) := c.valid
  unfold String.utf8EncodeChar
  generalize c.val.toNat = v at whole valid ⊢
  subst whole
  dsimp only
  split
  · next high => exact read_one read rest high
  split
  · next low high => exact read_two read rest (Nat.lt_of_not_le low) high
  split
  · next low high => exact read_three read rest (Nat.lt_of_not_le low) high (valid.imp_right And.left)
  · next low => exact read_four read rest (Nat.lt_of_not_le low) (by omega)

end

end

/-! ## Whole texts -/

private theorem piecesOnto_chars (read : List (Option Char)) (cs : List Char) :
    piecesOnto read .none (cs.flatMap String.utf8EncodeChar) = read.reverse ++ cs.map some := by
  induction cs generalizing read with
  | nil => simp [piecesOnto, Pending.mark]
  | cons c rest ih =>
    rw [List.flatMap_cons, piecesOnto_char, ih]
    simp

/-- The pieces of a text are its characters. -/
theorem pieces_utf8 (s : String) : pieces (utf8 s) = s.toList.map some := by
  rw [pieces, utf8_eq_flatMap, piecesOnto_chars]
  rfl

/-- A text is read as it was written. -/
theorem decode?_utf8 (s : String) : decode? (utf8 s) = some s := by
  have present : (s.toList.map some).all Option.isSome = true := by simp
  have kept : (s.toList.map some).filterMap id = s.toList := by simp
  simp only [decode?, pieces_utf8, present, ↓reduceIte, kept, String.ofList_toList]

/-- Reading forgivingly changes nothing in what was written. -/
theorem decodeLossy_utf8 (s : String) : decodeLossy (utf8 s) = s := by
  simp [decodeLossy, pieces_utf8, Function.comp_def]

end CallDesk.Text
