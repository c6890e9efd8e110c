import CallDesk.Proofs.Text.Percent
import CallDesk.Proofs.Text.Split

/-! # Form data and back

Form data are written with visible characters of ASCII, and a separator is never part of a key or a
value. So the pairs are read back as they were: all of them, in their order, whatever characters they
are made of.
-/

namespace CallDesk.Text

/-! ## Texts of ASCII -/

/-- The byte of a character of ASCII. -/
def asciiByte (c : Char) : UInt8 := UInt8.ofNat c.toNat

theorem toNat_asciiByte {c : Char} (ascii : c.toNat < 128) : (asciiByte c).toNat = c.toNat :=
  UInt8.toNat_ofNat_of_lt' (Nat.lt_trans ascii (by decide))

theorem asciiByte_inj {c d : Char} (first : c.toNat < 128) (second : d.toNat < 128)
    (same : asciiByte c = asciiByte d) : c = d := by
  have codes : c.toNat = d.toNat := by rw [← toNat_asciiByte first, same, toNat_asciiByte second]
  exact Char.toNat_inj.mp codes

/-- A text of ASCII has one byte for each character. -/
theorem flatMap_ascii {cs : List Char} (ascii : ∀ c ∈ cs, c.toNat < 128) :
    cs.flatMap String.utf8EncodeChar = cs.map asciiByte := by
  induction cs with
  | nil => rfl
  | cons c rest ih =>
    rw [List.flatMap_cons, utf8EncodeChar_ascii (ascii c List.mem_cons_self),
      ih fun d member => ascii d (List.mem_cons_of_mem c member)]
    rfl

theorem utf8_ascii {s : String} (ascii : ∀ c ∈ s.toList, c.toNat < 128) : utf8 s = s.toList.map asciiByte := by
  rw [utf8_eq_flatMap, flatMap_ascii ascii]

/-- A character that a text of ASCII does not have is not among its bytes. -/
theorem asciiByte_not_mem {cs : List Char} {d : Char} (ascii : ∀ c ∈ cs, c.toNat < 128) (small : d.toNat < 128)
    (absent : d ∉ cs) : asciiByte d ∉ cs.map asciiByte := by
  intro member
  obtain ⟨c, inside, same⟩ := List.mem_map.mp member
  exact absent (asciiByte_inj (ascii c inside) small same ▸ inside)

/-! ## Keys and values -/

/-- A character that a key or a value is written with. -/
def isFormChar (c : Char) : Bool := isAlphanumeric c.toNat || ['%', '*', '+', '-', '.', '_'].contains c

/-- A byte as it is written in form data. -/
def formByte (b : UInt8) : List Char :=
  if b == 32 then ['+'] else if isFormPlain b then [Char.ofNat b.toNat] else percentByte b

theorem formEncode_eq (s : String) : formEncode s = (utf8 s).flatMap formByte := rfl

/-- The characters of form data are visible characters of ASCII. -/
theorem isFormChar_bounds {c : Char} (coded : isFormChar c = true) : 32 < c.toNat ∧ c.toNat < 127 := by
  simp only [isFormChar, isAlphanumeric, Bool.or_eq_true, Bool.and_eq_true, decide_eq_true_eq,
    List.contains_eq_mem, List.mem_cons, List.not_mem_nil, or_false] at coded
  rcases coded with ((bounds | bounds) | bounds) | rfl | rfl | rfl | rfl | rfl | rfl
  · omega
  · omega
  · omega
  all_goals decide

theorem toNat_ofNat_byte (b : UInt8) : (Char.ofNat b.toNat).toNat = b.toNat :=
  toNat_ofNat (Nat.lt_trans b.toNat_lt (by decide))

theorem isFormChar_plain {b : UInt8} (plain : isFormPlain b = true) : isFormChar (Char.ofNat b.toNat) = true := by
  simp only [isFormPlain, Bool.or_eq_true, beq_iff_eq] at plain
  rcases plain with (((alphanumeric | rfl) | rfl) | rfl) | rfl
  · rw [isFormChar, toNat_ofNat_byte, alphanumeric, Bool.true_or]
  all_goals decide

/-- The digits of percent coding. -/
theorem isAlphanumeric_hexUpper {n : Nat} (digit : n < 16) : isAlphanumeric (hexUpper n).toNat = true := by
  have all : ∀ n : Fin 16, isAlphanumeric (hexUpper n).toNat = true := by decide
  exact all ⟨n, digit⟩

/-- A coded byte is a percent sign and two letters or digits. -/
theorem mem_percentByte {b : UInt8} {c : Char} (member : c ∈ percentByte b) :
    c = '%' ∨ isAlphanumeric c.toNat = true := by
  have high : b.toNat / 16 < 16 := Nat.div_lt_of_lt_mul b.toNat_lt
  have low : b.toNat % 16 < 16 := Nat.mod_lt _ (by decide)
  simp only [percentByte, List.mem_cons, List.not_mem_nil, or_false] at member
  rcases member with rfl | rfl | rfl
  · exact .inl rfl
  · exact .inr (isAlphanumeric_hexUpper high)
  · exact .inr (isAlphanumeric_hexUpper low)

theorem isFormChar_of_mem_formByte {b : UInt8} : ∀ c ∈ formByte b, isFormChar c = true := by
  intro c member
  rw [formByte] at member
  split at member
  · obtain rfl := List.mem_singleton.mp member
    decide
  split at member
  · next plain =>
    obtain rfl := List.mem_singleton.mp member
    exact isFormChar_plain plain
  · rcases mem_percentByte member with rfl | alphanumeric
    · decide
    · rw [isFormChar, alphanumeric, Bool.true_or]

theorem isFormChar_of_mem_formEncode {s : String} : ∀ c ∈ formEncode s, isFormChar c = true := by
  intro c member
  obtain ⟨b, -, written⟩ := List.mem_flatMap.mp (formEncode_eq s ▸ member)
  exact isFormChar_of_mem_formByte c written

theorem ascii_of_mem_formEncode {s : String} : ∀ c ∈ formEncode s, c.toNat < 128 := fun c member =>
  Nat.lt_succ_of_lt (isFormChar_bounds (isFormChar_of_mem_formEncode c member)).2

/-- A text of plain characters is written as it is. -/
theorem formEncode_plain {s : String} (plain : ∀ c ∈ s.toList, c.toNat < 128 ∧ isFormPlain (asciiByte c) = true) :
    formEncode s = s.toList := by
  rw [formEncode_eq, utf8_ascii fun c member => (plain c member).1, List.flatMap_map]
  have each : ∀ c ∈ s.toList, formByte (asciiByte c) = [c] := by
    intro c member
    obtain ⟨ascii, kept⟩ := plain c member
    have other : (asciiByte c == 32) = false := by
      refine beq_false_of_ne fun blank => ?_
      rw [blank] at kept
      exact absurd kept (by decide)
    have same : Char.ofNat (asciiByte c).toNat = c := by rw [toNat_asciiByte ascii, Char.ofNat_toNat]
    simp only [formByte, other, kept, same, Bool.false_eq_true, ↓reduceIte]
  rw [List.flatMap_def, List.map_congr_left each, ← List.flatMap_def, List.flatMap_singleton']

/-! ### Reading them -/

/-- A plus sign is a blank. -/
def spaced (b : UInt8) : UInt8 := if b == 43 then 32 else b

theorem formText_eq (bytes : Bytes) : formText bytes = decodeLossy (unpercent (bytes.map spaced)) := rfl

theorem spaced_of_ne {b : UInt8} (other : b ≠ 43) : spaced b = b := by
  rw [spaced, beq_false_of_ne other]
  rfl

/-- No plus sign is written for a byte in percent coding. -/
theorem map_spaced_percentByte (b : UInt8) :
    ((percentByte b).map asciiByte).map spaced = (percentByte b).flatMap String.utf8EncodeChar := by
  have alphanumeric : ∀ c ∈ percentByte b, c.toNat < 128 ∧ c ≠ '+' := by
    intro c member
    rcases mem_percentByte member with rfl | letter
    · decide
    · refine ⟨?_, ?_⟩
      · have form : isFormChar c = true := by rw [isFormChar, letter, Bool.true_or]
        exact Nat.lt_succ_of_lt (isFormChar_bounds form).2
      · rintro rfl
        exact absurd letter (by decide)
  rw [flatMap_ascii fun c member => (alphanumeric c member).1, List.map_map]
  refine List.map_congr_left fun c member => ?_
  obtain ⟨ascii, other⟩ := alphanumeric c member
  exact spaced_of_ne fun same => other (asciiByte_inj ascii (by decide) same)

/-- A byte of form data is read back. -/
theorem unpercentOnto_formByte (read rest : Bytes) (b : UInt8) :
    unpercentOnto read (((formByte b).map asciiByte).map spaced ++ rest) = unpercentOnto (b :: read) rest := by
  rw [formByte]
  split
  · next blank =>
    obtain rfl := beq_iff_eq.mp blank
    exact unpercentOnto_cons read rest (by decide)
  split
  · next plain =>
    have same : asciiByte (Char.ofNat b.toNat) = b := by rw [asciiByte, toNat_ofNat_byte, UInt8.ofNat_toNat]
    have noPlus : b ≠ 43 := by
      rintro rfl
      exact absurd plain (by decide)
    have noPercent : b ≠ 37 := by
      rintro rfl
      exact absurd plain (by decide)
    rw [List.map_singleton, List.map_singleton, same, spaced_of_ne noPlus, List.singleton_append,
      unpercentOnto_cons read rest noPercent]
  · rw [map_spaced_percentByte, unpercentOnto_percentByte]

theorem unpercentOnto_formBytes (read bytes : Bytes) :
    unpercentOnto read (((bytes.flatMap formByte).map asciiByte).map spaced) = (bytes.reverse ++ read).reverse := by
  induction bytes generalizing read with
  | nil => rfl
  | cons b bytes ih =>
    rw [List.flatMap_cons, List.map_append, List.map_append, unpercentOnto_formByte, ih]
    simp

/-- A key or a value is read as it was written. -/
theorem formText_formEncode (s : String) : formText ((formEncode s).map asciiByte) = s := by
  rw [formText_eq, formEncode_eq, unpercent, unpercentOnto_formBytes, List.append_nil, List.reverse_reverse,
    decodeLossy_utf8]

/-! ## Pairs -/

/-- A pair as it is written. -/
def formPart (pair : String × String) : List Char := formEncode pair.1 ++ '=' :: formEncode pair.2

theorem toList_formLine (pairs : List (String × String)) :
    (formLine pairs).toList = ['&'].intercalate (pairs.map formPart) := by
  have parts : (String.toList ∘ fun pair : String × String =>
      String.ofList (formEncode pair.1 ++ '=' :: formEncode pair.2)) = formPart :=
    funext fun pair => String.toList_ofList
  rw [formLine, String.toList_intercalate, List.map_map, parts]
  rfl

/-- A separator is not written for anything else. -/
theorem not_mem_formEncode {c : Char} (other : isFormChar c = false) (s : String) : c ∉ formEncode s := by
  intro member
  have coded := isFormChar_of_mem_formEncode c member
  exact absurd (other.symm.trans coded) (by decide)

theorem mem_formPart {pair : String × String} {c : Char} (member : c ∈ formPart pair) :
    c = '=' ∨ isFormChar c = true := by
  rcases List.mem_append.mp member with key | rest
  · exact .inr (isFormChar_of_mem_formEncode c key)
  rcases List.mem_cons.mp rest with rfl | val
  · exact .inl rfl
  · exact .inr (isFormChar_of_mem_formEncode c val)

theorem mem_of_mem_intercalate {α : Type} {sep a : α} {parts : List (List α)} (member : a ∈ [sep].intercalate parts) :
    a = sep ∨ ∃ part ∈ parts, a ∈ part := by
  induction parts with
  | nil => exact absurd member List.not_mem_nil
  | cons part rest ih =>
    cases rest with
    | nil =>
      rw [List.intercalate_singleton] at member
      exact .inr ⟨part, List.mem_cons_self, member⟩
    | cons next rest =>
      rw [List.intercalate_cons_cons] at member
      rcases List.mem_append.mp member with first | later
      · rcases List.mem_append.mp first with inside | same
        · exact .inr ⟨part, List.mem_cons_self, inside⟩
        · exact .inl (List.mem_singleton.mp same)
      · exact (ih later).imp_right fun ⟨p, among, inside⟩ => ⟨p, List.mem_cons_of_mem _ among, inside⟩

/-- A line of form data is made of the characters of keys and values and two separators. -/
theorem mem_formLine {pairs : List (String × String)} {c : Char} (member : c ∈ (formLine pairs).toList) :
    c = '&' ∨ c = '=' ∨ isFormChar c = true := by
  rw [toList_formLine] at member
  refine (mem_of_mem_intercalate member).imp_right fun ⟨part, among, inside⟩ => ?_
  obtain ⟨pair, -, rfl⟩ := List.mem_map.mp among
  exact mem_formPart inside

theorem formLine_bounds {pairs : List (String × String)} :
    ∀ c ∈ (formLine pairs).toList, 32 < c.toNat ∧ c.toNat < 127 := by
  intro c member
  rcases mem_formLine member with rfl | rfl | coded
  · decide
  · decide
  · exact isFormChar_bounds coded

/-- The pair in a part of a line. -/
def pairOfPart? (part : Bytes) : Option (String × String) :=
  if part.isEmpty then none
  else match cut? 61 part with
    | some (key, val) => some (formText key, formText val)
    | none => some (formText part, "")

theorem pairOfPart?_formPart (pair : String × String) :
    pairOfPart? ((formPart pair).map asciiByte) = some pair := by
  have bytes : (formPart pair).map asciiByte =
      (formEncode pair.1).map asciiByte ++ 61 :: (formEncode pair.2).map asciiByte := by
    rw [formPart, List.map_append]
    rfl
  have whole : 61 ∉ (formEncode pair.1).map asciiByte :=
    asciiByte_not_mem ascii_of_mem_formEncode (by decide : '='.toNat < 128) (not_mem_formEncode (by decide) _)
  have some : ((formEncode pair.1).map asciiByte ++ 61 :: (formEncode pair.2).map asciiByte).isEmpty = false := by
    simp
  rw [bytes, pairOfPart?, some, cut?_append_cons whole]
  simp only [Bool.false_eq_true, ↓reduceIte, formText_formEncode]

theorem map_intercalate {α β : Type} (f : α → β) (sep : α) (parts : List (List α)) :
    ([sep].intercalate parts).map f = [f sep].intercalate (parts.map (List.map f)) := by
  induction parts with
  | nil => rfl
  | cons part rest ih =>
    cases rest with
    | nil => simp only [List.intercalate_singleton, List.map_cons, List.map_nil]
    | cons next rest =>
      rw [List.intercalate_cons_cons, List.map_append, List.map_append, ih]
      simp only [List.map_cons, List.map_nil, List.intercalate_cons_cons]

/-- Form data are read as they were written. -/
theorem formPairs_formLine (pairs : List (String × String)) : formPairs (utf8 (formLine pairs)) = pairs := by
  have ascii : ∀ c ∈ (formLine pairs).toList, c.toNat < 128 := fun c member =>
    Nat.lt_succ_of_lt (formLine_bounds c member).2
  have bytes : utf8 (formLine pairs) = [38].intercalate (pairs.map fun pair => (formPart pair).map asciiByte) := by
    rw [utf8_ascii ascii, toList_formLine, map_intercalate, List.map_map]
    rfl
  have whole : ∀ part ∈ pairs.map fun pair => (formPart pair).map asciiByte, 38 ∉ part := by
    intro part among
    obtain ⟨pair, -, rfl⟩ := List.mem_map.mp among
    refine asciiByte_not_mem (d := '&') (fun c member => ?_) (by decide) fun member => ?_
    · rcases mem_formPart member with rfl | coded
      · decide
      · exact Nat.lt_succ_of_lt (isFormChar_bounds coded).2
    · rcases mem_formPart member with same | coded
      · exact absurd same (by decide)
      · exact absurd coded (by decide)
  have parts : formPairs (utf8 (formLine pairs)) = (splitAll 38 (utf8 (formLine pairs))).filterMap pairOfPart? := rfl
  cases pairs with
  | nil =>
    rw [parts, bytes]
    rfl
  | cons pair rest =>
    rw [parts, bytes, splitAll_eq_splitOn, List.splitOn_intercalate _ whole (List.cons_ne_nil _ _),
      List.filterMap_map]
    have each : (pairOfPart? ∘ fun pair => (formPart pair).map asciiByte) = some :=
      funext pairOfPart?_formPart
    rw [each, List.filterMap_some]

end CallDesk.Text
