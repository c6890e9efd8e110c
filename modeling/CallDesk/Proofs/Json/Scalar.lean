import CallDesk.Json.Writer
import CallDesk.Proofs.Json.Reader
import CallDesk.Proofs.Text.Digits

/-! # Reading strings and numbers that were written

A text in quotes is read as that text, whatever its characters are: each of them is written as itself or as
an escape that stands for it. A number is read as it was spelled, when it is spelled as JSON spells numbers,
and what follows it does not go on with it.
-/

namespace CallDesk

open Text

/-- Whether a numeral is spelled as JSON spells numbers: a zero does not start other digits, and an exponent
has digits. -/
def Numeral.isSpelled (n : Numeral) : Bool :=
  (match n.whole with
    | [] => false
    | [_] => true
    | d :: _ => d.val != 0) &&
  n.exponent.all fun e => !e.2.isEmpty

namespace Json

/-! ## Bytes of characters -/

/-- The bytes of some characters. -/
def codes (cs : List Char) : Bytes := cs.flatMap String.utf8EncodeChar

theorem codes_append (cs ds : List Char) : codes (cs ++ ds) = codes cs ++ codes ds := List.flatMap_append

theorem codes_cons {c : Char} (ascii : c.toNat < 128) (cs : List Char) :
    codes (c :: cs) = asciiByte c :: codes cs := by
  rw [codes, List.flatMap_cons, utf8EncodeChar_ascii ascii]
  rfl

theorem utf8_render (v : Json) : utf8 v.render = codes v.chars := utf8_ofList v.chars

theorem skipSpace_cons {b : UInt8} (visible : isSpace b = false) (s : Bytes) : skipSpace (b :: s) = b :: s :=
  List.dropWhile_cons_of_neg (by simp [visible])

/-! ## Strings -/

/-- The bytes of a character beyond ASCII are beyond ASCII. -/
theorem le_of_mem_utf8EncodeChar {c : Char} (large : 128 ≤ c.toNat) :
    ∀ b ∈ String.utf8EncodeChar c, 128 ≤ b.toNat := by
  intro b member
  have small : ¬ c.val.toNat ≤ 0x7f := Nat.not_le.mpr large
  simp only [String.utf8EncodeChar, small, ↓reduceIte] at member
  split at member
  · simp only [List.mem_cons, List.not_mem_nil, or_false] at member
    rcases member with rfl | rfl <;> simp <;> omega
  · split at member
    · simp only [List.mem_cons, List.not_mem_nil, or_false] at member
      rcases member with rfl | rfl | rfl <;> simp <;> omega
    · simp only [List.mem_cons, List.not_mem_nil, or_false] at member
      rcases member with rfl | rfl | rfl | rfl <;> simp <;> omega

/-- A string of which some bytes are read, in reverse. -/
def Partial.ofBytes (read : Bytes) : Partial := { bytes := read }

theorem finish_ofBytes (read : Bytes) : (Partial.ofBytes read).finish = decode? read.reverse := rfl

section

variable (read rest : Bytes)

/-- A byte that neither ends a string nor escapes is kept. -/
theorem stringOff?_plain {b : UInt8} (low : 32 ≤ b.toNat) (unquoted : b ≠ 34) (unescaped : b ≠ 92) :
    stringOff? (.ofBytes read) .plain (b :: rest) = stringOff? (.ofBytes (b :: read)) .plain rest := by
  have control : ¬ b < 32 := by
    rw [UInt8.lt_iff_toNat_lt]
    exact Nat.not_lt.mpr low
  rw [stringOff?, if_neg (by simpa using unquoted), if_neg (by simpa using unescaped), if_neg control]
  rfl

theorem stringOff?_plains {bytes : Bytes} (plain : ∀ b ∈ bytes, 32 ≤ b.toNat ∧ b ≠ 34 ∧ b ≠ 92) :
    stringOff? (.ofBytes read) .plain (bytes ++ rest) =
      stringOff? (.ofBytes (bytes.reverse ++ read)) .plain rest := by
  induction bytes generalizing read with
  | nil => rfl
  | cons b bytes ih =>
    obtain ⟨low, unquoted, unescaped⟩ := plain b List.mem_cons_self
    rw [List.cons_append, stringOff?_plain read _ low unquoted unescaped,
      ih _ fun d member => plain d (List.mem_cons_of_mem b member), List.reverse_cons, List.append_assoc]
    rfl

/-- A character with an escape of one letter is read back. -/
theorem stringOff?_letter {letter code : UInt8} (other : letter ≠ 117) (escaped : escaped? letter = some code) :
    stringOff? (.ofBytes read) .plain (92 :: letter :: rest) =
      stringOff? (.ofBytes (code :: read)) .plain rest := by
  rw [stringOff?, if_neg (by decide), if_pos (by decide), stringOff?, if_neg (by simpa using other)]
  simp only [escaped]
  rfl

theorem hexValue?_hexLower {n : Nat} (digit : n < 16) :
    (hexLower n).toNat < 128 ∧ hexValue? (asciiByte (hexLower n)).toNat = some n := by
  have all : ∀ n : Fin 16, (hexLower n).toNat < 128 ∧ hexValue? (asciiByte (hexLower n)).toNat = some n.val := by
    decide
  exact all ⟨n, digit⟩

section

variable {p : Partial} {count n d : Nat} {b : UInt8} {rest : Bytes}

/-- A digit of a number that stands for a character. -/
theorem stringOff?_digit (more : count ≠ 3) (digit : hexValue? b.toNat = some d) :
    stringOff? p (.unit count n) (b :: rest) = stringOff? p (.unit (count + 1) (n * 16 + d)) rest := by
  rw [stringOff?]
  simp only [digit, if_neg more]

/-- The last one of four digits. -/
theorem stringOff?_digit_last (digit : hexValue? b.toNat = some d) :
    stringOff? p (.unit 3 n) (b :: rest) = stringOff? (p.pushUnit (n * 16 + d)) .plain rest := by
  rw [stringOff?]
  simp only [digit, if_pos]

end

/-- A control character is read back from its number. -/
theorem stringOff?_unit {c : Char} (control : c.toNat < 32) :
    stringOff? (.ofBytes read) .plain
        (codes ['\\', 'u', '0', '0', hexLower (c.toNat / 16), hexLower (c.toNat % 16)] ++ rest) =
      stringOff? (.ofBytes ((String.utf8EncodeChar c).reverse ++ read)) .plain rest := by
  obtain ⟨asciiHigh, high⟩ := hexValue?_hexLower (by omega : c.toNat / 16 < 16)
  obtain ⟨asciiLow, low⟩ := hexValue?_hexLower (by omega : c.toNat % 16 < 16)
  have value : c.toNat / 16 * 16 + c.toNat % 16 = c.toNat := by omega
  have bytes : codes ['\\', 'u', '0', '0', hexLower (c.toNat / 16), hexLower (c.toNat % 16)] ++ rest =
      92 :: 117 :: 48 :: 48 :: asciiByte (hexLower (c.toNat / 16)) :: asciiByte (hexLower (c.toNat % 16)) :: rest := by
    simp only [codes_cons (by decide : '\\'.toNat < 128), codes_cons (by decide : 'u'.toNat < 128),
      codes_cons (by decide : '0'.toNat < 128), codes_cons asciiHigh, codes_cons asciiLow]
    rfl
  have pushed : (Partial.ofBytes read).pushUnit c.toNat = .ofBytes ((String.utf8EncodeChar c).reverse ++ read) := by
    have code : codeBytes c.toNat = String.utf8EncodeChar c := by
      rw [codeBytes, Char.ofNat_toNat, utf8_eq_flatMap, String.toList_singleton, List.flatMap_singleton]
    rw [Partial.pushUnit, if_neg (by omega), if_neg (by omega), code]
    rfl
  have zero : hexValue? (48 : UInt8).toNat = some 0 := by decide
  rw [bytes, stringOff?, if_neg (by decide), if_pos (by decide), stringOff?, if_pos (by decide),
    stringOff?_digit (by decide) zero, stringOff?_digit (by decide) zero, stringOff?_digit (by decide) high,
    stringOff?_digit_last low, Nat.zero_mul, Nat.zero_add, value, pushed]

/-- A character that is written as it is is read from its bytes. -/
theorem stringOff?_visible {c : Char} (visible : 32 ≤ c.toNat) (unquoted : c ≠ '"') (unescaped : c ≠ '\\') :
    stringOff? (.ofBytes read) .plain (codes [c] ++ rest) =
      stringOff? (.ofBytes ((String.utf8EncodeChar c).reverse ++ read)) .plain rest := by
  rw [codes, List.flatMap_singleton]
  apply stringOff?_plains
  intro b member
  rcases Nat.lt_or_ge c.toNat 128 with ascii | large
  · rw [utf8EncodeChar_ascii ascii, List.mem_singleton] at member
    obtain rfl : b = asciiByte c := member
    refine ⟨toNat_asciiByte ascii ▸ visible, fun same => ?_, fun same => ?_⟩
    · exact unquoted (asciiByte_inj (d := '"') ascii (by decide) same)
    · exact unescaped (asciiByte_inj (d := '\\') ascii (by decide) same)
  · have beyond := le_of_mem_utf8EncodeChar large b member
    refine ⟨by omega, ?_, ?_⟩ <;> rintro rfl <;> exact absurd beyond (by decide)

/-- An escaped character is read as that character. -/
theorem stringOff?_escape (c : Char) :
    stringOff? (.ofBytes read) .plain (codes (escape c) ++ rest) =
      stringOff? (.ofBytes ((String.utf8EncodeChar c).reverse ++ read)) .plain rest := by
  have control {n : Nat} (same : (c.toNat == n) = true) : c = Char.ofNat n := by
    rw [← beq_iff_eq.mp same, Char.ofNat_toNat]
  unfold escape
  split
  · next quote =>
    obtain rfl := beq_iff_eq.mp quote
    exact stringOff?_letter read rest (by decide) (by decide)
  split
  · next backslash =>
    obtain rfl := beq_iff_eq.mp backslash
    exact stringOff?_letter read rest (by decide) (by decide)
  next unquoted unescaped =>
  split
  · next visible =>
    exact stringOff?_visible read rest visible (by simpa using unquoted) (by simpa using unescaped)
  next hidden =>
  split
  · next same =>
    obtain rfl := control same
    exact stringOff?_letter read rest (by decide) (by decide)
  split
  · next same =>
    obtain rfl := control same
    exact stringOff?_letter read rest (by decide) (by decide)
  split
  · next same =>
    obtain rfl := control same
    exact stringOff?_letter read rest (by decide) (by decide)
  split
  · next same =>
    obtain rfl := control same
    exact stringOff?_letter read rest (by decide) (by decide)
  split
  · next same =>
    obtain rfl := control same
    exact stringOff?_letter read rest (by decide) (by decide)
  · exact stringOff?_unit read rest (Nat.lt_of_not_le hidden)

end

/-- Escaped characters are read one after the other, up to the quote after them. -/
theorem stringOff?_escapes (read : Bytes) (cs : List Char) (rest : Bytes) :
    stringOff? (.ofBytes read) .plain (codes (cs.flatMap escape) ++ 34 :: rest) =
      some ((Partial.ofBytes ((codes cs).reverse ++ read)).finish, rest) := by
  induction cs generalizing read with
  | nil => rfl
  | cons c cs ih =>
    have first : codes (c :: cs) = String.utf8EncodeChar c ++ codes cs := List.flatMap_cons
    rw [List.flatMap_cons, codes_append, List.append_assoc, stringOff?_escape, ih, first, List.reverse_append,
      List.append_assoc]

/-- A text in quotes is read as that text. -/
theorem stringOff?_quote (s : String) (rest : Bytes) :
    ∃ inner, codes (quote s) ++ rest = 34 :: inner ∧ stringOff? {} .plain inner = some (some s, rest) := by
  have finished : (Partial.ofBytes ((codes s.toList).reverse ++ [])).finish = some s := by
    have whole : (codes s.toList).reverse.reverse = utf8 s := by
      rw [List.reverse_reverse, codes, utf8_eq_flatMap]
    rw [List.append_nil, finish_ofBytes, whole, decode?_utf8]
  refine ⟨codes (s.toList.flatMap escape) ++ 34 :: rest, ?_, ?_⟩
  · rw [quote, List.cons_append, codes_cons (by decide), codes_append, List.cons_append, List.append_assoc]
    rfl
  · rw [← finished]
    exact stringOff?_escapes [] s.toList rest

/-! ## Numbers -/

/-- The bytes of some digits. -/
def digitCodes (ds : List Digit) : Bytes := codes (ds.map Digit.char)

theorem byteDigit?_char (d : Digit) : byteDigit? (asciiByte d.char) = some d := by
  have all : ∀ d : Fin 10, byteDigit? (asciiByte (Digit.char d)) = some d := by decide
  exact all d

theorem digitCodes_cons (d : Digit) (ds : List Digit) :
    digitCodes (d :: ds) = asciiByte d.char :: digitCodes ds := by
  have ascii : d.char.toNat < 128 := by
    have digit := d.isLt
    rw [toNat_digit]
    omega
  rw [digitCodes, List.map_cons, codes_cons ascii]
  rfl

/-- What follows a value goes on with the value that it is in, or is nothing. -/
def Ends (rest : Bytes) : Prop := ∀ b ∈ rest.head?, b = 44 ∨ b = 93 ∨ b = 125

/-- What follows digits is not a digit. -/
def Stops (rest : Bytes) : Prop := ∀ b ∈ rest.head?, byteDigit? b = none

/-- Digits are read up to what is not a digit. -/
theorem digitsOff_codes {rest : Bytes} (stop : Stops rest) (read ds : List Digit) :
    digitsOff read (digitCodes ds ++ rest) = (read.reverse ++ ds, rest) := by
  induction ds generalizing read with
  | nil =>
    rw [List.append_nil]
    cases rest with
    | nil => rfl
    | cons b rest =>
      have other := stop b rfl
      exact (digitsOff.eq_2 read b rest).trans (by simp only [other])
  | cons d ds ih =>
    rw [digitCodes_cons, List.cons_append, digitsOff]
    simp only [byteDigit?_char, ih, List.reverse_cons, List.append_assoc, List.singleton_append]

/-- The bytes of an exponent. -/
def exponentCodes : Option (Bool × List Digit) → Bytes
  | none => []
  | some (down, ds) => 101 :: (if down then [45] else []) ++ digitCodes ds

/-- The bytes of a fraction. -/
def fractionCodes (ds : List Digit) : Bytes := if ds.isEmpty then [] else 46 :: digitCodes ds

theorem codes_numeral (n : Numeral) :
    codes n.render =
      (if n.negative then [45] else []) ++ digitCodes n.whole ++ fractionCodes n.fraction ++
        exponentCodes n.exponent := by
  obtain ⟨negative, whole, fraction, exponent⟩ := n
  have sign (b : Bool) : codes (if b then ['-'] else []) = if b then [45] else [] := by cases b <;> rfl
  have point : codes (if fraction.isEmpty then [] else '.' :: fraction.map Digit.char) = fractionCodes fraction := by
    rw [fractionCodes]
    split
    · rfl
    · rw [codes_cons (by decide)]
      rfl
  rw [Numeral.render, codes_append, codes_append, codes_append, sign, point]
  cases exponent with
  | none => rfl
  | some e =>
    obtain ⟨down, ds⟩ := e
    dsimp only
    rw [List.cons_append, codes_cons (by decide), codes_append, sign]
    rfl

section

variable {rest : Bytes}

theorem Ends.stops (ends : Ends rest) : Stops rest := by
  intro b first
  rcases ends b first with rfl | rfl | rfl <;> decide

/-- An exponent does not start with a digit or a point. -/
theorem head?_exponentCodes (ends : Ends rest) (e : Option (Bool × List Digit)) :
    ∀ b ∈ (exponentCodes e ++ rest).head?, byteDigit? b = none ∧ b ≠ 46 := by
  intro b first
  cases e with
  | none => rcases ends b first with rfl | rfl | rfl <;> decide
  | some e =>
    obtain rfl : 101 = b := Option.some.inj first
    decide

theorem fraction_stops (ends : Ends rest) (ds : List Digit) (e : Option (Bool × List Digit)) :
    Stops (fractionCodes ds ++ (exponentCodes e ++ rest)) := by
  rw [fractionCodes]
  split
  · exact fun b first => (head?_exponentCodes ends e b first).1
  · rintro b ⟨⟩
    decide

/-- Takes the sign of an exponent off the front: whether it is a minus. -/
def signOff : Bytes → Bool × Bytes
  | 43 :: rest => (false, rest)
  | 45 :: rest => (true, rest)
  | rest => (false, rest)

/-- Digits do not start with a sign. -/
theorem signOff_digits {ds : List Digit} (some : ds ≠ []) (rest : Bytes) :
    signOff (digitCodes ds ++ rest) = (false, digitCodes ds ++ rest) := by
  have all : ∀ d : Fin 10, asciiByte (Digit.char d) ≠ 43 ∧ asciiByte (Digit.char d) ≠ 45 := by decide
  obtain ⟨d, others, rfl⟩ := List.exists_cons_of_ne_nil some
  obtain ⟨plus, minus⟩ := all d
  rw [digitCodes_cons, List.cons_append, signOff.eq_def]
  split
  · next same => exact absurd (List.cons.inj same).1 plus
  · next same => exact absurd (List.cons.inj same).1 minus
  · rfl

theorem exponentOff?_signed (s : Bytes) :
    exponentOff? (101 :: s) = match digitsOff [] (signOff s).2 with
      | ([], _) => none
      | (ds, rest) => some (some ((signOff s).1, ds), rest) := by
  rw [exponentOff?.eq_def]
  rfl

theorem exponentOff?_codes (ends : Ends rest) {e : Option (Bool × List Digit)}
    (digits : ∀ x ∈ e, x.2 ≠ []) : exponentOff? (exponentCodes e ++ rest) = some (e, rest) := by
  cases e with
  | none =>
    cases rest with
    | nil => rfl
    | cons b rest =>
      have other : (b == 101 || b == 69) = false := by
        rcases ends b rfl with rfl | rfl | rfl <;> decide
      rw [exponentCodes, List.nil_append, exponentOff?.eq_def]
      simp only [other, Bool.false_eq_true, ↓reduceIte]
  | some e =>
    obtain ⟨down, ds⟩ := e
    have some : ds ≠ [] := digits _ rfl
    have sign : signOff ((if down then [45] else []) ++ digitCodes ds ++ rest) = (down, digitCodes ds ++ rest) := by
      cases down with
      | true => rfl
      | false => exact signOff_digits some rest
    obtain ⟨d, others, rfl⟩ := List.exists_cons_of_ne_nil some
    have read := digitsOff_codes ends.stops [] (d :: others)
    rw [List.reverse_nil, List.nil_append] at read
    rw [exponentCodes, List.cons_append, List.cons_append, exponentOff?_signed, sign, read]

theorem fractionOff?_codes (ends : Ends rest) (ds : List Digit) (e : Option (Bool × List Digit)) :
    fractionOff? (fractionCodes ds ++ (exponentCodes e ++ rest)) = some (ds, exponentCodes e ++ rest) := by
  have stop : Stops (exponentCodes e ++ rest) := fun b first => (head?_exponentCodes ends e b first).1
  cases ds with
  | nil =>
    have pointless : ∀ inner, exponentCodes e ++ rest ≠ 46 :: inner := by
      intro inner same
      exact (head?_exponentCodes ends e 46 (by rw [same]; rfl)).2 rfl
    rw [fractionCodes, if_pos List.isEmpty_nil, List.nil_append, fractionOff?.eq_def]
    split
    · next inner same => exact absurd same (pointless inner)
    · rfl
  | cons d ds =>
    have read := digitsOff_codes stop [] (d :: ds)
    rw [List.reverse_nil, List.nil_append] at read
    rw [fractionCodes, if_neg (by simp), List.cons_append, fractionOff?.eq_def]
    simp only [read]

theorem wholeOff?_codes {s : Bytes} (stop : Stops s) {n : Numeral} (spelled : n.isSpelled = true) :
    wholeOff? (digitCodes n.whole ++ s) = some (n.whole, s) := by
  have read := digitsOff_codes stop [] n.whole
  rw [List.reverse_nil, List.nil_append] at read
  rw [Numeral.isSpelled, Bool.and_eq_true] at spelled
  obtain ⟨digits, -⟩ := spelled
  rw [wholeOff?, read]
  split
  · next none =>
    rw [(Prod.mk.inj none).1] at digits
    contradiction
  · next zero =>
    rw [(Prod.mk.inj zero).1] at digits
    contradiction
  · rfl

/-- Takes the sign of a number off the front: whether there is a minus. -/
def minusOff : Bytes → Bool × Bytes
  | 45 :: rest => (true, rest)
  | s => (false, s)

theorem numeralOff?_eq (s : Bytes) :
    numeralOff? s = (wholeOff? (minusOff s).2).bind fun whole =>
      (fractionOff? whole.2).bind fun fraction =>
        (exponentOff? fraction.2).bind fun exponent =>
          some (⟨(minusOff s).1, whole.1, fraction.1, exponent.1⟩, exponent.2) := rfl

/-- A number is read up to its end. -/
theorem numeralOff?_codes (ends : Ends rest) {n : Numeral} (spelled : n.isSpelled = true) :
    numeralOff? (codes n.render ++ rest) = some (n, rest) := by
  have stop := fraction_stops ends n.fraction n.exponent
  have digits : ∀ x ∈ n.exponent, x.2 ≠ [] := by
    intro x given
    have each := (Bool.and_eq_true_iff.mp spelled).2
    have some := (Option.all_eq_true _ _).mp each x given
    simpa using some
  have some : n.whole ≠ [] := by
    intro none
    rw [Numeral.isSpelled, none] at spelled
    contradiction
  have sign : minusOff ((if n.negative then [45] else []) ++ (digitCodes n.whole ++
      (fractionCodes n.fraction ++ (exponentCodes n.exponent ++ rest)))) =
        (n.negative, digitCodes n.whole ++ (fractionCodes n.fraction ++ (exponentCodes n.exponent ++ rest))) := by
    cases n.negative with
    | true => rfl
    | false =>
      obtain ⟨d, others, whole⟩ := List.exists_cons_of_ne_nil some
      have all : ∀ d : Fin 10, asciiByte (Digit.char d) ≠ 45 := by decide
      rw [if_neg (by decide), List.nil_append, whole, digitCodes_cons, List.cons_append, minusOff.eq_def]
      split
      · next same => exact absurd (List.cons.inj same).1 (all d)
      · rfl
  rw [codes_numeral, List.append_assoc, List.append_assoc, List.append_assoc, numeralOff?_eq, sign]
  simp only [wholeOff?_codes stop spelled, fractionOff?_codes ends, exponentOff?_codes ends digits, Option.bind_some]

end

end Json

end CallDesk
