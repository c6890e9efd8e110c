import CallDesk.Proofs.Multipart.Search
import CallDesk.Proofs.Text.Split
import CallDesk.Proofs.Text.Utf8

/-! # The labels of a part

A part tells its name and its file name in the header that describes it. Each of the two stands behind a semicolon
and blanks, as a word or between quotes, and in either order. Both are read back as they were written.

A label is looked for wherever it stands behind a blank or a semicolon, also inside a value. So a value that stands
before the name must not itself say `name`; what follows the name is not looked at.
-/

namespace CallDesk.Web.Multipart

open Text

/-! ## Values -/

/-- A byte between quotes: a quote follows a backslash. -/
def quoteByte (b : UInt8) : Bytes := if b = 34 then [92, 34] else [b]

/-- A text as the value of a label: between quotes, or as it stands when it is a word. -/
inductive Spells (s : String) : Bytes → Prop
  | quoted (printable : ∀ b ∈ utf8 s, isValueByte b = true) (last : (utf8 s).getLast? ≠ some 92) :
      Spells s (34 :: ((utf8 s).flatMap quoteByte ++ [34]))
  | word (filled : utf8 s ≠ []) (letters : ∀ b ∈ utf8 s, isNameByte b = true) : Spells s (utf8 s)

/-- The bytes of names can stand in a value. -/
theorem isNameByte_plain {b : UInt8} (letter : isNameByte b = true) :
    isValueByte b = true ∧ isLineBlank b = false ∧ b ≠ 34 ∧ b ≠ 58 ∧ b ≠ 59 := by
  simp [isNameByte, isAlphanumeric, isValueByte, isLineBlank, UInt8.le_iff_toNat_le, ← UInt8.toNat_inj] at *
  omega

/-- A byte is kept as it stands, but for a quote and for a backslash before one. -/
theorem quotedOnto?_plain {b : UInt8} {rest : Bytes} (unquoted : b ≠ 34) (next : b = 92 → rest.head? ≠ some 34)
    (read : Bytes) : quotedOnto? read (b :: rest) = quotedOnto? (b :: read) rest := by
  rw [quotedOnto?.eq_def]
  split
  · contradiction
  · next same =>
    obtain ⟨rfl, rfl⟩ := List.cons_eq_cons.mp same
    exact absurd rfl (next rfl)
  · next same =>
    obtain ⟨rfl, rfl⟩ := List.cons_eq_cons.mp same
    exact absurd rfl unquoted
  · next same =>
    obtain ⟨rfl, rfl⟩ := List.cons_eq_cons.mp same
    rfl

/-- What stands between quotes is read up to the closing one. -/
theorem quotedOnto?_quoted {bytes : Bytes} (last : bytes.getLast? ≠ some 92) (read rest : Bytes) :
    quotedOnto? read (bytes.flatMap quoteByte ++ 34 :: rest) = some (read.reverse ++ bytes) := by
  induction bytes generalizing read with
  | nil => simp [quotedOnto?]
  | cons b bytes ih =>
    have later : bytes.getLast? ≠ some 92 := by
      intro ends
      rw [List.getLast?_cons, ends] at last
      exact last rfl
    rw [List.flatMap_cons, quoteByte]
    split
    · next quote =>
      change quotedOnto? read (92 :: 34 :: (bytes.flatMap quoteByte ++ 34 :: rest)) = _
      rw [quotedOnto?, ih later, quote]
      simp
    · next unquoted =>
      have next : b = 92 → (bytes.flatMap quoteByte ++ 34 :: rest).head? ≠ some 34 := by
        rintro rfl
        cases bytes with
        | nil => exact absurd rfl last
        | cons c bytes =>
          rw [List.flatMap_cons, quoteByte]
          split
          · simp
          · next other => simpa using other
      change quotedOnto? read (b :: (bytes.flatMap quoteByte ++ 34 :: rest)) = _
      rw [quotedOnto?_plain unquoted next, ih later]
      simp

variable {s : String} {val : Bytes}

/-- A value is read back, up to the next semicolon. -/
theorem attributeValue?_spelled (spells : Spells s val) {rest : Bytes} (ends : ∀ b ∈ rest.head?, b = 59) :
    attributeValue? (61 :: (val ++ rest)) = some s := by
  have start : cut? 61 (61 :: (val ++ rest)) = some ([], val ++ rest) := cut?_append_cons List.not_mem_nil _
  rw [attributeValue?, start, Option.bind_eq_bind, Option.bind_some]
  dsimp only
  cases spells with
  | quoted printable last =>
    have opened : (34 :: ((utf8 s).flatMap quoteByte ++ [34]) ++ rest).dropWhile isLineBlank =
        34 :: ((utf8 s).flatMap quoteByte ++ 34 :: rest) := by
      rw [List.cons_append, List.dropWhile_cons_of_neg (by decide), List.append_assoc]
      rfl
    rw [opened]
    change (quotedOnto? [] ((utf8 s).flatMap quoteByte ++ 34 :: rest)).bind decode? = some s
    rw [quotedOnto?_quoted last, List.reverse_nil, List.nil_append, Option.bind_some, decode?_utf8]
  | word filled letters =>
    cases shape : utf8 s with
    | nil => exact absurd shape filled
    | cons b bytes =>
      rw [shape] at letters
      obtain ⟨-, visible, unquoted, -, -⟩ := isNameByte_plain (letters b List.mem_cons_self)
      have kept : ∀ c ∈ b :: bytes, (c != 59 && c != 32) = true := by
        intro c member
        obtain ⟨-, plain, -, -, other⟩ := isNameByte_plain (letters c member)
        have unblank : c ≠ 32 := by
          rintro rfl
          contradiction
        simp [other, unblank]
      have taken : (b :: bytes ++ rest).takeWhile (fun c => c != 59 && c != 32) = b :: bytes := by
        rw [List.takeWhile_append_of_pos kept]
        cases rest with
        | nil => rw [List.takeWhile_nil, List.append_nil]
        | cons c rest => rw [ends c rfl, List.takeWhile_cons_of_neg (by decide), List.append_nil]
      rw [List.cons_append, List.dropWhile_cons_of_neg (by rw [visible]; exact Bool.false_ne_true)]
      split
      · next same => exact absurd (List.cons_eq_cons.mp same).1 unquoted
      · rw [← List.cons_append, taken, ← shape, decode?_utf8]

/-! ## Labels -/

/-- A label with a value, behind a semicolon and blanks. -/
inductive Labels (label s : String) (val : Bytes) : Bytes → Prop
  | mk {blanks : Bytes} (blank : ∀ b ∈ blanks, isLineBlank b = true) (spells : Spells s val) :
      Labels label s val (59 :: blanks ++ (utf8 label ++ 61 :: val))

/-- The value of the header that describes a part. A value before the name does not say `name`. -/
inductive Describes : Part → Bytes → Prop
  | unlabelled {contents : Bytes} : Describes ⟨none, none, contents⟩ (utf8 "form-data")
  | name {s : String} {val n contents : Bytes} (name : Labels "name" s val n) :
      Describes ⟨some s, none, contents⟩ (utf8 "form-data" ++ n)
  | fileName {t : String} {val f contents : Bytes} (file : Labels "filename" t val f)
      (quiet : ¬ utf8 "name" <:+: val) : Describes ⟨none, some t, contents⟩ (utf8 "form-data" ++ f)
  | nameFirst {s t : String} {val val' n f contents : Bytes} (name : Labels "name" s val n)
      (file : Labels "filename" t val' f) : Describes ⟨some s, some t, contents⟩ (utf8 "form-data" ++ n ++ f)
  | fileNameFirst {s t : String} {val val' n f contents : Bytes} (file : Labels "filename" t val' f)
      (quiet : ¬ utf8 "name" <:+: val') (name : Labels "name" s val n) :
      Describes ⟨some s, some t, contents⟩ (utf8 "form-data" ++ f ++ n)

theorem utf8_name : utf8 "name" = [110, 97, 109, 101] := by decide +kernel

theorem utf8_filename : utf8 "filename" = [102, 105, 108, 101, 110, 97, 109, 101] := by decide +kernel

theorem utf8_formData : utf8 "form-data" = [102, 111, 114, 109, 45, 100, 97, 116, 97] := by decide +kernel

theorem isNameByte_name : ∀ b ∈ utf8 "name", isNameByte b = true := by decide +kernel

theorem isNameByte_filename : ∀ b ∈ utf8 "filename", isNameByte b = true := by decide +kernel

theorem name_ne_nil : utf8 "name" ≠ [] := by decide +kernel

theorem filename_ne_nil : utf8 "filename" ≠ [] := by decide +kernel

theorem formData_ne_nil : utf8 "form-data" ≠ [] := by decide +kernel

theorem Labels.head? {label s : String} {val piece : Bytes} (labels : Labels label s val piece) :
    ∀ b ∈ piece.head?, b = 59 := by
  rintro b start
  cases labels with
  | mk => exact (Option.some.inj start).symm

variable {label before rest blanks : Bytes}

/-- The last byte before a label is the semicolon or one of the blanks. -/
theorem exists_last_gap (blank : ∀ b ∈ blanks, isLineBlank b = true) (first : Bytes) :
    ∃ b, (first ++ 59 :: blanks).getLast? = some b ∧ (isLineBlank b || b == 59) = true := by
  refine ⟨(59 :: blanks).getLast (List.cons_ne_nil _ _), ?_, ?_⟩
  · rw [List.getLast?_append, List.getLast?_eq_some_getLast (List.cons_ne_nil 59 blanks), Option.some_or]
  · rcases List.mem_cons.mp (List.getLast_mem (List.cons_ne_nil 59 blanks)) with semicolon | inside
    · rw [semicolon]
      decide
    · rw [blank _ inside]
      rfl

/-- Where a label is found it counts behind a blank or a semicolon, and else the search goes on. -/
theorem label?_cut {header after : Bytes} {b : UInt8} (cut : cutAt? label header = some (before, after))
    (last : before.getLast? = some b) (fuel : Nat) :
    label? label (fuel + 1) header =
      if isLineBlank b || b == 59 then attributeValue? after else label? label fuel after := by
  have ending : before.reverse.head? = some b := by rw [List.head?_reverse, last]
  rw [label?.eq_def, cut]
  dsimp only
  cases shape : before.reverse with
  | nil =>
    rw [shape] at ending
    contradiction
  | cons c more =>
    rw [shape] at ending
    obtain rfl := Option.some.inj ending
    rfl

/-- A label is read where it stands first, behind a semicolon and blanks. -/
theorem label?_here (blank : ∀ b ∈ blanks, isLineBlank b = true) (letters : ∀ b ∈ label, isNameByte b = true)
    (filled : label ≠ []) {first : Bytes} (absent : ¬ label <:+: first ++ 59 :: blanks) (fuel : Nat) (rest : Bytes) :
    label? label (fuel + 1) (first ++ 59 :: blanks ++ (label ++ rest)) = attributeValue? rest := by
  obtain ⟨b, last, gap⟩ := exists_last_gap blank first
  have other : ∀ c ∈ (first ++ 59 :: blanks).getLast?, c ∉ label := by
    rintro c ends member
    obtain rfl := Option.some.inj (last.symm.trans ends)
    obtain ⟨-, visible, -, -, unseparated⟩ := isNameByte_plain (letters b member)
    simp [visible, unseparated] at gap
  rw [label?_cut (cutAt?_passes filled (passes_of_last absent other (label ++ rest))) last, if_pos gap]

/-- A label that does not stand in a header has no value. -/
theorem label?_absent (absent : ¬ label <:+: before) (fuel : Nat) : label? label fuel before = none := by
  rw [label?.eq_def, cutAt?_absent absent]
  cases fuel <;> rfl

/-- A label is read when what stands before it does not hold it. -/
theorem label?_given {label : String} {piece first : Bytes} (labels : Labels label s val piece)
    (letters : ∀ b ∈ utf8 label, isNameByte b = true) (filled : utf8 label ≠ []) (absent : ¬ utf8 label <:+: first)
    (ends : ∀ b ∈ rest.head?, b = 59) (fuel : Nat) :
    label? (utf8 label) (fuel + 1) (first ++ piece ++ rest) = some s := by
  cases labels with
  | @mk blanks blank spells =>
    have semicolon : (59 : UInt8) ∉ utf8 label := fun member => by
      obtain ⟨-, -, -, -, other⟩ := isNameByte_plain (letters 59 member)
      exact other rfl
    have gap : ¬ utf8 label <:+: blanks := by
      intro inside
      obtain ⟨b, member⟩ := List.exists_mem_of_ne_nil _ filled
      obtain ⟨-, visible, -⟩ := isNameByte_plain (letters b member)
      rw [blank b (inside.subset member)] at visible
      contradiction
    have found := label?_here blank letters filled (absent_append_cons semicolon absent gap) fuel (61 :: (val ++ rest))
    rw [attributeValue?_spelled spells ends] at found
    rw [← found]
    simp

/-- The end of the word `filename` is not taken for the name. -/
theorem label?_name_filename {t : String} {f : Bytes} (file : Labels "filename" t val f) (fuel : Nat) (rest : Bytes) :
    label? (utf8 "name") (fuel + 1) (utf8 "form-data" ++ f ++ rest) =
      label? (utf8 "name") fuel (61 :: val ++ rest) := by
  cases file with
  | @mk blanks blank spells =>
    have missing : (110 : UInt8) ∉ utf8 "form-data" ++ 59 :: blanks ++ [102, 105, 108, 101] := by
      rw [utf8_formData]
      intro member
      rcases List.mem_append.mp member with first | last
      · rcases List.mem_append.mp first with start | gap
        · revert start
          decide
        · rcases List.mem_cons.mp gap with semicolon | inside
          · contradiction
          · exact absurd (blank _ inside) (by decide)
      · revert last
        decide
    have absent : ¬ utf8 "name" <:+: utf8 "form-data" ++ 59 :: blanks ++ [102, 105, 108, 101] :=
      absent_of_not_mem (by rw [utf8_name]; decide) missing
    have passes : Passes (utf8 "name") (utf8 "form-data" ++ 59 :: blanks ++ [102, 105, 108, 101])
        (utf8 "name" ++ (61 :: val ++ rest)) := by
      rw [utf8_name] at absent ⊢
      exact passes_of_marker (by decide) absent _
    have last : (utf8 "form-data" ++ 59 :: blanks ++ [102, 105, 108, 101]).getLast? = some 101 := by
      rw [List.getLast?_append]
      rfl
    have past := label?_cut (cutAt?_passes name_ne_nil passes) last fuel
    rw [if_neg (by decide)] at past
    rw [← past, utf8_filename, utf8_name]
    simp

/-- The name of a part is read back. -/
theorem label?_name {part : Part} (describes : Describes part val) (fuel : Nat) :
    label? (utf8 "name") (fuel + 2) val = part.name := by
  have start : ¬ utf8 "name" <:+: utf8 "form-data" := by decide +kernel
  have equals {v : Bytes} (quiet : ¬ utf8 "name" <:+: v) : ¬ utf8 "name" <:+: [] ++ 61 :: v := by
    have empty : ¬ utf8 "name" <:+: [] := fun inside => name_ne_nil (List.eq_nil_of_infix_nil inside)
    exact absent_append_cons (by decide +kernel) empty quiet
  cases describes with
  | unlabelled => exact label?_absent start _
  | name name =>
    rw [← List.append_nil (utf8 "form-data" ++ _)]
    exact label?_given name isNameByte_name name_ne_nil start (by simp) _
  | fileName file quiet =>
    rw [← List.append_nil (utf8 "form-data" ++ _), label?_name_filename file, List.append_nil]
    exact label?_absent (equals quiet) _
  | nameFirst name file => exact label?_given name isNameByte_name name_ne_nil start file.head? _
  | fileNameFirst file quiet name =>
    rw [label?_name_filename file, ← List.append_nil (61 :: _ ++ _)]
    exact label?_given name isNameByte_name name_ne_nil (equals quiet) (by simp) _

/-- The name `file` does not say `filename`. -/
theorem filename_absent {n : Bytes} (name : Labels "name" "file" val n) :
    ¬ utf8 "filename" <:+: utf8 "form-data" ++ n := by
  cases name with
  | @mk blanks blank spells =>
    have first : ¬ utf8 "filename" <:+: blanks ++ utf8 "name" := by
      refine absent_of_not_mem (b := 102) (by rw [utf8_filename]; decide) fun member => ?_
      rcases List.mem_append.mp member with gap | inside
      · exact absurd (blank _ gap) (by decide)
      · rw [utf8_name] at inside
        revert inside
        decide
    have second : ¬ utf8 "filename" <:+: val := by
      cases spells with
      | quoted => decide +kernel
      | word => decide +kernel
    have whole : utf8 "form-data" ++ (59 :: blanks ++ (utf8 "name" ++ 61 :: val)) =
        utf8 "form-data" ++ 59 :: (blanks ++ utf8 "name" ++ 61 :: val) := by simp
    rw [whole]
    exact absent_append_cons (by decide +kernel) (by decide +kernel)
      (absent_append_cons (by decide +kernel) first second)

/-- The file name of a part with the name `file` is read back. -/
theorem label?_fileName {part : Part} (describes : Describes part val) (named : part.name = some "file") (fuel : Nat) :
    label? (utf8 "filename") (fuel + 1) val = part.fileName := by
  cases describes with
  | unlabelled => contradiction
  | name name =>
    obtain rfl := Option.some.inj named
    exact label?_absent (filename_absent name) _
  | fileName => contradiction
  | nameFirst name file =>
    obtain rfl := Option.some.inj named
    rw [← List.append_nil (utf8 "form-data" ++ _ ++ _)]
    exact label?_given file isNameByte_filename filename_ne_nil (filename_absent name) (by simp) _
  | fileNameFirst file quiet name =>
    exact label?_given file isNameByte_filename filename_ne_nil (by decide +kernel) name.head? _

end CallDesk.Web.Multipart
