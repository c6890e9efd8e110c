import CallDesk.Proofs.Multipart.Header

/-! # Forms in parts

A form is well formed when its parts stand between boundaries: each one with its headers, one of which describes it,
and with contents that do not hold the line of a boundary. What stands before the first boundary and behind the last
one is free. The first part of the name `file` is found in every such form, with its file name and its contents to
the byte, whatever the parts are and in whichever of the permitted ways they are written.
-/

namespace CallDesk.Web.Multipart

open Text

/-! ## The form of forms -/

/-- What ends the contents of a part: the end of a line and a boundary. -/
def delimiter (boundary : Bytes) : Bytes := lineEnd ++ [45, 45] ++ boundary

/-- A part as it stands behind a boundary: blanks to the end of the line, headers of which one describes it, a blank
line and its contents. -/
inductive Writes (boundary : Bytes) (part : Part) : Bytes → Prop
  | mk {padding val : Bytes} {above below : List (String × Bytes)} {lines : List Bytes}
      (blank : ∀ b ∈ padding, isLineBlank b = true)
      (written : List.Forall₂ IsHeader (above ++ ("content-disposition", val) :: below) lines)
      (describes : Describes part val) (others : ∀ h ∈ above ++ below, h.1 ≠ "content-disposition")
      (few : (above ++ below).length < maxHeaders) (apart : ¬ delimiter boundary <:+: part.contents) :
      Writes boundary part (padding ++ (lineEnd ++ (block lines ++ (blockEnd ++ part.contents))))

/-- What follows a boundary: parts with boundaries between them, and the end of the form. -/
inductive Follows (boundary : Bytes) : List Part → Bytes → Prop
  | nil (epilogue : Bytes) : Follows boundary [] (45 :: 45 :: epilogue)
  | cons {part : Part} {parts : List Part} {s rest : Bytes} (writes : Writes boundary part s)
      (follows : Follows boundary parts rest) : Follows boundary (part :: parts) (s ++ (delimiter boundary ++ rest))

/-- A form with some parts. No line ends in the boundary, and what stands before the first one is nothing or whole
lines. -/
inductive IsForm (boundary : String) (parts : List Part) : Bytes → Prop
  | mk {preamble rest : Bytes} (line : 13 ∉ utf8 boundary ∧ 10 ∉ utf8 boundary)
      (starts : ∀ b ∈ preamble.getLast?, b = 10) (absent : ¬ [45, 45] ++ utf8 boundary <:+: preamble)
      (follows : Follows (utf8 boundary) parts rest) :
      IsForm boundary parts (preamble ++ ([45, 45] ++ utf8 boundary ++ rest))

variable {boundary s rest val : Bytes} {part : Part} {parts : List Part}

/-- A part as it is commonly written, without blanks behind the boundary. -/
theorem Writes.unpadded (above below : List (String × Bytes)) {lines : List Bytes}
    (written : List.Forall₂ IsHeader (above ++ ("content-disposition", val) :: below) lines)
    (describes : Describes part val) (others : ∀ h ∈ above ++ below, h.1 ≠ "content-disposition")
    (few : (above ++ below).length < maxHeaders) (apart : ¬ delimiter boundary <:+: part.contents) :
    Writes boundary part (lineEnd ++ (block lines ++ (blockEnd ++ part.contents))) := by
  have blank : ∀ b ∈ [], isLineBlank b = true := fun b none => absurd none List.not_mem_nil
  exact .mk blank written describes others few apart

/-- A form that starts with its first boundary. -/
theorem IsForm.direct {boundary : String} (line : 13 ∉ utf8 boundary ∧ 10 ∉ utf8 boundary)
    (follows : Follows (utf8 boundary) parts rest) : IsForm boundary parts ([45, 45] ++ utf8 boundary ++ rest) := by
  have absent : ¬ [45, 45] ++ utf8 boundary <:+: [] := by simp
  have starts : ∀ b ∈ ([] : Bytes).getLast?, b = 10 := by simp
  exact .mk line starts absent follows

/-! ## Reading a part -/

/-- A value of a label can be shown and has no blank at its end. -/
theorem Spells.plain {text : String} (spells : Spells text val) :
    (∀ b ∈ val, isValueByte b = true) ∧ ∃ b, val.getLast? = some b ∧ isLineBlank b = false := by
  cases spells with
  | quoted printable last =>
    constructor
    · intro b member
      rcases List.mem_cons.mp member with rfl | later
      · decide
      · rcases List.mem_append.mp later with inside | quote
        · obtain ⟨c, given, kept⟩ := List.mem_flatMap.mp inside
          rw [quoteByte] at kept
          split at kept
          · simp only [List.mem_cons, List.not_mem_nil, or_false] at kept
            rcases kept with rfl | rfl <;> decide
          · rw [List.mem_singleton.mp kept]
            exact printable c given
        · rw [List.mem_singleton.mp quote]
          decide
    · refine ⟨34, ?_, by decide⟩
      rw [← List.cons_append, List.getLast?_concat]
  | word filled letters =>
    have last := List.getLast?_eq_some_getLast filled
    exact ⟨fun b member => (isNameByte_plain (letters b member)).1, _, last,
      (isNameByte_plain (letters _ (List.getLast_mem filled))).2.1⟩

theorem Labels.plain {label text : String} {piece : Bytes} (labels : Labels label text val piece)
    (letters : ∀ b ∈ utf8 label, isNameByte b = true) :
    (∀ b ∈ piece, isValueByte b = true) ∧ ∃ b, piece.getLast? = some b ∧ isLineBlank b = false := by
  cases labels with
  | @mk blanks blank spells =>
    obtain ⟨printable, b, last, visible⟩ := spells.plain
    constructor
    · intro c member
      simp only [List.mem_append, List.mem_cons] at member
      rcases member with (rfl | gap) | name | rfl | inside
      · decide
      · exact isValueByte_blank (blank c gap)
      · exact (isNameByte_plain (letters c name)).1
      · decide
      · exact printable c inside
    · refine ⟨b, ?_, visible⟩
      rw [List.getLast?_append, List.getLast?_append, List.getLast?_cons, last]
      rfl

/-- A label behind the value of a header gives the value of a header. -/
theorem IsPlain.append {first piece : Bytes} {label text : String} (plain : IsPlain first) (filled : first ≠ [])
    (labels : Labels label text val piece) (letters : ∀ b ∈ utf8 label, isNameByte b = true) :
    IsPlain (first ++ piece) := by
  obtain ⟨printable, b, last, visible⟩ := labels.plain letters
  constructor
  · intro c member
    rcases List.mem_append.mp member with start | inside
    · exact plain.printable c start
    · exact printable c inside
  · rw [List.head?_append_of_ne_nil first filled]
    exact plain.start
  · rw [List.getLast?_append, last]
    rintro c ⟨⟩
    exact visible

/-- The value of the header that describes a part can be the value of a header. -/
theorem Describes.plain (describes : Describes part val) : IsPlain val := by
  have kind : IsPlain (utf8 "form-data") := by
    constructor <;> decide +kernel
  have longer (piece : Bytes) : utf8 "form-data" ++ piece ≠ [] := by simp [formData_ne_nil]
  cases describes with
  | unlabelled => exact kind
  | name n => exact kind.append formData_ne_nil n isNameByte_name
  | fileName f quiet => exact kind.append formData_ne_nil f isNameByte_filename
  | nameFirst n f =>
    exact (kind.append formData_ne_nil n isNameByte_name).append (longer _) f isNameByte_filename
  | fileNameFirst f quiet n =>
    exact (kind.append formData_ne_nil f isNameByte_filename).append (longer _) n isNameByte_name

theorem Describes.ne_nil (describes : Describes part val) : val ≠ [] := by
  cases describes <;> simp [formData_ne_nil]

/-- What the headers of a part tell is told by the one that describes it. -/
theorem described?_of_headers {above below : List (String × Bytes)}
    (others : ∀ h ∈ above ++ below, h.1 ≠ "content-disposition") (label : String) :
    described? (above ++ ("content-disposition", val) :: below) label = label? (utf8 label) (val.length + 1) val := by
  have none : below.reverse.lookup "content-disposition" = none := by
    rw [List.lookup_eq_none_iff]
    intro h member
    exact bne_iff_ne.mpr (others h (List.mem_append_right above (List.mem_reverse.mp member))).symm
  have found : (above ++ ("content-disposition", val) :: below).reverse.lookup "content-disposition" = some val := by
    rw [List.reverse_append, List.reverse_cons, List.append_assoc, List.lookup_append, none, Option.none_or,
      List.singleton_append, List.lookup_cons, beq_self_eq_true]
  rw [described?, found, Option.bind_some]

/-- The contents of a part end at the next boundary. -/
theorem cutAt?_delimiter (line : 13 ∉ boundary) {contents : Bytes} (apart : ¬ delimiter boundary <:+: contents)
    (rest : Bytes) :
    cutAt? (delimiter boundary) (contents ++ (delimiter boundary ++ rest)) = some (contents, rest) := by
  have alone : (13 : UInt8) ∉ 10 :: 45 :: 45 :: boundary := by simp [line]
  exact cutAt?_passes (List.cons_ne_nil _ _) (passes_of_marker alone apart rest)

/-- Behind a boundary, blanks and the end of the line are passed. -/
theorem partOff?_line {padding : Bytes} (blank : ∀ b ∈ padding, isLineBlank b = true) (tail : Bytes) :
    partOff? boundary (padding ++ (lineEnd ++ tail)) =
      (cutAt? blockEnd tail).bind fun block => (headers? block.1).bind fun headers =>
        (cutAt? (delimiter boundary) block.2).bind fun contents =>
          some (some (⟨described? headers "name", described? headers "filename", contents.1⟩, contents.2)) := by
  have dropped : (padding ++ (lineEnd ++ tail)).dropWhile isLineBlank = 13 :: 10 :: tail := by
    rw [List.dropWhile_append_of_pos blank, lineEnd, List.cons_append, List.dropWhile_cons_of_neg (by decide)]
    rfl
  have long : ¬ (padding ++ (lineEnd ++ tail)).length < 2 := by
    simp only [List.length_append, lineEnd, List.length_cons]
    omega
  rw [partOff?.eq_def]
  split
  · next dashes =>
    cases padding with
    | nil => cases dashes
    | cons b padding =>
      have first : b = 45 := (List.cons_eq_cons.mp dashes).1
      exact absurd (blank b List.mem_cons_self) (by rw [first]; decide)
  · dsimp only
    rw [if_neg long, dropped]
    rfl

/-- A part is read off, up to the boundary that follows it: its name, its contents, and its file name when its name
is `file`. -/
theorem partOff?_writes (line : 13 ∉ boundary) (writes : Writes boundary part s) (rest : Bytes) :
    ∃ read : Part, partOff? boundary (s ++ (delimiter boundary ++ rest)) = some (some (read, rest)) ∧
      read.name = part.name ∧ (part.name = some "file" → read = part) := by
  cases writes with
  | @mk padding val above below lines blank written describes others few apart =>
    have filled : lines ≠ [] := by
      rintro rfl
      cases above <;> cases written
    have headers : headers? (block lines) = some (above ++ ("content-disposition", val) :: below) := by
      refine headers?_block written filled ?_
      simp only [List.length_append, List.length_cons] at few ⊢
      omega
    obtain ⟨n, long⟩ : ∃ n, val.length = n + 1 :=
      Nat.exists_eq_succ_of_ne_zero fun short => describes.ne_nil (List.length_eq_zero_iff.mp short)
    have named : label? (utf8 "name") (val.length + 1) val = part.name := by
      rw [long]
      exact label?_name describes n
    have cut : cutAt? blockEnd (block lines ++ (blockEnd ++ (part.contents ++ (delimiter boundary ++ rest)))) =
        some (block lines, part.contents ++ (delimiter boundary ++ rest)) :=
      cutAtOnto?_block written filled [] _
    refine ⟨⟨part.name, label? (utf8 "filename") (val.length + 1) val, part.contents⟩, ?_, rfl, fun file => ?_⟩
    · simp only [List.append_assoc]
      rw [partOff?_line blank, cut, Option.bind_some, headers, Option.bind_some, cutAt?_delimiter line apart,
        Option.bind_some, described?_of_headers others, described?_of_headers others, named]
    · rw [label?_fileName describes file]

/-! ## Reading a form -/

/-- Behind the last part a form ends. -/
theorem partOff?_end (boundary epilogue : Bytes) : partOff? boundary (45 :: 45 :: epilogue) = some none := rfl

/-- The first part of the name `file` is found among those that follow a boundary. -/
theorem partFrom?_follows (line : 13 ∉ boundary) (follows : Follows boundary parts s) {fuel : Nat}
    (enough : parts.length < fuel) :
    partFrom? boundary "file" fuel s = some (parts.find? fun part => part.name == some "file") := by
  induction follows generalizing fuel with
  | nil epilogue =>
    cases fuel with
    | zero => contradiction
    | succ fuel => rw [partFrom?, partOff?_end, List.find?_nil]
  | @cons part parts s rest writes follows ih =>
    cases fuel with
    | zero => contradiction
    | succ fuel =>
      obtain ⟨read, found, name, whole⟩ := partOff?_writes line writes rest
      rw [partFrom?, found]
      dsimp only
      rw [name]
      by_cases file : part.name = some "file"
      · have here : (part.name == some "file") = true := beq_iff_eq.mpr file
        rw [if_pos here, whole file, List.find?_cons, here]
      · have other : (part.name == some "file") = false := beq_eq_false_iff_ne.mpr file
        rw [other, if_neg Bool.false_ne_true, List.find?_cons, other, ih (Nat.lt_of_succ_lt_succ enough)]

/-- Each part takes some bytes. -/
theorem Follows.length_lt (follows : Follows boundary parts s) : parts.length < s.length := by
  induction follows with
  | nil epilogue => simp
  | cons writes follows ih =>
    cases writes with
    | mk =>
      simp only [List.length_append, List.length_cons, lineEnd, delimiter]
      omega

/-- The first part of the name `file` is found in a form. -/
theorem part?_form {boundary : String} {body : Bytes} (form : IsForm boundary parts body) :
    part? boundary "file" body = some (parts.find? fun part => part.name == some "file") := by
  cases form with
  | @mk preamble rest line starts absent follows =>
    have other : ∀ b ∈ preamble.getLast?, b ∉ [45, 45] ++ utf8 boundary := by
      rintro b last member
      rw [starts b last] at member
      rcases List.mem_append.mp member with dash | inside
      · exact absurd dash (by decide)
      · exact line.2 inside
    have cut : cutAt? ([45, 45] ++ utf8 boundary) (preamble ++ ([45, 45] ++ utf8 boundary ++ rest)) =
        some (preamble, rest) :=
      cutAt?_passes (List.cons_ne_nil _ _) (passes_of_last absent other _)
    have enough : parts.length < rest.length + 1 := Nat.lt_succ_of_lt follows.length_lt
    rw [part?, cut]
    exact partFrom?_follows line.1 follows enough

end CallDesk.Web.Multipart
