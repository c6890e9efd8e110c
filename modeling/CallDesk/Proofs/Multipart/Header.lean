import CallDesk.Proofs.Multipart.Label
import Mathlib.Data.List.Basic
import Mathlib.Data.List.Forall2

/-! # The headers of a part

Each header is a line: a name, a colon and a value with blanks around it. The lines before the first blank one are
read back as they were written, and what they tell of the part is what the one header says that describes it.
-/

namespace CallDesk.Web.Multipart

open Text

/-! ## Lines -/

/-- What can be the value of a header: bytes that can be shown, without a blank at the ends. -/
structure IsPlain (val : Bytes) : Prop where
  printable : ∀ b ∈ val, isValueByte b = true
  start : ∀ b ∈ val.head?, isLineBlank b = false
  stop : ∀ b ∈ val.getLast?, isLineBlank b = false

/-- A header as a line. The case of its name does not matter. -/
inductive IsHeader : String × Bytes → Bytes → Prop
  | mk {title before val behind : Bytes} (filled : title ≠ []) (letters : ∀ b ∈ title, isNameByte b = true)
      (front : ∀ b ∈ before, isLineBlank b = true) (rear : ∀ b ∈ behind, isLineBlank b = true) (plain : IsPlain val) :
      IsHeader (lower (decodeLossy title), val) (title ++ 58 :: (before ++ val ++ behind))

variable {h : String × Bytes} {line : Bytes}

theorem isValueByte_blank {b : UInt8} (blank : isLineBlank b = true) : isValueByte b = true := by
  simp [isValueByte, isLineBlank, UInt8.le_iff_toNat_le, ← UInt8.toNat_inj] at *
  omega

theorem not_lineEnd {b : UInt8} (printable : isValueByte b = true) : b ≠ 13 ∧ b ≠ 10 := by
  simp [isValueByte, UInt8.le_iff_toNat_le, ← UInt8.toNat_inj] at *
  omega

/-- Bytes without the blanks at their ends. -/
def trimBlanks (bytes : Bytes) : Bytes := ((bytes.dropWhile isLineBlank).reverse.dropWhile isLineBlank).reverse

/-- Blanks around a value are taken off. -/
theorem trimBlanks_plain {before val behind : Bytes} (front : ∀ b ∈ before, isLineBlank b = true)
    (rear : ∀ b ∈ behind, isLineBlank b = true) (plain : IsPlain val) :
    trimBlanks (before ++ val ++ behind) = val := by
  rw [trimBlanks, List.append_assoc, List.dropWhile_append_of_pos front]
  cases val with
  | nil => rw [List.nil_append, List.dropWhile_eq_nil_iff.mpr rear]; rfl
  | cons b val =>
    have first : isLineBlank b = false := plain.start b rfl
    have reversed : ∀ c ∈ behind.reverse, isLineBlank c = true := fun c member => rear c (List.mem_reverse.mp member)
    rw [List.cons_append, List.dropWhile_cons_of_neg (by rw [first]; exact Bool.false_ne_true), ← List.cons_append,
      List.reverse_append, List.dropWhile_append_of_pos reversed]
    cases shape : (b :: val).reverse with
    | nil => exact absurd shape (by simp)
    | cons c more =>
      have last : isLineBlank c = false := by
        refine plain.stop c ?_
        rw [← List.head?_reverse, shape]
        rfl
      rw [List.dropWhile_cons_of_neg (by rw [last]; exact Bool.false_ne_true), ← shape, List.reverse_reverse]

/-- A header is read back. -/
theorem header?_line (header : IsHeader h line) : header? line = some h := by
  cases header with
  | @mk title before val behind filled letters front rear plain =>
    have cut : (title ++ 58 :: (before ++ val ++ behind)).span isNameByte =
        (title, 58 :: (before ++ val ++ behind)) := by
      rw [List.span_eq_takeWhile_dropWhile, List.takeWhile_append_of_pos letters,
        List.dropWhile_append_of_pos letters, List.takeWhile_cons_of_neg (by decide),
        List.dropWhile_cons_of_neg (by decide), List.append_nil]
    have shown : val.all isValueByte = true := List.all_eq_true.mpr plain.printable
    have named : title.isEmpty = false := List.isEmpty_eq_false_iff.mpr filled
    have read : header? (title ++ 58 :: (before ++ val ++ behind)) =
        if title.isEmpty || !(trimBlanks (before ++ val ++ behind)).all isValueByte then none
        else some (lower (decodeLossy title), trimBlanks (before ++ val ++ behind)) := by
      rw [header?, cut]
      rfl
    rw [read, trimBlanks_plain front rear plain, named, shown]
    rfl

/-- A header as it is commonly written, with one blank behind the colon. -/
theorem isHeader_spaced (title : String) {val : Bytes} (filled : utf8 title ≠ [])
    (letters : ∀ b ∈ utf8 title, isNameByte b = true) (plain : IsPlain val) :
    IsHeader (lower title, val) (utf8 title ++ 58 :: 32 :: val) := by
  have header : IsHeader _ (utf8 title ++ 58 :: ([32] ++ val ++ [])) :=
    .mk filled letters (List.forall_mem_singleton.mpr rfl) (by simp) plain
  rwa [decodeLossy_utf8, List.append_nil] at header

/-- All bytes of a header can be shown, and there are some. -/
theorem IsHeader.printable (header : IsHeader h line) : line ≠ [] ∧ ∀ b ∈ line, isValueByte b = true := by
  cases header with
  | @mk title before val behind filled letters front rear plain =>
    refine ⟨by simp, fun b member => ?_⟩
    simp only [List.mem_append, List.mem_cons] at member
    rcases member with name | rfl | (blank | inside) | blank
    · exact (isNameByte_plain (letters b name)).1
    · decide
    · exact isValueByte_blank (front b blank)
    · exact plain.printable b inside
    · exact isValueByte_blank (rear b blank)

theorem IsHeader.not_mem (header : IsHeader h line) : (13 : UInt8) ∉ line ∧ (10 : UInt8) ∉ line := by
  constructor
  · exact fun member => (not_lineEnd (header.printable.2 13 member)).1 rfl
  · exact fun member => (not_lineEnd (header.printable.2 10 member)).2 rfl

/-! ## Blocks of lines -/

/-- Headers as lines, with the ends of lines between them. -/
def block (lines : List Bytes) : Bytes := lineEnd.intercalate lines

/-- The end of the headers: the end of a line, and a blank line. -/
def blockEnd : Bytes := lineEnd ++ lineEnd

theorem block_cons_cons (first second : Bytes) (more : List Bytes) :
    block (first :: second :: more) = first ++ 13 :: 10 :: block (second :: more) := by
  rw [block, List.intercalate_cons_cons, List.append_assoc]
  rfl

variable {headers : List (String × Bytes)} {lines : List Bytes}

/-- The end of the headers starts nowhere in a header, whatever follows it. -/
theorem IsHeader.passes (header : IsHeader h line) (rest : Bytes) : Passes blockEnd line rest := by
  obtain ⟨free, unbroken⟩ := header.not_mem
  refine passes_of_last (absent_of_not_mem (b := 13) (by decide) free) (fun b last => ?_) rest
  have member := List.mem_of_getLast? last
  intro ends
  simp only [blockEnd, lineEnd, List.cons_append, List.nil_append, List.mem_cons, List.not_mem_nil,
    or_false] at ends
  rcases ends with rfl | rfl | rfl | rfl
  · exact free member
  · exact unbroken member
  · exact free member
  · exact unbroken member

/-- A block of headers starts with a byte of its first header, so no line of it is taken for a blank one. -/
theorem block_start (written : List.Forall₂ IsHeader headers lines) (filled : lines ≠ []) :
    ∃ b bytes, block lines = b :: bytes ∧ b ≠ 13 := by
  cases written with
  | nil => exact absurd rfl filled
  | @cons h line headers more header written =>
    cases line with
    | nil => exact absurd rfl header.printable.1
    | cons b bytes =>
      have other : b ≠ 13 := fun same => header.not_mem.1 (same ▸ List.mem_cons_self)
      cases more with
      | nil => exact ⟨b, bytes, List.intercalate_singleton, other⟩
      | cons second more => exact ⟨b, _, block_cons_cons (b :: bytes) second more, other⟩

/-- Headers end at the first blank line. -/
theorem cutAtOnto?_block (written : List.Forall₂ IsHeader headers lines) (filled : lines ≠ []) (passed rest : Bytes) :
    cutAtOnto? blockEnd passed (block lines ++ (blockEnd ++ rest)) = some (passed.reverse ++ block lines, rest) := by
  induction written generalizing passed with
  | nil => exact absurd rfl filled
  | @cons h line headers lines header written ih =>
    cases lines with
    | nil =>
      rw [block, List.intercalate_singleton, cutAtOnto?_passes (header.passes _), cutAtOnto?_here (by decide)]
      simp
    | cons second more =>
      obtain ⟨b, bytes, shape, other⟩ := block_start written (List.cons_ne_nil _ _)
      have behind : block (second :: more) ++ (blockEnd ++ rest) = b :: (bytes ++ (blockEnd ++ rest)) := by
        rw [shape, List.cons_append]
      have whole : block (line :: second :: more) ++ (blockEnd ++ rest) =
          line ++ 13 :: 10 :: (block (second :: more) ++ (blockEnd ++ rest)) := by
        rw [block_cons_cons]
        simp
      -- the end of this line is no blank line, as the next one starts behind it
      have first : blockEnd.isPrefixOf (13 :: 10 :: b :: (bytes ++ (blockEnd ++ rest))) = false := by
        simp [blockEnd, lineEnd, List.isPrefixOf, other.symm]
      have goes := ih (List.cons_ne_nil _ _) (10 :: 13 :: (line.reverse ++ passed))
      rw [behind] at goes whole
      rw [whole, cutAtOnto?_passes (header.passes _), cutAtOnto?, first, if_neg Bool.false_ne_true, cutAtOnto?,
        if_neg (by simp [blockEnd, lineEnd, List.isPrefixOf]), goes, block_cons_cons]
      simp

theorem bareLine_of_not_mem (free : (13 : UInt8) ∉ line) : bareLine line = line := by
  rw [bareLine]
  split
  · next same =>
    have member : (13 : UInt8) ∈ line.reverse := same ▸ List.mem_cons_self
    exact absurd (List.mem_reverse.mp member) free
  · rfl

theorem bareLine_append (line : Bytes) : bareLine (line ++ [13]) = line := by
  simp [bareLine]

/-- A block of headers is cut into their lines. -/
theorem lines_block (written : List.Forall₂ IsHeader headers lines) (filled : lines ≠ []) :
    (splitAll 10 (block lines)).map bareLine = lines := by
  induction written with
  | nil => exact absurd rfl filled
  | @cons h line headers lines header written ih =>
    obtain ⟨free, unbroken⟩ := header.not_mem
    cases lines with
    | nil =>
      rw [block, List.intercalate_singleton, splitAll_of_not_mem unbroken, List.map_singleton,
        bareLine_of_not_mem free]
    | cons second more =>
      have whole : line ++ 13 :: 10 :: block (second :: more) = (line ++ [13]) ++ 10 :: block (second :: more) := by
        simp
      have ended : (10 : UInt8) ∉ line ++ [13] := by
        intro member
        rcases List.mem_append.mp member with inside | last
        · exact unbroken inside
        · exact absurd (List.mem_singleton.mp last) (by decide)
      rw [block_cons_cons, whole, splitAll_append_cons ended, List.map_cons, bareLine_append,
        ih (List.cons_ne_nil _ _)]

theorem mapM_header? (written : List.Forall₂ IsHeader headers lines) : lines.mapM header? = some headers := by
  induction written with
  | nil => rfl
  | cons header written ih =>
    rw [List.mapM_cons, header?_line header, ih]
    rfl

/-- The headers of a block are read back. -/
theorem headers?_block (written : List.Forall₂ IsHeader headers lines) (filled : lines ≠ [])
    (few : headers.length ≤ maxHeaders) : headers? (block lines) = some headers := by
  have shown : ∀ line ∈ lines, (!line.isEmpty) = true := by
    intro line member
    obtain ⟨i, bound, rfl⟩ := List.getElem_of_mem member
    have header := written.get (by rw [written.length_eq]; exact bound) bound
    simpa using header.printable.1
  have all : lines.takeWhile (fun line => !line.isEmpty) = lines := by
    rw [← List.append_nil lines, List.takeWhile_append_of_pos shown]
    rfl
  rw [headers?, lines_block written filled, all, mapM_header? written]
  exact if_pos few

end CallDesk.Web.Multipart
