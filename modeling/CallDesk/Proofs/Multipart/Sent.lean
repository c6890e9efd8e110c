import CallDesk.Backend.Exchange
import CallDesk.Proofs.Json.Scalar
import CallDesk.Proofs.Multipart.Form

/-! # The form of a file that is sent

What a file is sent in is a form of its own. It has one part, with the name `file`, the file name and the contents
of the file.
-/

namespace CallDesk

open Text Web Web.Multipart

/-- A file that a form can hold: its name can be shown and has no backslash, and its contents do not hold the line of
a boundary. -/
structure Text.Fits (boundary name : String) (contents : Bytes) : Prop where
  line : 13 ∉ utf8 boundary ∧ 10 ∉ utf8 boundary
  printable : ∀ b ∈ utf8 name, isValueByte b = true
  plain : '\\' ∉ name.toList
  apart : ¬ delimiter (utf8 boundary) <:+: contents

namespace Text

theorem utf8_append (s t : String) : utf8 (s ++ t) = utf8 s ++ utf8 t := by
  rw [utf8_eq_flatMap, utf8_eq_flatMap, utf8_eq_flatMap, String.toList_append, List.flatMap_append]

/-- A byte of ASCII is the code of one character only. -/
theorem toNat_of_mem_encode {c : Char} {b : UInt8} (small : b.toNat < 128) (member : b ∈ String.utf8EncodeChar c) :
    c.toNat = b.toNat := by
  by_cases ascii : c.toNat < 128
  · rw [utf8EncodeChar_ascii ascii] at member
    rw [List.mem_singleton.mp member, UInt8.toNat_ofNat_of_lt' (Nat.lt_trans ascii (by decide))]
  · exact absurd (Json.le_of_mem_utf8EncodeChar (Nat.le_of_not_lt ascii) b member) (Nat.not_le.mpr small)

end Text

namespace Payload

variable {boundary name : String} {contents : Bytes}

/-- A file name without backslashes and ends of lines is quoted as the value of a label is. -/
theorem utf8_quotedName (printable : ∀ b ∈ utf8 name, isValueByte b = true) (plain : '\\' ∉ name.toList) :
    utf8 (quotedName name) = (utf8 name).flatMap quoteByte := by
  rw [quotedName, utf8_ofList, List.flatMap_assoc, utf8_eq_flatMap, List.flatMap_assoc]
  refine List.flatMap_congr fun c member => ?_
  have inside {b : UInt8} (byte : b ∈ String.utf8EncodeChar c) : isValueByte b = true :=
    printable b (by rw [utf8_eq_flatMap]; exact List.mem_flatMap.mpr ⟨c, member, byte⟩)
  by_cases quote : c = '"'
  · subst quote
    decide
  · have backslash : c ≠ '\\' := fun same => plain (same ▸ member)
    have carriage : c ≠ '\r' := by
      rintro rfl
      exact absurd (inside (b := 13) (by decide)) (by decide)
    have feed : c ≠ '\n' := by
      rintro rfl
      exact absurd (inside (b := 10) (by decide)) (by decide)
    have unquoted : (34 : UInt8) ∉ String.utf8EncodeChar c := fun byte =>
      quote (Char.toNat_inj.mp (toNat_of_mem_encode (by decide) byte))
    have kept : (String.utf8EncodeChar c).flatMap quoteByte = String.utf8EncodeChar c := by
      have each : ∀ b ∈ String.utf8EncodeChar c, quoteByte b = [b] := by
        intro b byte
        rw [quoteByte, if_neg]
        rintro rfl
        exact unquoted byte
      rw [List.flatMap_congr each, List.flatMap_singleton']
    simp [quote, backslash, carriage, feed, kept]

/-- What describes a file that is sent. -/
def disposition (name : String) : Bytes :=
  utf8 "form-data" ++ (59 :: [32] ++ (utf8 "name" ++ 61 :: 34 :: ((utf8 "file").flatMap quoteByte ++ [34]))) ++
    (59 :: [32] ++ (utf8 "filename" ++ 61 :: 34 :: (utf8 (quotedName name) ++ [34])))

theorem describes_disposition (fits : Fits boundary name contents) :
    Describes ⟨some "file", some name, contents⟩ (disposition name) := by
  have last : (utf8 name).getLast? ≠ some 92 := by
    intro ends
    have member := List.mem_of_getLast? ends
    rw [utf8_eq_flatMap] at member
    obtain ⟨c, inside, byte⟩ := List.mem_flatMap.mp member
    obtain rfl : c = '\\' := Char.toNat_inj.mp (toNat_of_mem_encode (by decide) byte)
    exact fits.plain inside
  have blank : ∀ b ∈ ([32] : Bytes), isLineBlank b = true := List.forall_mem_singleton.mpr rfl
  refine .nameFirst (.mk blank (.quoted (by decide +kernel) (by decide +kernel))) (.mk blank ?_)
  rw [utf8_quotedName fits.printable fits.plain]
  exact .quoted fits.printable last

/-- The lines of headers of a file that is sent. -/
def headerLines (name : String) : List Bytes :=
  [utf8 "Content-Disposition" ++ 58 :: 32 :: disposition name, utf8 "Content-Type" ++ 58 :: 32 :: utf8 "text/csv"]

theorem headerLines_headers (fits : Fits boundary name contents) : List.Forall₂ IsHeader
    [("content-disposition", disposition name), ("content-type", utf8 "text/csv")] (headerLines name) := by
  have type : IsPlain (utf8 "text/csv") := by
    constructor <;> decide +kernel
  have first := isHeader_spaced "Content-Disposition" (by decide +kernel) (by decide +kernel)
    (describes_disposition fits).plain
  have second := isHeader_spaced "Content-Type" (by decide +kernel) (by decide +kernel) type
  have introduction : lower "Content-Disposition" = "content-disposition" := by decide +kernel
  have kind : lower "Content-Type" = "content-type" := by decide +kernel
  rw [introduction] at first
  rw [kind] at second
  exact .cons first (.cons second .nil)

/-- A file that is sent stands between two boundaries. -/
theorem bytes_file (boundary name : String) (contents : Bytes) : (file name contents).bytes boundary =
    [45, 45] ++ utf8 boundary ++ (lineEnd ++ (block (headerLines name) ++ (blockEnd ++ contents)) ++
      (delimiter (utf8 boundary) ++ 45 :: 45 :: lineEnd)) := by
  have dashes : utf8 "--" = [45, 45] := by decide +kernel
  have front : utf8 "\r\nContent-Disposition: form-data; name=\"file\"; filename=\"" =
      lineEnd ++ (utf8 "Content-Disposition" ++ 58 :: 32 :: (utf8 "form-data" ++ (59 :: [32] ++ (utf8 "name" ++
        61 :: 34 :: ((utf8 "file").flatMap quoteByte ++ [34]))) ++ (59 :: [32] ++ (utf8 "filename" ++ [61, 34])))) := by
    decide +kernel
  have rear : utf8 "\"\r\nContent-Type: text/csv\r\n\r\n" =
      34 :: (lineEnd ++ (utf8 "Content-Type" ++ 58 :: 32 :: utf8 "text/csv") ++ blockEnd) := by decide +kernel
  have next : utf8 "\r\n--" = lineEnd ++ [45, 45] := by decide +kernel
  have last : utf8 "--\r\n" = 45 :: 45 :: lineEnd := by decide +kernel
  simp only [bytes, utf8_append, dashes, front, rear, next, last, headerLines, block, List.intercalate_cons_cons,
    List.intercalate_singleton, disposition, delimiter, List.append_assoc, List.cons_append, List.nil_append]

/-- A file that is sent is written as a part. -/
theorem file_writes (fits : Fits boundary name contents) : Writes (utf8 boundary) ⟨some "file", some name, contents⟩
    (lineEnd ++ (block (headerLines name) ++ (blockEnd ++ contents))) := by
  have others : ∀ h ∈ [] ++ [("content-type", utf8 "text/csv")], h.1 ≠ "content-disposition" := by simp
  exact .unpadded [] _ (headerLines_headers fits) (describes_disposition fits) others (by decide) fits.apart

/-- What a file is sent in is a form with one part. -/
theorem file_isForm (fits : Fits boundary name contents) :
    IsForm boundary [⟨some "file", some name, contents⟩] ((file name contents).bytes boundary) := by
  rw [bytes_file]
  exact .direct fits.line (.cons (file_writes fits) (.nil lineEnd))

end Payload

end CallDesk
