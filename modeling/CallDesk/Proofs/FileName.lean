import CallDesk.FileName
import CallDesk.Proofs.Text.Percent
import CallDesk.Proofs.Text.Split
import Mathlib.Data.List.Forall2

/-! # The extensions of files

The name that a path ends with is found once the slashes and the `/.` at its end are dropped: it is what stands behind
the last slash that is left. Its extension stands behind its last dot, if something stands before that dot, and is
compared letter by letter, where the case of ASCII letters does not matter. Nothing else of a path counts.
-/

namespace CallDesk.FileName

open Text

/-! ## The last part of a path -/

/-- A path that is read from its end, without the slashes and the `/.` there. -/
def bareEnd : List Char → List Char
  | '/' :: rest => bareEnd rest
  | '.' :: '/' :: rest => bareEnd rest
  | cs => cs

/-- The name that a path ends with: what stands behind the last slash, but for slashes and `/.` at the end. -/
def lastPart (path : String) : List Char := ((bareEnd path.toList.reverse).takeWhile (· != '/')).reverse

/-- A part names nothing when it is empty or a single dot. -/
def isIdle (part : List Char) : Bool := part.isEmpty || part == ['.']

/-- A path without slashes is one part, if it is anything. -/
theorem parts_of_not_mem {name : List Char} (whole : '/' ∉ name) :
    parts (.ofList name) = if name.isEmpty then [] else [name] := by
  rw [parts, String.toList_ofList, splitAll_of_not_mem whole]
  cases name <;> rfl

/-- What stands behind the last slash comes first, unless it names nothing. -/
theorem parts_append {name : List Char} (whole : '/' ∉ name) (front : List Char) :
    parts (.ofList (front ++ '/' :: name)) = (if isIdle name then [] else [name]) ++ parts (.ofList front) := by
  have pieces : splitAll '/' front ≠ [] := by
    rw [splitAll_eq_splitOn]
    exact List.splitOn_ne_nil _ _
  obtain ⟨first, rest, cut⟩ := List.exists_cons_of_ne_nil pieces
  have kept : (!name.isEmpty && name != ['.']) = !isIdle name := by rw [isIdle, Bool.not_or]; rfl
  rw [parts, parts, String.toList_ofList, String.toList_ofList, splitAll_append, splitAll_of_not_mem whole, cut]
  simp only [List.cons_append, List.filter_append, List.filter_cons, List.filter_nil, kept, List.reverse_append]
  cases isIdle name <;> simp

/-- A path ends in its last part, behind a slash if anything stands before it. -/
theorem exists_front (cs : List Char) :
    ∃ name, '/' ∉ name ∧ (cs.takeWhile (· != '/')).reverse = name ∧
      (cs.reverse = name ∨ ∃ rest, cs = name.reverse ++ '/' :: rest) := by
  refine ⟨_, ?_, rfl, ?_⟩
  · intro member
    have other := List.mem_takeWhile_imp (List.mem_reverse.mp member)
    contradiction
  · have whole := List.takeWhile_append_dropWhile (p := (· != '/')) (l := cs)
    cases left : cs.dropWhile (· != '/') with
    | nil =>
      rw [left, List.append_nil] at whole
      exact .inl (by rw [whole])
    | cons c rest =>
      have stops := List.head?_dropWhile_not (· != '/') cs
      rw [left] at stops
      obtain rfl : c = '/' := by simpa using stops
      rw [left] at whole
      exact .inr ⟨rest, by rw [List.reverse_reverse, whole]⟩

/-- The parts of a path start with the last one, if there is any. -/
theorem head?_parts (cs : List Char) :
    (parts (.ofList cs.reverse)).head? = (some ((bareEnd cs).takeWhile (· != '/')).reverse).filter (!·.isEmpty) := by
  fun_induction bareEnd cs with
  | case1 rest ih =>
    rw [List.reverse_cons, parts_append (by simp)]
    exact ih
  | case2 rest ih =>
    rw [List.reverse_cons, List.reverse_cons, List.append_assoc, List.singleton_append, parts_append (by simp)]
    exact ih
  | case3 cs noSlash noDot =>
    obtain ⟨name, whole, same, alone | ⟨rest, rfl⟩⟩ := exists_front cs
    · rw [same, alone, parts_of_not_mem whole]
      cases name <;> rfl
    · have names : isIdle name = false := by
        rw [isIdle, Bool.or_eq_false_iff, List.isEmpty_eq_false_iff, beq_eq_false_iff_ne]
        constructor
        · rintro rfl
          exact noSlash rest rfl
        · rintro rfl
          exact noDot rest rfl
      rw [same, List.reverse_append, List.reverse_reverse, List.reverse_cons, List.append_assoc,
        List.singleton_append, parts_append whole, names]
      rw [isIdle, Bool.or_eq_false_iff] at names
      rw [if_neg Bool.false_ne_true, List.singleton_append, List.head?_cons, Option.filter_some, names.1]
      rfl

/-! ## Extensions -/

/-- A name has an extension: behind a stem and a dot, with no dot in it. The name `..` has none. -/
structure Extends (name ext : List Char) : Prop where
  named : name ≠ ['.', '.']
  stemmed : ∃ stem, stem ≠ [] ∧ name = stem ++ '.' :: ext
  last : '.' ∉ ext

theorem split?_eq_some_iff {name stem ext : List Char} :
    split? name = some (stem, ext) ↔ name ≠ ['.', '.'] ∧ stem ≠ [] ∧ name = stem ++ '.' :: ext ∧ '.' ∉ ext := by
  constructor
  · intro read
    rw [split?] at read
    split at read
    · contradiction
    · next named =>
      split at read
      · next behind before cut =>
        split at read
        · contradiction
        · next filled =>
          obtain ⟨rfl, rfl⟩ := Prod.mk.inj (Option.some.inj read)
          obtain ⟨whole, last⟩ := cut?_eq_some_iff.mp cut
          refine ⟨by simpa using named, by simpa using filled, ?_, by simpa using last⟩
          rw [List.reverse_eq_iff] at whole
          simpa using whole
      · contradiction
  · rintro ⟨named, filled, rfl, last⟩
    have cut : cut? '.' (stem ++ '.' :: ext).reverse = some (ext.reverse, stem.reverse) :=
      cut?_eq_some_iff.mpr ⟨by simp, by simpa using last⟩
    rw [split?, if_neg (by simpa using named), cut]
    simp [filled]

theorem extension?_eq_some_iff {path : String} {ext : List Char} :
    extension? path = some ext ↔ Extends (lastPart path) ext := by
  have first := head?_parts path.toList.reverse
  rw [List.reverse_reverse, String.ofList_toList] at first
  change (parts path).head? = (some (lastPart path)).filter (!·.isEmpty) at first
  have read : extension? path = (split? (lastPart path)).map (·.2) := by
    rw [extension?]
    cases found : parts path with
    | nil =>
      rw [found, List.head?_nil, eq_comm, Option.filter_eq_none_iff] at first
      have empty : lastPart path = [] := by simpa using first _ rfl
      rw [empty]
      rfl
    | cons name rest =>
      rw [found, List.head?_cons, eq_comm, Option.filter_eq_some_iff] at first
      rw [Option.some.inj first.1]
  rw [read, Option.map_eq_some_iff]
  constructor
  · rintro ⟨⟨stem, ext⟩, cut, rfl⟩
    obtain ⟨named, filled, whole, last⟩ := split?_eq_some_iff.mp cut
    exact ⟨named, ⟨stem, filled, whole⟩, last⟩
  · rintro ⟨named, ⟨stem, filled, whole⟩, last⟩
    exact ⟨(stem, ext), split?_eq_some_iff.mpr ⟨named, filled, whole, last⟩, rfl⟩

/-! ## Letters in either case -/

/-- The same character, or the same ASCII letter in the other case. -/
inductive SameLetter : Char → Char → Prop
  | same (c : Char) : SameLetter c c
  | lowered {upper lower : Char} (letter : 'A' ≤ upper ∧ upper ≤ 'Z') (cased : lower.toNat = upper.toNat + 32) :
      SameLetter upper lower
  | raised {upper lower : Char} (letter : 'A' ≤ upper ∧ upper ≤ 'Z') (cased : lower.toNat = upper.toNat + 32) :
      SameLetter lower upper

/-- Texts that are the same up to the case of ASCII letters. -/
abbrev SameLetters (s t : List Char) : Prop := List.Forall₂ SameLetter s t

theorem bounds_iff {c : Char} : 'A' ≤ c ∧ c ≤ 'Z' ↔ 65 ≤ c.toNat ∧ c.toNat ≤ 90 := Iff.rfl

theorem toNat_lower (c : Char) : (lower c).toNat = if 65 ≤ c.toNat ∧ c.toNat ≤ 90 then c.toNat + 32 else c.toNat := by
  rw [lower]
  by_cases letter : 65 ≤ c.toNat ∧ c.toNat ≤ 90
  · rw [if_pos (bounds_iff.mpr letter), if_pos letter]
    exact toNat_ofNat (by omega)
  · rw [if_neg (bounds_iff.not.mpr letter), if_neg letter]

theorem lower_eq_iff {c d : Char} : lower c = lower d ↔ SameLetter c d := by
  constructor
  · intro same
    have codes := congrArg Char.toNat same
    rw [toNat_lower, toNat_lower] at codes
    split at codes
    · next first =>
      split at codes
      · obtain rfl : c = d := Char.toNat_inj.mp (by omega)
        exact .same c
      · exact .lowered (bounds_iff.mpr first) codes.symm
    · split at codes
      · next second => exact .raised (bounds_iff.mpr second) codes
      · obtain rfl : c = d := Char.toNat_inj.mp codes
        exact .same c
  · intro same
    apply Char.toNat_inj.mp
    rw [toNat_lower, toNat_lower]
    cases same with
    | same => rfl
    | lowered letter cased =>
      rw [bounds_iff] at letter
      rw [if_pos letter, if_neg (by omega), cased]
    | raised letter cased =>
      rw [bounds_iff] at letter
      rw [if_pos letter, if_neg (by omega), cased]

theorem map_lower_eq_iff {s t : List Char} : s.map lower = t.map lower ↔ SameLetters s t := by
  rw [← List.forall₂_eq_eq_eq, List.forall₂_map_left_iff, List.forall₂_map_right_iff]
  simp only [lower_eq_iff]

/-! ## The test -/

/-- A file has one of some extensions when the last part of its path has it, up to the case of ASCII letters. -/
theorem hasExtension_iff {path : String} {allowed : List String} :
    hasExtension path allowed = true ↔
      ∃ ext, Extends (lastPart path) ext ∧ ∃ a ∈ allowed, SameLetters a.toList ext := by
  rw [hasExtension]
  cases read : extension? path with
  | none =>
    refine iff_of_false Bool.false_ne_true ?_
    rintro ⟨ext, has, -⟩
    rw [extension?_eq_some_iff.mpr has] at read
    contradiction
  | some ext =>
    have has := extension?_eq_some_iff.mp read
    simp only [List.any_eq_true, beq_iff_eq, map_lower_eq_iff]
    constructor
    · exact fun found => ⟨ext, has, found⟩
    · rintro ⟨other, has', found⟩
      obtain rfl := Option.some.inj (read.symm.trans (extension?_eq_some_iff.mpr has'))
      exact found

/-- The extension of a file decides whether it is accepted, and of its path only the last part counts. A table of
comma-separated values has the extension `csv`. -/
theorem extension_decides (path : String) (allowed : List String) :
    (hasExtension path allowed = true ↔
      ∃ ext, Extends (lastPart path) ext ∧ ∃ a ∈ allowed, SameLetters a.toList ext) ∧
    (∀ other, lastPart other = lastPart path → hasExtension other allowed = hasExtension path allowed) ∧
    (isCsv path = true ↔ ∃ ext, Extends (lastPart path) ext ∧ SameLetters ['c', 's', 'v'] ext) := by
  refine ⟨hasExtension_iff, fun other same => ?_, ?_⟩
  · rw [Bool.eq_iff_iff, hasExtension_iff, hasExtension_iff, same]
  · rw [isCsv, hasExtension_iff]
    simp

/-- Slashes at the end and the dots of a hidden file are no extension. -/
theorem extension_decides_hidden : lastPart "old/.Leads.CSV/./" = lastPart ".Leads.CSV" ∧
    isCsv "old/.Leads.CSV/./" = true ∧ isCsv "leads.csv/.csv" = false := by
  have same : lastPart "old/.Leads.CSV/./" = lastPart ".Leads.CSV" := by decide +kernel
  have moved := (extension_decides ".Leads.CSV" ["csv"]).2.1 "old/.Leads.CSV/./" same
  exact ⟨same, moved.trans (by decide +kernel), by decide +kernel⟩

end CallDesk.FileName
