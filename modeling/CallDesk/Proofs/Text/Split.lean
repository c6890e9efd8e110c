import CallDesk.Text.Blank
import CallDesk.Text.FormData
import Mathlib.Data.List.TakeDrop
import Mathlib.Data.List.TakeWhile

/-! # Cutting texts

Texts are cut at separators and freed of blanks at their ends. A piece without the separator is
found again as it was put in, and a text without blanks at its ends is left as it is.
-/

namespace CallDesk.Text

section

variable {α : Type} [BEq α]

private theorem splitOnto_eq (sep : α) (done : List (List α)) (current l : List α) :
    splitOnto sep done current l = done.reverse ++ l.splitOnPPrepend (· == sep) current := by
  fun_induction splitOnto sep done current l with
  | case1 done current => simp
  | case2 done current a rest same ih =>
    rw [ih, List.splitOnPPrepend_cons_eq_if, if_pos same]
    simp
  | case3 done current a rest other ih =>
    rw [ih, List.splitOnPPrepend_cons_eq_if, if_neg other]

theorem splitAll_eq_splitOn (sep : α) (l : List α) : splitAll sep l = l.splitOn sep := by
  rw [splitAll, splitOnto_eq]
  rfl

variable [LawfulBEq α] {sep : α} {l : List α}

/-- A list without the separator is one piece. -/
theorem splitAll_of_not_mem (whole : sep ∉ l) : splitAll sep l = [l] := by
  rw [splitAll_eq_splitOn, List.splitOn_eq_singleton whole]

/-- The first piece ends at the first separator. -/
theorem splitAll_append_cons (whole : sep ∉ l) (rest : List α) :
    splitAll sep (l ++ sep :: rest) = l :: splitAll sep rest := by
  rw [splitAll_eq_splitOn, splitAll_eq_splitOn, List.splitOn_append_cons_self_of_not_mem whole]

/-- A separator ends the pieces before it. -/
theorem splitAll_append (before after : List α) :
    splitAll sep (before ++ sep :: after) = splitAll sep before ++ splitAll sep after := by
  rw [splitAll_eq_splitOn, splitAll_eq_splitOn, splitAll_eq_splitOn, List.splitOn_append_cons_self]

/-- Separators at the end are empty pieces. -/
theorem splitAll_append_replicate (l : List α) (n : Nat) :
    splitAll sep (l ++ List.replicate n sep) = splitAll sep l ++ List.replicate n [] := by
  induction n with
  | zero => rw [List.replicate_zero, List.append_nil, List.replicate_zero, List.append_nil]
  | succ n ih =>
    have shift : l ++ List.replicate (n + 1) sep = (l ++ List.replicate n sep) ++ [sep] := by
      rw [List.replicate_succ', List.append_assoc]
    rw [shift, splitAll_append, ih, List.replicate_succ', List.append_assoc]
    rfl

/-- The last piece is empty only when the list ends in a separator or is itself empty. -/
theorem exists_last_piece (sep : α) (l : List α) :
    ∃ first last, splitAll sep l = first ++ [last] ∧ (last = [] → l = [] ∨ l.getLast? = some sep) := by
  by_cases cut : sep ∈ l
  · obtain ⟨after, before, whole, free⟩ := List.eq_append_cons_of_mem (List.mem_reverse.mpr cut)
    obtain rfl : l = before.reverse ++ sep :: after.reverse := by
      rw [← List.reverse_reverse l, whole]
      simp
    refine ⟨splitAll sep before.reverse, after.reverse, ?_, fun empty => .inr ?_⟩
    · rw [splitAll_append, splitAll_of_not_mem fun member => free (List.mem_reverse.mp member)]
    · rw [empty, List.getLast?_concat]
  · exact ⟨[], l, splitAll_of_not_mem cut, .inl⟩

/-- A list without the separator is not cut. -/
theorem cut?_of_not_mem (whole : sep ∉ l) : cut? sep l = none := by
  have kept : l.dropWhile (· != sep) = [] := by
    rw [List.dropWhile_eq_nil_iff]
    intro a member
    exact bne_iff_ne.mpr fun same => whole (same ▸ member)
  rw [cut?, List.span_eq_takeWhile_dropWhile, kept]

/-- A list is cut at its first separator. -/
theorem cut?_append_cons (whole : sep ∉ l) (rest : List α) : cut? sep (l ++ sep :: rest) = some (l, rest) := by
  have kept : ∀ a ∈ l, (a != sep) = true := fun a member => bne_iff_ne.mpr fun h => whole (h ▸ member)
  have stop : (sep != sep) = false := bne_self_eq_false sep
  have cut : (l ++ sep :: rest).span (· != sep) = (l, sep :: rest) := by
    rw [List.span_eq_takeWhile_dropWhile, List.takeWhile_append_of_pos kept, List.dropWhile_append_of_pos kept,
      List.takeWhile_cons_of_neg (by simp), List.dropWhile_cons_of_neg (by simp), List.append_nil]
  simp only [cut?, cut]

/-- A list is cut at its first separator, and in no other way. -/
theorem cut?_eq_some_iff {before after : List α} :
    cut? sep l = some (before, after) ↔ l = before ++ sep :: after ∧ sep ∉ before := by
  constructor
  · intro cut
    by_cases member : sep ∈ l
    · obtain ⟨first, rest, rfl, whole⟩ := List.eq_append_cons_of_mem member
      obtain ⟨rfl, rfl⟩ := Prod.mk.inj (Option.some.inj ((cut?_append_cons whole rest).symm.trans cut))
      exact ⟨rfl, whole⟩
    · rw [cut?_of_not_mem member] at cut
      contradiction
  · rintro ⟨rfl, whole⟩
    exact cut?_append_cons whole after

/-- The parts that a list is cut into are the list, but for the separator between them. -/
theorem eq_append_of_cut? {before after : List α} (cut : cut? sep l = some (before, after)) :
    l = before ++ sep :: after := (cut?_eq_some_iff.mp cut).1

end

/-! ## Blanks at the ends -/

/-- Visible characters of ASCII are not blank. -/
theorem isBlank_of_visible {c : Char} (low : 32 < c.toNat) (high : c.toNat < 127) : isBlank c = false := by
  simp only [isBlank, Bool.or_eq_false_iff, Bool.and_eq_false_iff, decide_eq_false_iff_not, beq_eq_false_iff_ne]
  omega

/-- A blank at the start is dropped. -/
theorem trimChars_cons {c : Char} (blank : isBlank c = true) (cs : List Char) :
    trimChars (c :: cs) = trimChars cs := by
  rw [trimChars, trimLeft, List.dropWhile_cons_of_pos blank]
  rfl

/-- Blanks at the start are dropped. -/
theorem trimChars_append {lead : List Char} (blank : ∀ x ∈ lead, isBlank x = true) (cs : List Char) :
    trimChars (lead ++ cs) = trimChars cs := by
  induction lead with
  | nil => rfl
  | cons x lead ih =>
    rw [List.cons_append, trimChars_cons (blank x List.mem_cons_self)]
    exact ih fun y member => blank y (List.mem_cons_of_mem x member)

/-- Blanks at the end are dropped. -/
theorem trimChars_append_blanks {rest : List Char} (blank : ∀ c ∈ rest, isBlank c = true) (cs : List Char) :
    trimChars (cs ++ rest) = trimChars cs := by
  have dropped (cs : List Char) : trimRight (cs ++ rest) = trimRight cs := by
    have reversed : ∀ c ∈ rest.reverse, isBlank c = true := fun c member => blank c (List.mem_reverse.mp member)
    rw [trimRight, List.reverse_append, List.dropWhile_append_of_pos reversed, trimRight]
  rw [trimChars, trimLeft, List.dropWhile_append]
  split
  · next empty =>
    have none : cs.dropWhile isBlank = [] := List.isEmpty_iff.mp empty
    rw [List.dropWhile_eq_nil_iff.mpr blank, trimChars, trimLeft, none]
  · rw [dropped, trimChars, trimLeft]

/-- What is left of a text is at the start of it, once the blanks before it are dropped. -/
theorem exists_trimChars_front (cs : List Char) : trimChars cs <+: trimLeft cs := by
  rw [trimChars, trimRight, ← List.reverse_suffix, List.reverse_reverse]
  exact List.dropWhile_suffix _

/-- A text is what is left of it between blanks. -/
theorem exists_around_trimChars (cs : List Char) :
    ∃ lead rest, cs = lead ++ trimChars cs ++ rest ∧ (∀ c ∈ lead, isBlank c = true) ∧ ∀ c ∈ rest, isBlank c = true := by
  have tail : trimLeft cs = trimChars cs ++ ((trimLeft cs).reverse.takeWhile isBlank).reverse := by
    rw [trimChars, trimRight, ← List.reverse_append, List.takeWhile_append_dropWhile, List.reverse_reverse]
  refine ⟨cs.takeWhile isBlank, ((trimLeft cs).reverse.takeWhile isBlank).reverse, ?_, ?_, ?_⟩
  · rw [List.append_assoc, ← tail, trimLeft, List.takeWhile_append_dropWhile]
  · exact fun c member => List.mem_takeWhile_imp member
  · exact fun c member => List.mem_takeWhile_imp (List.mem_reverse.mp member)

/-- Nothing is left of a text that is blank, and something of any other. -/
theorem trimChars_eq_nil_iff {cs : List Char} : trimChars cs = [] ↔ ∀ c ∈ cs, isBlank c = true := by
  rw [trimChars, trimRight, List.reverse_eq_nil_iff, List.dropWhile_eq_nil_iff, trimLeft]
  constructor
  · intro blank c member
    rw [← List.takeWhile_append_dropWhile (p := isBlank) (l := cs), List.mem_append] at member
    rcases member with dropped | kept
    · exact List.mem_takeWhile_imp dropped
    · exact blank c (List.mem_reverse.mpr kept)
  · intro blank c member
    exact blank c ((List.dropWhile_sublist _).subset (List.mem_reverse.mp member))

/-- A text is blank when nothing is left of it without the blanks at its ends. -/
theorem trim_isEmpty (s : String) : (trim s).isEmpty = isBlankText s := by
  rw [Bool.eq_iff_iff, String.isEmpty_iff, ← String.toList_eq_nil_iff, trim, String.toList_ofList,
    trimChars_eq_nil_iff, isBlankText, List.all_eq_true]

/-- A text between characters that are not blank is left as it is. -/
theorem trimChars_eq_self {cs : List Char} (start : ∀ c, cs.head? = some c → isBlank c = false)
    (stop : ∀ c, cs.getLast? = some c → isBlank c = false) : trimChars cs = cs := by
  have left : trimLeft cs = cs := by
    cases cs with
    | nil => rfl
    | cons c rest =>
      rw [trimLeft, List.dropWhile_cons_of_neg]
      simp [start c rfl]
  have right : (cs.reverse.dropWhile isBlank) = cs.reverse := by
    cases reversed : cs.reverse with
    | nil => rfl
    | cons c rest =>
      have last : cs.getLast? = some c := by rw [← List.head?_reverse, reversed, List.head?_cons]
      rw [List.dropWhile_cons_of_neg]
      simp [stop c last]
  rw [trimChars, left, trimRight, right, List.reverse_reverse]

end CallDesk.Text
