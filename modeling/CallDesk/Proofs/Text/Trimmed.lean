import CallDesk.Proofs.Text.Split

/-! # Trimmed texts

Trimming leaves a text that neither starts nor ends with white space, and leaves such a text as it is. Something is
left of every text that has something besides white space, and nothing of any other.
-/

namespace CallDesk.Text

/-- A text that neither starts nor ends with white space. -/
structure IsTrimmed (s : String) : Prop where
  start : ∀ c ∈ s.toList.head?, isBlank c = false
  stop : ∀ c ∈ s.toList.getLast?, isBlank c = false

theorem head?_dropWhile_blank {cs : List Char} : ∀ c ∈ (cs.dropWhile isBlank).head?, isBlank c = false := by
  intro c first
  have stops := List.head?_dropWhile_not isBlank cs
  rw [first] at stops
  simpa using stops

theorem isTrimmed_trim (s : String) : IsTrimmed (trim s) := by
  constructor
  · intro c first
    rw [trim, String.toList_ofList, trimChars, trimRight] at first
    -- trimming the end leaves a front part of what trimming the start has left, and both start alike
    have front : ((trimLeft s.toList).reverse.dropWhile isBlank).reverse <+: trimLeft s.toList :=
      List.reverse_suffix.mp (by rw [List.reverse_reverse]; exact List.dropWhile_suffix _)
    obtain ⟨rest, whole⟩ := front
    apply head?_dropWhile_blank c
    change c ∈ (trimLeft s.toList).head?
    rw [← whole, List.head?_append, first]
    rfl
  · intro c last
    rw [trim, String.toList_ofList, trimChars, trimRight, List.getLast?_reverse] at last
    exact head?_dropWhile_blank c last

/-- A text that is trimmed is left as it is. -/
theorem IsTrimmed.trim {s : String} (trimmed : IsTrimmed s) : Text.trim s = s := by
  rw [Text.trim, trimChars_eq_self trimmed.start trimmed.stop, String.ofList_toList]

theorem trim_trim (s : String) : trim (trim s) = trim s := (isTrimmed_trim s).trim

/-- A text with something besides white space. -/
def IsFilled (s : String) : Prop := ∃ c ∈ s.toList, isBlank c = false

theorem isFilled_iff {s : String} : IsFilled s ↔ isBlankText s = false := by
  simp [IsFilled, isBlankText]

theorem trim_ne_empty_iff {s : String} : trim s ≠ "" ↔ IsFilled s := by
  rw [Ne, ← String.toList_eq_nil_iff, trim, String.toList_ofList, trimChars_eq_nil_iff, IsFilled]
  simp

end CallDesk.Text
