import CallDesk.Web.Multipart

/-! # Finding a pattern

Bytes are cut at the first place where a pattern stands. The bytes before that place are passed: no pattern
starts among them, neither one that lies within them nor one that goes on behind them.
-/

namespace CallDesk.Web.Multipart

open Text

variable {pattern before : Bytes}

/-- No pattern starts in bytes that a rest follows. -/
def Passes (pattern before rest : Bytes) : Prop := ∀ t, t ≠ [] → t <:+ before → ¬ pattern <+: t ++ rest

theorem cutAtOnto?_passes {rest : Bytes} (passes : Passes pattern before rest) (passed : Bytes) :
    cutAtOnto? pattern passed (before ++ rest) = cutAtOnto? pattern (before.reverse ++ passed) rest := by
  induction before generalizing passed with
  | nil => rfl
  | cons b before ih =>
    have here : ¬ pattern.isPrefixOf (b :: (before ++ rest)) = true := fun start =>
      passes (b :: before) (List.cons_ne_nil b before) (List.suffix_refl _) (List.isPrefixOf_iff_prefix.mp start)
    have later : Passes pattern before rest := fun t filled suffix =>
      passes t filled (suffix.trans (List.suffix_cons b before))
    rw [List.cons_append, cutAtOnto?, if_neg here, ih later, List.reverse_cons, List.append_assoc]
    rfl

/-- A pattern that stands at the front is cut off. -/
theorem cutAtOnto?_here (filled : pattern ≠ []) (passed after : Bytes) :
    cutAtOnto? pattern passed (pattern ++ after) = some (passed.reverse, after) := by
  cases pattern with
  | nil => exact absurd rfl filled
  | cons p tail =>
    have here : (p :: tail).isPrefixOf (p :: (tail ++ after)) = true :=
      List.isPrefixOf_iff_prefix.mpr (List.prefix_append (p :: tail) after)
    rw [List.cons_append, cutAtOnto?, if_pos here, ← List.cons_append, List.drop_left]

/-- Bytes are cut at a pattern that starts nowhere earlier. -/
theorem cutAt?_passes (filled : pattern ≠ []) {after : Bytes} (passes : Passes pattern before (pattern ++ after)) :
    cutAt? pattern (before ++ (pattern ++ after)) = some (before, after) := by
  rw [cutAt?, cutAtOnto?_passes passes, cutAtOnto?_here filled, List.append_nil, List.reverse_reverse]

/-- Bytes that do not hold a pattern are passed when their last byte is none of the pattern. -/
theorem passes_of_last (absent : ¬ pattern <:+: before) (last : ∀ b ∈ before.getLast?, b ∉ pattern) (rest : Bytes) :
    Passes pattern before rest := by
  intro t filled suffix start
  rcases List.prefix_or_prefix_of_prefix start (List.prefix_append t rest) with inside | onward
  · exact absent (inside.isInfix.trans suffix.isInfix)
  · have ending : before.getLast? = some (t.getLast filled) := by
      obtain ⟨first, rfl⟩ := suffix
      rw [List.getLast?_append, List.getLast?_eq_some_getLast filled, Option.some_or]
    exact last _ ending (onward.subset (List.getLast_mem filled))

/-- A pattern whose first byte does not come back in it does not start in bytes that do not hold it. -/
theorem passes_of_marker {p : UInt8} {tail : Bytes} (alone : p ∉ tail) (absent : ¬ (p :: tail) <:+: before)
    (after : Bytes) : Passes (p :: tail) before (p :: tail ++ after) := by
  intro t filled suffix start
  rcases List.prefix_or_prefix_of_prefix start (List.prefix_append t _) with inside | onward
  · exact absent (inside.isInfix.trans suffix.isInfix)
  · -- The pattern would start anew where the bytes end, in the middle of the one that started before.
    obtain ⟨more, whole⟩ := onward
    rw [← whole, List.prefix_append_right_inj, whole] at start
    cases t with
    | nil => exact filled rfl
    | cons b t =>
      obtain ⟨rfl, rfl⟩ := List.cons_eq_cons.mp whole
      cases more with
      | nil => exact absent (by simpa using suffix.isInfix)
      | cons c more =>
        obtain ⟨rfl, -⟩ := List.cons_prefix_cons.mp start
        exact alone (List.mem_append_right t List.mem_cons_self)

/-- Bytes that do not hold a pattern are not cut. -/
theorem cutAt?_absent (absent : ¬ pattern <:+: before) : cutAt? pattern before = none := by
  have filled : pattern ≠ [] := fun empty => absent (empty ▸ List.nil_infix)
  have passes : Passes pattern before [] := by
    intro t _ suffix start
    rw [List.append_nil] at start
    exact absent (start.isInfix.trans suffix.isInfix)
  have none := cutAtOnto?_passes passes []
  rw [List.append_nil] at none
  rw [cutAt?, none, cutAtOnto?, if_neg (by simpa using filled)]

/-- Bytes that do not hold one of the bytes of a pattern do not hold the pattern. -/
theorem absent_of_not_mem {b : UInt8} (member : b ∈ pattern) (missing : b ∉ before) : ¬ pattern <:+: before :=
  fun inside => missing (inside.subset member)

/-- A pattern stands on one side of a byte that is none of its own. -/
theorem absent_append_cons {b : UInt8} {rest : Bytes} (other : b ∉ pattern) (first : ¬ pattern <:+: before)
    (second : ¬ pattern <:+: rest) : ¬ pattern <:+: before ++ b :: rest := by
  intro inside
  rcases List.infix_append_iff.mp inside with left | right | ⟨start, more, rfl, ending, onward⟩
  · exact first left
  · rcases List.infix_cons_iff.mp right with here | later
    · cases pattern with
      | nil => exact first List.nil_infix
      | cons p tail =>
        obtain ⟨rfl, -⟩ := List.cons_prefix_cons.mp here
        exact other List.mem_cons_self
    · exact second later
  · cases more with
    | nil => exact first (by simpa using ending.isInfix)
    | cons c more =>
      obtain ⟨rfl, -⟩ := List.cons_prefix_cons.mp onward
      exact other (List.mem_append_right start List.mem_cons_self)

end CallDesk.Web.Multipart
