import CallDesk.Proofs.Text.Split

/-! # Words

The words of a text are what stands between its blanks. A blank parts the words before it from those after it,
and everything else follows: blanks at the ends of a text are in no word, and counting the characters that start
a word counts the words.
-/

namespace CallDesk.Text

/-- The words of a list of characters: the pieces between its blanks, without the empty ones. -/
def words (cs : List Char) : List (List Char) := (cs.splitOnP isBlank).filter (· ≠ [])

theorem words_nil : words [] = [] := by
  rw [words, List.splitOnP_nil]
  rfl

/-- A blank parts words. -/
theorem words_append_cons {c : Char} (blank : isBlank c = true) (cs ds : List Char) :
    words (cs ++ c :: ds) = words cs ++ words ds := by
  rw [words, List.splitOnP_append_cons cs ds blank, List.filter_append, words, words]

theorem words_cons_blank {c : Char} (blank : isBlank c = true) (cs : List Char) : words (c :: cs) = words cs := by
  rw [← List.nil_append (c :: cs), words_append_cons blank, words_nil, List.nil_append]

/-- Blanks at the start are in no word. -/
theorem words_append {lead : List Char} (blank : ∀ c ∈ lead, isBlank c = true) (cs : List Char) :
    words (lead ++ cs) = words cs := by
  induction lead with
  | nil => rfl
  | cons c lead ih =>
    rw [List.cons_append, words_cons_blank (blank c List.mem_cons_self)]
    exact ih fun d member => blank d (List.mem_cons_of_mem c member)

/-- Blanks at the end are in no word. -/
theorem words_append_blanks {rest : List Char} (blank : ∀ c ∈ rest, isBlank c = true) (cs : List Char) :
    words (cs ++ rest) = words cs := by
  cases rest with
  | nil => rw [List.append_nil]
  | cons c rest =>
    have none : words rest = [] := by
      rw [← List.append_nil rest, words_append fun d member => blank d (List.mem_cons_of_mem c member), words_nil]
    rw [words_append_cons (blank c List.mem_cons_self), none, List.append_nil]

/-- What stands between the texts of two lists stands between the lists too. -/
theorem intercalate_append {sep : List Char} {before after : List (List Char)} (first : before ≠ [])
    (rest : after ≠ []) :
    sep.intercalate (before ++ after) = sep.intercalate before ++ sep ++ sep.intercalate after := by
  induction before with
  | nil => contradiction
  | cons part before ih =>
    cases before with
    | nil =>
      obtain ⟨next, others, rfl⟩ := List.exists_cons_of_ne_nil rest
      rw [List.singleton_append, List.intercalate_cons_cons, List.intercalate_singleton]
    | cons next before =>
      rw [List.cons_append, List.cons_append, List.intercalate_cons_cons, List.intercalate_cons_cons,
        ← List.cons_append, ih (List.cons_ne_nil _ _)]
      simp only [List.append_assoc]

/-- Texts with a blank between them have their words one after the other. -/
theorem words_intercalate {c : Char} (blank : isBlank c = true) (parts : List (List Char)) :
    words ([c].intercalate parts) = parts.flatMap words := by
  induction parts with
  | nil => exact words_nil
  | cons part rest ih =>
    cases rest with
    | nil => rw [List.intercalate_singleton, List.flatMap_singleton]
    | cons next rest =>
      rw [List.intercalate_cons_cons, List.append_assoc, List.singleton_append, words_append_cons blank, ih,
        ← List.flatMap_cons]

/-- A text has the words that it has without the blanks at its ends. -/
theorem words_trimChars (cs : List Char) : words (trimChars cs) = words cs := by
  obtain ⟨lead, rest, whole, before, after⟩ := exists_around_trimChars cs
  conv_rhs => rw [whole, words_append_blanks after, words_append before]

/-- Characters that are not blank are one word. -/
theorem words_of_not_blank {c : Char} {cs : List Char} (solid : ∀ d ∈ c :: cs, isBlank d = false) :
    words (c :: cs) = [c :: cs] := by
  rw [words, List.splitOnP_eq_singleton solid]
  rfl

/-- The first word ends before the first blank. -/
theorem words_cons {c : Char} (solid : isBlank c = false) (cs : List Char) :
    words (c :: cs) = (c :: cs.takeWhile (!isBlank ·)) :: words (cs.dropWhile (!isBlank ·)) := by
  have word : ∀ d ∈ c :: cs.takeWhile (!isBlank ·), isBlank d = false := by
    intro d member
    rcases List.mem_cons.mp member with rfl | member
    · exact solid
    · simpa using List.mem_takeWhile_imp member
  conv_lhs => rw [← List.takeWhile_append_dropWhile (p := (!isBlank ·)) (l := cs), ← List.cons_append]
  cases left : cs.dropWhile (!isBlank ·) with
  | nil => rw [List.append_nil, words_of_not_blank word, words_nil]
  | cons d rest =>
    have blank : isBlank d = true := by
      have stops := List.head?_dropWhile_not (!isBlank ·) cs
      rw [left] at stops
      simpa using stops
    rw [words_append_cons blank, words_of_not_blank word, words_cons_blank blank, List.singleton_append]

/-- Inside a word the rest of it is not counted again. -/
theorem wordsFrom_eq (cs : List Char) (n : Nat) :
    wordsFrom false n cs = n + (words cs).length ∧
      wordsFrom true n cs = n + (words (cs.dropWhile (!isBlank ·))).length := by
  -- both states at once: a blank leaves the word, and the first character after one is in the next
  induction cs generalizing n with
  | nil => exact ⟨by rw [wordsFrom, words_nil]; rfl, by rw [wordsFrom, List.dropWhile_nil, words_nil]; rfl⟩
  | cons c cs ih =>
    rw [wordsFrom, wordsFrom]
    cases kind : isBlank c with
    | true =>
      rw [List.dropWhile_cons_of_neg (by simp [kind]), words_cons_blank kind]
      exact ⟨(ih n).1, (ih n).1⟩
    | false =>
      rw [List.dropWhile_cons_of_pos (by simp [kind]), words_cons kind, List.length_cons]
      refine ⟨?_, (ih n).2⟩
      have counted := (ih (n + 1)).2
      simp only [Bool.false_eq_true, if_false]
      omega

/-- The word count of a text is the number of its words. -/
theorem wordCount_eq (s : String) : wordCount s = (words s.toList).length := by
  rw [wordCount, (wordsFrom_eq s.toList 0).1, Nat.zero_add]

end CallDesk.Text
