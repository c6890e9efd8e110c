import CallDesk.Html.Basic

/-! # References

A character with a meaning in markup is written by a reference to it. A reader replaces the references in one pass
from the left and never looks again at a character that it has put in. What is written for a text is known by its
form: the other characters with a meaning are gone, and an ampersand stands only where a reference starts. Every
text of this form is written for exactly one text, the one that a reader shows for it.
-/

namespace CallDesk.Html

/-- The characters with a meaning in markup, each with the reference to it. -/
def references : List (Char × List Char) :=
  [('&', ['&', 'a', 'm', 'p', ';']), ('<', ['&', 'l', 't', ';']), ('>', ['&', 'g', 't', ';']),
    ('"', ['&', 'q', 'u', 'o', 't', ';']), ('\'', ['&', '#', 'x', '2', '7', ';'])]

/-- A character without a meaning in markup. -/
def IsPlain (c : Char) : Prop := ∀ r ∈ references, r.1 ≠ c

/-- A text without characters that have a meaning in markup, but for the ampersands that start references. -/
structure IsEscaped (written : List Char) : Prop where
  bare : ∀ c ∈ written, c ≠ '<' ∧ c ≠ '>' ∧ c ≠ '"' ∧ c ≠ '\''
  /-- Wherever an ampersand stands, one of the references starts there. -/
  referenced : ∀ before rest, written = before ++ '&' :: rest → ∃ r ∈ references, r.2 <+: '&' :: rest

/-- Replaces the references that are written in texts and values by the characters they stand for. -/
def unescape : List Char → List Char
  | '&' :: 'a' :: 'm' :: 'p' :: ';' :: rest => '&' :: unescape rest
  | '&' :: 'l' :: 't' :: ';' :: rest => '<' :: unescape rest
  | '&' :: 'g' :: 't' :: ';' :: rest => '>' :: unescape rest
  | '&' :: 'q' :: 'u' :: 'o' :: 't' :: ';' :: rest => '"' :: unescape rest
  | '&' :: '#' :: 'x' :: '2' :: '7' :: ';' :: rest => '\'' :: unescape rest
  | c :: rest => c :: unescape rest
  | [] => []

/-- What is shown where a text is written. -/
def shown (written : String) : String := .ofList (unescape written.toList)

/-! ## Characters -/

theorem isPlain_iff {c : Char} : IsPlain c ↔ c ≠ '&' ∧ c ≠ '<' ∧ c ≠ '>' ∧ c ≠ '"' ∧ c ≠ '\'' := by
  simp [IsPlain, references, eq_comm]

/-- A reference starts with an ampersand and has no other character with a meaning. -/
theorem reference_form : ∀ r ∈ references, ∃ name, r.2 = '&' :: name ∧ ∀ c ∈ name, IsPlain c := by
  simp [references, isPlain_iff]

theorem escapeChar_reference : ∀ r ∈ references, escapeChar r.1 = r.2 := by decide

theorem escapeChar_plain {c : Char} (plain : IsPlain c) : escapeChar c = [c] := by
  obtain ⟨ampersand, less, greater, quote, apostrophe⟩ := isPlain_iff.mp plain
  simp [escapeChar, ampersand, less, greater, quote, apostrophe]

/-- A character is written by the reference to it, or as it is when there is none. -/
theorem escapeChar_cases (c : Char) :
    (c, escapeChar c) ∈ references ∨ IsPlain c ∧ escapeChar c = [c] := by
  by_cases meant : ∃ r ∈ references, r.1 = c
  · obtain ⟨r, listed, rfl⟩ := meant
    rw [escapeChar_reference r listed]
    exact .inl listed
  · have plain : IsPlain c := fun r listed same => meant ⟨r, listed, same⟩
    exact .inr ⟨plain, escapeChar_plain plain⟩

theorem escapeChar_ne_nil (c : Char) : escapeChar c ≠ [] := by
  obtain listed | ⟨-, written⟩ := escapeChar_cases c
  · obtain ⟨name, written, -⟩ := reference_form _ listed
    exact fun empty => List.cons_ne_nil '&' name (written.symm.trans empty)
  · rw [written]
    exact List.cons_ne_nil c []

theorem unescape_cons {c : Char} (plain : c ≠ '&') (rest : List Char) : unescape (c :: rest) = c :: unescape rest := by
  rw [unescape.eq_def]
  split <;> simp_all

theorem unescape_reference (rest : List Char) : ∀ r ∈ references, unescape (r.2 ++ rest) = r.1 :: unescape rest := by
  simp only [references, List.forall_mem_cons]
  exact ⟨rfl, rfl, rfl, rfl, rfl, nofun⟩

theorem unescape_escapeChar (c : Char) (rest : List Char) : unescape (escapeChar c ++ rest) = c :: unescape rest := by
  obtain listed | ⟨plain, written⟩ := escapeChar_cases c
  · exact unescape_reference rest _ listed
  · rw [written, List.singleton_append, unescape_cons (isPlain_iff.mp plain).1]

/-! ## Texts -/

/-- A text is read back from its escaped form, whatever follows it. -/
theorem unescape_escaped_append (cs rest : List Char) :
    unescape (cs.flatMap escapeChar ++ rest) = cs ++ unescape rest := by
  induction cs with
  | nil => rfl
  | cons c cs ih => rw [List.flatMap_cons, List.append_assoc, unescape_escapeChar, ih, List.cons_append]

/-- A text is read back from its escaped form. -/
theorem unescape_escaped (cs : List Char) : unescape (cs.flatMap escapeChar) = cs := by
  have whole := unescape_escaped_append cs []
  rwa [unescape, List.append_nil, List.append_nil] at whole

/-- A text without a character that has a meaning in markup is written as it is. -/
theorem escaped_of_plain {cs : List Char} (plain : ∀ c ∈ cs, escapeChar c = [c]) : cs.flatMap escapeChar = cs := by
  induction cs with
  | nil => rfl
  | cons c cs ih =>
    rw [List.flatMap_cons, plain c List.mem_cons_self, ih fun d member => plain d (List.mem_cons_of_mem c member),
      List.singleton_append]

namespace IsEscaped

theorem nil : IsEscaped [] := ⟨nofun, fun before _ whole => absurd whole.symm (by simp)⟩

theorem reference {r : Char × List Char} (listed : r ∈ references) : IsEscaped r.2 := by
  obtain ⟨name, written, plain⟩ := reference_form r listed
  rw [written]
  refine ⟨fun c member => ?_, fun before rest whole => ?_⟩
  · obtain rfl | member := List.mem_cons.mp member
    · decide
    · exact (isPlain_iff.mp (plain c member)).2
  · cases before with
    | nil => exact ⟨r, listed, [], by rw [List.append_nil, written, whole, List.nil_append]⟩
    | cons c before =>
      obtain ⟨-, rfl⟩ := List.cons_eq_cons.mp whole
      have later : IsPlain '&' := plain '&' (List.mem_append_right before List.mem_cons_self)
      exact absurd rfl (isPlain_iff.mp later).1

theorem singleton {c : Char} (plain : IsPlain c) : IsEscaped [c] := by
  obtain ⟨ampersand, others⟩ := isPlain_iff.mp plain
  refine ⟨List.forall_mem_singleton.mpr others, fun before rest whole => ?_⟩
  have member : '&' ∈ [c] := by
    rw [whole]
    exact List.mem_append_right before List.mem_cons_self
  exact absurd (List.mem_singleton.mp member).symm ampersand

/-- A reference that starts in the first text ends there too, so no reference is made of both. -/
theorem append {first second : List Char} (sound : IsEscaped first) (next : IsEscaped second) :
    IsEscaped (first ++ second) := by
  refine ⟨fun c member => (List.mem_append.mp member).elim (sound.bare c) (next.bare c), fun before rest whole => ?_⟩
  obtain ⟨between, -, later⟩ | ⟨between, start, later⟩ := List.append_eq_append_iff.mp whole
  · exact next.referenced between rest later
  · cases between with
    | nil => exact next.referenced [] rest later.symm
    | cons c between =>
      obtain ⟨rfl, rfl⟩ := List.cons_eq_cons.mp later
      obtain ⟨r, listed, starts⟩ := sound.referenced before between start
      exact ⟨r, listed, starts.trans (List.prefix_append ('&' :: between) second)⟩

theorem suffix {before rest : List Char} (sound : IsEscaped (before ++ rest)) : IsEscaped rest := by
  refine ⟨fun c member => sound.bare c (List.mem_append_right before member), fun start after whole => ?_⟩
  exact sound.referenced (before ++ start) after (by rw [whole, List.append_assoc])

/-- A text of this form starts with what is written for some character. -/
theorem first {c : Char} {rest : List Char} (sound : IsEscaped (c :: rest)) :
    ∃ d after, c :: rest = escapeChar d ++ after := by
  by_cases ampersand : c = '&'
  · subst ampersand
    obtain ⟨r, listed, after, whole⟩ := sound.referenced [] rest rfl
    exact ⟨r.1, after, by rw [escapeChar_reference r listed, whole]⟩
  · have plain := isPlain_iff.mpr ⟨ampersand, sound.bare c List.mem_cons_self⟩
    exact ⟨c, rest, by rw [escapeChar_plain plain, List.singleton_append]⟩

/-- A text of this form is written for some text. -/
theorem exists_text {written : List Char} (sound : IsEscaped written) :
    ∃ cs : List Char, cs.flatMap escapeChar = written := by
  -- A reference is taken off as a whole, so the induction is on the length and not on the list.
  induction long : written.length using Nat.strongRecOn generalizing written with
  | _ n ih =>
    cases written with
    | nil => exact ⟨[], rfl⟩
    | cons c rest =>
      obtain ⟨d, after, whole⟩ := sound.first
      rw [whole] at sound long ⊢
      have shorter : after.length < n := by
        have filled := List.length_pos_iff.mpr (escapeChar_ne_nil d)
        rw [List.length_append] at long
        omega
      obtain ⟨cs, others⟩ := ih _ shorter sound.suffix rfl
      exact ⟨d :: cs, by rw [List.flatMap_cons, others]⟩

end IsEscaped

/-- What is written for a text has the form that tells the references in it. -/
theorem isEscaped_escaped (cs : List Char) : IsEscaped (cs.flatMap escapeChar) := by
  induction cs with
  | nil => exact .nil
  | cons c cs ih =>
    rw [List.flatMap_cons]
    obtain listed | ⟨plain, written⟩ := escapeChar_cases c
    · exact (IsEscaped.reference listed).append ih
    · rw [written]
      exact (IsEscaped.singleton plain).append ih

/-- A text opens and closes neither a tag nor a value. -/
theorem not_mem_escaped (cs : List Char) :
    '<' ∉ cs.flatMap escapeChar ∧ '>' ∉ cs.flatMap escapeChar ∧ '"' ∉ cs.flatMap escapeChar := by
  have bare := (isEscaped_escaped cs).bare
  refine ⟨fun member => ?_, fun member => ?_, fun member => ?_⟩
  · exact (bare _ member).1 rfl
  · exact (bare _ member).2.1 rfl
  · exact (bare _ member).2.2.1 rfl

/-! ## Escaping -/

theorem toList_escape (s : String) : (escape s).toList = s.toList.flatMap escapeChar := String.toList_ofList

/-- A text is shown as it is where it is written in its escaped form, and what follows it as it would be alone. -/
theorem shown_escape_append (s written : String) : shown (escape s ++ written) = s ++ shown written := by
  rw [shown, String.toList_append, toList_escape, unescape_escaped_append, String.ofList_append, String.ofList_toList]
  rfl

theorem shown_escape (s : String) : shown (escape s) = s := by
  rw [shown, toList_escape, unescape_escaped, String.ofList_toList]

theorem escape_append (s t : String) : escape (s ++ t) = escape s ++ escape t := by
  rw [escape, String.toList_append, List.flatMap_append, String.ofList_append]
  rfl

/-- Where a page has a text, it is written in its escaped form. -/
theorem render_text (s : String) : render (text s) = escape s := by
  rw [render, chars, text, List.flatMap_singleton]
  rfl

/-- A text is written for another one exactly when it has the form and shows it. -/
theorem escape_eq_iff {s written : String} :
    escape s = written ↔ IsEscaped written.toList ∧ shown written = s := by
  constructor
  · rintro rfl
    exact ⟨toList_escape s ▸ isEscaped_escaped s.toList, shown_escape s⟩
  · rintro ⟨sound, rfl⟩
    obtain ⟨cs, whole⟩ := sound.exists_text
    rw [escape, shown, String.toList_ofList, ← whole, unescape_escaped, whole, String.ofList_toList]

/-- Escaping is an exact encoding, and one that goes piece by piece. What it writes has no angle bracket and no
quote, and an ampersand only where one of the references starts; replacing these in one pass gives back the text,
whatever follows it; and nothing else of this form shows the text. So texts that differ are written differently, and
pages show them differently. -/
theorem escape_exact (s t written : String) :
    IsEscaped (escape s).toList ∧
      shown (escape s) = s ∧
      escape (s ++ t) = escape s ++ escape t ∧
      shown (escape s ++ written) = s ++ shown written ∧
      (escape s = escape t ↔ s = t) ∧
      (shown (render (text s)) = shown (render (text t)) ↔ s = t) ∧
      (escape s = written ↔ IsEscaped written.toList ∧ shown written = s) := by
  have sound : IsEscaped (escape s).toList := (escape_eq_iff.mp rfl).1
  refine ⟨sound, shown_escape s, escape_append s t, shown_escape_append s written, ⟨fun same => ?_, congrArg escape⟩,
    ?_, escape_eq_iff⟩
  · rw [← shown_escape s, same, shown_escape t]
  · rw [render_text, render_text, shown_escape, shown_escape]

/-- What looks like a reference in a text is no reference where the text is written. -/
example : escape "&amp;lt;" = "&amp;amp;lt;" ∧ shown "&amp;amp;lt;" = "&amp;lt;" := by decide +kernel

end CallDesk.Html
