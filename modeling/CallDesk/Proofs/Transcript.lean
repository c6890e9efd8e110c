import CallDesk.Proofs.Text.Words
import CallDesk.Transcript
import Mathlib.Data.Bool.AllAny
import Mathlib.Data.List.Forall2

/-! # The counters of a transcript

The words of a transcript are counted turn by turn, in the contents as they were said, and its text is put together
of trimmed contents. The two agree: the words of the text are those of the turns, one turn after the other, because
neither trimming nor the line breaks between turns touch a word.
-/

namespace CallDesk

open Text

/-- A turn, and the same turn with white space added before and after its content. -/
structure Turn.Padded (t u : Turn) : Prop where
  role : u.role = t.role
  time : u.time = t.time
  content : ∃ lead rest, u.content.toList = lead ++ t.content.toList ++ rest ∧
    (∀ c ∈ lead, isBlank c = true) ∧ ∀ c ∈ rest, isBlank c = true

namespace Turn

variable {t u : Turn} {turns padded : List Turn}

theorem Padded.words (pads : t.Padded u) : Text.words u.content.toList = Text.words t.content.toList := by
  obtain ⟨lead, rest, whole, before, after⟩ := pads.content
  rw [whole, words_append_blanks after, words_append before]

theorem Padded.trim (pads : t.Padded u) : Text.trim u.content = Text.trim t.content := by
  obtain ⟨lead, rest, whole, before, after⟩ := pads.content
  rw [Text.trim, whole, trimChars_append_blanks after, trimChars_append before, Text.trim]

/-- What padding does not change of a turn it does not change of turns. -/
theorem map_padded {β : Type} {f : Turn → β} (kept : ∀ t u, t.Padded u → f u = f t)
    (pads : List.Forall₂ Padded turns padded) : padded.map f = turns.map f := by
  induction pads with
  | nil => rfl
  | cons first _ ih => rw [List.map_cons, List.map_cons, kept _ _ first, ih]

end Turn

namespace TranscriptStats

/-- The turns are counted with the words of their contents. -/
theorem wordCount_ofTurns (turns : List Turn) :
    (ofTurns turns).wordCount = (turns.map fun t => words t.content.toList).flatten.length := by
  -- counting goes on from any number, not only from zero
  have counted : ∀ n, turns.foldl (fun n t => n + Text.wordCount t.content) n =
      n + (turns.map fun t => words t.content.toList).flatten.length := by
    induction turns with
    | nil => exact fun n => rfl
    | cons t turns ih =>
      intro n
      rw [List.foldl_cons, ih, wordCount_eq, List.map_cons, List.flatten_cons, List.length_append, Nat.add_assoc]
  exact (counted 0).trans (Nat.zero_add _)

theorem toList_fullText (turns : List Turn) :
    (ofTurns turns).fullText.toList = ['\n'].intercalate (turns.map fun t => trimChars t.content.toList) := by
  have contents : (turns.map fun t => Text.trim t.content).map String.toList =
      turns.map fun t => trimChars t.content.toList := by
    rw [List.map_map]
    exact List.map_congr_left fun t _ => String.toList_ofList
  rw [ofTurns, String.toList_intercalate, contents]
  rfl

/-- The words of the text are those of the turns. -/
theorem words_fullText (turns : List Turn) :
    words (ofTurns turns).fullText.toList = (turns.map fun t => words t.content.toList).flatten := by
  rw [toList_fullText, words_intercalate (by decide), List.flatMap_map, List.flatMap_def]
  simp only [words_trimChars]

/-- The text of some turns and of those that follow them has a line break between the two. -/
theorem fullText_append {before after : List Turn} (first : before ≠ []) (rest : after ≠ []) :
    (ofTurns (before ++ after)).fullText = (ofTurns before).fullText ++ "\n" ++ (ofTurns after).fullText := by
  rw [← String.toList_inj, String.toList_append, String.toList_append, toList_fullText, toList_fullText,
    toList_fullText, List.map_append]
  exact intercalate_append (by simpa using first) (by simpa using rest)

/-- The counters and the text of turns come from their words and their trimmed contents. -/
theorem ofTurns_eq (turns : List Turn) :
    ofTurns turns =
      ⟨turns.length, (turns.map fun t => words t.content.toList).flatten.length,
        "\n".intercalate (turns.map fun t => Text.trim t.content)⟩ := by
  rw [← wordCount_ofTurns]
  rfl

/-- The counters of a transcript agree with its text: there are as many turns as were said, and the words that are
counted are the words of the text, which are those of the turns. When the turns are split in two, the counters add
up and the texts are joined by a line break; and white space around the contents changes nothing at all. -/
theorem agree_with_text :
    (∀ turns, (ofTurns turns).turnCount = turns.length ∧
      Text.wordCount (ofTurns turns).fullText = (ofTurns turns).wordCount ∧
      words (ofTurns turns).fullText.toList = (turns.map fun t => words t.content.toList).flatten) ∧
    (∀ before after, before ≠ [] → after ≠ [] →
      (ofTurns (before ++ after)).turnCount = (ofTurns before).turnCount + (ofTurns after).turnCount ∧
      (ofTurns (before ++ after)).wordCount = (ofTurns before).wordCount + (ofTurns after).wordCount ∧
      (ofTurns (before ++ after)).fullText = (ofTurns before).fullText ++ "\n" ++ (ofTurns after).fullText) ∧
    ∀ turns padded, List.Forall₂ Turn.Padded turns padded → ofTurns padded = ofTurns turns := by
  refine ⟨fun turns => ⟨rfl, ?_, words_fullText turns⟩, fun before after first rest => ⟨?_, ?_, ?_⟩,
    fun turns padded pads => ?_⟩
  · rw [wordCount_eq, words_fullText, wordCount_ofTurns]
  · exact List.length_append
  · rw [wordCount_ofTurns, wordCount_ofTurns, wordCount_ofTurns, List.map_append, List.flatten_append,
      List.length_append]
  · exact fullText_append first rest
  · have contents := Turn.map_padded (fun _ _ => Turn.Padded.trim) pads
    have spoken := Turn.map_padded (fun _ _ => Turn.Padded.words) pads
    rw [ofTurns_eq, ofTurns_eq, contents, spoken, pads.length_eq]

/-- Two turns of which the second is blank; the first is padded with an ideographic space and a line break. -/
theorem agree_with_text_ideographic :
    let said : Turn := { role := .agent, content := "Good\nmorning" }
    let blank : Turn := { role := .contact, content := "\t" }
    let padded : Turn := { role := .agent, content := "\u3000Good\nmorning\n" }
    (Text.wordCount (ofTurns [said, blank]).fullText = 2 ∧ (ofTurns [said, blank]).wordCount = 2) ∧
    (ofTurns ([said] ++ [blank])).fullText = (ofTurns [said]).fullText ++ "\n" ++ (ofTurns [blank]).fullText ∧
    ofTurns [padded, blank] = ofTurns [said, blank] := by
  intro said blank padded
  have pads : said.Padded padded := ⟨rfl, rfl, ['\u3000'], ['\n'], by decide,
    List.all_iff_forall_prop.mp (by decide), List.all_iff_forall_prop.mp (by decide)⟩
  have same : blank.Padded blank := ⟨rfl, rfl, [], [], by decide, nofun, nofun⟩
  have counted : (ofTurns [said, blank]).wordCount = 2 := by decide
  obtain ⟨agree, split, keep⟩ := agree_with_text
  refine ⟨⟨?_, counted⟩, (split [said] [blank] nofun nofun).2.2, keep _ _ (.cons pads (.cons same .nil))⟩
  rw [(agree [said, blank]).2.1, counted]

end TranscriptStats

end CallDesk
