import CallDesk.Page.Overview
import CallDesk.Proofs.Page.Tables
import Mathlib.Data.List.TakeWhile

/-! # The overview as it is read

The fragment of the overview, read as a browser reads it: it has the counters and the recent calls and no alert, or
an alert and neither counters nor calls. What a message or a call says is never taken for one of them.
-/

namespace CallDesk

open Html

/-- The numbers that a page tells before its first section, each with its label. -/
def Html.numbersOf (page : String) : List (String × String) :=
  Mark.counters ((marksOf page).takeWhile fun m => !m.opens "section")

/-- What a page shows of an overview that was had, or could not be had. -/
inductive ShowsOverview (page : String) : View Overview → Prop
  | failed {message : String} (told : (alerts page).map unescape = [message.toList]) (numbers : numbersOf page = [])
      (calls : Lists ShownCall.rows "table" page []) : ShowsOverview page (.failed message)
  | ready {data : Overview} (told : alerts page = []) (numbers : numbersOf page = Page.counters data.summary)
      (calls : Lists ShownCall.rows "table" page (data.recentCalls.map .ofCall)) : ShowsOverview page (.ready data)

namespace Page

/-! ## Counters -/

/-- Counters in a row, each a number and its label. -/
def counterRow (style : String) (labelled : List (String × String)) : Html :=
  labelled.flatMap fun (label, value) => counter style value label

theorem counterRow_legible (style : String) (labelled : List (String × String)) :
    (counterRow style labelled).isLegible = true := isLegible_flatMap fun _ _ => counter_legible

theorem counterRow_lacks {tag : String} (other : "div" ≠ tag ∧ "span" ≠ tag) (style : String)
    (labelled : List (String × String)) : (counterRow style labelled).lacks tag = true :=
  lacks_flatMap fun _ _ => counter_lacks other

/-- Counters are read back with their labels, when no other numbers follow. -/
theorem labelled_counterRow (style : String) (labelled : List (String × String)) {after : Html}
    (lacking : after.lacks "span" = true) :
    Mark.labelled (((parts "span" (counterRow style labelled ++ after)).map marks).map Mark.words) = labelled := by
  induction labelled with
  | nil =>
    have none : parts "span" (counterRow style [] ++ after) = [] := parts_lacking lacking
    rw [none]
    rfl
  | cons first rest ih =>
    have cut : counterRow style (first :: rest) ++ after =
        counter style first.2 first.1 ++ (counterRow style rest ++ after) := by
      simp [counterRow]
    rw [cut, parts_counter]
    simp only [List.map_cons, words_text, Mark.labelled, ih]

/-! ## The data -/

/-- What stands before the section of the overview. -/
def overviewGrid (s : Summary) : Html := styled "div" "stats-grid" (counterRow "stat-card" (counters s)) ++ newline

/-- The head of the section of the overview. -/
def overviewHead : Html :=
  newline ++ styled "div" "card-header" (plain "h2" "Recent calls" ++
    element "a" [.value "href" Site.calls] (text "View all")) ++ newline

theorem overview_ready (data : Overview) : overview (.ready data) =
    overviewGrid data.summary ++ .start "section" [.value "class" "card"] ::
      (overviewHead ++ (callTable data.recentCalls ++ (newline ++ [.stop "section"]))) := by
  simp [overview, overviewGrid, overviewHead, counterRow, lines, styled, element]

variable (s : Summary)

theorem overviewGrid_legible : (overviewGrid s).isLegible = true := by
  simp +decide [overviewGrid, styled, counterRow_legible, newline]

theorem overviewGrid_lacks {tag : String} (other : "div" ≠ tag ∧ "span" ≠ tag) : (overviewGrid s).lacks tag = true := by
  simp [overviewGrid, styled, counterRow_lacks other, newline, other]

theorem callTable_legible (calls : List Call) : (callTable calls).isLegible = true := by
  rw [callTable]
  split
  · decide
  · exact table_legible fun c _ => callCells_proper c

theorem overview_legible (data : Overview) : (overview (.ready data)).isLegible = true := by
  simp +decide [overview_ready, overviewGrid_legible, callTable_legible, overviewHead, styled, plain, text, newline]

/-- The counters are read from what stands before the section. -/
theorem numbersOf_ready (data : Overview) : numbersOf (overview (.ready data)).render = counters data.summary := by
  have sectionless : (overviewGrid data.summary).lacks "section" = true := overviewGrid_lacks data.summary (by decide)
  have before := marks_before (by decide) (overviewGrid_legible data.summary) sectionless [.value "class" "card"]
    (overviewHead ++ (callTable data.recentCalls ++ (newline ++ [.stop "section"])))
  have shape : overviewGrid data.summary = [.start "div" [.value "class" "stats-grid"]] ++
      (counterRow "stat-card" (counters data.summary) ++ (.stop "div" :: newline)) := by
    simp [overviewGrid, styled, element]
  rw [numbersOf, marksOf_render (isClean_of_isLegible (overview_legible data)), overview_ready, before, Mark.counters,
    elements_marks (by decide) (overviewGrid_legible data.summary), shape, parts_append (by decide)]
  exact labelled_counterRow "stat-card" _ (by decide)

theorem roles_callTable (calls : List Call) : (callTable calls).writtenValues "role" = [] := by
  have rows : writtenValues "role" (calls.flatMap callRow) = [] := by
    rw [writtenValues_flatMap]
    refine List.flatMap_eq_nil_iff.mpr fun c _ => ?_
    simp +decide [callRow, row, callBadge, badge, styled, text, element, writtenValues, Piece.readAttributes,
      Attribute.read?]
  rw [callTable]
  split
  · decide
  · simp only [table, styled, writtenValues_element, writtenValues_append, List.flatMap_cons, List.flatMap_nil, rows]
    rfl

theorem roles_ready (data : Overview) : (overview (.ready data)).writtenValues "role" = [] := by
  have grid : (overviewGrid data.summary).writtenValues "role" = [] := by
    have row : (counterRow "stat-card" (counters data.summary)).writtenValues "role" = [] := by
      rw [counterRow, writtenValues_flatMap]
      exact List.flatMap_eq_nil_iff.mpr fun _ _ => rfl
    simp only [overviewGrid, styled, writtenValues_element, writtenValues_append, row]
    rfl
  have cut (name : String) (attributes : List Attribute) (h : Html) :
      (Piece.start name attributes :: h) = [.start name attributes] ++ h := rfl
  rw [overview_ready, cut]
  simp only [writtenValues_append, grid, roles_callTable]
  decide

/-- An overview that was had is shown without an alert. -/
theorem ready_shows (data : Overview) : ShowsOverview (overview (.ready data)).render (.ready data) := by
  refine .ready (alerts_of_no_roles (isClean_of_isLegible (overview_legible data)) (roles_ready data))
    (numbersOf_ready data) ?_
  -- the table is read behind the counters and the head, neither of which has rows
  have before : (overviewGrid data.summary ++ .start "section" [.value "class" "card"] :: overviewHead).isLegible =
      true := by
    simp +decide [overviewGrid_legible, overviewHead, styled, plain, text, newline]
  have lacking (tag : String) (other : tag = "tbody" ∨ tag = "table") :
      (overviewGrid data.summary ++ .start "section" [.value "class" "card"] :: overviewHead).lacks tag = true := by
    rcases other with rfl | rfl <;>
      simp +decide [overviewGrid_lacks, overviewHead, styled, plain, text, newline]
  have shape : overview (.ready data) =
      overviewGrid data.summary ++ .start "section" [.value "class" "card"] :: overviewHead ++
        (callTable data.recentCalls ++ (newline ++ [.stop "section"])) := by
    rw [overview_ready]
    simp
  rw [shape]
  exact lists_calls_within data.recentCalls ⟨before, by decide⟩ ⟨lacking _ (.inl rfl), by decide⟩
    ⟨lacking _ (.inr rfl), by decide⟩

/-! ## The failure -/

/-- A failure is shown without numbers and calls, whatever link stands beside the message. -/
theorem banner_shows (message : String) (action : Action) :
    ShowsOverview (banner message (some action)).render (.failed message) := by
  have legible : (banner message (some action)).isLegible = true := by
    simp +decide [banner, plain, text, link, Html.optional]
  have lacking (tag : String) (other : ∀ name ∈ ["div", "p", "a"], name ≠ tag) :
      (banner message (some action)).lacks tag = true := by
    simp_all [banner, plain, text, link, Html.optional]
  have clean := isClean_of_isLegible legible
  have bare : numbersOf (banner message (some action)).render = [] := by
    -- no section starts, so that the whole page would be read for numbers
    have unopened : ∀ m ∈ (banner message (some action)).marks, (!m.opens "section") = true := fun m member => by
      rw [not_opens_of_lacks (by decide) legible (lacking _ (by decide)) m member]
      rfl
    rw [numbersOf, marksOf_render clean, List.takeWhile_eq_self_iff.mpr unopened, Mark.counters,
      elements_marks (by decide) legible, parts_lacking (lacking _ (by decide))]
    rfl
  have once : (writtenValues "role" (banner message (some action))).count "alert".toList = 1 := by
    have roles : writtenValues "role" (banner message (some action)) = ["alert".toList] := rfl
    rw [roles]
    rfl
  refine .failed (alerts_of_part clean once (List.infix_refl _) rfl) bare ?_
  exact lists_none legible (lacking _ (by decide)) (lacking _ (by decide))

end Page

end CallDesk
