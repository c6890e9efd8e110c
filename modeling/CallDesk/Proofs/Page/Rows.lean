import CallDesk.Page.Calls
import CallDesk.Proofs.Backend.Listing

/-! # What a page of the call history shows

A reader of a page finds the rows of its table, the line that says which calls they are, and the links to
other pages. The rows of the call history are those of its calls, one for each and in their order, whatever
texts the calls hold, and the links are those of its pager.
-/

namespace CallDesk

namespace Html

/-! ## Reading a page -/

/-- The pieces after the first piece that equals `first`, up to the next one that equals `last`. -/
def between (first last : Piece) (h : Html) : Html :=
  ((h.dropWhile (· != first)).drop 1).takeWhile (· != last)

/-- The parts that end in a piece, of which the pieces so far are given. -/
def partsOnto (last : Piece) (soFar : Html) : Html → List Html
  | [] => []
  | piece :: rest =>
    if piece = last then (soFar ++ [piece]) :: partsOnto last [] rest else partsOnto last (soFar ++ [piece]) rest

/-- The rows in the body of a table. -/
def rows (h : Html) : List Html := partsOnto (.stop "tr") [] (h.between (.start "tbody" []) (.stop "tbody"))

/-- The text of the muted paragraph of a page. -/
def caption? (h : Html) : Option String :=
  match h.between (.start "p" [.value "class" "muted"]) (.stop "p") with
  | [.text s] => some s
  | _ => none

/-- The address that an attribute links to. -/
def target? : Attribute → Option String
  | .value name text => if name = "href" then some text else none
  | .flag _ => none

/-- The address of a link that a piece opens, when the label comes next. -/
def opened? (label : String) (piece : Piece) (next : Option Piece) : Option String :=
  match piece with
  | .start tag attributes =>
    if tag = "a" ∧ next = some (.text label) then attributes.findSome? target? else none
  | _ => none

/-- The address of the first link with a label. -/
def linkTo? (label : String) : Html → Option String
  | [] => none
  | piece :: rest => (opened? label piece rest.head?).or (linkTo? label rest)

theorem between_append {first last : Piece} {before part : Html} (fresh : first ∉ before) (free : last ∉ part)
    (after : Html) : between first last (before ++ first :: part ++ last :: after) = part := by
  have skipped : ∀ piece ∈ before, (piece != first) = true := by
    intro piece member
    exact bne_iff_ne.mpr fun same => fresh (same ▸ member)
  have kept : ∀ piece ∈ part, (piece != last) = true := by
    intro piece member
    exact bne_iff_ne.mpr fun same => free (same ▸ member)
  rw [between, List.append_assoc, List.dropWhile_append_of_pos skipped, List.cons_append,
    List.dropWhile_cons_of_neg (by simp), List.drop_one, List.tail_cons, List.takeWhile_append_of_pos kept,
    List.takeWhile_cons_of_neg (by simp), List.append_nil]

/-- A part is taken off at its end. -/
theorem partsOnto_append {last : Piece} {part : Html} (free : last ∉ part) (soFar rest : Html) :
    partsOnto last soFar (part ++ last :: rest) = (soFar ++ part ++ [last]) :: partsOnto last [] rest := by
  induction part generalizing soFar with
  | nil => rw [List.nil_append, partsOnto, if_pos rfl, List.append_nil]
  | cons piece part ih =>
    obtain ⟨other, later⟩ := List.ne_and_not_mem_of_not_mem_cons free
    rw [List.cons_append, partsOnto, if_neg (Ne.symm other), ih later, List.append_assoc soFar, List.singleton_append]

end Html

namespace Page

open Html

/-! ## The rows of calls -/

/-- A row of the table of calls ends where it is cut, and nowhere before. -/
theorem callRow_eq (c : Call) : ∃ part, callRow c = part ++ [.stop "tr"] ∧ .stop "tr" ∉ part := by
  refine ⟨(callRow c).dropLast, ?_, ?_⟩
  · rfl
  · simp [callRow, row, element, callBadge, badge, styled, text]

theorem partsOnto_callRows (calls : List Call) :
    partsOnto (.stop "tr") [] (calls.flatMap callRow) = calls.map callRow := by
  induction calls with
  | nil => rfl
  | cons c calls ih =>
    obtain ⟨part, whole, free⟩ := callRow_eq c
    rw [List.flatMap_cons, List.map_cons, whole, List.append_assoc, List.singleton_append, partsOnto_append free, ih,
      List.nil_append]

theorem tbody_not_mem_callRow (c : Call) : .stop "tbody" ∉ callRow c := by
  simp [callRow, row, element, callBadge, badge, styled, text]

/-- The links in the rows of calls have a label of their own. -/
theorem linkTo?_callRows {label : String} (other : label ≠ "View") (calls : List Call) (rest : Html) :
    linkTo? label (calls.flatMap callRow ++ rest) = linkTo? label rest := by
  induction calls with
  | nil => rfl
  | cons c calls ih =>
    rw [List.flatMap_cons, List.append_assoc, ← ih]
    simp [callRow, row, element, callBadge, badge, styled, text, linkTo?, opened?, Ne.symm other]

/-! ## The call history -/

variable (history : CallHistory)

/-- The line over the table of calls. -/
def captionOf (p : Pager) : String :=
  "Showing " ++ Text.decimal p.firstItem.toNat ++ "-" ++ Text.decimal p.lastItem.toNat ++ " of " ++
    Text.decimal p.total.toNat

/-- What stands before the rows of the table of calls. -/
def tableStart : Html :=
  .start "table" [.value "class" "table call-list"] :: newline ++
    element "thead" [] (element "tr" []
      (["Phone", "Status", "Outcome", "Duration", "Date", ""].flatMap (plain "th"))) ++ newline

/-- What stands after the rows of the table of calls. -/
def tableEnd : Html := newline ++ [.stop "table"]

/-- A history with calls shows the line over them, their table and the links. -/
theorem callHistory_eq {history : CallHistory} (filled : history.calls ≠ []) :
    callHistory (.ready history) =
      styled "p" "muted" (text (captionOf history.pager)) ++ tableStart ++
        .start "tbody" [] :: history.calls.flatMap callRow ++
        .stop "tbody" :: (tableEnd ++ pagerLinks history.pager Site.calls) := by
  have shown : history.calls.isEmpty = false := List.isEmpty_eq_false_iff.mpr filled
  simp only [callHistory, callTable, shown, Bool.false_eq_true, if_false, table, styled, element, tableStart, tableEnd,
    captionOf, newline, List.cons_append, List.append_assoc, List.nil_append]

/-- A history without calls shows no table and no links. -/
theorem callHistory_none {history : CallHistory} (none : history.calls = []) :
    callHistory (.ready history) = noCalls := by
  rw [callHistory, if_pos (by rw [none]; rfl)]

/-- The rows that a history shows are those of its calls. -/
theorem rows_callHistory (history : CallHistory) :
    rows (callHistory (.ready history)) = history.calls.map callRow := by
  by_cases none : history.calls = []
  · rw [callHistory_none none, none]
    rfl
  · have fresh : .start "tbody" [] ∉ styled "p" "muted" (text (captionOf history.pager)) ++ tableStart := by
      simp [styled, element, text, tableStart, newline, plain]
    have free : .stop "tbody" ∉ history.calls.flatMap callRow := by
      intro member
      obtain ⟨c, -, inside⟩ := List.mem_flatMap.mp member
      exact tbody_not_mem_callRow c inside
    rw [rows, callHistory_eq none, between_append fresh free, partsOnto_callRows]

theorem caption?_callHistory {history : CallHistory} (filled : history.calls ≠ []) :
    caption? (callHistory (.ready history)) = some (captionOf history.pager) := by
  have found : between (.start "p" [.value "class" "muted"]) (.stop "p") (callHistory (.ready history)) =
      text (captionOf history.pager) := by
    have free : .stop "p" ∉ text (captionOf history.pager) := by simp [text]
    rw [callHistory_eq filled]
    exact between_append List.not_mem_nil free _
  rw [caption?, found]
  rfl

/-- The address of a page of a listing. -/
def pageAddress (base : String) (n : Nat) : String := base ++ "?page=" ++ Text.decimal n

/-- A link of a pager is found by its label, where there is such a page. -/
theorem linkTo?_pageLink (base label other : String) (page : Option UInt32) (rest : Html) :
    linkTo? label (pageLink base other page ++ rest) =
      (if label = other then (page.map UInt32.toNat).map (pageAddress base) else none).or (linkTo? label rest) := by
  cases page with
  | none => simp [pageLink, element, text, linkTo?, opened?]
  | some n =>
    by_cases same : label = other
    · simp [same, pageLink, link, element, text, linkTo?, opened?, target?, pageAddress]
    · simp [same, Ne.symm same, pageLink, link, element, text, linkTo?, opened?]

/-- The links of a history that are not in its rows are those of its pager. -/
theorem linkTo?_callHistory {history : CallHistory} (filled : history.calls ≠ []) {label : String}
    (other : label ≠ "View") :
    linkTo? label (callHistory (.ready history)) =
      (if label = "Previous" then (history.pager.previous?.map UInt32.toNat).map (pageAddress Site.calls)
        else none).or
      (if label = "Next" then (history.pager.next?.map UInt32.toNat).map (pageAddress Site.calls) else none) := by
  rw [callHistory_eq filled]
  simp only [styled, element, text, tableStart, tableEnd, newline, plain, pagerLinks, List.cons_append,
    List.append_assoc, List.nil_append, List.flatMap_cons, List.flatMap_nil]
  simp [linkTo?, opened?, linkTo?_callRows other, linkTo?_pageLink]

theorem linkTo?_next {history : CallHistory} (filled : history.calls ≠ []) :
    linkTo? "Next" (callHistory (.ready history)) =
      (history.pager.next?.map UInt32.toNat).map (pageAddress Site.calls) := by
  rw [linkTo?_callHistory filled (by decide), if_neg (by decide), if_pos rfl, Option.none_or]

theorem linkTo?_previous {history : CallHistory} (filled : history.calls ≠ []) :
    linkTo? "Previous" (callHistory (.ready history)) =
      (history.pager.previous?.map UInt32.toNat).map (pageAddress Site.calls) := by
  rw [linkTo?_callHistory filled (by decide), if_pos rfl, if_neg (by decide), Option.or_none]

/-- A history without calls leads nowhere. -/
theorem linkTo?_noCalls (label : String) : linkTo? label noCalls = none := rfl

/-! ## The calls that a page shows -/

/-- A page says that it shows the calls from one number to another, counted from one, and has a row for each
of them, in their order. -/
structure Presents (html : Html) (calls : List Call) (first last : Nat) : Prop where
  caption : html.caption? = some ("Showing " ++ Text.decimal first ++ "-" ++ Text.decimal last ++ " of " ++
    Text.decimal calls.length)
  order : first ≤ last
  count : last - first + 1 = html.rows.length
  row : ∀ i < html.rows.length, ∃ call, calls[first - 1 + i]? = some call ∧ html.rows[i]? = some (callRow call)

/-- A history at a page shows the calls of that page. -/
theorem presents_of_at {history : CallHistory} {calls : List Call} {page size : Nat}
    (at_page : history.At calls page size) (some : 0 < calls.length) :
    Presents (callHistory (.ready history)) calls ((page - 1) * size + 1) (min (page * size) calls.length) := by
  have counts := at_page.counts
  have one := counts.one
  have before := Pager.lt_of_le_pages counts.positive some at_page.inside
  have whole : page * size = (page - 1) * size + size := by
    rw [← Nat.succ_mul, Nat.succ_eq_add_one, Nat.sub_add_cancel one]
  have length : history.calls.length = min size (calls.length - (page - 1) * size) := by
    rw [at_page.slice, Pager.length_slice]
  have positive := counts.positive
  constructor
  · rw [caption?_callHistory (at_page.calls_ne_nil some), captionOf, counts.toNat_firstItem some,
      counts.toNat_lastItem, counts.counted]
  · omega
  · rw [rows_callHistory, List.length_map, length]
    omega
  · intro i inside
    rw [rows_callHistory, List.length_map, at_page.slice] at inside
    rw [rows_callHistory, List.getElem?_map, at_page.slice, Nat.add_sub_cancel, ← Pager.getElem?_slice inside,
      List.getElem?_eq_getElem inside]
    exact ⟨_, rfl, rfl⟩

end Page

end CallDesk
