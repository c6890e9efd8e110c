import CallDesk.Page.CallDetail
import CallDesk.Page.Calls
import CallDesk.Page.Campaigns
import CallDesk.Page.Contacts
import CallDesk.Proofs.Markup.Elements
import Mathlib.Data.List.Basic

/-! # What tables show

A reader of a table cuts it into rows and the rows into cells, and reads off what each cell says. The readers
here take the text of a page and nothing else. From the tables of calls, campaigns and rejected rows, and from
the list of turns of a transcript, they read what was put in, one item for each row and in their order: what an
item says is never taken for the end of a cell or a row, whatever characters it holds.
-/

namespace CallDesk

/-! ## Readers -/

/-- The rows in the bodies of tables, each with its cells. -/
def Mark.cells (ms : List Mark) : List (List (List Mark)) :=
  ((Mark.elements "tbody" ms).flatMap (Mark.elements "tr")).map (Mark.elements "td")

/-- The numbers of a panel, each with its label, from the texts of its spans. -/
def Mark.labelled : List String → List (String × String)
  | value :: label :: rest => (label, value) :: labelled rest
  | _ => []

/-- The numbers of a panel, each with its label. -/
def Mark.counters (ms : List Mark) : List (String × String) := labelled ((Mark.elements "span" ms).map words)

open Mark (words value?)

/-- What a row says of a call. -/
structure ShownCall where
  phone : String
  status : String
  outcome : String
  duration : String
  minute : String
  /-- The address that the row links to. -/
  link : String
deriving DecidableEq

namespace ShownCall

/-- What the cells of a row say. -/
def read? : List (List Mark) → Option ShownCall
  | [phone, status, outcome, duration, minute, more] =>
    ((Mark.elements "a" more).head?.bind (value? "href")).map fun link =>
      { phone := words phone, status := words status, outcome := words outcome, duration := words duration,
        minute := words minute, link }
  | _ => none

/-- What the rows among the tags of a page say. -/
def rows (ms : List Mark) : List (Option ShownCall) := (Mark.cells ms).map read?

/-- What is to be shown of a call. -/
def ofCall (c : Call) : ShownCall where
  phone := c.phoneNumber
  status := c.status.label
  outcome := c.outcome.getD "--"
  duration := durationText c.duration
  minute := c.createdAt.minuteText
  link := "/dashboard/calls/" ++ Text.percentEncode c.id

end ShownCall

/-- What a row says of a campaign. -/
structure ShownCampaign where
  name : String
  description : String
  status : String
  voice : String
  leads : String
  callsMade : String
deriving DecidableEq

namespace ShownCampaign

/-- What the cells of a row say: the first one holds the name and the description. -/
def read? : List (List Mark) → Option ShownCampaign
  | [title, status, voice, leads, callsMade] =>
    match Mark.elements "strong" title, Mark.elements "span" title with
    | [name], [description] =>
      some { name := words name, description := words description, status := words status, voice := words voice,
             leads := words leads, callsMade := words callsMade }
    | _, _ => none
  | _ => none

/-- What the rows among the tags of a page say. -/
def rows (ms : List Mark) : List (Option ShownCampaign) := (Mark.cells ms).map read?

/-- What is to be shown of a campaign. -/
def ofCampaign (c : Campaign) : ShownCampaign where
  name := c.name
  description := c.description.getD ""
  status := c.status.label
  voice := c.voice.getD "--"
  leads := Text.decimal c.totalLeads.toNat
  callsMade := Text.decimal c.callsMade.toNat

end ShownCampaign

/-- What a row says of a row of a file that was rejected. -/
structure ShownRowError where
  row : String
  phone : String
  error : String
deriving DecidableEq

namespace ShownRowError

/-- What the cells of a row say. -/
def read? : List (List Mark) → Option ShownRowError
  | [row, phone, error] => some { row := words row, phone := words phone, error := words error }
  | _ => none

/-- What the rows among the tags of a page say. -/
def rows (ms : List Mark) : List (Option ShownRowError) := (Mark.cells ms).map read?

/-- What is to be shown of a rejected row. -/
def ofRowError (e : RowError) : ShownRowError where
  row := Text.decimal e.row.toNat
  phone := e.phone
  error := e.error

end ShownRowError

/-- What an item of a transcript says of a turn. -/
structure ShownTurn where
  role : String
  time : Option String
  content : String
deriving DecidableEq

namespace ShownTurn

/-- What an item says. -/
def read? (item : List Mark) : Option ShownTurn :=
  match Mark.elements "span" item, Mark.elements "time" item, Mark.elements "p" item with
  | [role], [], [content] => some { role := words role, time := none, content := words content }
  | [role], [time], [content] => some { role := words role, time := some (words time), content := words content }
  | _, _, _ => none

/-- What the items of the lists among the tags of a page say. -/
def items (ms : List Mark) : List (Option ShownTurn) :=
  ((Mark.elements "ol" ms).flatMap (Mark.elements "li")).map read?

/-- What is to be shown of a turn. -/
def ofTurn (t : Turn) : ShownTurn where
  role := t.role.label
  time := t.time.map Instant.clock
  content := t.content

end ShownTurn

/-- What is to be shown of the result of an import beside its rejected rows. -/
def ImportResult.counters (r : ImportResult) : List (String × String) :=
  [("Total rows", Text.decimal r.totalRows.toNat), ("Imported", Text.decimal r.imported.toNat),
    ("Duplicates skipped", Text.decimal r.duplicatesSkipped.toNat), ("Failed", Text.decimal r.failed.toNat)]

/-- A page lists items: a reader finds each of them once and in their order, and the page has an element for them
just when there are some. -/
structure Lists {α : Type} (read : List Mark → List (Option α)) (tag page : String) (items : List α) : Prop where
  found : read (Html.marksOf page) = items.map some
  present : Html.elements tag page ≠ [] ↔ items ≠ []

/-! ## Rows and cells -/

namespace Html

/-- The rows in the bodies of tables, each with its cells, as they are built. -/
def cells (h : Html) : List (List Html) := ((h.parts "tbody").flatMap (parts "tr")).map (parts "td")

/-- What may stand in a cell: no part of a table that the cell belongs to. -/
structure IsCell (h : Html) : Prop where
  legible : h.isLegible = true
  no_body : h.lacks "tbody" = true
  no_row : h.lacks "tr" = true
  no_cell : h.lacks "td" = true

variable {h : Html} {tag : String}

/-- The parts of legible markup are legible. -/
theorem isLegible_of_mem_parts (legible : h.isLegible = true) : ∀ part ∈ h.parts tag, part.isLegible = true := by
  induction h with
  | nil => exact fun part member => absurd member List.not_mem_nil
  | cons p h ih =>
    have kept : isLegible [p] = true ∧ isLegible h = true := by
      rw [← List.singleton_append, isLegible_append, Bool.and_eq_true] at legible
      exact legible
    intro part member
    rw [parts] at member
    split at member
    · rcases List.mem_cons.mp member with rfl | later
      · have inner : isLegible (h.takeWhile (· != .stop tag)) = true := by
          refine List.all_eq_true.mpr fun q inside => ?_
          exact List.all_eq_true.mp kept.2 q ((List.takeWhile_sublist _).subset inside)
        rw [← List.singleton_append, isLegible_append, kept.1, inner]
        rfl
      · exact ih kept.2 part later
    · exact ih kept.2 part member

/-- The cells of a page are those that it is built from. -/
theorem cells_marks (legible : h.isLegible = true) : Mark.cells h.marks = h.cells.map (List.map marks) := by
  have bodies : ∀ body ∈ h.parts "tbody", isLegible body = true := isLegible_of_mem_parts legible
  have rows : (h.parts "tbody").flatMap (fun body => Mark.elements "tr" body.marks) =
      ((h.parts "tbody").flatMap (parts "tr")).map marks := by
    rw [List.map_flatMap]
    exact List.flatMap_congr fun body member => elements_marks (by decide) (bodies body member)
  have cut : ∀ row ∈ (h.parts "tbody").flatMap (parts "tr"),
      Mark.elements "td" row.marks = (row.parts "td").map marks := by
    intro row member
    obtain ⟨body, listed, inside⟩ := List.mem_flatMap.mp member
    exact elements_marks (by decide) (isLegible_of_mem_parts (bodies body listed) row inside)
  rw [Mark.cells, elements_marks (by decide) legible, List.flatMap_map, rows, List.map_map, cells, List.map_map]
  exact List.map_congr_left cut

end Html

namespace Page

open Html

variable {α : Type} {style : String} {titles : List String} {items : List α} {contents : α → List Html}

/-- What stands before the body of a table. -/
def tableHead (style : String) (titles : List String) : Html :=
  .start "table" [.value "class" style] :: newline ++
    element "thead" [] (element "tr" [] (titles.flatMap (plain "th"))) ++ newline

theorem table_eq (style : String) (titles : List String) (rows : Html) :
    table style titles rows = tableHead style titles ++ (element "tbody" [] rows ++ (newline ++ [.stop "table"])) := by
  simp [table, tableHead, styled, element]

theorem tableHead_lacks {tag : String} (other : ∀ name ∈ ["table", "thead", "tr", "th"], name ≠ tag) (style : String)
    (titles : List String) : (tableHead style titles).lacks tag = true := by
  have each : lacks tag (titles.flatMap (plain "th")) = true :=
    lacks_flatMap fun title _ => by simp_all [plain, text]
  simp_all [tableHead, newline]

theorem tableHead_legible (style : String) (titles : List String) : (tableHead style titles).isLegible = true := by
  have each : isLegible (titles.flatMap (plain "th")) = true :=
    isLegible_flatMap fun title _ => by simp +decide [plain, text]
  simp +decide [tableHead, newline, each]

/-- Rows with proper cells are part of a legible body. -/
theorem rows_legible (proper : ∀ a ∈ items, ∀ c ∈ contents a, IsCell c) :
    isLegible (items.flatMap fun a => row (contents a)) = true := by
  refine isLegible_flatMap fun a listed => ?_
  have each : isLegible ((contents a).flatMap (element "td" [])) = true := by
    refine isLegible_flatMap fun c member => ?_
    simp +decide [(proper a listed c member).legible]
  simp +decide [row, each]

theorem table_legible (proper : ∀ a ∈ items, ∀ c ∈ contents a, IsCell c) :
    (table style titles (items.flatMap fun a => row (contents a))).isLegible = true := by
  have body := rows_legible proper
  have head := tableHead_legible style titles
  simp +decide [table_eq, head, body, newline]

/-- A table has a row for each item, with the cells of that item. -/
theorem cells_table (proper : ∀ a ∈ items, ∀ c ∈ contents a, IsCell c) {before after : Html}
    (first : before.lacks "tbody" = true) (last : after.lacks "tbody" = true) :
    cells (before ++ (table style titles (items.flatMap fun a => row (contents a)) ++ after)) =
      items.map fun a => (contents a).map (.start "td" [] :: ·) := by
  have within (tag : String) (other : tag = "tbody" ∨ tag = "tr") :
      ∀ a ∈ items, lacks tag ((contents a).flatMap (element "td" [])) = true := by
    intro a listed
    refine lacks_flatMap fun c member => ?_
    rcases other with rfl | rfl
    · simp [(proper a listed c member).no_body]
    · simp [(proper a listed c member).no_row]
  have body : lacks "tbody" (items.flatMap fun a => row (contents a)) = true :=
    lacks_flatMap fun a listed => by simp [row, within "tbody" (.inl rfl) a listed]
  have ending : lacks "tbody" (newline ++ [.stop "table"] ++ after) = true := by
    simp [newline, last]
  have bodies : parts "tbody" (before ++ (table style titles (items.flatMap fun a => row (contents a)) ++ after)) =
      [.start "tbody" [] :: items.flatMap fun a => row (contents a)] := by
    rw [parts_append first, table_eq, List.append_assoc, parts_append (tableHead_lacks (by decide) style titles),
      List.append_assoc, parts_element [] body, parts_lacking ending]
  have rows : parts "tr" (.start "tbody" [] :: items.flatMap fun a => row (contents a)) =
      items.map fun a => .start "tr" [] :: (contents a).flatMap (element "td" []) := by
    rw [parts, if_neg (by decide)]
    exact parts_flatMap (fun _ => []) (within "tr" (.inr rfl))
  rw [cells, bodies, List.flatMap_singleton, rows, List.map_map]
  refine List.map_congr_left fun a listed => ?_
  rw [Function.comp_apply, parts, if_neg (by decide)]
  exact parts_flatMap (fun _ => []) fun c member => (proper a listed c member).no_cell

section

variable {β : Type} {read? : List (List Mark) → Option β} {shown : α → β} {before after : Html}
  (proper : ∀ a ∈ items, ∀ c ∈ contents a, IsCell c)
  (reads : ∀ a ∈ items, read? ((contents a).map fun c => marks (.start "td" [] :: c)) = some (shown a))
  (legible : isLegible before = true ∧ isLegible after = true)
  (lacking : before.lacks "tbody" = true ∧ after.lacks "tbody" = true)

include proper reads legible lacking

/-- Each row of a table is read. -/
theorem rows_table :
    (Mark.cells (before ++ (table style titles (items.flatMap fun a => row (contents a)) ++ after)).marks).map read? =
      (items.map shown).map some := by
  have whole :
      isLegible (before ++ (table style titles (items.flatMap fun a => row (contents a)) ++ after)) = true := by
    simp [legible, table_legible proper]
  rw [cells_marks whole, cells_table proper lacking.1 lacking.2, List.map_map, List.map_map, List.map_map]
  refine List.map_congr_left fun a listed => ?_
  rw [Function.comp_apply, Function.comp_apply, Function.comp_apply, List.map_map, ← reads a listed]
  rfl

/-- A table with rows is found, and each of its rows is read. -/
theorem lists_table (filled : items ≠ []) :
    Lists (fun ms => (Mark.cells ms).map read?) "table"
      (before ++ (table style titles (items.flatMap fun a => row (contents a)) ++ after)).render (items.map shown) := by
  have whole :
      isLegible (before ++ (table style titles (items.flatMap fun a => row (contents a)) ++ after)) = true := by
    simp [legible, table_legible proper]
  constructor
  · rw [marksOf_render (isClean_of_isLegible whole)]
    exact rows_table proper reads legible lacking
  · rw [elements_render (by decide) whole]
    have opened : .start "table" [.value "class" style] ∈
        before ++ (table style titles (items.flatMap fun a => row (contents a)) ++ after) :=
      List.mem_append_right before (List.mem_append_left after List.mem_cons_self)
    exact ⟨fun _ => by simpa using filled, fun _ => by simpa using parts_ne_nil opened⟩

end

/-- Without tables no rows are read. -/
theorem lists_none {β : Type} {read? : List (List Mark) → Option β} {h : Html} (legible : isLegible h = true)
    (bodiless : h.lacks "tbody" = true) (lacking : h.lacks "table" = true) :
    Lists (fun ms => (Mark.cells ms).map read?) "table" h.render [] := by
  constructor
  · rw [marksOf_render (isClean_of_isLegible legible), cells_marks legible, cells, parts_lacking bodiless]
    rfl
  · rw [elements_render (by decide) legible, parts_lacking lacking]
    exact ⟨fun some => absurd rfl some, fun some => absurd rfl some⟩

/-! ## Cells -/

theorem isCell_text (s : String) : IsCell (text s) := by
  constructor <;> simp [text]

theorem isCell_badge (style label : String) : IsCell (badge style label) := by
  constructor <;> simp +decide [badge, styled, text]

/-- An element with a text says that text. -/
theorem words_text (tag : String) (attributes : List Attribute) (s : String) :
    words (marks (.start tag attributes :: text s)) = s := by
  rw [words_part attributes (by simp [text])]
  simp [text, Piece.shown]

theorem words_badge (tag style label : String) : words (marks (.start tag [] :: badge style label)) = label := by
  rw [words_part [] (by simp +decide [badge, styled, text])]
  simp [badge, styled, element, text, Piece.shown]

/-! ## Calls -/

/-- The cells of the row of a call. -/
def callCells (c : Call) : List Html :=
  [text c.phoneNumber, callBadge c.status, text (c.outcome.getD missing), text (durationText c.duration),
    text c.createdAt.minuteText, element "a" [.value "href" (Site.call c.id)] (text "View")]

theorem callCells_proper (c : Call) : ∀ cell ∈ callCells c, IsCell cell := by
  have link : IsCell (element "a" [.value "href" (Site.call c.id)] (text "View")) := by
    constructor <;> simp +decide [text]
  simp [callCells, callBadge, isCell_text, isCell_badge, link]

/-- A row of a call is read back. -/
theorem read?_callCells (c : Call) :
    ShownCall.read? ((callCells c).map fun cell => marks (.start "td" [] :: cell)) = some (.ofCall c) := by
  have link : (Mark.elements "a" (marks (.start "td" [] ::
      element "a" [.value "href" (Site.call c.id)] (text "View")))).head?.bind (value? "href") =
        some (Site.call c.id) := by
    have part : parts "a" (.start "td" [] :: element "a" [.value "href" (Site.call c.id)] (text "View")) =
        [.start "a" [.value "href" (Site.call c.id)] :: text "View"] := by
      rw [parts, if_neg (by decide), ← List.append_nil (element _ _ _), parts_element _ (by simp [text])]
      rfl
    have target : ([Attribute.value "href" (Site.call c.id)].filterMap Attribute.read?).lookup "href".toList =
        some ((Site.call c.id).toList.flatMap escapeChar) := rfl
    rw [elements_marks (by decide) (by simp +decide [element, text]), part, List.map_singleton, List.head?_cons,
      Option.bind_some, value?_part (by simp +decide), target, Option.map_some, unescape_escaped, String.ofList_toList]
  simp only [callCells, callBadge, List.map_cons, List.map_nil, ShownCall.read?, words_text, words_badge, link,
    Option.map_some]
  rfl

/-- The calls are read from their table, whatever stands around it, as long as it has no table of its own. -/
theorem lists_calls_within (calls : List Call) {before after : Html}
    (legible : isLegible before = true ∧ isLegible after = true)
    (bodiless : before.lacks "tbody" = true ∧ after.lacks "tbody" = true)
    (tableless : before.lacks "table" = true ∧ after.lacks "table" = true) :
    Lists ShownCall.rows "table" (before ++ (callTable calls ++ after)).render (calls.map .ofCall) := by
  by_cases none : calls = []
  · subst none
    have shown : (callTable []).isLegible = true ∧ (callTable []).lacks "tbody" = true ∧
        (callTable []).lacks "table" = true := by decide
    exact lists_none (by simp [legible, shown]) (by simp [bodiless, shown]) (by simp [tableless, shown])
  · have shown : callTable calls = table "table call-list"
        ["Phone", "Status", "Outcome", "Duration", "Date", ""] (calls.flatMap fun c => row (callCells c)) := by
      rw [callTable, if_neg (by simpa using none)]
      rfl
    rw [shown]
    exact lists_table (fun c _ => callCells_proper c) (fun c _ => read?_callCells c) legible bodiless none

theorem lists_calls (calls : List Call) :
    Lists ShownCall.rows "table" (callTable calls).render (calls.map .ofCall) := by
  have alone := @lists_calls_within calls [] [] ⟨rfl, rfl⟩ ⟨rfl, rfl⟩ ⟨rfl, rfl⟩
  rwa [List.nil_append, List.append_nil] at alone

/-! ## Campaigns -/

/-- The first cell of the row of a campaign. -/
def titleCell (c : Campaign) : Html :=
  element "strong" [] (text c.name) ++ single "br" [] ++ styled "span" "muted" (text (c.description.getD ""))

/-- The cells of the row of a campaign. -/
def campaignCells (c : Campaign) : List Html :=
  [titleCell c, campaignBadge c.status, text (c.voice.getD missing), text (Text.decimal c.totalLeads.toNat),
    text (Text.decimal c.callsMade.toNat)]

theorem titleCell_legible (c : Campaign) : (titleCell c).isLegible = true := by
  simp +decide [titleCell, single, styled, text]

theorem campaignCells_proper (c : Campaign) : ∀ cell ∈ campaignCells c, IsCell cell := by
  have title : IsCell (titleCell c) := by
    constructor <;> simp +decide [titleCell, single, styled, text]
  simp [campaignCells, campaignBadge, isCell_text, isCell_badge, title]

/-- A row of a campaign is read back. -/
theorem read?_campaignCells (c : Campaign) :
    ShownCampaign.read? ((campaignCells c).map fun cell => marks (.start "td" [] :: cell)) =
      some (.ofCampaign c) := by
  have legible : isLegible (.start "td" [] :: titleCell c) = true := by
    simp +decide [titleCell_legible]
  have name : parts "strong" (.start "td" [] :: titleCell c) = [.start "strong" [] :: text c.name] := by
    rw [parts, if_neg (by decide), titleCell, List.append_assoc, parts_element [] (by simp [text]),
      parts_lacking (by simp [single, styled, text])]
  have description : parts "span" (.start "td" [] :: titleCell c) =
      [.start "span" [.value "class" "muted"] :: text (c.description.getD "")] := by
    rw [parts, if_neg (by decide), titleCell, parts_append (by simp [single, text]),
      ← List.append_nil (styled _ _ _), styled, parts_element _ (by simp [text])]
    rfl
  have names : Mark.elements "strong" (marks (.start "td" [] :: titleCell c)) =
      [marks (.start "strong" [] :: text c.name)] := by
    rw [elements_marks (by decide) legible, name, List.map_singleton]
  have descriptions : Mark.elements "span" (marks (.start "td" [] :: titleCell c)) =
      [marks (.start "span" [.value "class" "muted"] :: text (c.description.getD ""))] := by
    rw [elements_marks (by decide) legible, description, List.map_singleton]
  simp only [campaignCells, campaignBadge, List.map_cons, List.map_nil, ShownCampaign.read?, words_text, words_badge,
    names, descriptions]
  rfl

theorem lists_campaigns (campaigns : List Campaign) :
    Lists ShownCampaign.rows "table" (Page.campaigns (.ready campaigns)).render (campaigns.map .ofCampaign) := by
  by_cases none : campaigns = []
  · subst none
    exact lists_none (by decide) (by decide) (by decide)
  · have shown : Page.campaigns (.ready campaigns) = [] ++ (table "table campaigns"
        ["Name", "Status", "Voice", "Leads", "Calls made"]
        (campaigns.flatMap fun c => row (campaignCells c)) ++ []) := by
      rw [Page.campaigns, if_neg (by simpa using none), List.append_nil]
      rfl
    rw [shown]
    exact lists_table (fun c _ => campaignCells_proper c) (fun c _ => read?_campaignCells c) ⟨rfl, rfl⟩ ⟨rfl, rfl⟩ none

/-! ## Imports -/

/-- The cells of the row of a rejected row. -/
def rowErrorCells (e : RowError) : List Html := [text (Text.decimal e.row.toNat), text e.phone, text e.error]

theorem rowErrorCells_proper (e : RowError) : ∀ cell ∈ rowErrorCells e, IsCell cell := by
  simp [rowErrorCells, isCell_text]

theorem read?_rowErrorCells (e : RowError) :
    ShownRowError.read? ((rowErrorCells e).map fun cell => marks (.start "td" [] :: cell)) = some (.ofRowError e) := by
  simp only [rowErrorCells, List.map_cons, List.map_nil, ShownRowError.read?, words_text]
  rfl

/-- The counters of the result of an import. -/
def importCounters (r : ImportResult) : Html :=
  counter "stat" (Text.decimal r.totalRows.toNat) "Total rows" ++
    counter "stat stat-success" (Text.decimal r.imported.toNat) "Imported" ++
    counter "stat stat-warning" (Text.decimal r.duplicatesSkipped.toNat) "Duplicates skipped" ++
    counter "stat stat-danger" (Text.decimal r.failed.toNat) "Failed"

/-- What stands before the rejected rows in the result of an import. -/
def importHead (r : ImportResult) : Html :=
  .start "section" [.value "class" "import-results"] ::
    (plain "h2" "Import complete" ++ styled "div" "stats-grid" (importCounters r))

/-- The rejected rows in the result of an import. -/
def importRows (r : ImportResult) : Html :=
  if r.hasRowErrors then
    plain "h3" "Rows with errors" ++ newline ++ table "table import-errors" ["Row", "Phone", "Error"]
      (r.errors.flatMap fun e => row (rowErrorCells e)) else []

/-- The result of an import, up to its end. -/
def importPanel (r : ImportResult) : Html := importHead r ++ importRows r

theorem importResult_eq (r : ImportResult) : importResult r = importPanel r ++ [.stop "section"] := by
  have rows : rowError = fun e => row (rowErrorCells e) := rfl
  simp [importResult, importPanel, importHead, importRows, importCounters, styled, element, lines, rows]

theorem counter_legible {style value label : String} : isLegible (counter style value label) = true := by
  simp +decide [counter, styled, text]

theorem counter_lacks {style value label tag : String} (other : "div" ≠ tag ∧ "span" ≠ tag) :
    lacks tag (counter style value label) = true := by
  simp [counter, styled, text, other]

theorem importHead_legible (r : ImportResult) : (importHead r).isLegible = true := by
  simp +decide [importHead, importCounters, counter_legible, plain, styled, text]

theorem importPanel_legible (r : ImportResult) : (importPanel r).isLegible = true := by
  have rows : isLegible (table "table import-errors" ["Row", "Phone", "Error"]
      (r.errors.flatMap fun e => row (rowErrorCells e))) = true :=
    table_legible fun e _ => rowErrorCells_proper e
  rw [importPanel, isLegible_append, importHead_legible, importRows]
  split
  · simp +decide [rows, plain, text, newline]
  · rfl

theorem importResult_legible (r : ImportResult) : (importResult r).isLegible = true := by
  rw [importResult_eq, isLegible_append, importPanel_legible]
  rfl

section

variable (r : ImportResult)

theorem importPanel_none (none : r.errors = []) : importPanel r = importHead r := by
  simp [importPanel, importRows, ImportResult.hasRowErrors, none]

theorem importPanel_some (some : r.errors ≠ []) (after : Html) :
    importPanel r ++ after = importHead r ++ plain "h3" "Rows with errors" ++ newline ++ (table "table import-errors"
      ["Row", "Phone", "Error"] (r.errors.flatMap fun e => row (rowErrorCells e)) ++ after) := by
  simp [importPanel, importRows, ImportResult.hasRowErrors, some]

theorem importHead_lacks {tag : String} (other : ∀ name ∈ ["section", "h2", "div", "span"], name ≠ tag) :
    (importHead r).lacks tag = true := by
  simp_all [importHead, importCounters, counter_lacks, plain, styled, text]

/-- The rejected rows are read from the result of an import, whatever follows it. -/
theorem rows_importPanel {after : Html} (legible : after.isLegible = true) (lacking : after.lacks "tbody" = true) :
    ShownRowError.rows (importPanel r ++ after).marks = (r.errors.map .ofRowError).map some := by
  by_cases none : r.errors = []
  · have whole : (importHead r ++ after).isLegible = true := by simp [importHead_legible, legible]
    have bodiless : (importHead r ++ after).lacks "tbody" = true := by
      simp [importHead_lacks, lacking]
    rw [importPanel_none r none, none, ShownRowError.rows, cells_marks whole, cells, parts_lacking bodiless]
    rfl
  · rw [importPanel_some r none]
    refine rows_table (fun e _ => rowErrorCells_proper e) (fun e _ => read?_rowErrorCells e) ?_ ?_
    · simp +decide [importHead_legible, plain, text, newline, legible]
    · simp +decide [importHead_lacks, plain, text, newline, lacking]

theorem lists_rowErrors : Lists ShownRowError.rows "table" (importResult r).render (r.errors.map .ofRowError) := by
  constructor
  · rw [marksOf_render (isClean_of_isLegible (importResult_legible r)), importResult_eq]
    exact rows_importPanel r rfl rfl
  · rw [elements_render (by decide) (importResult_legible r), importResult_eq]
    by_cases none : r.errors = []
    · have tableless : lacks "table" (importHead r ++ [.stop "section"]) = true := by
        simp +decide [importHead_lacks]
      rw [importPanel_none r none, none, parts_lacking tableless]
      exact ⟨fun some => absurd rfl some, fun some => absurd rfl some⟩
    · have opened : .start "table" [.value "class" "table import-errors"] ∈ importPanel r ++ [.stop "section"] := by
        rw [importPanel_some r none]
        exact List.mem_append_right _ (List.mem_append_left _ List.mem_cons_self)
      exact ⟨fun _ => by simpa using none, fun _ => by simpa using parts_ne_nil opened⟩

/-- The numbers of a counter stand in its spans. -/
theorem parts_counter (style value label : String) (h : Html) :
    parts "span" (counter style value label ++ h) =
      (.start "span" [.value "class" "stat-value"] :: text value) ::
        (.start "span" [.value "class" "stat-label"] :: text label) :: parts "span" h := by
  have shape : counter style value label ++ h = [.start "div" [.value "class" style]] ++
      (element "span" [.value "class" "stat-value"] (text value) ++
        (element "span" [.value "class" "stat-label"] (text label) ++ ([.stop "div"] ++ h))) := by
    simp [counter, styled, element]
  rw [shape, parts_append (by simp), parts_element _ (by simp [text]), parts_element _ (by simp [text]),
    parts_append (by simp)]

theorem importRows_lacks {tag : String}
    (other : ∀ name ∈ ["h3", "table", "thead", "tbody", "tr", "th", "td"], name ≠ tag) :
    (importRows r).lacks tag = true := by
  have rows : lacks tag (r.errors.flatMap fun e => row (rowErrorCells e)) = true :=
    lacks_flatMap fun e _ => by simp_all [rowErrorCells, row, text]
  have head : lacks tag (tableHead "table import-errors" ["Row", "Phone", "Error"]) = true :=
    tableHead_lacks (by simp_all) _ _
  rw [importRows]
  split
  · simp_all [table_eq, plain, text, newline]
  · rfl

/-- The four counters are read from the result of an import, whatever follows it. -/
theorem counters_importPanel {after : Html} (legible : after.isLegible = true) (lacking : after.lacks "span" = true) :
    Mark.counters (importPanel r ++ after).marks = r.counters := by
  have whole : (importPanel r ++ after).isLegible = true := by simp [importPanel_legible, legible]
  have shape : importPanel r ++ after = .start "section" [.value "class" "import-results"] ::
      (plain "h2" "Import complete" ++ [.start "div" [.value "class" "stats-grid"]]) ++
        (importCounters r ++ ([.stop "div"] ++ importRows r ++ after)) := by
    simp [importPanel, importHead, styled, element]
  have last : lacks "span" ([.stop "div"] ++ importRows r ++ after) = true := by
    simp [importRows_lacks, lacking]
  have opening : lacks "span" (.start "section" [.value "class" "import-results"] ::
      (plain "h2" "Import complete" ++ [.start "div" [.value "class" "stats-grid"]])) = true := by decide
  rw [Mark.counters, elements_marks (by decide) whole, shape, parts_append opening, importCounters]
  simp only [List.append_assoc, parts_counter]
  rw [parts_lacking (by simpa using last)]
  simp only [List.map_cons, List.map_nil, words_text, Mark.labelled, ImportResult.counters]

end

/-! ## Transcripts -/

/-- What the item of a turn holds. -/
def turnContents (t : Turn) : Html :=
  styled "span" "turn-role" (text t.role.label) ++ Html.optional t.time (fun time => plain "time" time.clock) ++
    plain "p" t.content

/-- The attributes of the item of a turn. -/
def turnStyle (t : Turn) : List Attribute := [.value "class" ("turn turn-" ++ t.role.wireName)]

theorem turnContents_legible (t : Turn) : (turnContents t).isLegible = true := by
  cases time : t.time <;> simp +decide [turnContents, time, plain, styled, text]

theorem turnContents_lacks {tag : String} (other : ∀ name ∈ ["span", "time", "p"], name ≠ tag) (t : Turn) :
    (turnContents t).lacks tag = true := by
  cases time : t.time <;> simp_all [turnContents, plain, styled, text]

/-- An item of a turn is read back. -/
theorem read?_turnContents (t : Turn) :
    ShownTurn.read? (marks (.start "li" (turnStyle t) :: turnContents t)) = some (.ofTurn t) := by
  have legible : isLegible (.start "li" (turnStyle t) :: turnContents t) = true := by
    simp +decide [turnStyle, turnContents_legible]
  have told : lacks "span" (plain "p" t.content) = true := by simp [plain, text]
  have role : Mark.elements "span" (marks (.start "li" (turnStyle t) :: turnContents t)) =
      [marks (.start "span" [.value "class" "turn-role"] :: text t.role.label)] := by
    have rest :
        lacks "span" (Html.optional t.time (fun time => plain "time" time.clock) ++ plain "p" t.content) = true := by
      cases t.time <;> simp [plain, text]
    rw [elements_marks (by decide) legible, parts, if_neg (by simp [Piece.opens]), turnContents, List.append_assoc,
      styled, parts_element _ (by simp [text]), parts_lacking rest, List.map_singleton]
  have content : Mark.elements "p" (marks (.start "li" (turnStyle t) :: turnContents t)) =
      [marks (.start "p" [] :: text t.content)] := by
    have before : lacks "p" (styled "span" "turn-role" (text t.role.label) ++
        Html.optional t.time fun time => plain "time" time.clock) = true := by
      cases t.time <;> simp [plain, styled, text]
    rw [elements_marks (by decide) legible, parts, if_neg (by simp [Piece.opens]), turnContents, parts_append before,
      ← List.append_nil (plain _ _), plain, parts_element _ (by simp [text])]
    rfl
  have time : Mark.elements "time" (marks (.start "li" (turnStyle t) :: turnContents t)) =
      (t.time.map fun time => marks (.start "time" [] :: text time.clock)).toList := by
    have before : lacks "time" (styled "span" "turn-role" (text t.role.label)) = true := by
      simp [styled, text]
    have after : lacks "time" (plain "p" t.content) = true := by simp [plain, text]
    rw [elements_marks (by decide) legible, parts, if_neg (by simp [Piece.opens]), turnContents, List.append_assoc,
      parts_append before]
    cases t.time with
    | none => rw [optional_none, List.nil_append, parts_lacking after]; rfl
    | some time => rw [optional_some, plain, parts_element _ (by simp [text]), parts_lacking after]; rfl
  rw [ShownTurn.read?, role, time, content]
  cases clock : t.time <;> simp [words_text, ShownTurn.ofTurn, clock]

/-- What stands before the turns of a transcript. -/
def transcriptHead (turns : List Turn) : Html :=
  .start "div" [.value "class" "transcript"] :: newline ++ styled "p" "transcript-stats"
    (text (Text.decimal (TranscriptStats.ofTurns turns).turnCount ++ " turns, " ++
      Text.decimal (TranscriptStats.ofTurns turns).wordCount ++ " words")) ++ newline

theorem transcript_eq {turns : List Turn} (filled : turns ≠ []) :
    transcript turns = transcriptHead turns ++ (element "ol" [.value "class" "transcript-turns"]
      (turns.flatMap fun t => element "li" (turnStyle t) (turnContents t)) ++ (newline ++ [.stop "div"])) := by
  have items : turnItem = fun t => element "li" (turnStyle t) (turnContents t) := rfl
  have shown : turns.isEmpty = false := List.isEmpty_eq_false_iff.mpr filled
  rw [transcript, shown, if_neg (by decide), items]
  simp [transcriptHead, styled, element, lines]

theorem transcript_legible (turns : List Turn) : (transcript turns).isLegible = true := by
  by_cases none : turns = []
  · rw [none]
    decide
  · have items : isLegible (turns.flatMap fun t => element "li" (turnStyle t) (turnContents t)) = true :=
      isLegible_flatMap fun t _ => by simp +decide [turnStyle, turnContents_legible]
    rw [transcript_eq none]
    simp +decide [items, transcriptHead, styled, text, newline]

theorem lists_turns (turns : List Turn) :
    Lists ShownTurn.items "ol" (transcript turns).render (turns.map .ofTurn) := by
  have legible := transcript_legible turns
  by_cases none : turns = []
  · subst none
    have lacking : lacks "ol" (transcript []) = true := by decide
    constructor
    · rw [marksOf_render (isClean_of_isLegible legible), ShownTurn.items, elements_marks (by decide) legible,
        parts_lacking lacking]
      rfl
    · rw [elements_render (by decide) legible, parts_lacking lacking]
      exact ⟨fun some => absurd rfl some, fun some => absurd rfl some⟩
  · have items : lacks "ol" (turns.flatMap fun t => element "li" (turnStyle t) (turnContents t)) = true :=
      lacks_flatMap fun t _ => by simp [turnContents_lacks]
    have head : lacks "ol" (transcriptHead turns) = true := by simp [transcriptHead, styled, text, newline]
    have list : parts "ol" (transcript turns) = [.start "ol" [.value "class" "transcript-turns"] ::
        turns.flatMap fun t => element "li" (turnStyle t) (turnContents t)] := by
      rw [transcript_eq none, parts_append head, parts_element _ items, parts_lacking (by decide)]
    have inner : isLegible (.start "ol" [.value "class" "transcript-turns"] ::
        turns.flatMap fun t => element "li" (turnStyle t) (turnContents t)) = true :=
      isLegible_of_mem_parts legible _ (list ▸ List.mem_singleton_self _)
    have each : parts "li" (.start "ol" [.value "class" "transcript-turns"] ::
        turns.flatMap fun t => element "li" (turnStyle t) (turnContents t)) =
          turns.map fun t => .start "li" (turnStyle t) :: turnContents t := by
      rw [parts, if_neg (by decide)]
      exact parts_flatMap turnStyle fun t _ => turnContents_lacks (by decide) t
    constructor
    · rw [marksOf_render (isClean_of_isLegible legible), ShownTurn.items, elements_marks (by decide) legible, list,
        List.map_singleton, List.flatMap_singleton, elements_marks (by decide) inner, each, List.map_map, List.map_map,
        List.map_map]
      exact List.map_congr_left fun t _ => read?_turnContents t
    · rw [elements_render (by decide) legible, list]
      exact ⟨fun _ => by simpa using none, fun _ => List.cons_ne_nil _ _⟩

/-! ## All tables -/

/-- What is shown in a table is read back from it, item by item, and a table is there just when there is something
to show. The result of an import shows its counters in any case. -/
theorem tables_read_back (calls : List Call) (campaigns : List Campaign) (result : ImportResult) (turns : List Turn) :
    Lists ShownCall.rows "table" (callTable calls).render (calls.map .ofCall) ∧
    Lists ShownCampaign.rows "table" (Page.campaigns (.ready campaigns)).render (campaigns.map .ofCampaign) ∧
    Lists ShownRowError.rows "table" (importResult result).render (result.errors.map .ofRowError) ∧
    Mark.counters (marksOf (importResult result).render) = result.counters ∧
    Lists ShownTurn.items "ol" (transcript turns).render (turns.map .ofTurn) := by
  have counted : Mark.counters (marksOf (importResult result).render) = result.counters := by
    rw [marksOf_render (isClean_of_isLegible (importResult_legible result)), importResult_eq]
    exact counters_importPanel result rfl rfl
  exact ⟨lists_calls calls, lists_campaigns campaigns, lists_rowErrors result, counted, lists_turns turns⟩

end Page

end CallDesk
