import CallDesk.Proofs.Page.Form
import CallDesk.Proofs.Page.Tables

/-! # The page of an upload

The page on which contacts are uploaded, read as a browser reads it: it has a panel with the result of the import,
or an alert with the message of the failure, and never both.
-/

namespace CallDesk

open Html

/-- The panels of a page that tell the result of an import. -/
def Html.importPanels (page : String) : List (List Mark) :=
  (elements "section" page).filter fun panel => Mark.value? "class" panel == some "import-results"

/-- What a page shows of an upload. -/
inductive ShowsUpload (page : String) : Upload → Prop
  | idle (panels : importPanels page = []) (told : alerts page = []) : ShowsUpload page .idle
  | failed {message : String} (panels : importPanels page = [])
      (told : (alerts page).map unescape = [message.toList]) : ShowsUpload page (.failed message)
  | imported {result : ImportResult} {panel : List Mark} (panels : importPanels page = [panel])
      (counters : Mark.counters panel = result.counters)
      (rows : ShownRowError.rows panel = (result.errors.map .ofRowError).map some) (told : alerts page = []) :
      ShowsUpload page (.imported result)

namespace Page

/-- The page of an upload, as markup. -/
def uploadDocument (shell : Shell) (upload : Upload) : Html := shell.opening ++ contacts upload ++ shell.closing

/-- The card with the form of an upload. -/
def uploadCard : Html :=
  newline ++ lines [
    plain "h2" "Import contacts",
    element "p" [] (text "Upload a CSV file with a " ++ plain "code" "phone_number" ++
      text " column. The optional columns " ++ plain "code" "first_name" ++ text ", " ++
      plain "code" "last_name" ++ text " and " ++ plain "code" "email" ++
      text " are imported when present."),
    uploadForm] ++ newline

/-- What stands before the outcome of an upload. -/
def uploadHead : Html :=
  heading "Contacts" none ++ newline ++ element "section" [.value "class" "card"] uploadCard ++ newline

theorem contacts_eq (upload : Upload) : contacts upload = uploadHead ++ uploadOutcome upload := by
  simp [contacts, uploadHead, uploadCard, lines, styled]

variable (shell : Shell) (upload : Upload)

theorem opening_legible : shell.opening.isLegible = true ∧ shell.opening.lacks "section" = true := by
  rcases shell with ⟨title, _ | place, assistant⟩ <;>
    simp +decide [Shell.opening, Shell.head, Shell.guestBar, Shell.sidebar, Section.all, styled, element, link, plain,
      single, text, newline, lines]

theorem closing_legible : shell.closing.isLegible = true ∧ shell.closing.lacks "section" = true := by
  rw [Shell.closing, Shell.assistantLink]
  cases (if shell.assistant.enabled then shell.assistant.url else Option.none) <;>
    simp +decide [element, text, newline, lines]

theorem outcome_legible : (uploadOutcome upload).isLegible = true := by
  cases upload with
  | idle => rfl
  | failed message => simp +decide [uploadOutcome, banner, plain, text]
  | imported result => exact importResult_legible result

theorem uploadDocument_legible : (uploadDocument shell upload).isLegible = true := by
  have head : uploadHead.isLegible = true := by decide
  simp [uploadDocument, contacts_eq, opening_legible, closing_legible, outcome_legible, head]

/-! ## Panels -/

/-- The sections of the page are the card and what the outcome has. -/
theorem parts_uploadDocument : parts "section" (uploadDocument shell upload) =
    (.start "section" [.value "class" "card"] :: uploadCard) ::
      parts "section" (uploadOutcome upload ++ shell.closing) := by
  have shape : uploadDocument shell upload = shell.opening ++ (heading "Contacts" none ++ newline ++
      (element "section" [.value "class" "card"] uploadCard ++
        (newline ++ (uploadOutcome upload ++ shell.closing)))) := by
    simp [uploadDocument, contacts_eq, uploadHead]
  rw [shape, parts_append (opening_legible shell).2, parts_append (by decide), parts_element _ (by decide),
    parts_append (by decide)]

/-- Only a section of the class is a panel. -/
theorem importPanels_document : importPanels (uploadDocument shell upload).render =
    ((parts "section" (uploadOutcome upload ++ shell.closing)).map marks).filter fun panel =>
      Mark.value? "class" panel == some "import-results" := by
  have card : Mark.value? "class" (marks (.start "section" [.value "class" "card"] :: uploadCard)) = some "card" := by
    rw [value?_part (by decide)]
    decide
  rw [importPanels, elements_render (by decide) (uploadDocument_legible shell upload), parts_uploadDocument,
    List.map_cons, List.filter_cons, card]
  rfl

/-- Without an import there is no panel. -/
theorem importPanels_lacking (lacking : (uploadOutcome upload).lacks "section" = true) :
    importPanels (uploadDocument shell upload).render = [] := by
  have rest : lacks "section" (uploadOutcome upload ++ shell.closing) = true := by
    simp [lacking, (closing_legible shell).2]
  rw [importPanels_document, parts_lacking rest]
  rfl

/-- An import has one panel. -/
theorem importPanels_imported (result : ImportResult) :
    importPanels (uploadDocument shell (.imported result)).render = [(importPanel result).marks] := by
  have inner : importResult result ++ shell.closing =
      element "section" [.value "class" "import-results"] (importPanel result).tail ++ shell.closing := by
    rw [importResult_eq]
    simp [importPanel, importHead, element]
  have lacking : lacks "section" (importPanel result).tail = true := by
    have rows : lacks "section" (importRows result) = true := importRows_lacks result (by decide)
    simp [importPanel, importHead, importCounters, counter_lacks, rows, plain, styled, text]
  have panel : Mark.value? "class" (importPanel result).marks = some "import-results" := by
    have clean : (Piece.start "section" [.value "class" "import-results"]).isClean = true := by decide
    exact (value?_part clean "class").trans (by decide)
  rw [importPanels_document, uploadOutcome, inner, parts_element _ lacking, parts_lacking (closing_legible shell).2]
  change List.filter _ [(importPanel result).marks] = _
  rw [List.filter_cons, panel]
  rfl

/-! ## Alerts -/

theorem roles_uploadDocument : (uploadDocument shell upload).writtenValues "role" =
    (uploadOutcome upload).writtenValues "role" := by
  have head : uploadHead.writtenValues "role" = [] := by decide
  rw [uploadDocument, contacts_eq, writtenValues_append, writtenValues_append, writtenValues_append,
    (opening_values shell).2, closing_values shell (.inr rfl), head, List.nil_append, List.nil_append, List.append_nil]

theorem roles_importResult (result : ImportResult) : (importResult result).writtenValues "role" = [] := by
  have rows : writtenValues "role" (result.errors.flatMap rowError) = [] := by
    rw [writtenValues_flatMap]
    exact List.flatMap_eq_nil_iff.mpr fun e _ => rfl
  rw [importResult]
  split
  · simp only [styled, counter, table, writtenValues_element, writtenValues_append, writtenValues_lines,
      List.flatMap_cons, List.flatMap_nil, rows]
    rfl
  · simp only [styled, counter, writtenValues_element, writtenValues_append]
    rfl

/-- The page shows what became of an upload. -/
theorem uploadDocument_shows : ShowsUpload (uploadDocument shell upload).render upload := by
  have clean : (uploadDocument shell upload).isClean = true :=
    isClean_of_isLegible (uploadDocument_legible shell upload)
  have roles := roles_uploadDocument shell upload
  cases upload with
  | idle => exact .idle (importPanels_lacking shell .idle rfl) (alerts_of_no_roles clean roles)
  | failed message =>
    have part : banner message none <:+: uploadDocument shell (.failed message) := by
      rw [uploadDocument, contacts_eq]
      exact ⟨shell.opening ++ uploadHead, shell.closing, by simp [uploadOutcome]⟩
    have once : (writtenValues "role" (uploadDocument shell (.failed message))).count "alert".toList = 1 := by
      have written : (uploadOutcome (.failed message)).writtenValues "role" = ["alert".toList] := rfl
      rw [roles, written]
      rfl
    exact .failed (importPanels_lacking shell _ rfl) (alerts_of_part clean once part rfl)
  | imported result =>
    have counters := @counters_importPanel result [] rfl rfl
    have rows := @rows_importPanel result [] rfl rfl
    rw [List.append_nil] at counters rows
    exact .imported (importPanels_imported shell result) counters rows
      (alerts_of_no_roles clean (roles.trans (roles_importResult result)))

end Page

end CallDesk
