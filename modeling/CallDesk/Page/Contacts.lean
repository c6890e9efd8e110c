import CallDesk.Import
import CallDesk.Page.Parts
import CallDesk.Site

/-! # Contacts

The page on which a file of contacts is uploaded, and what became of the last one.
-/

namespace CallDesk

/-- What became of an upload. -/
inductive Upload where
  /-- Nothing was uploaded. -/
  | idle
  /-- The file was rejected, here or by the backend. -/
  | failed (message : String)
  /-- The backend took the file. -/
  | imported (result : ImportResult)
deriving DecidableEq

/-- What a user is told who chose no file, or one that is no table of values. -/
def Upload.selectFile : String := "Please select a CSV file"

namespace Page

open Html

def rowError (e : RowError) : Html :=
  row [text (Text.decimal e.row.toNat), text e.phone, text e.error]

/-- The result of an import: four counters, and a table of the rejected rows if there are any. -/
def importResult (r : ImportResult) : Html :=
  styled "section" "import-results"
    (plain "h2" "Import complete" ++
      styled "div" "stats-grid"
        (counter "stat" (Text.decimal r.totalRows.toNat) "Total rows" ++
          counter "stat stat-success" (Text.decimal r.imported.toNat) "Imported" ++
          counter "stat stat-warning" (Text.decimal r.duplicatesSkipped.toNat)
            "Duplicates skipped" ++
          counter "stat stat-danger" (Text.decimal r.failed.toNat) "Failed") ++
      if r.hasRowErrors then
        lines [
          plain "h3" "Rows with errors",
          table "table import-errors" ["Row", "Phone", "Error"] (r.errors.flatMap rowError)]
      else [])

def uploadOutcome : Upload → Html
  | .idle => []
  | .failed message => banner message none
  | .imported result => importResult result

def uploadForm : Html :=
  element "form" [.value "class" "form upload-form", .value "method" "post",
      .value "action" Site.contacts, .value "enctype" "multipart/form-data",
      .value "data-busy-label" "Uploading...", .value "data-extension" ".csv",
      .value "data-extension-message" Upload.selectFile] (newline ++ lines [
    single "input" [.value "type" "file", .value "name" "file", .value "accept" ".csv,text/csv",
      .flag "required"],
    element "p" [.value "class" "form-error", .flag "data-upload-error", .flag "hidden"] [],
    element "button" [.value "class" "btn btn-primary", .value "type" "submit"]
      (text "Upload CSV")] ++ newline)

def contacts (upload : Upload) : Html :=
  lines [
    heading "Contacts" none,
    styled "section" "card" (newline ++ lines [
      plain "h2" "Import contacts",
      element "p" [] (text "Upload a CSV file with a " ++ plain "code" "phone_number" ++
        text " column. The optional columns " ++ plain "code" "first_name" ++ text ", " ++
        plain "code" "last_name" ++ text " and " ++ plain "code" "email" ++
        text " are imported when present."),
      uploadForm] ++ newline),
    uploadOutcome upload]

end Page

end CallDesk
