import CallDesk.Json.Record

/-! # Contact imports

What the backend did with an uploaded file of contacts.
-/

namespace CallDesk

/-- A row that was rejected. -/
structure RowError where
  row : UInt64
  phone : String := ""
  error : String
deriving DecidableEq

namespace RowError

def fieldNames : List String := ["row", "phone", "error"]

def ofJson? (v : Json) : Option RowError := do
  let fs ← v.fields? fieldNames
  let row ← fs.required "row" Json.uint64?
  let phone ← fs.orElse "phone" "" Json.text?
  let error ← fs.required "error" Json.text?
  return { row, phone, error }

def toJson (e : RowError) : Json := .record [
  ("row", .nat e.row.toNat), ("phone", .text e.phone), ("error", .text e.error)]

end RowError

/-- The result of an import. -/
structure ImportResult where
  totalRows : UInt64 := 0
  imported : UInt64 := 0
  duplicatesSkipped : UInt64 := 0
  failed : UInt64 := 0
  /-- The rejected rows, in the order of the file. -/
  errors : List RowError := []
deriving DecidableEq

namespace ImportResult

def fieldNames : List String :=
  ["total_rows", "imported", "duplicates_skipped", "failed", "errors"]

def ofJson? (v : Json) : Option ImportResult := do
  let fs ← v.fields? fieldNames
  let totalRows ← fs.orElse "total_rows" 0 Json.uint64?
  let imported ← fs.orElse "imported" 0 Json.uint64?
  let duplicatesSkipped ← fs.orElse "duplicates_skipped" 0 Json.uint64?
  let failed ← fs.orElse "failed" 0 Json.uint64?
  let errors ← fs.orElse "errors" [] (Json.list? RowError.ofJson?)
  return { totalRows, imported, duplicatesSkipped, failed, errors }

def toJson (r : ImportResult) : Json := .record [
  ("total_rows", .nat r.totalRows.toNat),
  ("imported", .nat r.imported.toNat),
  ("duplicates_skipped", .nat r.duplicatesSkipped.toNat),
  ("failed", .nat r.failed.toNat),
  ("errors", .list RowError.toJson r.errors)]

def hasRowErrors (r : ImportResult) : Bool := !r.errors.isEmpty

end ImportResult

end CallDesk
