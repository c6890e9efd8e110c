import CallDesk.Json.Basic
import CallDesk.Schema.Script

/-! # The schema of the transcripts

The objects that a migration adds to the database, and the report on which of them are there. A
database is complete when nothing is missing.
-/

namespace CallDesk.Schema

/-- An object that a database may have. -/
inductive Object where
  | table (name : String)
  | column (table name : String)
  | index (name : String)
  /-- A trigger on a table. -/
  | trigger (table name : String)
deriving DecidableEq

/-- The columns that the migration adds, each with its table. -/
def expectedColumns : List (String × String) := [
  ("calls", "external_call_uuid"),
  ("calls", "transcript_json"),
  ("recordings", "tenant_id"),
  ("recordings", "status")]

def expectedIndexes : List String := [
  "idx_calls_external_call_uuid",
  "idx_recordings_tenant_id",
  "idx_recordings_status",
  "idx_transcripts_call_id",
  "idx_transcripts_full_text"]

def transcriptsTable : String := "transcripts"

/-- The trigger that the migration adds to that table. -/
def transcriptsTrigger : String := "update_transcripts_updated_at"

/-- A change of the schema. -/
structure Migration where
  /-- The time it was written, as a number. -/
  version : Int
  description : String
  script : String
deriving DecidableEq

/-- What tells whether a migration is the one that was applied: two scripts that differ have
different fingerprints. -/
def Migration.fingerprint (m : Migration) : String := m.script

/-- All migrations, in the order they are applied. -/
def migrations : List Migration := [
  ⟨20250101000000, "call recordings transcripts", transcriptsScript⟩]

/-- What is there of the migration's objects. -/
structure Report where
  /-- The columns that are missing, each with its table. -/
  missingColumns : List (String × String) := []
  missingIndexes : List String := []
  hasTable : Bool := false
  hasTrigger : Bool := false
deriving DecidableEq

namespace Report

def isComplete (r : Report) : Bool :=
  r.missingColumns.isEmpty && r.missingIndexes.isEmpty && r.hasTable && r.hasTrigger

def toJson (r : Report) : Json := .record [
  ("missing_columns", .list (fun (t, c) => .array [.text t, .text c]) r.missingColumns),
  ("missing_indexes", .list .text r.missingIndexes),
  ("transcripts_table", .bool r.hasTable),
  ("transcripts_trigger", .bool r.hasTrigger)]

def mark (present : Bool) : String := if present then "ok" else "MISSING"

def lines (r : Report) : List String :=
  ["transcripts table    " ++ mark r.hasTable, "transcripts trigger  " ++ mark r.hasTrigger] ++
    (r.missingColumns.map fun (t, c) => "column " ++ t ++ "." ++ c ++ "  MISSING") ++
    (r.missingIndexes.map fun i => "index " ++ i ++ "  MISSING") ++
    if r.isComplete then ["schema complete"] else []

end Report

end CallDesk.Schema
