import CallDesk.Schema.Basic

/-! # Statements

What is said to a database, by what it gives. `text` is a statement as it is sent, in which `$1`
and `$2` stand for values that are sent beside it.
-/

namespace CallDesk.Schema

/-- A migration that a database remembers. -/
structure Applied where
  version : Int
  fingerprint : String
deriving DecidableEq

/-- A statement and the type of what it gives. -/
inductive Statement : Type → Type where
  /-- Whether the database answers at all. -/
  | ping : Statement Unit
  /-- Whether an object is there, as the catalog of the database tells. -/
  | present (o : Object) : Statement Bool
  /-- The name of the database. -/
  | databaseName : Statement String
  /-- Keeps other migrations of a database waiting. -/
  | lock (database : String) : Statement Unit
  /-- Lets other migrations of a database go on. -/
  | unlock (database : String) : Statement Unit
  /-- Makes the table of applied migrations if there is none. -/
  | remember : Statement Unit
  /-- The first migration that was begun and not finished. -/
  | unfinished : Statement (Option Int)
  /-- The applied migrations. -/
  | applied : Statement (List Applied)
  /-- Opens a transaction. -/
  | transaction : Statement Unit
  /-- The script of a migration. -/
  | script (m : Migration) : Statement Unit
  /-- Remembers that a migration was applied. -/
  | record (m : Migration) : Statement Unit
  /-- Keeps what the open transaction did. -/
  | commit : Statement Unit
  /-- Undoes what the open transaction did. -/
  | rollback : Statement Unit
  /-- Remembers how long a migration took. -/
  | duration (m : Migration) : Statement Unit

/-- A question to the catalog, with its conditions, behind a margin. -/
def existsText (margin : String) (lines : List String) : String :=
  "\n" ++ margin ++ "SELECT EXISTS (\n" ++
    String.join (lines.map fun line => margin ++ "    " ++ line ++ "\n") ++
    margin ++ ") AS present\n" ++ margin

/-- The margin of a question: what is asked in a loop stands further in. -/
def Object.margin : Object → String
  | column _ _ | index _ => "            "
  | table _ | trigger _ _ => "        "

/-- The question whether an object is there. Columns, tables and indexes are looked for in the
current schema, triggers in all of them. -/
def Object.query (o : Object) : String := existsText o.margin <| match o with
  | column _ _ => [
      "SELECT 1 FROM information_schema.columns",
      "WHERE table_schema = current_schema()",
      "  AND table_name = $1 AND column_name = $2"]
  | index _ => [
      "SELECT 1 FROM pg_indexes",
      "WHERE schemaname = current_schema() AND indexname = $1"]
  | table name => [
      "SELECT 1 FROM information_schema.tables",
      "WHERE table_schema = current_schema() AND table_name = '" ++ name ++ "'"]
  | trigger owner name => [
      "SELECT 1 FROM information_schema.triggers",
      "WHERE event_object_table = '" ++ owner ++ "'",
      "  AND trigger_name = '" ++ name ++ "'"]

/-- The lines that make the table of applied migrations. -/
def rememberLines : List String := [
  "",
  "CREATE TABLE IF NOT EXISTS _sqlx_migrations (",
  "    version BIGINT PRIMARY KEY,",
  "    description TEXT NOT NULL,",
  "    installed_on TIMESTAMPTZ NOT NULL DEFAULT now(),",
  "    success BOOLEAN NOT NULL,",
  "    checksum BYTEA NOT NULL,",
  "    execution_time BIGINT NOT NULL",
  ");",
  "                "]

def recordLines : List String := [
  "",
  "    INSERT INTO _sqlx_migrations ( version, description, success, checksum, execution_time )",
  "    VALUES ( $1, $2, TRUE, $3, -1 )",
  "                "]

/-- The lines that remember how long a migration took. -/
def durationLines : List String := [
  "",
  "    UPDATE _sqlx_migrations",
  "    SET execution_time = $1",
  "    WHERE version = $2",
  "                "]

def Statement.text {α : Type} : Statement α → String
  | ping => "SELECT 1"
  | present o => o.query
  | databaseName => "SELECT current_database()"
  | lock _ => "SELECT pg_advisory_lock($1)"
  | unlock _ => "SELECT pg_advisory_unlock($1)"
  | remember => "\n".intercalate rememberLines
  | unfinished =>
    "SELECT version FROM _sqlx_migrations WHERE success = false ORDER BY version LIMIT 1"
  | applied => "SELECT version, checksum FROM _sqlx_migrations ORDER BY version"
  | transaction => "BEGIN"
  | script m => m.script
  | record _ => "\n".intercalate recordLines
  | commit => "COMMIT"
  | rollback => "ROLLBACK"
  | duration _ => "\n".intercalate durationLines

end CallDesk.Schema
