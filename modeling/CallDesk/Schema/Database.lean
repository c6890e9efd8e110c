import CallDesk.Fault
import CallDesk.Schema.Statement
import CallDesk.Settings.Basic

/-! # Databases

What is done with a database, whatever it answers: a `Database` is reached with some settings and
executes statements, each of which may fail. Migrating applies every migration that is not
remembered, each in a transaction of its own, and refuses to start when what is remembered does
not fit.
-/

namespace CallDesk.Schema

/-- A database whose state is in `σ`. A statement that fails tells why. -/
structure Database (σ : Type) where
  connect : DatabaseSettings → σ → Except String Unit × σ
  execute : {α : Type} → Statement α → σ → Except String α × σ

/-- Work on a database, which may end with a fault of type `ε`. -/
abbrev Work (σ ε : Type) := ExceptT ε (StateM σ)

/-- Why the schema is not migrated. -/
inductive MigrationError where
  /-- A statement failed. -/
  | statement (detail : String)
  /-- A migration was begun and not finished. -/
  | unfinished (version : Int)
  /-- The database remembers a migration that is not known. -/
  | unknown (version : Int)
  /-- A migration is not what it was when it was applied. -/
  | changed (version : Int)
deriving DecidableEq

def MigrationError.message : MigrationError → String
  | statement detail => detail
  | unfinished version => "migration " ++ toString version ++ " is partially applied"
  | unknown version => "migration " ++ toString version ++
      " was previously applied but is missing in the resolved migrations"
  | changed version => "migration " ++ toString version ++
      " was previously applied but has been modified"

namespace Database

variable {σ α ε : Type}

def ask (db : Database σ) (toError : String → ε) (s : Statement α) : Work σ ε α :=
  ExceptT.mk fun st =>
    let (answer, st) := db.execute s st
    (answer.mapError toError, st)

def reach (db : Database σ) (settings : DatabaseSettings) : Work σ Fault Unit :=
  ExceptT.mk fun st =>
    let (answer, st) := db.connect settings st
    (answer.mapError Fault.database, st)

def checkHealth (db : Database σ) : Work σ Fault Unit :=
  db.ask (fun detail => .database ("Health check failed: " ++ detail)) .ping

def lacks (db : Database σ) (o : Object) : Work σ Fault Bool :=
  not <$> db.ask .database (.present o)

/-- Reports which of the migration's objects are there. -/
def report (db : Database σ) : Work σ Fault Report := do
  let missingColumns ← expectedColumns.filterM fun (table, name) => db.lacks (.column table name)
  let missingIndexes ← expectedIndexes.filterM fun name => db.lacks (.index name)
  let lacksTable ← db.lacks (.table transcriptsTable)
  let lacksTrigger ← db.lacks (.trigger transcriptsTable transcriptsTrigger)
  return { missingColumns, missingIndexes, hasTable := !lacksTable, hasTrigger := !lacksTrigger }

def step (db : Database σ) (s : Statement α) : Work σ MigrationError α := db.ask .statement s

/-- Applies a migration and remembers it, both or neither. -/
def applyOne (db : Database σ) (m : Migration) : Work σ MigrationError Unit := do
  db.step .transaction
  tryCatch (do db.step (.script m); db.step (.record m); db.step .commit) fun e => do
    tryCatch (db.step .rollback) fun _ => pure ()
    throw e
  db.step (.duration m)

/-- Applies a migration unless it was applied before. -/
def bringUp (db : Database σ) (done : List Applied) (m : Migration) :
    Work σ MigrationError Unit :=
  match done.find? (·.version == m.version) with
  | some a => if a.fingerprint = m.fingerprint then pure () else throw (.changed m.version)
  | none => db.applyOne m

/-- Applies the migrations that are not applied yet. -/
def migrateAll (db : Database σ) : Work σ MigrationError Unit := do
  db.step (.lock (← db.step .databaseName))
  db.step .remember
  if let some version ← db.step .unfinished then throw (.unfinished version)
  let done ← db.step .applied
  if let some a := done.find? fun a => !(migrations.any (·.version == a.version)) then
    throw (.unknown a.version)
  migrations.forM (db.bringUp done)
  db.step (.unlock (← db.step .databaseName))

def migrate (db : Database σ) : Work σ Fault Unit :=
  ExceptT.adapt (fun e => Fault.database ("Migration failed: " ++ e.message)) db.migrateAll

end Database

end CallDesk.Schema
