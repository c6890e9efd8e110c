import CallDesk.Command.Log
import CallDesk.Schema.Database
import CallDesk.Settings.Layers

/-! # The migration program

Applies the migrations and verifies the schema, or only one of the two, or lists the migrations.
It prints a report and succeeds exactly when the report is complete.
-/

namespace CallDesk.Migrate

open Schema

/-- What the program is asked to do. -/
inductive Task where
  /-- Apply pending migrations, then verify the schema. -/
  | run
  /-- Verify the schema without changing it. -/
  | verify
  /-- List the migrations. -/
  | list
deriving DecidableEq

def Task.ofName? : String → Option Task
  | "run" => some run
  | "verify" => some verify
  | "list" => some list
  | _ => none

/-- The options before a task. -/
structure Options where
  /-- The file of settings. -/
  config : Option String := none
  /-- The address of the database. -/
  databaseUrl : Option String := none
deriving DecidableEq

/-- What a command line asks for. -/
inductive Invocation where
  /-- The version of the program. -/
  | version
  /-- The help of the program, or of a task. -/
  | help
  /-- It is not understood. -/
  | misuse
  | work (options : Options) (task : Task)
deriving DecidableEq

/-! ## Command lines -/

/-- An option that takes a value. -/
inductive OptionName where
  | config
  | databaseUrl

namespace Options

/-- Sets an option, which must not be set before; a file has a name. -/
def set? (o : Options) (which : OptionName) (val : String) : Option Options :=
  match which with
  | .config =>
    if o.config.isSome || val.isEmpty then none else some { o with config := some val }
  | .databaseUrl =>
    if o.databaseUrl.isSome then none else some { o with databaseUrl := some val }

/-- Sets the last option, if there is one whose value stood by itself. -/
def settle? (o : Options) : Option (OptionName × String) → Option Options
  | some (which, val) => o.set? which val
  | none => some o

end Options

/-- How an argument is meant. -/
inductive Argument where
  | version
  | help
  /-- An option, with the value that is written with it. -/
  | option (which : OptionName) (attached : Option String)
  /-- A word that is no option. -/
  | word
  /-- An option that there is not. -/
  | unknown

/-- A long option and what follows its equals sign. -/
def longOption (cs : List Char) : String × Option String :=
  match Text.cut? '=' cs with
  | some (name, val) => (.ofList name, some (.ofList val))
  | none => (.ofList cs, none)

/-- The value written with a short option, perhaps after an equals sign. -/
def attached : List Char → Option String
  | [] => none
  | '=' :: val => some (.ofList val)
  | val => some (.ofList val)

def Argument.of (arg : String) : Argument :=
  match arg.toList with
  | '-' :: '-' :: cs => match longOption cs with
    | ("version", none) => .version
    | ("help", none) => .help
    | ("config", val) => .option .config val
    | ("database-url", val) => .option .databaseUrl val
    | _ => .unknown
  | '-' :: 'V' :: _ => .version
  | '-' :: 'h' :: _ => .help
  | '-' :: 'c' :: cs => .option .config (attached cs)
  | ['-'] => .word
  | '-' :: _ => .unknown
  | _ => .word

/-- Whether an argument can be the value of the option before it. -/
def isValue (arg : String) : Bool :=
  match Argument.of arg with
  | .word => true
  | _ => false

/-- What a task and the arguments after it ask for. Its help is given whatever is wrong with the
options before it. -/
def Invocation.ofTask (options : Option Options) (task : Task) : List String → Invocation
  | [] | ["--"] => match options with
    | some options => .work options task
    | none => .misuse
  | arg :: _ => match Argument.of arg with
    | .help => .help
    | _ => .misuse

/-- What the arguments after the word `help` ask for: there is help on each task, and on the help. -/
def Invocation.ofHelp : List String → Invocation
  | [] => .help
  | [topic] => if topic = "help" ∨ (Task.ofName? topic).isSome then .help else .misuse
  | _ => .misuse

/-- What the arguments after those that gave `options` ask for. The last option, when its value
stood by itself, is set no sooner than the next option is met. -/
def Invocation.readFrom (options : Options) (last : Option (OptionName × String)) :
    List String → Invocation
  | [] => .misuse
  | arg :: rest => match Argument.of arg with
    | .word =>
      if arg = "help" then .ofHelp rest
      else match Task.ofName? arg with
        | some task => .ofTask (options.settle? last) task rest
        | none => .misuse
    | found => match options.settle? last with
      | none => .misuse
      | some options => match found, rest with
        | .version, _ => .version
        | .help, _ => .help
        | .option which (some val), rest => match options.set? which val with
          | some options => readFrom options none rest
          | none => .misuse
        | .option which none, val :: rest =>
          if isValue val then readFrom options (some (which, val)) rest else .misuse
        | _, _ => .misuse

def Invocation.read (args : List String) : Invocation := readFrom {} none args

/-! ## Runs -/

/-- What became of a run: its exit code, what it printed, and why it failed, if it did. The help is
laid out for the terminal by what reads the command line, and is not among what is told here. -/
structure Outcome where
  code : Nat
  output : String := ""
  failure : Option Failure := none

def Outcome.failed (failure : Failure) : Outcome := { code := 1, failure := some failure }

def versionLine : String := "voxdial-migrate 0.1.0\n"

def linesText (lines : List String) : String := String.join (lines.map (· ++ "\n"))

def listText : String :=
  linesText (migrations.map fun m => toString m.version ++ "  " ++ m.description)

def reported (r : Report) : Outcome :=
  if r.isComplete then { code := 0, output := linesText r.lines }
  else { code := 1, output := linesText r.lines,
         failure := some { attempt := "Schema verification failed" } }

/-- Works on the database: reaches it, asks for its health, migrates it if that is the task, and
reports. -/
def work {σ : Type} (db : Database σ) (s : DatabaseSettings) (task : Task) :
    Work σ Failure Report := do
  ExceptT.adapt (Failure.during "Database connection failed") (db.reach s)
  ExceptT.adapt Failure.ofFault db.checkHealth
  if task = .run then ExceptT.adapt (Failure.during "Migration failed") db.migrate
  ExceptT.adapt Failure.ofFault db.report

/-- The settings of a run: an address of the database among the options goes before all others, and
then one among the variables. -/
def settingsOf (files : Directory) (vars : Variables) (o : Options) :
    Except Failure Settings :=
  let file := match o.config with
    | some path => files.named path
    | none => files.usual
  match Settings.load file vars with
  | .error fault => .error (.ofFault fault)
  | .ok s =>
    let url := (o.databaseUrl.or (vars.lookup Settings.databaseVariable)).getD s.database.url
    .ok { s with database := { s.database with url } }

def run {σ : Type} (db : Database σ) (files : Directory) (vars : Variables)
    (args : List String) : StateM σ Outcome :=
  match Invocation.read args with
  | .misuse => pure { code := 2 }
  | .version => pure { code := 0, output := versionLine }
  | .help => pure { code := 0 }
  | .work options task => match settingsOf files vars options with
    | .error failure => pure (.failed failure)
    | .ok s => match s.logging.start false, task with
      | .error failure, _ => pure (.failed failure)
      | .ok (), .list => pure { code := 0, output := listText }
      | .ok (), task => do
        match ← (work db s.database task).run with
        | .ok r => pure (reported r)
        | .error failure => pure (.failed failure)

end CallDesk.Migrate
