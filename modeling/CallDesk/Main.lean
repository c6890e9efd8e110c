import CallDesk.Command.Migrate
import CallDesk.Command.Serve

/-! # The programs

Two programs in one: started under a name that ends in `server` it is the web server, otherwise
the migration tool. What they would reach on a network answers that it cannot be reached.
-/

open CallDesk

def unreachableDatabase : Schema.Database Unit where
  connect _ st := (.error "no connection to the database", st)
  execute _ st := (.error "no connection to the database", st)

/-- The variables of the environment that the programs know, in upper or lower case. -/
def knownVariables : IO Variables := do
  let names := Settings.databaseVariable ::
    Settings.variableNames.flatMap fun name => [name.toUpper, name]
  names.filterMapM fun name => return (← IO.getEnv name).map fun val => (name, val)

/-- The files among those that paths may mean. -/
def readDirectory (paths : List String) : IO Directory :=
  (paths.flatMap Directory.candidates).filterMapM fun (name : String) => do
    try
      let contents ← IO.FS.readBinFile name
      return some (name, Text.decodeLossy contents.toList)
    catch _ => return none

def tell (failure : Option Failure) : IO Unit := do
  if let some f := failure then IO.eprintln ("Error: " ++ f.message)

def serveMain : IO UInt32 := do
  let files ← readDirectory [Directory.usualName]
  let outcome := Serve.run (fun _ => .error "no network") files.usual (← knownVariables) .terminate
  for entry in outcome.log do
    IO.println (entry.level.name ++ " " ++ entry.message)
  tell outcome.failure
  return if outcome.failure.isSome then 1 else 0

def usage : String := "usage: voxdial-migrate [--config FILE] [--database-url URL] run|verify|list"

def migrateMain (args : List String) : IO UInt32 := do
  let invocation := Migrate.Invocation.read args
  let paths := match invocation with
    | .work options _ => options.config.toList
    | _ => []
  let files ← readDirectory (Directory.usualName :: paths)
  let (outcome, ()) :=
    (Migrate.run unreachableDatabase files (← knownVariables) args).run ()
  IO.print outcome.output
  if invocation = .help then IO.println usage
  if invocation = .misuse then IO.eprintln usage
  tell outcome.failure
  return UInt32.ofNat outcome.code

/-- Runs the program that the name it was started under says. -/
def main (args : List String) : IO UInt32 := do
  let name := ((← IO.appPath).fileName).getD ""
  if name.endsWith "server" then serveMain else migrateMain args
