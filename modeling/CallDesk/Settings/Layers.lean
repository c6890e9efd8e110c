import CallDesk.Fault
import CallDesk.Json.Reader
import CallDesk.Settings.Tree
import CallDesk.Toml.Document

/-! # Layers of settings

Settings come from a file and, over it, from the variables of the environment. What neither gives
keeps its default; the default address of the database can be given by a variable of its own.

A file is TOML or JSON here. The program reads YAML, INI, RON and JSON5 too, which are left out: no
directory is taken to have a file of these forms, and nothing is said of one that is named.
-/

namespace CallDesk

/-- The file that settings are read from. -/
inductive SettingsFile where
  /-- No file was named, and there is none of the usual name. -/
  | none
  /-- The file that was named does not exist. -/
  | missing
  | found (name text : String)

abbrev Directory := List (String × String)

namespace Directory

/-- A path without the steps that stay where they are. -/
def plainPath : List Char → List Char
  | '.' :: '/' :: rest => plainPath rest
  | cs => cs

/-- The endings of the names of files that can be read, but for `.yaml`, `.yml`, `.ini`, `.ron` and
`.json5`, whose forms are left out. -/
def endings : List String := [".toml", ".json"]

/-- The names of the files that a path may mean: itself, or else itself with an ending. -/
def candidates (path : String) : List String :=
  let name : String := .ofList (plainPath path.toList)
  name :: endings.map (name ++ ·)

def find? (files : Directory) (path : String) : Option (String × String) :=
  (candidates path).findSome? fun name => (files.lookup name).map fun text => (name, text)

def named (files : Directory) (path : String) : SettingsFile :=
  match files.find? path with
  | some (name, text) => .found name text
  | none => .missing

/-- The usual name of a file of settings, without an ending. -/
def usualName : String := "config"

/-- The file of settings of the usual name. One without an ending hides the others and cannot be
read, so there is none then. -/
def usual (files : Directory) : SettingsFile :=
  match files.find? usualName with
  | some (name, text) => if name = usualName then .none else .found name text
  | none => .none

end Directory

abbrev Variables := List (String × String)

namespace SettingsFile

/-- The mark of an encoding at the start of a text taken off. -/
def unmarked (text : String) : String :=
  .ofList (match text.toList with
    | c :: rest => if c = Toml.encodingMark then rest else c :: rest
    | [] => [])

/-- The members of a file's text, whose form the extension of its name tells. The extensions of the
forms that are left out are taken for unknown ones. -/
def entries? (name text : String) : Option (List (String × Tree)) :=
  let isTable (t : Tree) : Option (List (String × Tree)) :=
    match t with
    | .table ms => some ms
    | _ => Option.none
  match FileName.extension? name with
  | some ['t', 'o', 'm', 'l'] => (Toml.read? text).bind isTable
  | some ['j', 's', 'o', 'n'] =>
    ((Json.readText? (unmarked text)).filter Json.isSound).bind fun v => isTable (.ofJson v)
  | _ => Option.none

end SettingsFile

namespace Settings

/-- The start of the names of variables that give settings, in lower case. -/
def variableStart : String := "voxdial__"

/-- The variable with the default address of the database. -/
def databaseVariable : String := "DATABASE_URL"

def sectionFields : List (String × List String) := [
  ("server", ServerSettings.fieldNames),
  ("backend", BackendSettings.fieldNames),
  ("auth", SignInSettings.fieldNames),
  ("dashboard", DashboardSettings.fieldNames),
  ("assistant", AssistantSettings.fieldNames),
  ("database", DatabaseSettings.fieldNames),
  ("logging", LogSettings.fieldNames)]

/-- The names of the variables that set a field each, in lower case. -/
def variableNames : List String :=
  sectionFields.flatMap fun (part, fields) =>
    fields.map fun field => variableStart ++ part ++ "__" ++ field

/-- Double underscores, from the left, as dots. -/
def dots : List Char → List Char
  | '_' :: '_' :: rest => '.' :: dots rest
  | c :: rest => c :: dots rest
  | [] => []

/-- The key that a variable of a name sets. The case of the name does not matter. -/
def keyOf? (name : String) : Option String :=
  let cs := (Tree.lower name).toList
  if variableStart.toList.isPrefixOf cs then
    some (.ofList (dots (cs.drop variableStart.length)))
  else none

def variableEntries (vars : Variables) : List (String × Tree) :=
  vars.filterMap fun (name, val) => (keyOf? name).map fun key => (key, .text val)

/-- The settings that hold when nothing sets them. -/
def defaults (vars : Variables) : Settings :=
  match vars.lookup databaseVariable with
  | some url => { database := { url } }
  | none => {}

/-- Takes settings from the entries of a file and variables. -/
def ofLayers (entries : List (String × Tree)) (vars : Variables) : Except Fault Settings :=
  let tree := ((Tree.table []).layer entries).layer (variableEntries vars)
  match take? Tree.source (defaults vars) tree with
  | some s => .ok s
  | none => .error (.settings "a value does not have the expected type")

def load (file : SettingsFile) (vars : Variables) : Except Fault Settings :=
  match file with
  | .none => ofLayers [] vars
  | .missing => .error (.settings "the configuration file was not found")
  | .found name text => match SettingsFile.entries? name text with
    | some entries => ofLayers entries vars
    | none => .error (.settings "the configuration file cannot be read")

end Settings

end CallDesk
