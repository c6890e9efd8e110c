import CallDesk.Fault
import CallDesk.Settings.Basic

/-! # The log of a program

A program starts its log once; what it tells afterwards are entries with a level. Of those the
settings pick the ones that are shown: their level is a list of rules, each of which shows the
entries of some sources from some level on.
-/

namespace CallDesk

open Text

/-- How much an entry of the log matters. -/
inductive LogLevel where
  | error
  | warn
  | info
  | debug
  | trace
deriving DecidableEq

namespace LogLevel

def name : LogLevel → String
  | error => "ERROR"
  | warn => "WARN"
  | info => "INFO"
  | debug => "DEBUG"
  | trace => "TRACE"

/-- How far a log has to be opened to show a level; a closed log is open by zero. -/
def depth : LogLevel → Nat
  | error => 1
  | warn => 2
  | info => 3
  | debug => 4
  | trace => 5

def all : List LogLevel := [error, warn, info, debug, trace]

/-- How far a word opens a log: it is the name of a level, or its depth. -/
def depth? (word : String) : Option Nat :=
  if word.toUpper = "OFF" ∨ word = "0" then some 0
  else (all.find? fun l => l.name = word.toUpper ∨ decimal l.depth = word).map depth

end LogLevel

/-- An entry of the log. -/
structure LogEntry where
  level : LogLevel := .info
  message : String
  /-- The address of the backend, where the entry is about it. -/
  backend : Option String := none
deriving DecidableEq

/-- A rule that opens the log of the sources whose names start with a text. -/
structure LogRule where
  source : List Char
  depth : Nat
deriving DecidableEq

namespace LogRule

/-- Reads a rule: a level for all sources, or sources and perhaps, after an equals sign, a level for
them. -/
def read? (s : String) : Option LogRule :=
  match LogLevel.depth? s with
  | some depth => some ⟨[], depth⟩
  | none => match cut? '=' s.toList with
    | none => some ⟨s.toList, LogLevel.trace.depth⟩
    | some (source, []) => some ⟨source, LogLevel.trace.depth⟩
    | some (source, level) => (LogLevel.depth? (.ofList level)).map fun depth => ⟨source, depth⟩

/-- The rules of a list of them between commas; what cannot be read is passed over. -/
def list (s : String) : List LogRule :=
  (splitAll ',' s.toList).filterMap fun part => if part = [] then none else read? (.ofList part)

/-- How far rules open the log of a source: the rule decides that names it in most detail, and of
equal ones the last. -/
def depthOf (rules : List LogRule) (source : String) : Nat :=
  ((rules.filter fun r => r.source.isPrefixOf source.toList).foldl (fun best r =>
    match best with
    | some b => if b.source.length ≤ r.source.length then some r else some b
    | none => some r) none).elim 0 LogRule.depth

end LogRule

/-- Whether the log shows the entries of a level from a source. -/
def LogSettings.shows (s : LogSettings) (source : String) (level : LogLevel) : Bool :=
  level.depth ≤ LogRule.depthOf (LogRule.list s.level) source

/-- Starts the log of a process, in which another one may have been started before. -/
def LogSettings.start (_ : LogSettings) (isStarted : Bool) : Except Failure Unit :=
  if isStarted then
    .error ⟨"Failed to initialize logging",
      some "a global default trace dispatcher has already been set"⟩
  else .ok ()

end CallDesk
