import CallDesk.Command.Log
import CallDesk.Command.SocketAddress
import CallDesk.Settings.Layers

/-! # The web server program

Loads the settings, listens, and goes on until it is told to stop. What happens on the network is
given by the function that listens on an address: it may refuse.
-/

namespace CallDesk.Serve

/-- How a program is told to stop. -/
inductive Signal where
  | interrupt
  | terminate
deriving DecidableEq

def Signal.message : Signal → String
  | interrupt => "Received Ctrl+C, shutting down gracefully..."
  | terminate => "Received terminate signal, shutting down gracefully..."

/-- The name under which the program writes into its log. -/
def source : String := "voxdial_web_server"

/-- What became of a run of the program: its log, and why it failed, if it did. -/
structure Outcome where
  log : List LogEntry := []
  failure : Option Failure := none

/-- An outcome with an earlier entry in its log. -/
def Outcome.after (o : Outcome) (entry : LogEntry) : Outcome := { o with log := entry :: o.log }

/-- What is left of an outcome when the log shows only some entries. -/
def Outcome.shown (o : Outcome) (s : LogSettings) : Outcome :=
  { o with log := o.log.filter fun entry => s.shows source entry.level }

/-- Listens on an address until a signal arrives. -/
def listen (bind : SocketAddress → Except String Unit) (address : SocketAddress)
    (signal : Signal) : Outcome :=
  match bind address with
  | .error detail => { failure := some ⟨"Failed to bind to " ++ address.text, some detail⟩ }
  | .ok () => { log := [
      { message := "Dashboard listening on http://" ++ address.text },
      { message := signal.message },
      { message := "Server shutdown complete" }] }

def serve (bind : SocketAddress → Except String Unit) (s : Settings) (signal : Signal) :
    Outcome :=
  (match SocketAddress.read? s.bindAddress with
    | none => { failure := some ⟨"Invalid server address", some "invalid socket address syntax"⟩ }
    | some address => listen bind address signal : Outcome).after
      { message := "Starting Voxdial dashboard", backend := some s.backend.baseUrl }

def run (bind : SocketAddress → Except String Unit) (file : SettingsFile) (vars : Variables)
    (signal : Signal) : Outcome :=
  match Settings.load file vars with
  | .error fault => { failure := some (.during "Failed to load configuration" fault) }
  | .ok s => match s.logging.start false with
    | .error failure => { failure := some failure }
    | .ok () => (serve bind s signal).shown s.logging

end CallDesk.Serve
