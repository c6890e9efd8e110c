import CallDesk.Text.Digits
import CallDesk.Text.Percent

/-! # Addresses

An address after the URL standard, in its parts. Every part is kept as it is written in an
address, that is percent coded where the standard asks for it. The schemes of the web are special:
they always have a host, and their path always starts with a slash.
-/

namespace CallDesk

/-- The user that an address names. -/
structure Url.Credentials where
  username : String
  password : Option String
deriving DecidableEq

/-- The path of an address. -/
inductive Url.Path where
  /-- A text without structure. -/
  | opaqueText (text : String)
  /-- Segments, each after a slash. -/
  | segments (parts : List String)
deriving DecidableEq

/-- An address. -/
structure Url where
  scheme : String
  credentials : Option Url.Credentials := none
  host : String := ""
  port : Option Nat := none
  path : Url.Path
  query : Option String := none
  fragment : Option String := none
deriving DecidableEq

namespace Url

/-- Why a text is no address. -/
inductive Error where
  /-- There is no scheme, so it is an address only beside another one. -/
  | noBase
  | emptyHost
  | badPort
  /-- A host that cannot be a name of the domain name system. -/
  | badName
  | badIpv4
  | badIpv6
  /-- A host with a character that no host of any scheme has. -/
  | badHostCharacter
deriving DecidableEq

def Error.message : Error → String
  | noBase => "relative URL without a base"
  | emptyHost => "empty host"
  | badPort => "invalid port number"
  | badName => "invalid international domain name"
  | badIpv4 => "invalid IPv4 address"
  | badIpv6 => "invalid IPv6 address"
  | badHostCharacter => "invalid domain character"

/-- The special schemes other than `file`, with their ports. -/
def defaultPorts : List (String × Nat) :=
  [("http", 80), ("https", 443), ("ws", 80), ("wss", 443), ("ftp", 21)]

/-- Whether a scheme other than `file` is special. -/
def isSpecial (scheme : String) : Bool := (defaultPorts.lookup scheme).isSome

def Path.text : Path → String
  | opaqueText text => text
  | segments parts => .ofList (parts.flatMap fun s => '/' :: s.toList)

/-- What a request for an address asks for: its path and query. -/
def target (u : Url) : String :=
  u.path.text ++ match u.query with
    | some q => "?" ++ q
    | none => ""

/-- The address with a piece of query added to what it asks for. -/
def addQuery (u : Url) (piece : String) : Url :=
  { u with query := match u.query with
      | none => some piece
      | some q => if q.isEmpty then some piece else some (q ++ "&" ++ piece) }

end Url

end CallDesk
