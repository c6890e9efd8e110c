import CallDesk.Fault
import CallDesk.Page.Public
import CallDesk.Session.Cookie
import CallDesk.Url.Reader

/-! # Sign-in callbacks

After a sign-in the identity provider opens a page of this site, with parameters in the query and
the fragment of its address. A parameter of the fragment hides one of the query. An error goes
before a token, and a token before a confirmation.
-/

namespace CallDesk

/-- The parameters of a callback, those that hide others last. -/
structure Callback where
  pairs : List (String × String) := []
deriving DecidableEq

/-- What a user has confirmed without signing in. -/
inductive Confirmation where
  | signup
  | recovery
  | invite
deriving DecidableEq

namespace Confirmation

/-- The name of a confirmation in an address. -/
def wireName : Confirmation → String
  | signup => "signup"
  | recovery => "recovery"
  | invite => "invite"

def message : Confirmation → String
  | signup => "Your email has been confirmed. You can now sign in."
  | recovery => "Your recovery link has been verified. Please sign in to continue."
  | invite => "Your invitation has been accepted. Please sign in to continue."

def ofName? (name : String) : Option Confirmation :=
  [signup, recovery, invite].find? (·.wireName == name)

end Confirmation

/-- What a callback means. -/
inductive Outcome where
  | authenticated (tokens : Tokens)
  | confirmed (what : Confirmation)
  | failed (message : String)
deriving DecidableEq

namespace Callback

open Text

def ofUrl (u : Url) : Callback :=
  let pairs (part : Option String) : List (String × String) :=
    (part.map fun s => formPairs (utf8 s)).getD []
  ⟨pairs u.query ++ pairs u.fragment⟩

/-- The parameters of an address given as text. -/
def read (address : String) : Except Fault Callback :=
  match Url.read address with
  | .ok u => .ok (ofUrl u)
  | .error e => .error (.invalid "url" ("Invalid callback URL: " ++ e.message))

/-- A parameter without blanks at its ends; nothing when it is blank. -/
def get? (c : Callback) (name : String) : Option String :=
  ((c.pairs.reverse.lookup name).map trim).filter fun s => !s.isEmpty

/-- What the user is told when an address says nothing. -/
def noToken : String := "No authentication token found"

def outcome (c : Callback) : Outcome :=
  match (c.get? "error_description").or (c.get? "error") with
  | some message => .failed message
  | none => match c.get? "access_token" with
    | some token => .authenticated { access := token, refresh := c.get? "refresh_token" }
    | none => match (c.get? "type").bind Confirmation.ofName? with
      | some what => .confirmed what
      | none => .failed noToken

end Callback

/-- Where the browser goes after a callback. -/
inductive Navigation where
  /-- Away at once. -/
  | now (target : String)
  /-- Away after some milliseconds. -/
  | later (target : String) (delay : UInt64)
  /-- Nowhere. -/
  | stay
deriving DecidableEq

namespace Navigation

def target? : Navigation → Option String
  | now target => some target
  | later target _ => some target
  | stay => none

def delay : Navigation → UInt64
  | later _ delay => delay
  | _ => 0

end Navigation

/-- What a callback leads to. -/
structure Resolution where
  view : SignInView
  navigation : Navigation
  /-- The tokens to keep. -/
  tokens : Option Tokens := none
deriving DecidableEq

/-- What an outcome leads to, when a confirmation is shown for some milliseconds. -/
def Outcome.resolution (delay : UInt64) : Outcome → Resolution
  | authenticated tokens => ⟨.redirecting, .now Site.overview, some tokens⟩
  | confirmed what => ⟨.confirmed what.message, .later Site.signIn delay, none⟩
  | failed message => ⟨.failed message, .stay, none⟩

end CallDesk
