import CallDesk.Backend.Exchange
import CallDesk.Backend.Reason
import CallDesk.Campaign
import CallDesk.Call
import CallDesk.Import
import CallDesk.Session.Cookie
import CallDesk.Summary
import CallDesk.Text.Base64
import CallDesk.Url.Reader

/-! # The backend's operations

A client knows the backend's address and, once it is bound to a session, the token that every
request carries. A request that cannot be made, because of an unusable address or a token that no
header can hold, fails like one without an answer.
-/

namespace CallDesk

open Text

/-- A client of the backend. -/
structure Client where
  /-- The address that paths are appended to, without slashes at its end. -/
  base : String
  /-- The token of the session it is bound to. -/
  token : Option String := none
deriving DecidableEq

/-- What an operation of the backend comes to. -/
abbrev Answer (α : Type) := Dialog (Except Fault α)

namespace Client

/-- A client for an address, bound to no session. -/
def of (address : String) : Client :=
  ⟨.ofList ((address.toList.reverse.dropWhile (· == '/')).reverse), none⟩

def bind (c : Client) (token : Option String) : Client := { c with token }

/-- The token a client is bound to, for a log: only whether there is one. -/
def tokenText (c : Client) : String :=
  match c.token with
  | some _ => "Some(\"<redacted>\")"
  | none => "None"

/-- The header for the credentials in an address. -/
def basicHeader? (u : Url) : Option String := do
  let c ← u.credentials
  let name ← percentDecode? c.username
  let password := c.password.bind percentDecode?
  if name.isEmpty && password.isNone then none
  else some ("Basic " ++ .ofList (base64 (utf8 (name ++ ":" ++ password.getD ""))))

/-- A character that the host of a request may have. Those beyond ASCII are sent as Punycode, which
is made of letters, digits and hyphens. -/
def isRequestHostChar (c : Char) : Bool :=
  isAlphanumeric c.toNat || 128 ≤ c.toNat ||
    ['!', '$', '&', '\'', '(', ')', '*', '+', ',', '-', '.', ':', ';', '=', '[', ']', '_',
      '~'].contains c

/-- The request for a path, with a piece of query, or why there is none. -/
def request (c : Client) (verb : Verb) (path : String) (query : Option String)
    (payload : Payload) : Except String Request :=
  match Url.read (c.base ++ "/" ++ .ofList (path.toList.dropWhile (· == '/'))) with
  | .error e => .error ("builder error: " ++ e.message)
  | .ok url =>
    if url.scheme != "http" && url.scheme != "https" then
      .error "builder error: URL scheme is not allowed"
    else if !url.host.toList.all isRequestHostChar then .error "builder error: invalid host"
    else
      let url := match query with
        | some piece => url.addQuery piece
        | none => url
      let basic := (basicHeader? url).toList
      match c.token with
      | none => .ok ⟨verb, url, basic, payload⟩
      | some token =>
        let bearer := "Bearer " ++ token
        if isHeaderText bearer then .ok ⟨verb, url, basic ++ [bearer], payload⟩
        else .error "builder error: failed to parse header value"

end Client

/-- The body that a reply gives; the name of the operation is for the messages of failures. -/
def Reply.accept (operation : String) : Reply → Except Fault (Option Bytes)
  | .lost detail => .error (.unreachable ("Failed to " ++ operation ++ ": " ++ detail))
  | .answer status body =>
    if 200 ≤ status ∧ status < 300 then .ok body
    else
      let message := Backend.failureText status (body.getD [])
      if status = 401 then .error (.unauthorized message) else .error (.refused status message)

def Reply.value {α : Type} (operation : String) (read : Json → Option α) (reply : Reply) :
    Except Fault α :=
  match reply.accept operation with
  | .error fault => .error fault
  | .ok none => .error (.unreachable ("Failed to read " ++ operation ++ " response: cut off"))
  | .ok (some body) => match (Json.read? body).bind read with
    | some a => .ok a
    | none => .error (.undecodable ("unexpected answer to " ++ operation))

namespace Client

/-- Makes a request, if there is one, and takes what its reply gives. -/
def send {α : Type} (operation : String) (take : Reply → Except Fault α)
    (request : Except String Request) : Answer α :=
  match request with
  | .error detail => .done (.error (.unreachable ("Failed to " ++ operation ++ ": " ++ detail)))
  | .ok request => .ask request fun reply => .done (take reply)

def callsRequest (c : Client) (page pageSize : UInt32) : Except String Request :=
  c.request .get "/calls"
    (some (formLine [("page", decimal page.toNat), ("page_size", decimal pageSize.toNat)])) .none

/-- The page of calls in a reply. A page that does not tell its size has the size asked for. -/
def callsOf (pageSize : UInt32) (reply : Reply) : Except Fault CallsPage :=
  (reply.value "list calls" CallsPage.ofJson?).map fun p =>
    if p.pageSize = 0 then { p with pageSize } else p

def calls (c : Client) (page pageSize : UInt32) : Answer CallsPage :=
  send "list calls" (callsOf pageSize) (c.callsRequest page pageSize)

def call (c : Client) (id : String) : Answer Call :=
  send "get call" (·.value "get call" Call.ofJson?)
    (c.request .get ("/calls/" ++ percentEncode id) none .none)

/-- The transcript of a call. One that does not name its call is of the call asked for. -/
def transcript (c : Client) (id : String) : Answer Transcript :=
  send "get transcript" (fun reply =>
      (reply.value "get transcript" Transcript.ofJson?).map fun t =>
        if t.callId.isEmpty then { t with callId := id } else t)
    (c.request .get ("/calls/" ++ percentEncode id ++ "/transcript") none .none)

def campaigns (c : Client) : Answer (List Campaign) :=
  send "list campaigns" (·.value "list campaigns" Campaign.listOfJson?)
    (c.request .get "/campaigns" none .none)

def createCampaign (c : Client) (form : CampaignForm) : Answer Campaign :=
  send "create campaign" (·.value "create campaign" Campaign.ofJson?)
    (c.request .post "/campaigns" none (.message form.toJson))

def summaryRequest (c : Client) : Except String Request :=
  c.request .get "/dashboard/summary" none .none

def summaryOf (reply : Reply) : Except Fault Summary :=
  reply.value "get dashboard summary" Summary.ofJson?

def summary (c : Client) : Answer Summary :=
  send "get dashboard summary" summaryOf c.summaryRequest

def importContacts (c : Client) (name : String) (contents : Bytes) : Answer ImportResult :=
  send "upload contacts" (·.value "upload contacts" ImportResult.ofJson?)
    (c.request .post "/contacts/import" none (.file name contents))

/-- Creates the profile of the user who is signed in. What the answer says does not matter. -/
def createProfile (c : Client) (path : String) : Answer Unit :=
  send "create profile" (fun reply => (reply.accept "create profile").map fun _ => ())
    (c.request .post path none (.message (.record [])))

end Client

/-- What an operation gives that must not matter when it fails. -/
def Answer.bestEffort {α : Type} (d : Answer α) : Dialog (Option α) :=
  d.map Except.toOption

end CallDesk
