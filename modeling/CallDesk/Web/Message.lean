import CallDesk.Html.Basic
import CallDesk.Json.Writer
import CallDesk.Session.Cookie

/-! # Requests and responses

What a browser sends and what it is sent back. Names of headers are compared without regard to
the case of ASCII letters. The path of a request is what stands before the query, as it was sent.
-/

namespace CallDesk.Web

open Text

/-- A request of a browser. -/
structure Request where
  method : String
  /-- What the request asks for: a path and perhaps a query. -/
  target : String
  headers : List (String × String) := []
  body : Bytes := []

/-- A text in lower case, as far as ASCII goes. -/
def lower (s : String) : String :=
  .ofList (s.toList.map fun c => if 'A' ≤ c ∧ c ≤ 'Z' then Char.ofNat (c.toNat + 32) else c)

namespace Request

/-- The characters of the target; a fragment is no part of it. -/
def targetChars (r : Request) : List Char := r.target.toList.takeWhile (· != '#')

def path (r : Request) : String := .ofList (r.targetChars.takeWhile (· != '?'))

/-- The query of a request, empty when there is none. -/
def query (r : Request) : String := .ofList ((r.targetChars.dropWhile (· != '?')).drop 1)

/-- The values of the headers of a name, which is given in lower case. -/
def headerValues (r : Request) (name : String) : List String :=
  (r.headers.filter fun h => lower h.1 == name).map (·.2)

/-- The value of the first header of a name, when it can be read as text. -/
def header? (r : Request) (name : String) : Option String :=
  ((r.headerValues name).head?).filter isReadableHeader

/-- The token of the session that a request belongs to. -/
def token? (r : Request) : Option String := Cookie.read? (r.headerValues "cookie") Cookie.access

end Request

/-- A response. -/
structure Response where
  status : Nat
  headers : List (String × String) := []
  body : String := ""
deriving DecidableEq

namespace Response

def page (body : String) : Response :=
  { status := 200, headers := [("content-type", "text/html; charset=utf-8")], body }

def message (v : Json) : Response :=
  { status := 200, headers := [("content-type", "application/json")], body := v.render }

def redirect (target : String) : Response := { status := 303, headers := [("location", target)] }

/-- A refusal of a request that does not have the form it should have. -/
def refusal (status : Nat) (reason : String) : Response :=
  { status, headers := [("content-type", "text/plain; charset=utf-8")], body := reason }

def withStatus (r : Response) (status : Nat) : Response := { r with status }

/-- A response that also sets or removes cookies. -/
def withCookies (r : Response) (cookies : List String) : Response :=
  { r with headers := r.headers ++ (Cookie.carried cookies).map fun c => ("set-cookie", c) }

def withoutBody (r : Response) : Response := { r with body := "" }

end Response

end CallDesk.Web
