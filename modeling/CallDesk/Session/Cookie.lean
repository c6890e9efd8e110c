import CallDesk.Text.Blank
import CallDesk.Text.FormData

/-! # Cookies

The session of a browser is kept in two cookies. A value is percent coded, so that every token can
be kept; a cookie with an empty value is no cookie.
-/

namespace CallDesk

/-- The tokens that a sign-in gives. -/
structure Tokens where
  access : String
  refresh : Option String := none
deriving DecidableEq

/-- A character that the value of a header may have. -/
def isHeaderChar (c : Char) : Bool := (32 ≤ c.toNat && c.toNat != 127) || c == '\t'

/-- Whether a text can be the value of a header. -/
def isHeaderText (s : String) : Bool := s.toList.all isHeaderChar

/-- Whether the value of a header can be read as text: visible characters of ASCII, spaces and
tabs. -/
def isReadableHeader (s : String) : Bool :=
  s.toList.all fun c => (32 ≤ c.toNat && c.toNat < 127) || c == '\t'

namespace Cookie

open Text

/-- The cookie of the token that the backend asks for. -/
def access : String := "vd_access_token"

/-- The cookie of the token that renews the other one. -/
def refresh : String := "vd_refresh_token"

/-- The pairs of name and value in the value of a header. -/
def pairs (header : String) : List (String × String) :=
  (splitAll ';' header.toList).filterMap fun part =>
    (cut? '=' (trimChars part)).map fun (name, val) => (.ofList name, .ofList val)

/-- The value of a cookie in the headers of a request. The first cookie of the name decides. -/
def read? (headers : List String) (name : String) : Option String :=
  match ((headers.filter isReadableHeader).flatMap pairs).lookup name with
  | none => none
  | some val => (percentDecode? val).filter fun s => !s.isEmpty

def attributes : String := "; Path=/; HttpOnly; SameSite=Lax"

def set (name val : String) (secure : Bool) : String :=
  name ++ "=" ++ percentEncode val ++ attributes ++ if secure then "; Secure" else ""

def expire (name : String) : String := name ++ "=" ++ attributes ++ "; Max-Age=0"

/-- The headers that keep the tokens of a sign-in. -/
def keep (tokens : Tokens) (secure : Bool) : List String :=
  set access tokens.access secure :: match tokens.refresh with
    | some token => [set refresh token secure]
    | none => []

/-- The headers of cookies as a response carries them: one that cannot be a header is left out. -/
def carried (cookies : List String) : List String := cookies.filter isHeaderText

end Cookie

end CallDesk
