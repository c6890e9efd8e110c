import CallDesk.Url.Host

/-! # Reading addresses

An address is read after the URL standard, without a base. The fragment is what follows the
first `#`, the query what follows the first `?` before it; no other part can hold these two, so
they are cut off first. In special schemes a backslash is a slash.
-/

namespace CallDesk.Url

open Text

/-- Tabs and ends of lines, which an address is read without. -/
def isLineSpace (c : Char) : Bool := c == '\t' || c == '\n' || c == '\r'

/-- Controls and the space, which are dropped at both ends. -/
def isEdge (c : Char) : Bool := c.toNat ≤ 32

/-- The characters of an address that are looked at. -/
def significant (s : String) : List Char :=
  (((s.toList.dropWhile isEdge).reverse.dropWhile isEdge).reverse).filter fun c => !isLineSpace c

def isLetter (c : Char) : Bool := ('a' ≤ c && c ≤ 'z') || ('A' ≤ c && c ≤ 'Z')

/-- A character that a scheme may go on with. -/
def isInScheme (c : Char) : Bool := isAlphanumeric c.toNat || c == '+' || c == '-' || c == '.'

/-- Takes a scheme and its colon off the front. -/
def schemeOff? (cs : List Char) : Option (String × List Char) :=
  match cs.head? with
  | none => none
  | some c =>
    if isLetter c then
      match cs.dropWhile isInScheme with
      | ':' :: rest => some (.ofList ((cs.takeWhile isInScheme).map foldCase), rest)
      | _ => none
    else none
where
  foldCase (c : Char) : Char := if 'A' ≤ c ∧ c ≤ 'Z' then Char.ofNat (c.toNat + 32) else c

/-- The bytes that stand for themselves in a fragment. -/
def isPlainInFragment (b : UInt8) : Bool :=
  32 < b && b < 127 && b != 34 && b != 60 && b != 62 && b != 96

/-- The bytes that stand for themselves in a query. -/
def isPlainInQuery (special : Bool) (b : UInt8) : Bool :=
  32 < b && b < 127 && b != 34 && b != 35 && b != 60 && b != 62 && !(special && b == 39)

/-- The bytes that stand for themselves in a path. -/
def isPlainInPath (b : UInt8) : Bool :=
  isPlainInFragment b && b != 35 && b != 63 && b != 123 && b != 125

/-- The bytes that stand for themselves in a user name or password. -/
def isPlainInUser (b : UInt8) : Bool :=
  isPlainInPath b &&
    !(([47, 58, 59, 61, 64, 91, 92, 93, 94, 124] : Bytes).contains b)

/-- Characters as they are written in a part of an address. -/
def written (keep : UInt8 → Bool) (cs : List Char) : String :=
  .ofList (percentBytes keep (utf8 (.ofList cs)))

/-- A segment for the directory it stands in. -/
def isSingleDot (segment : String) : Bool := segment == "." || segment == "%2e" || segment == "%2E"

def isDoubleDot (segment : String) : Bool :=
  segment == ".." || segment == ".%2e" || segment == ".%2E" || segment == "%2e." ||
    segment == "%2E." || segment == "%2e%2e" || segment == "%2e%2E" || segment == "%2E%2e" ||
    segment == "%2E%2E"

/-- The segments of a path without those that move in it, onto those already read, which are kept
in reverse. A moving segment at the end leaves an empty one. -/
def resolveOnto (done : List String) : List String → List String
  | [] => done.reverse
  | segment :: rest =>
    if isDoubleDot segment then
      resolveOnto (if rest.isEmpty then "" :: done.tail else done.tail) rest
    else if isSingleDot segment then
      resolveOnto (if rest.isEmpty then "" :: done else done) rest
    else resolveOnto (segment :: done) rest

/-- The segments of a path without those that move in it. -/
def resolve (segments : List String) : List String := resolveOnto [] segments

/-- Reads the characters of a path with segments. -/
def readPath (special : Bool) (cs : List Char) : Path :=
  let cs := if special then cs.map fun c => if c == '\\' then '/' else c else cs
  match cs with
  | [] => .segments (if special then [""] else [])
  | '/' :: rest => .segments (resolve ((splitAll '/' rest).map (written isPlainInPath)))
  | cs => .segments (resolve ((splitAll '/' cs).map (written isPlainInPath)))

def cutUser (authority : List Char) : Option (List Char) × List Char :=
  match cut? '@' authority.reverse with
  | some (host, user) => (some user.reverse, host.reverse)
  | none => (none, authority)

/-- The credentials before the `@`; none when both parts are empty. -/
def readCredentials (user : List Char) : Option Credentials :=
  let (name, password) := match cut? ':' user with
    | some (name, password) => (name, if password.isEmpty then none else some password)
    | none => (user, none)
  if name.isEmpty && password.isNone then none
  else some ⟨written isPlainInUser name, password.map (written isPlainInUser)⟩

/-- Cuts the host off at the first colon outside of brackets. -/
def cutHost (inside : Bool) (host : List Char) : List Char → List Char × Option (List Char)
  | [] => (host.reverse, none)
  | c :: rest =>
    if c == ':' && !inside then (host.reverse, some rest)
    else cutHost (if c == '[' then true else if c == ']' then false else inside) (c :: host) rest

/-- Reads a port; what is not a digit ends it in an error. No digit is no port. -/
def readPort (scheme : String) (cs : List Char) : Except Error (Option Nat) :=
  if cs.isEmpty then .ok none
  else match allDigits? cs with
    | none => .error .badPort
    | some ds =>
      if 65535 < value ds then .error .badPort
      else if defaultPorts.lookup scheme = some (value ds) then .ok none
      else .ok (some (value ds))

/-- Reads an address from after the slashes before its host. -/
def readAuthority (scheme : String) (special : Bool) (cs : List Char)
    (query fragment : Option (List Char)) : Except Error Url := do
  let ends (c : Char) : Bool := c == '/' || (special && c == '\\')
  let (authority, path) := cs.span fun c => !ends c
  let (user, place) := cutUser authority
  if user == some [] && place.isEmpty && !(path.isEmpty && query.isNone && fragment.isNone) then
    .error .emptyHost
  let credentials := user.bind readCredentials
  let (hostText, portText) := cutHost false [] place
  if hostText.isEmpty && (special || portText.isSome) then .error .emptyHost
  let host ← if special then specialHost hostText else otherHost hostText
  let (portText, path) := match portText, special with
    | some cs, false =>
      let (digits, rest) := cs.span (· != '\\')
      (some digits, rest ++ path)
    | _, _ => (portText, path)
  let port ← match portText with
    | some cs => readPort scheme cs
    | none => .ok none
  if host.isEmpty && credentials.isSome then .error .emptyHost
  return {
    scheme, credentials, host, port
    path := readPath special path
    query := query.map (written (isPlainInQuery special))
    fragment := fragment.map (written isPlainInFragment) }

/-- A letter and a colon or bar, which name a drive and not a host. -/
def isDrive : List Char → Bool
  | [c, d] => isLetter c && (d == ':' || d == '|')
  | _ => false

/-- Reads an address of the scheme `file` from after its colon. -/
def readFile (cs : List Char) (query fragment : Option (List Char)) : Except Error Url := do
  let isSlash (c : Char) : Bool := c == '/' || c == '\\'
  let query := query.map (written (isPlainInQuery true))
  let fragment := fragment.map (written isPlainInFragment)
  let here (host : String) (path : List Char) : Url :=
    { scheme := "file", host, path := readPath true path, query, fragment }
  match cs with
  | a :: b :: rest =>
    if isSlash a && isSlash b then
      let (hostText, path) := rest.span fun c => !isSlash c
      if isDrive hostText then return here "" rest
      else if hostText.isEmpty then return here "" path
      else
        let host ← specialHost hostText
        return here (if host == "localhost" then "" else host) path
    else return here "" cs
  | _ => return here "" cs

def read (s : String) : Except Error Url :=
  match schemeOff? (significant s) with
  | none => .error .noBase
  | some (scheme, cs) =>
    let (cs, fragment) := match cut? '#' cs with
      | some (cs, fragment) => (cs, some fragment)
      | none => (cs, none)
    let (cs, query) := match cut? '?' cs with
      | some (cs, query) => (cs, some query)
      | none => (cs, none)
    if scheme == "file" then readFile cs query fragment
    else if isSpecial scheme then
      readAuthority scheme true (cs.dropWhile fun c => c == '/' || c == '\\') query fragment
    else match cs with
      | '/' :: '/' :: rest => readAuthority scheme false rest query fragment
      | _ => .ok {
          scheme
          path := match cs with
            | '/' :: _ => readPath false cs
            | _ => .opaqueText (written isPlainInHost cs)
          query := query.map (written (isPlainInQuery false))
          fragment := fragment.map (written isPlainInFragment) }

end CallDesk.Url
