import CallDesk.Url.Host

/-! # Socket addresses

An address to listen on: four bytes or eight pieces of sixteen bits, and a port. The pieces stand
between brackets, perhaps with the number of a scope.
-/

namespace CallDesk

open Text

/-- The address of an interface. -/
inductive Interface where
  /-- Four bytes. -/
  | quad (bytes : List Nat)
  /-- Eight pieces of sixteen bits, and a scope, zero when there is none. -/
  | pieces (ps : List Nat) (scope : Nat)
deriving DecidableEq

/-- An address to listen on. -/
structure SocketAddress where
  host : Interface
  port : UInt16
deriving DecidableEq

namespace Interface

def quad? (cs : List Char) : Option (List Nat) :=
  if Url.isDottedQuad cs then
    some ((splitAll '.' cs).map fun part => value ((allDigits? part).getD []))
  else none

/-- The pieces that groups between colons stand for. -/
def piecesOf (groups : List (List Char)) : List Nat :=
  groups.flatMap fun group => match quad? group with
    | some [a, b, c, d] => [a * 256 + b, c * 256 + d]
    | _ => [group.foldl (fun n c => n * 16 + (hexValue? c.toNat).getD 0) 0]

def eight? (cs : List Char) : Option (List Nat) :=
  if Url.isIpv6 cs then
    some (match Url.cutAtDoubleColon? [] cs with
      | none => piecesOf (Url.groups cs)
      | some (before, after) =>
        let left := piecesOf (Url.groups before)
        let right := piecesOf (Url.groups after)
        left ++ List.replicate (8 - left.length - right.length) 0 ++ right)
  else none

/-- The text of a number in hexadecimal digits. -/
def hexText (n : Nat) : String := .ofList ((Nat.toDigits 16 n))

/-- The length of the run of zeros at the start. -/
def zeros (ps : List Nat) : Nat := (ps.takeWhile (· == 0)).length

/-- The start and the length of the first longest run of zeros, looked for from position `i` on. -/
def longestRun (i : Nat) : List Nat → Nat × Nat
  | [] => (i, 0)
  | p :: rest =>
    let later := longestRun (i + 1) rest
    if later.2 ≤ zeros (p :: rest) then (i, zeros (p :: rest)) else later

def colons (ps : List Nat) : String := ":".intercalate (ps.map hexText)

def dots (bytes : List Nat) : String := ".".intercalate (bytes.map decimal)

/-- The text of eight pieces. The first longest run of zeros, if it is longer than one, is left
out; four bytes that are written as pieces are told as bytes. -/
def piecesText (ps : List Nat) : String :=
  match ps with
  | [0, 0, 0, 0, 0, 0xFFFF, a, b] => "::ffff:" ++ dots [a / 256, a % 256, b / 256, b % 256]
  | ps =>
    let (start, length) := longestRun 0 ps
    if 1 < length then colons (ps.take start) ++ "::" ++ colons (ps.drop (start + length))
    else colons ps

/-- The text of an interface, as it stands before a port. -/
def text : Interface → String
  | quad bytes => dots bytes
  | pieces ps scope =>
    "[" ++ piecesText ps ++ (if scope = 0 then "" else "%" ++ decimal scope) ++ "]"

def bracketed? (cs : List Char) : Option Interface :=
  match cut? '%' cs with
  | none => (eight? cs).map fun ps => .pieces ps 0
  | some (address, scope) => do
    let ps ← eight? address
    let n := value (← allDigits? scope)
    if n < UInt32.size then some (.pieces ps n) else none

end Interface

namespace SocketAddress

def port? : List Char → Option UInt16
  | ':' :: rest => match allDigits? rest with
    | some ds => if value ds < UInt16.size then some (.ofNat (value ds)) else none
    | none => none
  | _ => none

def read? (s : String) : Option SocketAddress :=
  match s.toList with
  | '[' :: rest => do
    let (inside, rest) ← cut? ']' rest
    return ⟨← Interface.bracketed? inside, ← port? rest⟩
  | cs => do
    let (host, rest) := cs.span (· != ':')
    return ⟨.quad (← Interface.quad? host), ← port? rest⟩

def text (a : SocketAddress) : String := a.host.text ++ ":" ++ decimal a.port.toNat

end SocketAddress

end CallDesk
