import CallDesk.Text.FormData
import CallDesk.Url.Basic
import CallDesk.Url.Punycode

/-! # Hosts

The host of a special address is a domain name or a number; of the latter only the form is
checked. A domain name is taken after its percent coding is removed. Names beyond ASCII are
folded as far as a fold can give an ASCII character, and refused when they hold a character that
no name may hold.
-/

namespace CallDesk.Url

open Text

/-- Characters of ASCII that no domain name holds. -/
def isForbiddenInName (c : Char) : Bool :=
  c.toNat ≤ 32 || c.toNat == 127 ||
    ['%', '#', '/', ':', '<', '>', '?', '@', '[', '\\', ']', '^', '|'].contains c

/-- Characters that no host of any scheme holds. -/
def isForbiddenInHost (c : Char) : Bool :=
  ['\x00', '\t', '\n', '\r', ' ', '#', '/', ':', '<', '>', '?', '@', '[', '\\', ']', '^',
    '|'].contains c

/-- Characters that a domain name may be written with but does not have. -/
def isIgnoredInName (n : Nat) : Bool :=
  n == 0xAD || n == 0x34F || n == 0x200B || n == 0x2060 || n == 0x2064 || n == 0xFEFF ||
    (0xFE00 ≤ n && n ≤ 0xFE0F) || (0x180B ≤ n && n ≤ 0x180D) || (0xE0100 ≤ n && n ≤ 0xE01EF)

/-- Characters beyond ASCII that no domain name holds: controls, spaces, marks of direction,
private and unassigned stretches. -/
def isRefusedInName (n : Nat) : Bool :=
  (0x80 ≤ n && n ≤ 0xA0) || n == 0x61C || n == 0x1680 || n == 0x180E ||
    (0x2000 ≤ n && n ≤ 0x200A) || n == 0x200E || n == 0x200F || (0x2024 ≤ n && n ≤ 0x2026) ||
    (0x2028 ≤ n && n ≤ 0x202F) || (0x205F ≤ n && n ≤ 0x206F) || (0x2FF0 ≤ n && n ≤ 0x3000) ||
    (0xD800 ≤ n && n ≤ 0xF8FF) || (0xFDD0 ≤ n && n ≤ 0xFDEF) || (0xFFF0 ≤ n && n ≤ 0xFFFF) ||
    n % 0x10000 == 0xFFFE || n % 0x10000 == 0xFFFF || 0xE0000 ≤ n

/-- The form of a character in a domain name. -/
def foldName (c : Char) : Char :=
  let n := c.toNat
  if 65 ≤ n ∧ n ≤ 90 then Char.ofNat (n + 32)
  else if 0xFF21 ≤ n ∧ n ≤ 0xFF3A then Char.ofNat (n - 0xFEE0 + 32)
  else if 0xFF01 ≤ n ∧ n ≤ 0xFF5E then Char.ofNat (n - 0xFEE0)
  else if n = 0x3002 ∨ n = 0xFF61 then '.'
  else if n = 0x212A then 'k'
  else if n = 0xB2 then '2'
  else if n = 0xB3 then '3'
  else if n = 0xB9 then '1'
  else if n = 0xAA then 'a'
  else if n = 0xBA then 'o'
  else c

/-- Whether a label is what no name holds: the Punycode of characters that there are not, or that
would be written in another way. -/
def isBrokenLabel (label : List Char) : Bool :=
  match label with
  | 'x' :: 'n' :: '-' :: '-' :: rest => match Punycode.decode? rest with
    | none => true
    | some points => points.all (· < 128) || points.any fun n =>
        (128 ≤ n && (isRefusedInName n || isIgnoredInName n)) || foldName (.ofNat n) != .ofNat n
  | _ => false

/-- A number of an IPv4 address: octal after a zero, hexadecimal after `0x`, else decimal. The
outer `none` is no number. -/
def ipv4Number? (part : List Char) : Option Nat :=
  let of (base : Nat) (digit? : Char → Option Nat) (cs : List Char) : Option Nat :=
    (cs.mapM digit?).map (·.foldl (fun n d => n * base + d) 0)
  let decimal? (limit : Nat) (c : Char) : Option Nat :=
    if 48 ≤ c.toNat ∧ c.toNat < 48 + limit then some (c.toNat - 48) else none
  match part with
  | [] => none
  | '0' :: 'x' :: rest => of 16 (fun c => hexValue? c.toNat) rest
  | '0' :: 'X' :: rest => of 16 (fun c => hexValue? c.toNat) rest
  | ['0'] => some 0
  | '0' :: rest => of 8 (decimal? 8) rest
  | cs => of 10 (decimal? 10) cs

/-- The parts of a name; an empty last part is dropped. -/
def nameParts (name : List Char) : List (List Char) :=
  let parts := splitAll '.' name
  if parts.getLast? == some [] then parts.dropLast else parts

/-- Whether the last part of a name is a number, which makes the name an IPv4 address. -/
def endsInNumber (name : List Char) : Bool :=
  match (nameParts name).getLast? with
  | some part => (!part.isEmpty && part.all fun c => (digit? c).isSome) || (ipv4Number? part).isSome
  | none => false

/-- Whether a name that ends in a number is an IPv4 address: at most four numbers, each but the
last below 256, the last filling the bytes that are left. -/
def isIpv4 (name : List Char) : Bool :=
  let parts := nameParts name
  match parts.mapM ipv4Number? with
  | none => false
  | some ns => match ns.reverse with
    | [] => false
    | last :: others =>
      parts.length ≤ 4 && last < Nat.pow 256 (4 - others.length) && others.all (· < 256)

/-- Whether a text is the decimal form of four bytes. -/
def isDottedQuad (cs : List Char) : Bool :=
  let parts := splitAll '.' cs
  parts.length == 4 && parts.all fun part =>
    match allDigits? part with
    | none => false
    | some ds => value ds < 256 && (ds.length == 1 || ds.head? != some 0)

/-- The number of 16-bit pieces in groups between colons; the last group may be a dotted quad,
which counts for two. -/
def pieceCount? : List (List Char) → Option Nat
  | [] => some 0
  | [group] =>
    if isDottedQuad group then some 2
    else if isPiece group then some 1 else none
  | group :: rest => if isPiece group then (pieceCount? rest).map (· + 1) else none
where
  isPiece (group : List Char) : Bool :=
    !group.isEmpty && group.length ≤ 4 && group.all fun c => (hexValue? c.toNat).isSome

def cutAtDoubleColon? (before : List Char) : List Char → Option (List Char × List Char)
  | ':' :: ':' :: rest => some (before.reverse, rest)
  | c :: rest => cutAtDoubleColon? (c :: before) rest
  | [] => none

/-- The groups of one side of an IPv6 address. -/
def groups (cs : List Char) : List (List Char) := if cs.isEmpty then [] else splitAll ':' cs

/-- Whether a text is an IPv6 address: eight pieces, or fewer with one gap. -/
def isIpv6 (cs : List Char) : Bool :=
  match cutAtDoubleColon? [] cs with
  | none => pieceCount? (groups cs) == some 8
  | some (before, after) =>
    let left := groups before
    !left.any (·.contains '.') &&
      match pieceCount? left, pieceCount? (groups after) with
      | some m, some n => m + n ≤ 7
      | _, _ => false

/-- The host of a special scheme. Names beyond ASCII are mapped nearly as the standard for addresses
says: some are accepted that it refuses, with labels that start with a combining mark, that break the
rule for the directions of writing, or that have characters which are not assigned. -/
def specialHost (text : List Char) : Except Error String :=
  match text with
  | '[' :: rest =>
    if rest.getLast? == some ']' && isIpv6 rest.dropLast then .ok (.ofList text)
    else .error .badIpv6
  | _ =>
    let chars := (pieces (unpercent (utf8 (.ofList text)))).map (·.getD replacement)
    let name := (chars.filter fun c => !isIgnoredInName c.toNat).map foldName
    if (name.any fun c => isForbiddenInName c || isRefusedInName c.toNat) ||
        (splitAll '.' name).any isBrokenLabel then .error .badName
    else if name.isEmpty then .error .emptyHost
    else if endsInNumber name && !isIpv4 name then .error .badIpv4
    else .ok (.ofList name)

/-- The bytes that stand for themselves in a host without meaning: all but controls. -/
def isPlainInHost (b : UInt8) : Bool := 32 ≤ b && b < 127

/-- The host of a scheme that is not special. -/
def otherHost (text : List Char) : Except Error String :=
  match text with
  | '[' :: rest =>
    if rest.getLast? == some ']' && isIpv6 rest.dropLast then .ok (.ofList text)
    else .error .badIpv6
  | _ =>
    if text.any isForbiddenInHost then .error .badHostCharacter
    else .ok (.ofList (percentBytes isPlainInHost (utf8 (.ofList text))))

end CallDesk.Url
