/-! # UTF-8

Bytes are read as the longest well-formed characters. `pieces` keeps one mark for each ill-formed
stretch (a maximal part of a character that was cut off, or one byte that starts none), so that
strict and forgiving reading are two views of one function: `decode?` refuses any mark and
`decodeLossy` shows a replacement character for each.
-/

namespace CallDesk.Text

abbrev Bytes := List UInt8

def utf8 (s : String) : Bytes := s.toUTF8.toList

/-- What a leading byte announces: the bounds of the byte after it and how many more follow that. -/
structure Lead where
  low : UInt8
  high : UInt8
  more : Nat
  start : Nat

/-- The announcement of a byte that starts a character of more than one byte. -/
def lead? (b : UInt8) : Option Lead :=
  if b < 0xC2 then none
  else if b < 0xE0 then some ⟨0x80, 0xBF, 0, b.toNat - 0xC0⟩
  else if b == 0xE0 then some ⟨0xA0, 0xBF, 1, 0⟩
  else if b == 0xED then some ⟨0x80, 0x9F, 1, 0xD⟩
  else if b < 0xF0 then some ⟨0x80, 0xBF, 1, b.toNat - 0xE0⟩
  else if b == 0xF0 then some ⟨0x90, 0xBF, 2, 0⟩
  else if b < 0xF4 then some ⟨0x80, 0xBF, 2, b.toNat - 0xF0⟩
  else if b == 0xF4 then some ⟨0x80, 0x8F, 2, 4⟩
  else none

/-- A byte that can stand inside a character. -/
def isTail (b : UInt8) : Bool := 0x80 ≤ b && b ≤ 0xBF

/-- A code point extended by the six bits of a byte inside the character. -/
def extend (n : Nat) (b : UInt8) : Nat := n * 64 + (b.toNat - 0x80)

/-- What has been read of the character that the next byte may continue. -/
inductive Pending where
  /-- Between characters. -/
  | none
  /-- After a leading byte, whose announcement bounds the next byte. -/
  | led (l : Lead)
  /-- Inside a character: its bits so far and the number of bytes still to come. -/
  | inside (bits : Nat) (left : Nat)

/-- The mark owed for a character that ends too early. -/
def Pending.mark : Pending → List (Option Char)
  | .none => []
  | _ => [Option.none]

/-- A byte read between characters: the pieces it completes and what is pending after it. -/
def fresh (b : UInt8) : List (Option Char) × Pending :=
  if b < 0x80 then ([some (Char.ofNat b.toNat)], .none)
  else match lead? b with
    | some l => ([], .led l)
    | none => ([Option.none], .none)

/-- A byte read after `p`. A byte that does not continue the character ends it with a mark and is
read afresh. -/
def advance (p : Pending) (b : UInt8) : List (Option Char) × Pending :=
  match p with
  | .none => fresh b
  | .led l =>
    if l.low ≤ b && b ≤ l.high then
      match l.more with
      | 0 => ([some (Char.ofNat (extend l.start b))], .none)
      | n + 1 => ([], .inside (extend l.start b) (n + 1))
    else let (out, next) := fresh b; (Option.none :: out, next)
  | .inside bits left =>
    if isTail b then
      if left ≤ 1 then ([some (Char.ofNat (extend bits b))], .none)
      else ([], .inside (extend bits b) (left - 1))
    else let (out, next) := fresh b; (Option.none :: out, next)

/-- The pieces of `bytes` after `p`, onto those already read, which are kept in reverse. -/
def piecesOnto (read : List (Option Char)) (p : Pending) : Bytes → List (Option Char)
  | [] => (p.mark.reverse ++ read).reverse
  | b :: rest =>
    let (out, next) := advance p b
    piecesOnto (out.reverse ++ read) next rest

/-- The characters of `bytes`, with one mark for each ill-formed stretch. -/
def pieces (bytes : Bytes) : List (Option Char) := piecesOnto [] .none bytes

def decode? (bytes : Bytes) : Option String :=
  let ps := pieces bytes
  if ps.all Option.isSome then some (.ofList (ps.filterMap id)) else none

def replacement : Char := Char.ofNat 0xFFFD

/-- Reads any bytes, with a replacement character for each ill-formed stretch. -/
def decodeLossy (bytes : Bytes) : String :=
  .ofList ((pieces bytes).map (·.getD replacement))

end CallDesk.Text
