import CallDesk.Text.Percent

/-! # Texts and blanks in TOML

Every reader takes something off the front of the characters and returns what is left. Ends of
lines inside texts of several lines become line feeds, and a backslash before one drops the blanks
and ends of lines that follow.
-/

namespace CallDesk.Toml

open Text

def isLineBlank (c : Char) : Bool := c == ' ' || c == '\t'

def skipBlanks (s : List Char) : List Char := s.dropWhile isLineBlank

/-- A character that may stand inside a line. -/
def isLineChar (c : Char) : Bool := (32 ≤ c.toNat && c.toNat != 127) || c == '\t'

def newlineOff? : List Char → Option (List Char)
  | '\n' :: rest => some rest
  | '\r' :: '\n' :: rest => some rest
  | _ => none

/-- Skips the characters of a comment after its mark. -/
def skipComment (s : List Char) : List Char := s.dropWhile isLineChar

/-- Takes the rest of a line off the front: blanks and a comment. -/
def lineEndOff? (s : List Char) : Option (List Char) :=
  let s := match skipBlanks s with
    | '#' :: rest => skipComment rest
    | s => s
  match s with
  | [] => some []
  | s => newlineOff? s

/-- Skips blanks, comments and ends of lines; the fuel is at least the number of characters. -/
def skipLines (fuel : Nat) (s : List Char) : List Char :=
  match fuel, skipBlanks s with
  | 0, s => s
  | fuel + 1, '#' :: rest => match newlineOff? (skipComment rest) with
    | some rest => skipLines fuel rest
    | none => skipComment rest
  | fuel + 1, s => match newlineOff? s with
    | some rest => skipLines fuel rest
    | none => s

/-- The character of a code point that is one. -/
def scalar? (n : Nat) : Option Char :=
  if h : n.isValidChar then some (Char.ofNatAux n h) else none

def hexOff? (n : Nat) : Nat → List Char → Option (Nat × List Char)
  | 0, s => some (n, s)
  | count + 1, c :: rest => do
    let d ← hexValue? c.toNat
    hexOff? (n * 16 + d) count rest
  | _ + 1, [] => none

/-- Takes an escape, after its backslash, off the front. -/
def escapeOff? : List Char → Option (Char × List Char)
  | 'b' :: rest => some ('\x08', rest)
  | 't' :: rest => some ('\t', rest)
  | 'n' :: rest => some ('\n', rest)
  | 'f' :: rest => some ('\x0c', rest)
  | 'r' :: rest => some ('\r', rest)
  | '"' :: rest => some ('"', rest)
  | '\\' :: rest => some ('\\', rest)
  | 'u' :: rest => do
    let (n, rest) ← hexOff? 0 4 rest
    return (← scalar? n, rest)
  | 'U' :: rest => do
    let (n, rest) ← hexOff? 0 8 rest
    return (← scalar? n, rest)
  | _ => none

/-- How a text is delimited. -/
structure Quote where
  mark : Char
  /-- Whether a backslash has a meaning. -/
  escapes : Bool
  /-- Whether the text may have several lines; its marks are three then. -/
  long : Bool

/-- Skips the blanks and ends of lines after a backslash at the end of a line. -/
def skipFolded : List Char → List Char
  | '\r' :: '\n' :: rest => skipFolded rest
  | c :: rest => if isLineBlank c || c == '\n' then skipFolded rest else c :: rest
  | [] => []

/-- Takes the end of a long text off the front: three marks, before which one or two more may stand
that belong to the text. -/
def longEndOff? (mark : Char) (s : List Char) : Option (List Char × List Char) :=
  let marks := s.takeWhile (· == mark)
  if 3 ≤ marks.length ∧ marks.length ≤ 5 then some (marks.drop 3, s.drop marks.length) else none

/-- Takes the rest of a text off the front, onto what was read, kept in reverse. Every step takes
a character, so the fuel is at least their number. -/
def bodyOff? (q : Quote) (fuel : Nat) (read : List Char) (s : List Char) :
    Option (String × List Char) :=
  match fuel, s with
  | 0, _ => none
  | _, [] => none
  | fuel + 1, c :: rest =>
    if c == q.mark then
      if !q.long then some (.ofList read.reverse, rest)
      else match longEndOff? q.mark (c :: rest) with
        | some (marks, rest) => some (.ofList (read.reverse ++ marks), rest)
        | none => if (List.replicate 3 q.mark).isPrefixOf (c :: rest) then none
          else bodyOff? q fuel (c :: read) rest
    else if c == '\\' && q.escapes then
      match if q.long then newlineOff? (skipBlanks rest) else none with
      | some rest => bodyOff? q fuel read (skipFolded rest)
      | none => match escapeOff? rest with
        | some (d, rest) => bodyOff? q fuel (d :: read) rest
        | none => none
    else if isLineChar c then bodyOff? q fuel (c :: read) rest
    else if q.long then match newlineOff? (c :: rest) with
      | some rest => bodyOff? q fuel ('\n' :: read) rest
      | none => none
    else none

def shortOff? : List Char → Option (String × List Char)
  | '"' :: rest => bodyOff? ⟨'"', true, false⟩ (rest.length + 1) [] rest
  | '\'' :: rest => bodyOff? ⟨'\'', false, false⟩ (rest.length + 1) [] rest
  | _ => none

/-- Takes a long text, after its three marks, off the front; an end of line at its start does not
count. -/
def longOff? (q : Quote) (s : List Char) : Option (String × List Char) :=
  bodyOff? q (s.length + 1) [] ((newlineOff? s).getD s)

def textOff? : List Char → Option (String × List Char)
  | '"' :: '"' :: '"' :: rest => longOff? ⟨'"', true, true⟩ rest
  | '\'' :: '\'' :: '\'' :: rest => longOff? ⟨'\'', false, true⟩ rest
  | s => shortOff? s

end CallDesk.Toml
