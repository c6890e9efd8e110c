import CallDesk.Json.Basic
import CallDesk.Text.Percent

/-! # Reading JSON

A reader takes a value off the front of a text, given as bytes, and returns what is left. Strings
are collected as bytes and read as UTF-8 at their end, so that a string that holds no text is no
error here. Every step of `value?` takes at least one byte, which bounds the fuel.
-/

namespace CallDesk.Json

open Text

def isSpace (b : UInt8) : Bool := b == 32 || b == 10 || b == 9 || b == 13

def skipSpace (s : Bytes) : Bytes := s.dropWhile isSpace

def byteDigit? (b : UInt8) : Option Digit :=
  if h : 48 ≤ b.toNat ∧ b.toNat ≤ 57 then some ⟨b.toNat - 48, by omega⟩ else none

/-- Takes the digits off the front, onto those already read, which are kept in reverse. -/
def digitsOff (read : List Digit) : Bytes → List Digit × Bytes
  | [] => (read.reverse, [])
  | b :: rest => match byteDigit? b with
    | some d => digitsOff (d :: read) rest
    | none => (read.reverse, b :: rest)

/-- The digits before the point: a lone zero, or digits that do not start with one. -/
def wholeOff? (s : Bytes) : Option (List Digit × Bytes) :=
  match digitsOff [] s with
  | ([], _) => none
  | (0 :: _ :: _, _) => none
  | found => some found

/-- The point and the digits after it, if there is a point. -/
def fractionOff? : Bytes → Option (List Digit × Bytes)
  | 46 :: rest => match digitsOff [] rest with
    | ([], _) => none
    | found => some found
  | s => some ([], s)

def exponentOff? : Bytes → Option (Option (Bool × List Digit) × Bytes)
  | [] => some (none, [])
  | b :: rest =>
    if b == 101 || b == 69 then
      let (down, rest) := match rest with
        | 43 :: rest => (false, rest)
        | 45 :: rest => (true, rest)
        | rest => (false, rest)
      match digitsOff [] rest with
      | ([], _) => none
      | (ds, rest) => some (some (down, ds), rest)
    else some (none, b :: rest)

def numeralOff? (s : Bytes) : Option (Numeral × Bytes) := do
  let (negative, s) := match s with
    | 45 :: rest => (true, rest)
    | s => (false, s)
  let (whole, s) ← wholeOff? s
  let (fraction, s) ← fractionOff? s
  let (exponent, s) ← exponentOff? s
  return (⟨negative, whole, fraction, exponent⟩, s)

/-- The byte that a one-letter escape stands for. -/
def escaped? (b : UInt8) : Option UInt8 :=
  if b == 34 || b == 92 || b == 47 then some b
  else if b == 98 then some 8
  else if b == 102 then some 12
  else if b == 110 then some 10
  else if b == 114 then some 13
  else if b == 116 then some 9
  else none

def codeBytes (n : Nat) : Bytes := utf8 (String.singleton (Char.ofNat n))

/-- A string being read: its bytes so far, in reverse, and whether it is text so far; `pending` is
the first half of a surrogate pair whose second half has to come next. -/
structure Partial where
  bytes : Bytes := []
  isText : Bool := true
  pending : Option Nat := none

def Partial.push (p : Partial) (b : UInt8) : Partial :=
  ⟨b :: p.bytes, p.isText && p.pending.isNone, none⟩

/-- Adds the code unit of a `\u` escape to a string. -/
def Partial.pushUnit (p : Partial) (n : Nat) : Partial :=
  if 0xDC00 ≤ n ∧ n ≤ 0xDFFF then
    match p.pending with
    | some high =>
      ⟨(codeBytes (0x10000 + (high - 0xD800) * 0x400 + (n - 0xDC00))).reverse ++ p.bytes,
        p.isText, none⟩
    | none => ⟨p.bytes, false, none⟩
  else if 0xD800 ≤ n ∧ n ≤ 0xDBFF then ⟨p.bytes, p.isText && p.pending.isNone, some n⟩
  else ⟨(codeBytes n).reverse ++ p.bytes, p.isText && p.pending.isNone, none⟩

/-- The text of a string at its end; `none` when it holds none. -/
def Partial.finish (p : Partial) : Option String :=
  if p.isText && p.pending.isNone then decode? p.bytes.reverse else none

/-- Where a string reader stands. -/
inductive StringMode where
  /-- Between characters. -/
  | plain
  /-- After a backslash. -/
  | escape
  /-- After `\u` and `count` hexadecimal digits, whose value is `n`. -/
  | unit (count n : Nat)

/-- Takes the rest of a string, after its opening quote, off the front. -/
def stringOff? (p : Partial) (mode : StringMode) : Bytes → Option (Option String × Bytes)
  | [] => none
  | b :: rest => match mode with
    | .plain =>
      if b == 34 then some (p.finish, rest)
      else if b == 92 then stringOff? p .escape rest
      else if b < 32 then none
      else stringOff? (p.push b) .plain rest
    | .escape =>
      if b == 117 then stringOff? p (.unit 0 0) rest
      else match escaped? b with
        | some c => stringOff? (p.push c) .plain rest
        | none => none
    | .unit count n => match hexValue? b.toNat with
      | none => none
      | some d =>
        if count = 3 then stringOff? (p.pushUnit (n * 16 + d)) .plain rest
        else stringOff? p (.unit (count + 1) (n * 16 + d)) rest

def quotedOff? : Bytes → Option (Option String × Bytes)
  | 34 :: rest => stringOff? {} .plain rest
  | _ => none

def wordOff? (word : Bytes) (v : Json) (s : Bytes) : Option (Json × Bytes) :=
  if word.isPrefixOf s then some (v, s.drop word.length) else none

mutual

/-- Takes a value off the front, white space before it included. -/
def valueOff? (fuel : Nat) (s : Bytes) : Option (Json × Bytes) :=
  match fuel with
  | 0 => none
  | fuel + 1 => match skipSpace s with
    | [] => none
    | b :: rest =>
      if b == 34 then (stringOff? {} .plain rest).map fun (t, rest) => (.string t, rest)
      else if b == 91 then
        match skipSpace rest with
        | 93 :: rest => some (.array [], rest)
        | rest => itemsOff? fuel [] rest
      else if b == 123 then
        match skipSpace rest with
        | 125 :: rest => some (.object [], rest)
        | rest => membersOff? fuel [] rest
      else if b == 116 then wordOff? [116, 114, 117, 101] (.bool true) (b :: rest)
      else if b == 102 then wordOff? [102, 97, 108, 115, 101] (.bool false) (b :: rest)
      else if b == 110 then wordOff? [110, 117, 108, 108] .null (b :: rest)
      else (numeralOff? (b :: rest)).map fun (n, rest) => (.number n, rest)

/-- Takes the items of an array and its closing bracket off the front; those already read are kept
in reverse. -/
def itemsOff? (fuel : Nat) (read : List Json) (s : Bytes) : Option (Json × Bytes) :=
  match fuel with
  | 0 => none
  | fuel + 1 => match valueOff? fuel s with
    | none => none
    | some (v, s) => match skipSpace s with
      | 44 :: rest => itemsOff? fuel (v :: read) rest
      | 93 :: rest => some (.array (v :: read).reverse, rest)
      | _ => none

/-- Takes the members of an object and its closing brace off the front; those already read are kept
in reverse. -/
def membersOff? (fuel : Nat) (read : List (Option String × Json)) (s : Bytes) :
    Option (Json × Bytes) :=
  match fuel with
  | 0 => none
  | fuel + 1 => match quotedOff? (skipSpace s) with
    | none => none
    | some (name, s) => match skipSpace s with
      | 58 :: s => match valueOff? fuel s with
        | none => none
        | some (v, s) => match skipSpace s with
          | 44 :: rest => membersOff? fuel ((name, v) :: read) rest
          | 125 :: rest => some (.object ((name, v) :: read).reverse, rest)
          | _ => none
      | _ => none

end

def takeValue? (s : Bytes) : Option (Json × Bytes) := valueOff? (2 * s.length + 2) s

/-- Reads a text that is one value with white space around it. -/
def read? (s : Bytes) : Option Json :=
  match takeValue? s with
  | some (v, rest) => if (skipSpace rest).isEmpty then some v else none
  | none => none

def readText? (s : String) : Option Json := read? (utf8 s)

end CallDesk.Json
