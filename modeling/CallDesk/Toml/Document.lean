import CallDesk.Toml.Scalar

/-! # TOML documents

A document sets keys, under headers that open tables. No key is set twice and no table is opened
twice; a table that only came to be on the way to another one may still be opened, and one that
came to be by a dotted key may be extended by dotted keys alone.
-/

namespace CallDesk.Toml

/-- How a table came to be. -/
inductive Origin where
  /-- It has a header. -/
  | opened
  /-- It stands on the way to a table with a header. -/
  | implied
  /-- It stands on the way of a dotted key. -/
  | dotted
deriving DecidableEq

/-- What a key of a document holds. -/
inductive Node where
  | leaf (v : Tree)
  | table (origin : Origin) (members : List (String × Node))
  /-- Tables of one name, each with a header of its own, the last one first. -/
  | series (tables : List Node)

namespace Node

def setIn (key : String) (node : Node) : List (String × Node) → List (String × Node)
  | [] => [(key, node)]
  | (k, n) :: rest => if k = key then (key, node) :: rest else (k, n) :: setIn key node rest

/-- Changes the table that a path leads to. Tables that are missing on the way come to be as
`made`; of a series the last table is meant. -/
def within? (made : Origin) (change : Node → Option Node) : List String → Node → Option Node
  | [], node => change node
  | key :: path, .table origin members => do
    let inner ← match members.lookup key with
      | none => within? made change path (.table made [])
      | some (.table o ms) =>
        if made = .dotted ∧ o = .opened then none else within? made change path (.table o ms)
      | some (.series (last :: earlier)) =>
        (within? made change path last).map fun node => .series (node :: earlier)
      | some _ => none
    return .table origin (setIn key inner members)
  | _, _ => none

/-- Sets a key of a table. A dotted key ends in a table of dotted keys, another one does not. -/
def assign? (path : List String) (key : String) (v : Tree) (node : Node) : Option Node :=
  within? .dotted (fun
    | .table origin members =>
      if (origin = .dotted ↔ path = []) ∨ (members.lookup key).isSome then none
      else some (.table origin (setIn key (.leaf v) members))
    | _ => none) path node

def openTable? (path : List String) (key : String) (node : Node) : Option Node :=
  within? .implied (fun
    | .table origin members => match members.lookup key with
      | none => some (.table origin (setIn key (.table .opened []) members))
      | some (.table .implied ms) => some (.table origin (setIn key (.table .opened ms) members))
      | some _ => none
    | _ => none) path node

def openNext? (path : List String) (key : String) (node : Node) : Option Node :=
  within? .implied (fun
    | .table origin members => match members.lookup key with
      | none => some (.table origin (setIn key (.series [.table .opened []]) members))
      | some (.series ts) =>
        some (.table origin (setIn key (.series (.table .opened [] :: ts)) members))
      | some _ => none
    | _ => none) path node

mutual

def tree : Node → Tree
  | .leaf v => v
  | .table _ members => .table (memberTrees members)
  | .series tables => .list (trees tables).reverse

def memberTrees : List (String × Node) → List (String × Tree)
  | [] => []
  | (key, node) :: rest => (key, tree node) :: memberTrees rest

def trees : List Node → List Tree
  | [] => []
  | node :: rest => tree node :: trees rest

end

end Node

def isBareKeyChar (c : Char) : Bool := Text.isAlphanumeric c.toNat || c == '_' || c == '-'

def keyPartOff? (s : List Char) : Option (String × List Char) :=
  match s with
  | '"' :: _ => shortOff? s
  | '\'' :: _ => shortOff? s
  | s =>
    let (name, rest) := s.span isBareKeyChar
    if name.isEmpty then none else some (.ofList name, rest)

/-- The largest number of parts of a key, and of lists and tables inside one another. -/
def limit : Nat := 79

/-- Takes a key, of at most so many parts, off the front: the parts before the last one, and it. -/
def keyOff? : Nat → List Char → Option ((List String × String) × List Char)
  | 0, _ => none
  | count + 1, s => do
    let (part, rest) ← keyPartOff? (skipBlanks s)
    match skipBlanks rest with
    | '.' :: rest =>
      let ((path, key), rest) ← keyOff? count rest
      return ((part :: path, key), rest)
    | rest => return (([], part), rest)

/-- Takes a key and the equals sign after it off the front. -/
def assignedOff? (s : List Char) : Option ((List String × String) × List Char) := do
  let (key, s) ← keyOff? limit s
  return (key, skipBlanks (← markOff? '=' s))

mutual

/-- Takes a value off the front. Every step takes a character or follows one that did, so twice
their number is enough fuel; `depth` is how deep lists and tables may still go. -/
def valueOff? (fuel depth : Nat) (s : List Char) : Option (Tree × List Char) :=
  match fuel, s with
  | fuel + 1, '[' :: rest => match depth with
    | 0 => none
    | depth + 1 => itemsOff? fuel depth [] (skipLines rest.length rest)
  | fuel + 1, '{' :: rest => match depth with
    | 0 => none
    | depth + 1 => match skipBlanks rest with
      | '}' :: rest => some (.table [], rest)
      | rest => membersOff? fuel depth (.table .opened []) rest
  | 0, _ => none
  | _, s => scalarOff? s

/-- Takes the items of a list and its closing bracket off the front; a comma may follow the last
one. Those already read are kept in reverse. -/
def itemsOff? (fuel depth : Nat) (read : List Tree) (s : List Char) :
    Option (Tree × List Char) :=
  match fuel, s with
  | 0, _ => none
  | _, ']' :: rest => some (.list read.reverse, rest)
  | fuel + 1, s => match valueOff? fuel depth s with
    | none => none
    | some (v, s) => match skipLines s.length s with
      | ',' :: rest => itemsOff? fuel depth (v :: read) (skipLines rest.length rest)
      | ']' :: rest => some (.list (v :: read).reverse, rest)
      | _ => none

/-- Takes the members of a table in one line and its closing brace off the front. -/
def membersOff? (fuel depth : Nat) (read : Node) (s : List Char) : Option (Tree × List Char) :=
  match fuel with
  | 0 => none
  | fuel + 1 => match assignedOff? s with
    | none => none
    | some ((path, key), s) => match valueOff? fuel depth s with
      | none => none
      | some (v, s) => match Node.assign? path key v read with
        | none => none
        | some read => match skipBlanks s with
          | ',' :: rest => membersOff? fuel depth read rest
          | '}' :: rest => some (read.tree, rest)
          | _ => none

end

/-- A document as far as it has been read: its root, and the path of the open table. -/
structure Draft where
  root : Node := .table .opened []
  path : List String := []

/-- Takes a header, after its opening bracket, off the front. -/
def headerOff? (draft : Draft) (s : List Char) : Option (Draft × List Char) :=
  match s with
  | '[' :: s => do
    let ((path, key), s) ← keyOff? limit s
    let s ← markOff? ']' (← markOff? ']' s)
    return (⟨← draft.root.openNext? path key, path ++ [key]⟩, ← lineEndOff? s)
  | s => do
    let ((path, key), s) ← keyOff? limit s
    let s ← markOff? ']' s
    return (⟨← draft.root.openTable? path key, path ++ [key]⟩, ← lineEndOff? s)

/-- Takes a key with its value off the front. -/
def entryOff? (draft : Draft) (s : List Char) : Option (Draft × List Char) := do
  let ((path, key), s) ← assignedOff? s
  let (v, s) ← valueOff? (2 * s.length + 2) limit s
  let root ← draft.root.within? .implied (Node.assign? path key v) draft.path
  return (⟨root, draft.path⟩, ← lineEndOff? s)

/-- Reads a document from a line on; every step takes a character. -/
def readFrom? (fuel : Nat) (draft : Draft) (s : List Char) : Option Draft :=
  match fuel, skipLines s.length s with
  | _, [] => some draft
  | 0, _ => none
  | fuel + 1, '[' :: rest => match headerOff? draft rest with
    | some (draft, rest) => readFrom? fuel draft rest
    | none => none
  | fuel + 1, s => match entryOff? draft s with
    | some (draft, rest) => readFrom? fuel draft rest
    | none => none

/-- The mark of the encoding that a text may start with. -/
def encodingMark : Char := Char.ofNat 0xFEFF

def read? (text : String) : Option Tree :=
  let s := match text.toList with
    | c :: rest => if c = encodingMark then rest else c :: rest
    | [] => []
  (readFrom? (s.length + 1) {} s).map fun draft => draft.root.tree

end CallDesk.Toml
