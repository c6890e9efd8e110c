/-! # Markup

A page is a list of pieces: tags, texts and named characters. Texts and attribute values are
arbitrary; they are escaped where a piece is written and nowhere else, so a page is built from the
values it shows as they are. Tag and attribute names are written as they stand.
-/

namespace CallDesk

/-- A character inside a text or an attribute value. -/
def Html.escapeChar (c : Char) : List Char :=
  if c == '&' then ['&', 'a', 'm', 'p', ';']
  else if c == '<' then ['&', 'l', 't', ';']
  else if c == '>' then ['&', 'g', 't', ';']
  else if c == '"' then ['&', 'q', 'u', 'o', 't', ';']
  else if c == '\'' then ['&', '#', 'x', '2', '7', ';']
  else [c]

/-- A text without any character that has a meaning in markup. -/
def Html.escape (s : String) : String := .ofList (s.toList.flatMap escapeChar)

/-- An attribute of a tag. -/
inductive Attribute where
  /-- A name with a value. -/
  | value (name text : String)
  /-- A name that counts by being there. -/
  | flag (name : String)
deriving DecidableEq

def Attribute.chars : Attribute → List Char
  | value name text =>
    ' ' :: name.toList ++ '=' :: '"' :: text.toList.flatMap Html.escapeChar ++ ['"']
  | flag name => ' ' :: name.toList

/-- A piece of a page. -/
inductive Piece where
  /-- An opening tag. -/
  | start (tag : String) (attributes : List Attribute)
  /-- A closing tag. -/
  | stop (tag : String)
  /-- A text. -/
  | text (s : String)
  /-- A character given by its name. -/
  | named (name : String)
deriving DecidableEq

def Piece.chars : Piece → List Char
  | start tag attributes => '<' :: tag.toList ++ attributes.flatMap Attribute.chars ++ ['>']
  | stop tag => '<' :: '/' :: tag.toList ++ ['>']
  | text s => s.toList.flatMap Html.escapeChar
  | named name => '&' :: name.toList ++ [';']

abbrev Html := List Piece

namespace Html

def chars (h : Html) : List Char := h.flatMap Piece.chars

def render (h : Html) : String := .ofList h.chars

def text (s : String) : Html := [.text s]

def newline : Html := [.text "\n"]

def single (tag : String) (attributes : List Attribute) : Html := [.start tag attributes]

def element (tag : String) (attributes : List Attribute) (contents : Html) : Html :=
  .start tag attributes :: contents ++ [.stop tag]

def styled (tag style : String) (contents : Html) : Html :=
  element tag [.value "class" style] contents

/-- An element without attributes that holds a text. -/
def plain (tag s : String) : Html := element tag [] (text s)

def link (style target label : String) : Html :=
  element "a" [.value "class" style, .value "href" target] (text label)

def lines : List Html → Html
  | [] => []
  | [part] => part
  | part :: rest => part ++ newline ++ lines rest

/-- What is shown for an optional value, nothing when there is none. -/
def optional {α : Type} (a : Option α) (f : α → Html) : Html :=
  match a with
  | none => []
  | some a => f a

end Html

end CallDesk
