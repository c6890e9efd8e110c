import CallDesk.Proofs.Markup.Outline

/-! # Reading the attributes of a page

A browser takes the attributes of a page from its text: their names as they stand, and their values as they
stand between the quotes, in which references are only then replaced by the characters they stand for. Of
markup whose names are clean the reader here finds the attributes that the markup was built with, whatever
texts and values the markup holds.
-/

namespace CallDesk

/-- Where a reader of attributes stands. -/
inductive AttributeReader.State where
  /-- Between tags. -/
  | text
  /-- Inside a tag, after some characters of a name. -/
  | tag (name : List Char)
  /-- Inside the value of an attribute, after some of its characters. -/
  | value (name read : List Char)

/-- A reader of attributes after some characters. -/
structure AttributeReader where
  state : AttributeReader.State := .text
  /-- The attributes that were read, with their values as they stand between the quotes. -/
  found : List (List Char × List Char) := []

namespace AttributeReader

/-- A name after one more character: a blank ends the last one, and an equals sign is no part of it. -/
def nameStep (name : List Char) (c : Char) : List Char :=
  if c = ' ' then [] else if c = '=' then name else name ++ [c]

def step (r : AttributeReader) (c : Char) : AttributeReader :=
  match r.state with
  | .text => if c = '<' then { r with state := .tag [] } else r
  | .tag name =>
    if c = '>' then { r with state := .text }
    else if c = '"' then { r with state := .value name [] }
    else { r with state := .tag (nameStep name c) }
  | .value name read =>
    if c = '"' then { state := .tag [], found := r.found ++ [(name, read)] }
    else { r with state := .value name (read ++ [c]) }

/-- The reader after some more characters. -/
def read (r : AttributeReader) (cs : List Char) : AttributeReader := cs.foldl step r

theorem read_append (r : AttributeReader) (cs ds : List Char) : r.read (cs ++ ds) = (r.read cs).read ds :=
  List.foldl_append

theorem read_cons (r : AttributeReader) (c : Char) (cs : List Char) : r.read (c :: cs) = (r.step c).read cs := rfl

variable (found : List (List Char × List Char))

/-- Between tags, only an opening bracket matters. -/
theorem read_text {cs : List Char} (plain : '<' ∉ cs) : read { found } cs = { found } := by
  induction cs with
  | nil => rfl
  | cons c cs ih =>
    obtain ⟨first, others⟩ := List.ne_and_not_mem_of_not_mem_cons plain
    rw [read_cons, step]
    dsimp only
    rw [if_neg (Ne.symm first), ih others]

/-- Inside a tag, whatever neither closes it nor opens a value belongs to names. -/
theorem read_tag (name : List Char) {cs : List Char} (open_ : '>' ∉ cs) (unquoted : '"' ∉ cs) :
    read { state := .tag name, found } cs = { state := .tag (cs.foldl nameStep name), found } := by
  induction cs generalizing name with
  | nil => rfl
  | cons c cs ih =>
    obtain ⟨bracket, open_⟩ := List.ne_and_not_mem_of_not_mem_cons open_
    obtain ⟨quote, unquoted⟩ := List.ne_and_not_mem_of_not_mem_cons unquoted
    rw [read_cons, step]
    dsimp only
    rw [if_neg (Ne.symm bracket), if_neg (Ne.symm quote), ih _ open_ unquoted, List.foldl_cons]

/-- Inside a value, only a quote matters. -/
theorem read_value (name value : List Char) {cs : List Char} (unquoted : '"' ∉ cs) :
    read { state := .value name value, found } cs = { state := .value name (value ++ cs), found } := by
  induction cs generalizing value with
  | nil => rw [List.append_nil]; rfl
  | cons c cs ih =>
    obtain ⟨quote, unquoted⟩ := List.ne_and_not_mem_of_not_mem_cons unquoted
    rw [read_cons, step]
    dsimp only
    rw [if_neg (Ne.symm quote), ih _ unquoted, List.append_assoc, List.singleton_append]

end AttributeReader

open AttributeReader

/-- What is read of an attribute with a value. -/
def Attribute.read? : Attribute → Option (List Char × List Char)
  | value name text => some (name.toList.foldl nameStep [], text.toList.flatMap Html.escapeChar)
  | flag _ => none

/-- What is read of the attributes of a piece. -/
def Piece.readAttributes : Piece → List (List Char × List Char)
  | start _ attributes => attributes.filterMap Attribute.read?
  | _ => []

namespace AttributeReader

variable (found : List (List Char × List Char))

theorem read_attribute (name : List Char) {a : Attribute} (clean : a.isClean = true) :
    ∃ name', read { state := .tag name, found } a.chars =
      { state := .tag name', found := found ++ a.read?.toList } := by
  cases a with
  | flag flag =>
    obtain ⟨_, open_, unquoted⟩ := Html.not_mem_of_mild (Html.isMild_of_mem_name clean)
    refine ⟨(' ' :: flag.toList).foldl nameStep name, ?_⟩
    rw [Attribute.chars, read_tag found name (by simp [open_]) (by simp [unquoted]), Attribute.read?,
      Option.toList_none, List.append_nil]
  | value key text =>
    obtain ⟨_, open_, unquoted⟩ := Html.not_mem_of_mild (Html.isMild_of_mem_name clean)
    have quiet := (Html.not_mem_escaped text.toList).2.2
    have keyed : (' ' :: key.toList ++ ['=']).foldl nameStep name = key.toList.foldl nameStep [] := by
      rw [List.foldl_append, List.foldl_cons]
      rfl
    refine ⟨[], ?_⟩
    rw [Attribute.chars_value, read_append, read_tag found name (by simp [open_]) (by simp [unquoted]), keyed,
      read_cons]
    simp only [step, Char.reduceEq, ↓reduceIte]
    rw [read_append, read_value found _ [] quiet]
    rfl

theorem read_attributes (name : List Char) {as : List Attribute} (clean : as.all Attribute.isClean = true) :
    ∃ name', read { state := .tag name, found } (as.flatMap Attribute.chars) =
      { state := .tag name', found := found ++ as.filterMap Attribute.read? } := by
  induction as generalizing name found with
  | nil => exact ⟨name, by rw [List.filterMap_nil, List.append_nil]; rfl⟩
  | cons a as ih =>
    simp only [List.all_cons, Bool.and_eq_true] at clean
    obtain ⟨between, first⟩ := read_attribute found name clean.1
    obtain ⟨last, others⟩ := ih (found ++ a.read?.toList) between clean.2
    refine ⟨last, ?_⟩
    rw [List.flatMap_cons, read_append, first, others, List.append_assoc]
    cases read : a.read? <;> simp [read]

/-- A tag whose name is clean is read from bracket to bracket. -/
private theorem read_brackets_attributes {name : List Char} {as : List Attribute}
    (mild : ∀ c ∈ name, Html.isMild c = true) (clean : as.all Attribute.isClean = true) :
    read { found } ('<' :: name ++ as.flatMap Attribute.chars ++ ['>']) =
      { found := found ++ as.filterMap Attribute.read? } := by
  obtain ⟨_, open_, unquoted⟩ := Html.not_mem_of_mild mild
  have opened : read { found } ['<'] = { state := .tag [], found } := rfl
  obtain ⟨last, attributes⟩ := read_attributes found (name.foldl nameStep []) clean
  rw [← List.singleton_append, List.append_assoc, List.append_assoc, read_append, opened, read_append,
    read_tag found [] open_ unquoted, read_append, attributes]
  rfl

/-- A piece of a page leaves the reader in a text, after its own attributes. -/
theorem read_piece {p : Piece} (clean : p.isClean = true) :
    read { found } p.chars = { found := found ++ p.readAttributes } := by
  cases p with
  | start tag as =>
    simp only [Piece.isClean, Bool.and_eq_true] at clean
    exact read_brackets_attributes found (Html.isMild_of_mem_name clean.1) clean.2
  | stop tag =>
    have mild := Html.isMild_of_mem_closing clean
    have whole := read_brackets_attributes found mild (List.all_nil (f := Attribute.isClean))
    rwa [List.flatMap_nil, List.append_nil] at whole
  | text s =>
    have plain := (Html.not_mem_escaped s.toList).1
    have none : (Piece.text s).readAttributes = [] := rfl
    rw [Piece.chars, read_text found plain, none, List.append_nil]
  | named name =>
    have quiet := Html.not_mem_named clean
    have none : (Piece.named name).readAttributes = [] := rfl
    rw [Piece.chars, read_text found quiet, none, List.append_nil]

theorem read_chars {h : Html} (clean : h.isClean = true) :
    read { found } h.chars = { found := found ++ h.flatMap Piece.readAttributes } := by
  induction h generalizing found with
  | nil => rw [List.flatMap_nil, List.append_nil]; rfl
  | cons p h ih =>
    simp only [Html.isClean, List.all_cons, Bool.and_eq_true] at clean
    have cut : Html.chars (p :: h) = p.chars ++ Html.chars h := by simp only [Html.chars, List.flatMap_cons]
    rw [cut, read_append, read_piece found clean.1, ih _ clean.2, List.append_assoc, List.flatMap_cons]

end AttributeReader

namespace Html

/-- The values of the attributes of a name in the text of a page, in their order and as they stand there. -/
def valuesOf (name page : String) : List (List Char) :=
  ((AttributeReader.read {} page.toList).found.filter fun a => a.1 = name.toList).map (·.2)

/-- The values of the attributes of a name that markup is built with, as they are written. -/
def writtenValues (name : String) (h : Html) : List (List Char) :=
  ((h.flatMap Piece.readAttributes).filter fun a => a.1 = name.toList).map (·.2)

theorem writtenValues_append (name : String) (g h : Html) :
    (g ++ h).writtenValues name = g.writtenValues name ++ h.writtenValues name := by
  rw [writtenValues, List.flatMap_append, List.filter_append, List.map_append]
  rfl

theorem writtenValues_flatMap {α : Type} (name : String) (f : α → Html) (items : List α) :
    writtenValues name (items.flatMap f) = items.flatMap fun a => (f a).writtenValues name := by
  induction items with
  | nil => rfl
  | cons a items ih => rw [List.flatMap_cons, List.flatMap_cons, writtenValues_append, ih]

theorem writtenValues_element (key tag : String) (attributes : List Attribute) (contents : Html) :
    (element tag attributes contents).writtenValues key =
      writtenValues key [.start tag attributes] ++ contents.writtenValues key := by
  have last : writtenValues key [.stop tag] = [] := rfl
  rw [element, ← List.singleton_append, writtenValues_append, writtenValues_append, last, List.append_nil]

theorem writtenValues_lines (key : String) (parts : List Html) :
    (lines parts).writtenValues key = parts.flatMap (writtenValues key) := by
  induction parts with
  | nil => rfl
  | cons first rest ih =>
    cases rest with
    | nil => rw [lines, List.flatMap_singleton]
    | cons second rest =>
      have between : newline.writtenValues key = [] := rfl
      have cut : lines (first :: second :: rest) = first ++ newline ++ lines (second :: rest) := rfl
      rw [cut, writtenValues_append, writtenValues_append, between, List.append_nil, ih]
      rfl

/-- The attributes in the text of a page are those that the page is built with. -/
theorem valuesOf_render {h : Html} (clean : h.isClean = true) (name : String) :
    valuesOf name h.render = h.writtenValues name := by
  rw [valuesOf, render, String.toList_ofList, AttributeReader.read_chars [] clean, List.nil_append]
  rfl

end Html

end CallDesk
