import CallDesk.Proofs.Markup.Attributes

/-! # Reading the fields of a form

A browser takes a form from the text of a page: its inputs from the attributes of their tags, and the text of
an area from what stands between its tags. The reader here cuts a page into its tags, each with the text
that follows it. Of markup whose names are clean it finds the tags and texts that the markup was built with.
-/

namespace CallDesk

/-! ## Tags and texts -/

/-- A tag, as it stands between its brackets, and the text up to the next tag. -/
structure Mark where
  inside : List Char
  text : List Char

namespace Mark

/-- The name of a tag. -/
def name (m : Mark) : List Char := m.inside.takeWhile (· != ' ')

/-- The value of an attribute, as it stands between the quotes. -/
def attribute? (m : Mark) (name : String) : Option (List Char) :=
  (AttributeReader.read {} ('<' :: m.inside ++ ['>'])).found.lookup name.toList

/-- The value of an input for a field. -/
def input? (field : String) (m : Mark) (_ : List Mark) : Option (List Char) :=
  if m.name = "input".toList ∧ m.attribute? "name" = some field.toList then m.attribute? "value" else none

/-- The text of an area for a field. -/
def area? (field : String) (m : Mark) (_ : List Mark) : Option (List Char) :=
  if m.name = "textarea".toList ∧ m.attribute? "name" = some field.toList then some m.text else none

/-- The text after the next tag, when a tag says that this is an alert. -/
def alert? (m : Mark) (rest : List Mark) : Option (List Char) :=
  if m.attribute? "role" = some "alert".toList then rest.head?.map text else none

/-- What is found at tags, each looked at with those that follow it. -/
def found {α : Type} (find : Mark → List Mark → Option α) : List Mark → List α
  | [] => []
  | m :: rest => (find m rest).toList ++ found find rest

end Mark

/-- Where a reader of tags stands. -/
inductive MarkReader.Place where
  /-- Between tags. -/
  | text
  /-- Inside a tag. -/
  | tag
  /-- Inside the value of an attribute. -/
  | value

/-- What a reader of tags finds from its place on: the rest of the tag that it stands in, the rest of the text up
to the next tag, and the tags that follow. -/
structure MarkReader where
  inside : List Char := []
  text : List Char := []
  marks : List Mark := []

namespace MarkReader

def read : Place → List Char → MarkReader
  | _, [] => {}
  | .text, c :: cs =>
    if c = '<' then
      let r := read .tag cs
      { marks := ⟨r.inside, r.text⟩ :: r.marks }
    else
      let r := read .text cs
      { r with text := c :: r.text }
  | .tag, c :: cs =>
    if c = '>' then read .text cs
    else
      let r := read (if c = '"' then .value else .tag) cs
      { r with inside := c :: r.inside }
  | .value, c :: cs =>
    let r := read (if c = '"' then .tag else .value) cs
    { r with inside := c :: r.inside }

/-- Between tags, only an opening bracket matters. -/
theorem read_text {t : List Char} (plain : '<' ∉ t) (rest : List Char) :
    read .text (t ++ rest) = { read .text rest with text := t ++ (read .text rest).text } := by
  induction t with
  | nil => rfl
  | cons c t ih =>
    obtain ⟨first, others⟩ := List.ne_and_not_mem_of_not_mem_cons plain
    rw [List.cons_append, read, if_neg (Ne.symm first), ih others]
    rfl

/-- Between tags there is no rest of a tag. -/
theorem inside_text (cs : List Char) : (read .text cs).inside = [] := by
  induction cs with
  | nil => rfl
  | cons c cs ih =>
    rw [read]
    split
    · rfl
    · exact ih

/-- Characters that stand inside a tag leave the reader inside it. -/
def Inner (cs : List Char) : Prop :=
  ∀ rest, read .tag (cs ++ rest) = { read .tag rest with inside := cs ++ (read .tag rest).inside }

theorem inner_append {cs ds : List Char} (first : Inner cs) (second : Inner ds) : Inner (cs ++ ds) := by
  intro rest
  rw [List.append_assoc, first, second, List.append_assoc]

theorem inner_mild {cs : List Char} (mild : ∀ c ∈ cs, Html.isMild c = true) : Inner cs := by
  intro rest
  induction cs with
  | nil => rfl
  | cons c cs ih =>
    obtain ⟨-, bracket, quote⟩ := Html.not_mem_of_mild mild
    obtain ⟨first, -⟩ := List.ne_and_not_mem_of_not_mem_cons bracket
    obtain ⟨unquoted, -⟩ := List.ne_and_not_mem_of_not_mem_cons quote
    rw [List.cons_append, read, if_neg (Ne.symm first), if_neg (Ne.symm unquoted),
      ih fun d member => mild d (List.mem_cons_of_mem c member)]
    rfl

/-- Inside a value, only a quote matters. -/
theorem read_value {cs : List Char} (unquoted : '"' ∉ cs) (rest : List Char) :
    read .value (cs ++ rest) = { read .value rest with inside := cs ++ (read .value rest).inside } := by
  induction cs with
  | nil => rfl
  | cons c cs ih =>
    obtain ⟨first, others⟩ := List.ne_and_not_mem_of_not_mem_cons unquoted
    rw [List.cons_append, read, if_neg (Ne.symm first), ih others]
    rfl

theorem inner_quoted {cs : List Char} (unquoted : '"' ∉ cs) : Inner ('"' :: cs ++ ['"']) := by
  intro rest
  have opened : read .tag ('"' :: (cs ++ '"' :: rest)) =
      { read .value (cs ++ '"' :: rest) with inside := '"' :: (read .value (cs ++ '"' :: rest)).inside } := rfl
  have closed : read .value ('"' :: rest) = { read .tag rest with inside := '"' :: (read .tag rest).inside } := rfl
  have shape : '"' :: cs ++ ['"'] ++ rest = '"' :: (cs ++ '"' :: rest) := by simp
  rw [shape, opened, read_value unquoted, closed]
  simp

/-- An attribute stands inside a tag, whatever its value is. -/
theorem inner_attribute {a : Attribute} (clean : a.isClean = true) : Inner a.chars := by
  cases a with
  | flag flag =>
    refine inner_mild fun c member => ?_
    rcases List.mem_cons.mp member with rfl | inside
    · decide
    · exact Html.isMild_of_mem_name clean c inside
  | value key text =>
    have quiet := (Html.not_mem_escaped text.toList).2.2
    rw [Attribute.chars_value]
    refine inner_append (inner_mild fun c member => ?_) (inner_quoted quiet)
    simp only [List.cons_append, List.mem_cons, List.mem_append, List.not_mem_nil, or_false] at member
    rcases member with rfl | inside | rfl
    · decide
    · exact Html.isMild_of_mem_name clean c inside
    · decide

theorem inner_attributes {as : List Attribute} (clean : as.all Attribute.isClean = true) :
    Inner (as.flatMap Attribute.chars) := by
  induction as with
  | nil => exact fun rest => rfl
  | cons a as ih =>
    simp only [List.all_cons, Bool.and_eq_true] at clean
    rw [List.flatMap_cons]
    exact inner_append (inner_attribute clean.1) (ih clean.2)

/-- A tag is read from bracket to bracket. -/
theorem read_tag {cs : List Char} (inner : Inner cs) (rest : List Char) :
    read .text ('<' :: cs ++ ['>'] ++ rest) =
      { marks := ⟨cs, (read .text rest).text⟩ :: (read .text rest).marks } := by
  have closed : read .tag ('>' :: rest) = read .text rest := rfl
  rw [List.append_assoc, List.cons_append, List.singleton_append, read, if_pos rfl, inner, closed, inside_text,
    List.append_nil]

end MarkReader

/-! ## Markup -/

/-- What stands between the brackets of a piece. -/
def Piece.inside : Piece → List Char
  | start tag attributes => tag.toList ++ attributes.flatMap Attribute.chars
  | stop tag => '/' :: tag.toList
  | _ => []

namespace Html

/-- The text that markup starts with, up to its first tag, as it is written. -/
def leading : Html → List Char
  | .text s :: rest => s.toList.flatMap escapeChar ++ leading rest
  | .named name :: rest => '&' :: name.toList ++ [';'] ++ leading rest
  | _ => []

/-- The tags that markup is built with, each with the text that follows it. -/
def marks : Html → List Mark
  | [] => []
  | .start tag attributes :: rest => ⟨(Piece.start tag attributes).inside, leading rest⟩ :: marks rest
  | .stop tag :: rest => ⟨(Piece.stop tag).inside, leading rest⟩ :: marks rest
  | .text _ :: rest => marks rest
  | .named _ :: rest => marks rest

/-- Clean markup is cut into its tags and texts. -/
theorem read_marks {h : Html} (clean : h.isClean = true) :
    MarkReader.read .text h.chars = { text := h.leading, marks := h.marks } := by
  induction h with
  | nil => rfl
  | cons p h ih =>
    simp only [isClean, List.all_cons, Bool.and_eq_true] at clean
    obtain ⟨first, others⟩ := clean
    have cut : chars (p :: h) = p.chars ++ chars h := by simp only [chars, List.flatMap_cons]
    rw [cut]
    cases p with
    | start tag attributes =>
      simp only [Piece.isClean, Bool.and_eq_true] at first
      have inner := MarkReader.inner_append (MarkReader.inner_mild (isMild_of_mem_name first.1))
        (MarkReader.inner_attributes first.2)
      have tagged := MarkReader.read_tag inner (chars h)
      rw [ih others] at tagged
      exact tagged
    | stop tag =>
      have mild := isMild_of_mem_closing first
      have tagged := MarkReader.read_tag (MarkReader.inner_mild mild) (chars h)
      rw [ih others] at tagged
      exact tagged
    | text s =>
      have plain := (not_mem_escaped s.toList).1
      rw [Piece.chars, MarkReader.read_text plain, ih others]
      rfl
    | named name =>
      rw [Piece.chars, MarkReader.read_text (not_mem_named first), ih others]
      rfl

/-- The tags in the text of a page, each with the text that follows it. -/
def marksOf (page : String) : List Mark := (MarkReader.read .text page.toList).marks

theorem marksOf_render {h : Html} (clean : h.isClean = true) : marksOf h.render = h.marks := by
  rw [marksOf, render, String.toList_ofList, read_marks clean]

/-- The values of the inputs for a field in the text of a page, as they stand there. -/
def inputs (field page : String) : List (List Char) := Mark.found (Mark.input? field) (marksOf page)

/-- The texts of the areas for a field in the text of a page, as they stand there. -/
def areas (field page : String) : List (List Char) := Mark.found (Mark.area? field) (marksOf page)

/-- The texts of the alerts in the text of a page, as they stand there. -/
def alerts (page : String) : List (List Char) := Mark.found Mark.alert? (marksOf page)

end Html

/-! ## Finding fields in markup -/

namespace Mark

variable {tag : String} {attributes : List Attribute}

/-- The name of a tag is read up to a blank. -/
theorem name_start (whole : ' ' ∉ tag.toList) (t : List Char) :
    name ⟨(Piece.start tag attributes).inside, t⟩ = tag.toList := by
  have ends : (attributes.flatMap Attribute.chars).takeWhile (· != ' ') = [] := by
    cases attributes with
    | nil => rfl
    | cons a as =>
      cases a with
      | value key text => rfl
      | flag flag => rfl
  have kept : ∀ c ∈ tag.toList, (c != ' ') = true := by
    intro c member
    apply bne_iff_ne.mpr
    rintro rfl
    exact whole member
  rw [name, Piece.inside, List.takeWhile_append_of_pos kept, ends, List.append_nil]

/-- The attributes of a piece are read from what stands between its brackets. -/
theorem attribute?_inside {p : Piece} (clean : p.isClean = true) (t : List Char) (name : String) :
    attribute? ⟨p.inside, t⟩ name = p.readAttributes.lookup name.toList := by
  cases p with
  | start tag attributes =>
    have shape : '<' :: (Piece.start tag attributes).inside ++ ['>'] = (Piece.start tag attributes).chars := rfl
    rw [attribute?, shape, AttributeReader.read_piece [] clean]
    rfl
  | stop tag =>
    have shape : '<' :: (Piece.stop tag).inside ++ ['>'] = (Piece.stop tag).chars := rfl
    rw [attribute?, shape, AttributeReader.read_piece [] clean]
    rfl
  | text s => rfl
  | named entity => rfl

end Mark

namespace Html

variable {α : Type} {find : Mark → List Mark → Option α} {key : String} {val : List Char} {g h : Html}

/-- A value that is found for a name is written there. -/
theorem mem_writtenValues_of_lookup {p : Piece} (member : p ∈ h)
    (found : p.readAttributes.lookup key.toList = some val) : val ∈ h.writtenValues key := by
  obtain ⟨before, after, shape, -⟩ := List.lookup_eq_some_iff.mp found
  have read : (key.toList, val) ∈ h.flatMap Piece.readAttributes :=
    List.mem_flatMap.mpr ⟨p, member, shape ▸ List.mem_append_right before List.mem_cons_self⟩
  exact List.mem_map.mpr ⟨(key.toList, val), List.mem_filter.mpr ⟨read, decide_eq_true rfl⟩, rfl⟩

/-- Before markup, nothing is found where a value is not written, when only tags with that value are looked at. -/
theorem found_marks_append (needs : ∀ m rest, m.attribute? key ≠ some val → find m rest = none)
    (clean : g.isClean = true) (absent : val ∉ g.writtenValues key) (h : Html) :
    Mark.found find (g ++ h).marks = Mark.found find h.marks := by
  induction g with
  | nil => rfl
  | cons p g ih =>
    simp only [isClean, List.all_cons, Bool.and_eq_true] at clean
    have cut : writtenValues key (p :: g) = writtenValues key [p] ++ writtenValues key g :=
      writtenValues_append key [p] g
    have rest := ih clean.2 fun member => absent (cut ▸ List.mem_append_right _ member)
    have first (t : List Char) (ms : List Mark) : find ⟨p.inside, t⟩ ms = none := by
      apply needs
      intro given
      rw [Mark.attribute?_inside clean.1] at given
      exact absent (mem_writtenValues_of_lookup List.mem_cons_self given)
    cases p with
    | start tag attributes => rw [List.cons_append, marks, Mark.found, first, rest, Option.toList_none, List.nil_append]
    | stop tag => rw [List.cons_append, marks, Mark.found, first, rest, Option.toList_none, List.nil_append]
    | text s => exact rest
    | named name => exact rest

/-- A value that is written once is found at its tag alone. -/
theorem found_of_part (needs : ∀ m rest, m.attribute? key ≠ some val → find m rest = none) (clean : h.isClean = true)
    (once : (h.writtenValues key).count val = 1) {tag : String} {attributes : List Attribute} {q : Html}
    (part : .start tag attributes :: q <:+: h)
    (has : (attributes.filterMap Attribute.read?).lookup key.toList = some val) :
    ∃ t, Mark.found find h.marks =
      (find ⟨(Piece.start tag attributes).inside, leading (q ++ t)⟩ (q ++ t).marks).toList := by
  obtain ⟨s, t, rfl⟩ := part
  have shape : s ++ .start tag attributes :: q ++ t = s ++ ([.start tag attributes] ++ (q ++ t)) := by simp
  rw [shape] at clean once ⊢
  simp only [isClean_append, Bool.and_eq_true] at clean
  rw [writtenValues_append, writtenValues_append, List.count_append, List.count_append] at once
  have written : val ∈ writtenValues key [.start tag attributes] :=
    mem_writtenValues_of_lookup (p := .start tag attributes) List.mem_cons_self has
  have here := List.count_pos_iff.mpr written
  have before : val ∉ writtenValues key s := List.count_eq_zero.mp (by omega)
  have after : val ∉ writtenValues key (q ++ t) := List.count_eq_zero.mp (by omega)
  refine ⟨t, ?_⟩
  have none := found_marks_append needs (by simpa using clean.2.2) after []
  rw [List.append_nil] at none
  rw [found_marks_append needs clean.1 before, List.singleton_append, marks, Mark.found, none]
  exact List.append_nil _

/-- The attributes of a tag in clean markup are those that it is built with. -/
theorem attribute?_of_part (clean : h.isClean = true) {tag : String} {attributes : List Attribute} {q : Html}
    (part : .start tag attributes :: q <:+: h) (t : List Char) (name : String) :
    Mark.attribute? ⟨(Piece.start tag attributes).inside, t⟩ name =
      (attributes.filterMap Attribute.read?).lookup name.toList :=
  Mark.attribute?_inside (List.all_eq_true.mp clean _ (part.subset List.mem_cons_self)) t name

section

variable {attributes : List Attribute} {field : String}

/-- The only input for a field is found with its value. -/
theorem inputs_of_part (clean : h.isClean = true) (once : (h.writtenValues "name").count field.toList = 1)
    (part : single "input" attributes <:+: h)
    (named : (attributes.filterMap Attribute.read?).lookup "name".toList = some field.toList) {entered : String}
    (valued : (attributes.filterMap Attribute.read?).lookup "value".toList = some (entered.toList.flatMap escapeChar)) :
    (inputs field h.render).map unescape = [entered.toList] := by
  have needs (m : Mark) (rest : List Mark) (other : m.attribute? "name" ≠ some field.toList) :
      m.input? field rest = none := if_neg fun same => other same.2
  obtain ⟨t, found⟩ := found_of_part needs clean once part named
  have here (text : List Char) : Mark.name ⟨(Piece.start "input" attributes).inside, text⟩ = "input".toList ∧
      Mark.attribute? ⟨(Piece.start "input" attributes).inside, text⟩ "name" = some field.toList :=
    ⟨Mark.name_start (by decide) text, (attribute?_of_part clean part text "name").trans named⟩
  rw [inputs, marksOf_render clean, found, Mark.input?, if_pos (here _), attribute?_of_part clean part, valued,
    Option.toList_some, List.map_singleton, unescape_escaped]

/-- The only area for a field is found with its text. -/
theorem areas_of_part (clean : h.isClean = true) (once : (h.writtenValues "name").count field.toList = 1) {s : String}
    (part : element "textarea" attributes (text s) <:+: h)
    (named : (attributes.filterMap Attribute.read?).lookup "name".toList = some field.toList) :
    (areas field h.render).map unescape = [s.toList] := by
  have needs (m : Mark) (rest : List Mark) (other : m.attribute? "name" ≠ some field.toList) :
      m.area? field rest = none := if_neg fun same => other same.2
  have opened : .start "textarea" attributes :: (text s ++ [.stop "textarea"]) <:+: h := part
  obtain ⟨t, found⟩ := found_of_part needs clean once opened named
  have here (text : List Char) : Mark.name ⟨(Piece.start "textarea" attributes).inside, text⟩ = "textarea".toList ∧
      Mark.attribute? ⟨(Piece.start "textarea" attributes).inside, text⟩ "name" = some field.toList :=
    ⟨Mark.name_start (by decide) text, (attribute?_of_part clean opened text "name").trans named⟩
  have inside : leading (text s ++ [.stop "textarea"] ++ t) = s.toList.flatMap escapeChar := List.append_nil _
  rw [areas, marksOf_render clean, found, Mark.area?, if_pos (here _), inside, Option.toList_some, List.map_singleton,
    unescape_escaped]

/-- The only alert is found with the text of the element that it starts with. -/
theorem alerts_of_part (clean : h.isClean = true) (once : (h.writtenValues "role").count "alert".toList = 1)
    {tag inner s : String} {rest : Html} (part : .start tag attributes :: (plain inner s ++ rest) <:+: h)
    (told : (attributes.filterMap Attribute.read?).lookup "role".toList = some "alert".toList) :
    (alerts h.render).map unescape = [s.toList] := by
  have needs (m : Mark) (rest : List Mark) (other : m.attribute? "role" ≠ some "alert".toList) :
      m.alert? rest = none := if_neg other
  obtain ⟨t, found⟩ := found_of_part needs clean once part told
  have here (text : List Char) :
      Mark.attribute? ⟨(Piece.start tag attributes).inside, text⟩ "role" = some "alert".toList :=
    (attribute?_of_part clean part text "role").trans told
  have after : (marks (plain inner s ++ rest ++ t)).head?.map Mark.text = some (s.toList.flatMap escapeChar) :=
    congrArg some (List.append_nil _)
  rw [alerts, marksOf_render clean, found, Mark.alert?, if_pos (here _), after, Option.toList_some, List.map_singleton,
    unescape_escaped]

/-- Markup without roles has no alerts. -/
theorem alerts_of_no_roles (clean : h.isClean = true) (unwritten : h.writtenValues "role" = []) :
    alerts h.render = [] := by
  have needs (m : Mark) (rest : List Mark) (other : m.attribute? "role" ≠ some "alert".toList) :
      m.alert? rest = none := if_neg other
  have absent : "alert".toList ∉ h.writtenValues "role" := by
    rw [unwritten]
    exact List.not_mem_nil
  have found := found_marks_append needs clean absent []
  rw [List.append_nil] at found
  rw [alerts, marksOf_render clean, found]
  rfl

end

end Html

end CallDesk
