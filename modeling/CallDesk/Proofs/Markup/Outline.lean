import CallDesk.Proofs.Markup.References

/-! # The outline of markup

What is left of a page when its texts and the values of its attributes are taken away: the tags in
order, with the names of their attributes. Both the outline and whether all names are clean are
computed part by part, so that each is known of a page from the parts it is built from.
-/

namespace CallDesk

/-- A tag as it is written, between its brackets, with the values of its attributes left empty. -/
abbrev Tag := List Char

namespace Html

/-- A character that neither opens or closes a tag nor a value. -/
def isMild (c : Char) : Bool := c != '<' && c != '>' && c != '"'

/-- A name that can be written as it stands. -/
def isCleanName (name : String) : Bool := name.toList.all isMild

theorem isMild_of_mem_name {name : String} (clean : isCleanName name = true) :
    ∀ c ∈ name.toList, isMild c = true := List.all_eq_true.mp clean

/-- A tag can be closed by its name when it can be opened by it. -/
theorem isMild_of_mem_closing {tag : String} (clean : isCleanName tag = true) :
    ∀ c ∈ '/' :: tag.toList, isMild c = true := by
  have slash : isMild '/' = true := by decide
  exact List.forall_mem_cons.mpr ⟨slash, isMild_of_mem_name clean⟩

/-- Mild characters hold none of the three that the scanner acts on. -/
theorem not_mem_of_mild {cs : List Char} (mild : ∀ c ∈ cs, isMild c = true) :
    '<' ∉ cs ∧ '>' ∉ cs ∧ '"' ∉ cs := by
  refine ⟨fun h => ?_, fun h => ?_, fun h => ?_⟩
  · exact absurd (mild _ h) (by decide)
  · exact absurd (mild _ h) (by decide)
  · exact absurd (mild _ h) (by decide)

/-- A character given by its name opens no tag. -/
theorem not_mem_named {name : String} (clean : isCleanName name = true) : '<' ∉ '&' :: name.toList ++ [';'] := by
  have plain := (not_mem_of_mild (isMild_of_mem_name clean)).1
  simp [plain]

end Html

/-- A value stands between its quotes, after the name with the equals sign. -/
theorem Attribute.chars_value (name text : String) :
    (value name text).chars =
      (' ' :: name.toList ++ ['=']) ++ ('"' :: (text.toList.flatMap Html.escapeChar ++ ['"'])) := by
  simp [Attribute.chars]

/-- An attribute as a tag shows it when its value is left empty. -/
def Attribute.blank : Attribute → List Char
  | value name _ => ' ' :: name.toList ++ ['=', '"', '"']
  | flag name => ' ' :: name.toList

/-- Whether the name of an attribute can be written as it stands. -/
def Attribute.isClean : Attribute → Bool
  | value name _ => Html.isCleanName name
  | flag name => Html.isCleanName name

section
variable (name text : String)

@[simp] theorem Attribute.blank_value : (value name text).blank = ' ' :: name.toList ++ ['=', '"', '"'] := rfl

@[simp] theorem Attribute.blank_flag : (flag name).blank = ' ' :: name.toList := rfl

@[simp] theorem Attribute.isClean_value : (value name text).isClean = Html.isCleanName name := rfl

@[simp] theorem Attribute.isClean_flag : (flag name).isClean = Html.isCleanName name := rfl

end

/-- The tag that a piece is, with the values of its attributes left empty. -/
def Piece.tag? : Piece → Option Tag
  | start tag attributes => some (tag.toList ++ attributes.flatMap Attribute.blank)
  | stop tag => some ('/' :: tag.toList)
  | text _ => none
  | named _ => none

/-- Whether the names in a piece can be written as they stand. -/
def Piece.isClean : Piece → Bool
  | start tag attributes => Html.isCleanName tag && attributes.all Attribute.isClean
  | stop tag => Html.isCleanName tag
  | text _ => true
  | named name => Html.isCleanName name

section
variable (tag s : String) (attributes : List Attribute)

@[simp] theorem Piece.tag?_start :
    (start tag attributes).tag? = some (tag.toList ++ attributes.flatMap Attribute.blank) := rfl

@[simp] theorem Piece.tag?_stop : (stop tag).tag? = some ('/' :: tag.toList) := rfl

@[simp] theorem Piece.tag?_text : (text s).tag? = none := rfl

@[simp] theorem Piece.tag?_named : (named s).tag? = none := rfl

@[simp] theorem Piece.isClean_start :
    (start tag attributes).isClean = (Html.isCleanName tag && attributes.all Attribute.isClean) := rfl

@[simp] theorem Piece.isClean_stop : (stop tag).isClean = Html.isCleanName tag := rfl

@[simp] theorem Piece.isClean_text : (text s).isClean = true := rfl

@[simp] theorem Piece.isClean_named : (named s).isClean = Html.isCleanName s := rfl

end

/-- The tags of a page, with the values of their attributes left empty. -/
def Html.tags (h : Html) : List Tag := h.filterMap Piece.tag?

/-- Whether the names in a page can be written as they stand. -/
def Html.isClean (h : Html) : Bool := h.all Piece.isClean

namespace Html

variable (g h : Html)

@[simp] theorem optional_none {α : Type} (f : α → Html) : Html.optional none f = [] := rfl

@[simp] theorem optional_some {α : Type} (a : α) (f : α → Html) : Html.optional (some a) f = f a := rfl

@[simp] theorem tags_nil : tags [] = [] := rfl

@[simp] theorem tags_cons (p : Piece) : tags (p :: h) = p.tag?.toList ++ h.tags := by
  cases p <;> rfl

@[simp] theorem tags_text (s : String) : (text s).tags = [] := rfl

@[simp] theorem tags_newline : newline.tags = [] := rfl

@[simp] theorem tags_append : (g ++ h).tags = g.tags ++ h.tags := List.filterMap_append

@[simp] theorem tags_element (tag : String) (as : List Attribute) :
    (element tag as h).tags = (tag.toList ++ as.flatMap Attribute.blank) :: h.tags ++ ['/' :: tag.toList] := by
  simp [element]

@[simp] theorem tags_single (tag : String) (as : List Attribute) :
    (single tag as).tags = [tag.toList ++ as.flatMap Attribute.blank] := rfl

@[simp] theorem tags_styled (tag style : String) :
    (styled tag style h).tags = (element tag [.value "class" ""] h).tags := by
  simp [styled]

@[simp] theorem tags_plain (tag s : String) : (plain tag s).tags = [tag.toList, '/' :: tag.toList] := by
  simp [plain]

@[simp] theorem tags_link (style target label : String) :
    (link style target label).tags = (element "a" [.value "class" "", .value "href" ""] []).tags := by
  simp [link]

@[simp] theorem tags_lines (parts : List Html) : (lines parts).tags = parts.flatMap tags := by
  fun_induction lines parts with
  | case1 => rfl
  | case2 part => simp
  | case3 part rest _ ih => simp [ih]

@[simp] theorem isClean_nil : isClean [] = true := rfl

@[simp] theorem isClean_cons (p : Piece) : isClean (p :: h) = (p.isClean && h.isClean) := rfl

@[simp] theorem isClean_text (s : String) : (text s).isClean = true := rfl

@[simp] theorem isClean_newline : newline.isClean = true := rfl

@[simp] theorem isClean_append : (g ++ h).isClean = (g.isClean && h.isClean) := List.all_append

@[simp] theorem isClean_element (tag : String) (as : List Attribute) :
    (element tag as h).isClean = (isCleanName tag && as.all Attribute.isClean && h.isClean) := by
  cases named : isCleanName tag <;> simp [element, named]

@[simp] theorem isClean_single (tag : String) (as : List Attribute) :
    (single tag as).isClean = (isCleanName tag && as.all Attribute.isClean) := by
  simp [single]

@[simp] theorem isClean_styled (tag style : String) :
    (styled tag style h).isClean = (isCleanName tag && h.isClean) := by
  have named : isCleanName "class" = true := by decide
  simp [styled, named]

@[simp] theorem isClean_plain (tag s : String) : (plain tag s).isClean = isCleanName tag := by
  simp [plain]

@[simp] theorem isClean_link (style target label : String) : (link style target label).isClean = true := by
  simp +decide [link]

@[simp] theorem isClean_lines (parts : List Html) : (lines parts).isClean = parts.all isClean := by
  fun_induction lines parts with
  | case1 => rfl
  | case2 part => simp
  | case3 part rest _ ih => simp [ih]

/-- Markup is written piece by piece. -/
theorem render_append (g h : Html) : render (g ++ h) = render g ++ render h := by
  rw [render, chars, List.flatMap_append, String.ofList_append]
  rfl

/-- A listing is clean when each of its items is. -/
theorem isClean_flatMap {α : Type} (items : List α) {f : α → Html} (clean : ∀ a, (f a).isClean = true) :
    isClean (items.flatMap f) = true := by
  induction items with
  | nil => rfl
  | cons a rest ih => simp [clean, ih]

end Html

end CallDesk
