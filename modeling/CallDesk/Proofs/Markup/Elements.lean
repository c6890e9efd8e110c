import CallDesk.Proofs.Markup.Fields

/-! # Reading the elements of a page

A page is cut at its tags. The elements of a name are then the tags of that name, each with what follows it up
to the tag that closes it, and what an element shows is its text with the references replaced. The same can be
said of the pieces that markup is built from: `parts` cuts the pieces, and of clean markup the page has the
elements that the pieces have, whatever texts they hold.

Elements of one name do not hold each other here, as is the case for the rows of a table and their cells.
-/

namespace CallDesk

/-! ## The elements of a page -/

namespace Mark

/-- Whether a tag opens an element of a name. -/
def opens (tag : String) (m : Mark) : Bool := m.name == tag.toList

/-- Whether a tag closes an element of a name. -/
def closes (tag : String) (m : Mark) : Bool := m.inside == '/' :: tag.toList

/-- The elements of a name, each from its opening tag up to its closing tag. -/
def elements (tag : String) : List Mark → List (List Mark)
  | [] => []
  | m :: rest =>
    if m.opens tag then (m :: rest.takeWhile fun n => !n.closes tag) :: elements tag rest else elements tag rest

/-- The text of an element. -/
def words (element : List Mark) : String := .ofList (Html.unescape (element.flatMap text))

/-- The value of an attribute of an element. -/
def value? (name : String) (element : List Mark) : Option String :=
  (element.head?.bind fun m => m.attribute? name).map fun value => .ofList (Html.unescape value)

end Mark

/-- The elements of a name in the text of a page. -/
def Html.elements (tag page : String) : List (List Mark) := Mark.elements tag (marksOf page)

/-! ## The parts of markup -/

namespace Piece

/-- Whether a piece opens an element of a name. -/
def opens (tag : String) : Piece → Bool
  | start name _ => name == tag
  | _ => false

/-- What a piece shows. -/
def shown : Piece → List Char
  | text s => s.toList
  | _ => []

end Piece

namespace Html

/-- A name that is read to its end, and as that of an opening tag. -/
def isTagName (name : String) : Bool := !name.toList.contains ' ' && name.toList.head? != some '/'

end Html

/-- Whether a piece is a tag with a name that is read back, or a text. -/
def Piece.isLegible : Piece → Bool
  | start name attributes => Html.isTagName name && (start name attributes).isClean
  | stop name => (stop name).isClean
  | text _ => true
  | named _ => false

namespace Html

/-- The parts of a name, each from its opening tag up to its closing tag. -/
def parts (tag : String) : Html → List Html
  | [] => []
  | p :: rest => if p.opens tag then (p :: rest.takeWhile (· != .stop tag)) :: parts tag rest else parts tag rest

/-- Whether markup is read back as it was built. -/
def isLegible (h : Html) : Bool := h.all Piece.isLegible

/-- Whether no tag in markup has a name. -/
def lacks (tag : String) (h : Html) : Bool := h.all fun p => !p.opens tag && p != .stop tag

section

variable (g h : Html) (tag name s : String) (attributes : List Attribute)

@[simp] theorem isLegible_nil : isLegible [] = true := rfl

@[simp] theorem isLegible_start :
    isLegible (.start name attributes :: h) =
      (isTagName name && (isCleanName name && attributes.all Attribute.isClean) && h.isLegible) := rfl

@[simp] theorem isLegible_stop : isLegible (.stop name :: h) = (isCleanName name && h.isLegible) := rfl

@[simp] theorem isLegible_text : isLegible (.text s :: h) = h.isLegible := Bool.true_and _

@[simp] theorem isLegible_append : (g ++ h).isLegible = (g.isLegible && h.isLegible) := List.all_append

@[simp] theorem isLegible_element :
    (element name attributes h).isLegible =
      (isTagName name && (isCleanName name && attributes.all Attribute.isClean) && h.isLegible) := by
  cases clean : isCleanName name <;> simp [element, clean]

@[simp] theorem lacks_nil : lacks tag [] = true := rfl

@[simp] theorem lacks_start :
    lacks tag (.start name attributes :: h) = (name != tag && h.lacks tag) := by
  have other : (Piece.start name attributes != .stop tag) = true := bne_iff_ne.mpr nofun
  rw [lacks, List.all_cons, other, Bool.and_true]
  rfl

@[simp] theorem lacks_stop : lacks tag (.stop name :: h) = (name != tag && h.lacks tag) := by
  have same : (Piece.stop name != .stop tag) = (name != tag) := by
    rw [Bool.eq_iff_iff, bne_iff_ne, bne_iff_ne, ne_eq, Piece.stop.injEq]
  rw [lacks, List.all_cons, same]
  rfl

@[simp] theorem lacks_text : lacks tag (.text s :: h) = h.lacks tag := by
  simp [lacks, Piece.opens]

@[simp] theorem lacks_append : (g ++ h).lacks tag = (g.lacks tag && h.lacks tag) := List.all_append

@[simp] theorem lacks_element : (element name attributes h).lacks tag = (name != tag && h.lacks tag) := by
  cases same : name != tag <;> simp [element, same]

end

variable {g h : Html} {tag : String}

/-- Legible markup is clean. -/
theorem isClean_of_isLegible (legible : h.isLegible = true) : h.isClean = true := by
  refine List.all_eq_true.mpr fun p member => ?_
  have kept := List.all_eq_true.mp legible p member
  cases p with
  | start name attributes => exact (Bool.and_eq_true_iff.mp kept).2
  | stop name => exact kept
  | text s => rfl
  | named name => cases kept

/-- Listings are legible when each of their items is. -/
theorem isLegible_flatMap {α : Type} {items : List α} {f : α → Html} (each : ∀ a ∈ items, (f a).isLegible = true) :
    isLegible (items.flatMap f) = true := by
  refine List.all_eq_true.mpr fun p member => ?_
  obtain ⟨a, listed, inside⟩ := List.mem_flatMap.mp member
  exact List.all_eq_true.mp (each a listed) p inside

theorem lacks_flatMap {α : Type} {items : List α} {f : α → Html} (each : ∀ a ∈ items, (f a).lacks tag = true) :
    lacks tag (items.flatMap f) = true := by
  refine List.all_eq_true.mpr fun p member => ?_
  obtain ⟨a, listed, inside⟩ := List.mem_flatMap.mp member
  exact List.all_eq_true.mp (each a listed) p inside

/-- Markup without a name has no parts of it. -/
theorem parts_append (lacking : g.lacks tag = true) (h : Html) : parts tag (g ++ h) = parts tag h := by
  induction g with
  | nil => rfl
  | cons p g ih =>
    simp only [lacks, List.all_cons, Bool.and_eq_true, Bool.not_eq_true'] at lacking
    rw [List.cons_append, parts, if_neg (by rw [lacking.1.1]; exact Bool.false_ne_true), ih lacking.2]

theorem parts_lacking (lacking : h.lacks tag = true) : parts tag h = [] := by
  have none := parts_append lacking []
  rwa [List.append_nil] at none

/-- A tag that opens an element has its part. -/
theorem parts_ne_nil {attributes : List Attribute} (member : .start tag attributes ∈ h) : parts tag h ≠ [] := by
  induction h with
  | nil => cases member
  | cons p h ih =>
    rw [parts]
    split
    · exact List.cons_ne_nil _ _
    next unopened =>
    rcases List.mem_cons.mp member with rfl | later
    · exact absurd (beq_self_eq_true tag) unopened
    · exact ih later

/-- An element is taken off at its closing tag. -/
theorem parts_element (attributes : List Attribute) (lacking : g.lacks tag = true) (h : Html) :
    parts tag (element tag attributes g ++ h) = (.start tag attributes :: g) :: parts tag h := by
  have inner : ∀ p ∈ g, (p != .stop tag) = true := fun p member =>
    (Bool.and_eq_true_iff.mp (List.all_eq_true.mp lacking p member)).2
  have shape : element tag attributes g ++ h = .start tag attributes :: (g ++ .stop tag :: h) := by
    simp [element]
  have closing : parts tag (.stop tag :: h) = parts tag h := rfl
  have opened : (Piece.start tag attributes).opens tag = true := beq_self_eq_true tag
  rw [shape, parts, if_pos opened, List.takeWhile_append_of_pos inner,
    List.takeWhile_cons_of_neg (by simp), List.append_nil, parts_append lacking, closing]

/-- Elements in a row are taken off one by one. -/
theorem parts_flatMap {α : Type} {items : List α} {f : α → Html} (attributes : α → List Attribute)
    (lacking : ∀ a ∈ items, (f a).lacks tag = true) :
    parts tag (items.flatMap fun a => element tag (attributes a) (f a)) =
      items.map fun a => .start tag (attributes a) :: f a := by
  induction items with
  | nil => rfl
  | cons a items ih =>
    rw [List.flatMap_cons, parts_element (attributes a) (lacking a List.mem_cons_self),
      ih fun b member => lacking b (List.mem_cons_of_mem a member), List.map_cons]

/-! ## From parts to elements -/

/-- The text before the first tag does not depend on what is cut off at a tag. -/
theorem leading_takeWhile (h : Html) : leading (h.takeWhile (· != .stop tag)) = leading h := by
  induction h with
  | nil => rfl
  | cons p h ih =>
    cases p with
    | start name attributes => rfl
    | stop name =>
      by_cases same : name = tag
      · rw [same, List.takeWhile_cons_of_neg (by simp)]
        rfl
      · rw [List.takeWhile_cons_of_pos (by simpa using same)]
        rfl
    | text s => rw [List.takeWhile_cons_of_pos (by simp), leading, leading, ih]
    | named name => rw [List.takeWhile_cons_of_pos (by simp), leading, leading, ih]

/-- An opening tag closes nothing. -/
theorem not_closes_start {name : String} (named : isTagName name = true) (attributes : List Attribute)
    (t : List Char) : Mark.closes tag ⟨(Piece.start name attributes).inside, t⟩ = false := by
  simp only [isTagName, Bool.and_eq_true, bne_iff_ne] at named
  refine beq_eq_false_iff_ne.mpr fun same => ?_
  change name.toList ++ attributes.flatMap Attribute.chars = '/' :: tag.toList at same
  cases shape : name.toList with
  | nil =>
    rw [shape] at same
    cases attributes with
    | nil => cases same
    | cons a as => cases a <;> cases same
  | cons c cs =>
    rw [shape] at same named
    injection same with first _
    exact named.2 (congrArg some first)

/-- A closing tag opens nothing. -/
theorem not_opens_stop (named : isTagName tag = true) (name : String) (t : List Char) :
    Mark.opens tag ⟨(Piece.stop name).inside, t⟩ = false := by
  simp only [isTagName, Bool.and_eq_true, bne_iff_ne] at named
  refine beq_eq_false_iff_ne.mpr fun same => named.2 ?_
  rw [← same]
  rfl

/-- Tags are cut off at the tag at which the pieces are. -/
theorem marks_takeWhile (legible : h.isLegible = true) :
    marks (h.takeWhile (· != .stop tag)) = h.marks.takeWhile fun m => !m.closes tag := by
  induction h with
  | nil => rfl
  | cons p h ih =>
    cases p with
    | start name attributes =>
      simp only [isLegible_start, Bool.and_eq_true] at legible
      have kept : Mark.closes tag ⟨(Piece.start name attributes).inside, leading h⟩ = false :=
        not_closes_start legible.1.1 attributes (leading h)
      rw [List.takeWhile_cons_of_pos (by simp), marks, marks, List.takeWhile_cons_of_pos (by rw [kept]; rfl),
        leading_takeWhile, ih legible.2]
    | stop name =>
      simp only [isLegible_stop, Bool.and_eq_true] at legible
      by_cases same : name = tag
      · subst same
        have ends : Mark.closes name ⟨(Piece.stop name).inside, leading h⟩ = true := beq_self_eq_true _
        rw [List.takeWhile_cons_of_neg (by simp), marks, marks,
          List.takeWhile_cons_of_neg (by rw [ends]; exact Bool.false_ne_true)]
      · have goes : Mark.closes tag ⟨(Piece.stop name).inside, leading h⟩ = false := by
          refine beq_eq_false_iff_ne.mpr fun equal => same ?_
          injection equal with _ names
          exact String.toList_inj.mp names
        rw [List.takeWhile_cons_of_pos (by simpa using same), marks, marks,
          List.takeWhile_cons_of_pos (by rw [goes]; rfl), leading_takeWhile, ih legible.2]
    | text s =>
      rw [isLegible_text] at legible
      rw [List.takeWhile_cons_of_pos (by simp), marks, marks, ih legible]
    | named name => cases legible

/-- The elements among the tags of markup are its parts. -/
theorem elements_marks (named : isTagName tag = true) (legible : h.isLegible = true) :
    Mark.elements tag h.marks = (h.parts tag).map marks := by
  induction h with
  | nil => rfl
  | cons p h ih =>
    cases p with
    | start name attributes =>
      simp only [isLegible_start, Bool.and_eq_true] at legible
      have whole : ' ' ∉ name.toList := by
        have blankless := legible.1.1
        simp only [isTagName, Bool.and_eq_true, Bool.not_eq_true', List.contains_eq_mem,
          decide_eq_false_iff_not] at blankless
        exact blankless.1
      have opened : Mark.opens tag ⟨(Piece.start name attributes).inside, leading h⟩ = (name == tag) := by
        rw [Mark.opens, Mark.name_start whole, Bool.eq_iff_iff, beq_iff_eq, beq_iff_eq, String.toList_inj]
      rw [marks, Mark.elements, opened, parts, Piece.opens, ih legible.2]
      split
      · rw [List.map_cons, marks, leading_takeWhile, marks_takeWhile legible.2]
      · rfl
    | stop name =>
      simp only [isLegible_stop, Bool.and_eq_true] at legible
      rw [marks, Mark.elements, if_neg (by rw [not_opens_stop named]; exact Bool.false_ne_true), ih legible.2]
      rfl
    | text s =>
      rw [isLegible_text] at legible
      exact ih legible
    | named name => cases legible

/-- The elements of a page are the parts of its markup. -/
theorem elements_render (named : isTagName tag = true) (legible : h.isLegible = true) :
    elements tag h.render = (h.parts tag).map marks := by
  rw [elements, marksOf_render (isClean_of_isLegible legible), elements_marks named legible]

/-- No tag of markup that lacks a name opens an element of it. -/
theorem not_opens_of_lacks (named : isTagName tag = true) (legible : h.isLegible = true)
    (lacking : h.lacks tag = true) : ∀ m ∈ h.marks, m.opens tag = false := by
  have none := elements_marks named legible
  rw [parts_lacking lacking, List.map_nil] at none
  generalize h.marks = ms at none
  induction ms with
  | nil => exact fun m member => absurd member List.not_mem_nil
  | cons m ms ih =>
    rw [Mark.elements] at none
    split at none
    · contradiction
    next unopened => exact List.forall_mem_cons.mpr ⟨Bool.eq_false_iff.mpr unopened, ih none⟩

theorem leading_append (closed : leading h = []) (g : Html) : leading (g ++ h) = leading g := by
  induction g with
  | nil => exact closed
  | cons p g ih =>
    cases p with
    | start | stop => rfl
    | text | named => simp only [List.cons_append, leading, ih]

/-- Markup that starts with a tag has its tags after those of what stands before it. -/
theorem marks_append (closed : leading h = []) (g : Html) : marks (g ++ h) = marks g ++ marks h := by
  induction g with
  | nil => rfl
  | cons p g ih =>
    cases p with
    | start | stop => simp only [List.cons_append, marks, ih, leading_append closed]
    | text | named => simpa only [List.cons_append, marks] using ih

/-- Up to the first element of a name, a page has the tags of what is built before that element. -/
theorem marks_before (named : isTagName tag = true) (legible : g.isLegible = true) (lacking : g.lacks tag = true)
    (attributes : List Attribute) (h : Html) :
    (marks (g ++ .start tag attributes :: h)).takeWhile (fun m => !m.opens tag) = marks g := by
  have whole : ' ' ∉ tag.toList := by
    simp only [isTagName, Bool.and_eq_true, Bool.not_eq_true', List.contains_eq_mem, decide_eq_false_iff_not] at named
    exact named.1
  have opened : Mark.opens tag ⟨(Piece.start tag attributes).inside, leading h⟩ = true := by
    rw [Mark.opens, Mark.name_start whole, beq_self_eq_true]
  have others : ∀ m ∈ marks g, (!m.opens tag) = true := fun m member => by
    rw [not_opens_of_lacks named legible lacking m member]
    rfl
  rw [marks_append rfl, List.takeWhile_append_of_pos others, marks,
    List.takeWhile_cons_of_neg (by rw [opened]; exact Bool.false_ne_true), List.append_nil]

/-- What stands before and after the tags of legible markup is what its pieces show. -/
theorem leading_marks (legible : h.isLegible = true) :
    leading h ++ h.marks.flatMap Mark.text = (h.flatMap Piece.shown).flatMap escapeChar := by
  induction h with
  | nil => rfl
  | cons p h ih =>
    cases p with
    | start name attributes =>
      simp only [isLegible_start, Bool.and_eq_true] at legible
      exact ih legible.2
    | stop name =>
      simp only [isLegible_stop, Bool.and_eq_true] at legible
      exact ih legible.2
    | text s =>
      rw [isLegible_text] at legible
      rw [leading, marks, List.append_assoc, ih legible, List.flatMap_cons, List.flatMap_append]
      rfl
    | named name => cases legible

/-- The text of a part is what its pieces show. -/
theorem words_part (attributes : List Attribute) (legible : h.isLegible = true) :
    Mark.words (marks (.start tag attributes :: h)) = .ofList (h.flatMap Piece.shown) := by
  rw [Mark.words, marks, List.flatMap_cons, leading_marks legible, unescape_escaped]

/-- The attributes of a part are those of its opening tag. -/
theorem value?_part {attributes : List Attribute} (clean : (Piece.start tag attributes).isClean = true)
    (name : String) :
    Mark.value? name (marks (.start tag attributes :: h)) =
      ((attributes.filterMap Attribute.read?).lookup name.toList).map fun value => .ofList (unescape value) := by
  have first : (marks (.start tag attributes :: h)).head?.bind (fun m => m.attribute? name) =
      (attributes.filterMap Attribute.read?).lookup name.toList := Mark.attribute?_inside clean (leading h) name
  rw [Mark.value?, first]

end Html

end CallDesk
