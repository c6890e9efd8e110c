import CallDesk.Proofs.Markup.Outline

/-! # A scanner of markup

A browser that reads a page stands in a text, inside a tag, or inside the quoted value of an
attribute. The scanner here has just these three states and keeps what stands in tags outside of
values: the names of tags and of their attributes. Markup whose names are clean leaves the scanner
in a text with the outline of the markup, whatever the texts and values hold.
-/

namespace CallDesk

/-- Where a scanner stands. -/
inductive Scanner.State where
  /-- Between tags. -/
  | text
  /-- Inside a tag. -/
  | tag
  /-- Inside a value between double quotes. -/
  | value
deriving DecidableEq

/-- A scanner after some characters. -/
structure Scanner where
  state : Scanner.State := .text
  /-- What was read of the tag that is open. -/
  current : Tag := []
  /-- The tags that were closed, in order. -/
  tags : List Tag := []
deriving DecidableEq

namespace Scanner

/-- The scanner after one more character. -/
def step (s : Scanner) (c : Char) : Scanner :=
  match s.state with
  | .text => if c = '<' then { s with state := .tag, current := [] } else s
  | .tag =>
    if c = '>' then { state := .text, tags := s.tags ++ [s.current] }
    else if c = '"' then { s with state := .value, current := s.current ++ [c] }
    else { s with current := s.current ++ [c] }
  | .value => if c = '"' then { s with state := .tag, current := s.current ++ [c] } else s

/-- The scanner after some more characters. -/
def read (s : Scanner) (cs : List Char) : Scanner := cs.foldl step s

/-- The scanner after a whole page. -/
def scan (page : String) : Scanner := read {} page.toList

theorem read_append (s : Scanner) (cs ds : List Char) :
    s.read (cs ++ ds) = (s.read cs).read ds := List.foldl_append

@[simp] theorem read_nil (s : Scanner) : s.read [] = s := rfl

@[simp] theorem read_cons (s : Scanner) (c : Char) (cs : List Char) :
    s.read (c :: cs) = (s.step c).read cs := rfl

/-- Between tags, only an opening bracket matters. -/
theorem read_text (tags : List Tag) {cs : List Char} (plain : '<' ∉ cs) :
    read { tags } cs = { tags } := by
  induction cs with
  | nil => rfl
  | cons c rest ih =>
    obtain ⟨first, others⟩ := not_or.mp (mt List.mem_cons.mpr plain)
    have stays : step { tags } c = { tags } := by simp [step, Ne.symm first]
    rw [read_cons, stays, ih others]

/-- Inside a tag, whatever neither closes it nor opens a value is kept. -/
theorem read_tag (tags : List Tag) (current : Tag) {cs : List Char} (open_ : '>' ∉ cs)
    (unquoted : '"' ∉ cs) :
    read { state := .tag, current, tags } cs = { state := .tag, current := current ++ cs, tags } := by
  induction cs generalizing current with
  | nil => simp
  | cons c rest ih =>
    obtain ⟨bracket, open_⟩ := not_or.mp (mt List.mem_cons.mpr open_)
    obtain ⟨quote, unquoted⟩ := not_or.mp (mt List.mem_cons.mpr unquoted)
    have kept : step { state := .tag, current, tags } c =
        { state := .tag, current := current ++ [c], tags } := by
      simp [step, Ne.symm bracket, Ne.symm quote]
    rw [read_cons, kept, ih _ open_ unquoted, List.append_assoc, List.singleton_append]

/-- Inside a value, only a quote matters. -/
theorem read_value (tags : List Tag) (current : Tag) {cs : List Char} (unquoted : '"' ∉ cs) :
    read { state := .value, current, tags } cs = { state := .value, current, tags } := by
  induction cs with
  | nil => rfl
  | cons c rest ih =>
    obtain ⟨quote, unquoted⟩ := not_or.mp (mt List.mem_cons.mpr unquoted)
    have stays : step { state := .value, current, tags } c = { state := .value, current, tags } := by
      simp [step, Ne.symm quote]
    rw [read_cons, stays, ih unquoted]

/-- An attribute is read inside its tag, and its value is left out. -/
theorem read_attribute (tags : List Tag) (current : Tag) {a : Attribute} (clean : a.isClean = true) :
    read { state := .tag, current, tags } a.chars =
      { state := .tag, current := current ++ a.blank, tags } := by
  cases a with
  | flag name =>
    obtain ⟨_, open_, unquoted⟩ := Html.not_mem_of_mild (Html.isMild_of_mem_name clean)
    exact read_tag tags current (by simp [Attribute.chars, open_]) (by simp [Attribute.chars, unquoted])
  | value name text =>
    obtain ⟨_, open_, unquoted⟩ := Html.not_mem_of_mild (Html.isMild_of_mem_name clean)
    have quiet := (Html.not_mem_escaped text.toList).2.2
    rw [Attribute.chars_value, read_append, read_tag tags current (by simp [open_]) (by simp [unquoted]), read_cons]
    simp only [step, Char.reduceEq, ↓reduceIte]
    rw [read_append, read_value tags _ quiet]
    simp [step, Attribute.blank]

theorem read_attributes (tags : List Tag) (current : Tag) {as : List Attribute}
    (clean : as.all Attribute.isClean = true) :
    read { state := .tag, current, tags } (as.flatMap Attribute.chars) =
      { state := .tag, current := current ++ as.flatMap Attribute.blank, tags } := by
  induction as generalizing current with
  | nil => simp
  | cons a rest ih =>
    simp only [List.all_cons, Bool.and_eq_true] at clean
    rw [List.flatMap_cons, read_append, read_attribute tags current clean.1, ih _ clean.2,
      List.flatMap_cons, List.append_assoc]

/-- A tag whose name is clean is read from bracket to bracket. -/
private theorem read_brackets (tags : List Tag) {name : List Char} {as : List Attribute}
    (mild : ∀ c ∈ name, Html.isMild c = true) (clean : as.all Attribute.isClean = true) :
    read { tags } ('<' :: name ++ as.flatMap Attribute.chars ++ ['>']) =
      { tags := tags ++ [name ++ as.flatMap Attribute.blank] } := by
  obtain ⟨_, open_, unquoted⟩ := Html.not_mem_of_mild mild
  have opened : read { tags } ['<'] = { state := .tag, tags } := rfl
  rw [← List.singleton_append, List.append_assoc, List.append_assoc, read_append, opened, read_append,
    read_tag tags [] open_ unquoted, read_append, read_attributes tags _ clean]
  simp [step]

/-- A piece of a page leaves the scanner in a text and adds at most its own tag. -/
theorem read_piece (tags : List Tag) {p : Piece} (clean : p.isClean = true) :
    read { tags } p.chars = { tags := tags ++ p.tag?.toList } := by
  cases p with
  | start tag as =>
    simp only [Piece.isClean, Bool.and_eq_true] at clean
    exact read_brackets tags (Html.isMild_of_mem_name clean.1) clean.2
  | stop tag =>
    have mild := Html.isMild_of_mem_closing clean
    simpa [Piece.chars, Piece.tag?] using read_brackets tags mild (List.all_nil (f := Attribute.isClean))
  | text s =>
    have plain := (Html.not_mem_escaped s.toList).1
    simpa [Piece.chars, Piece.tag?] using read_text tags plain
  | named name =>
    simpa [Piece.chars, Piece.tag?] using read_text tags (Html.not_mem_named clean)

/-- A page is scanned to its tags, from wherever in a text it starts. -/
theorem read_chars (tags : List Tag) {h : Html} (clean : h.isClean = true) :
    read { tags } h.chars = { tags := tags ++ h.tags } := by
  induction h generalizing tags with
  | nil => simp [Html.chars, Html.tags]
  | cons p rest ih =>
    simp only [Html.isClean, List.all_cons, Bool.and_eq_true] at clean
    have cut : Html.chars (p :: rest) = p.chars ++ Html.chars rest := by
      simp only [Html.chars, List.flatMap_cons]
    rw [cut, read_append, read_piece tags clean.1, ih _ clean.2]
    cases tag : p.tag? <;> simp [Html.tags, tag]

/-- The scan of a page whose names are clean. -/
theorem scan_render {h : Html} (clean : h.isClean = true) : scan h.render = { tags := h.tags } := by
  simpa [scan, Html.render] using read_chars [] clean

/-- Between tags nothing is kept of the last one. -/
theorem current_step {s : Scanner} (c : Char) (h : s.state = .text → s.current = []) :
    (s.step c).state = .text → (s.step c).current = [] := by
  unfold step
  split
  · split <;> simp_all
  · split
    · simp
    · split <;> simp_all
  · split <;> simp_all

theorem current_read {s : Scanner} (cs : List Char) (h : s.state = .text → s.current = []) :
    (s.read cs).state = .text → (s.read cs).current = [] := by
  induction cs generalizing s with
  | nil => exact h
  | cons c rest ih => exact ih (current_step c h)

/-- A page that ends in a text is known by its tags. -/
theorem scan_eq_of_state {page : String} (sound : (scan page).state = .text) :
    scan page = { tags := (scan page).tags } := by
  have closed : (scan page).current = [] := current_read page.toList (fun _ => rfl) sound
  cases scanned : scan page with
  | mk state current tags =>
    rw [scanned] at sound closed
    subst sound closed
    rfl

/-- The tags before a text do not matter for what is read in it. -/
theorem step_after (before : List Tag) (s : Scanner) (c : Char) :
    step { s with tags := before ++ s.tags } c =
      { s.step c with tags := before ++ (s.step c).tags } := by
  unfold step
  dsimp only
  split
  · split <;> rfl
  · split
    · simp
    · split <;> rfl
  · split <;> rfl

theorem read_after (before : List Tag) (s : Scanner) (cs : List Char) :
    read { s with tags := before ++ s.tags } cs =
      { s.read cs with tags := before ++ (s.read cs).tags } := by
  induction cs generalizing s with
  | nil => rfl
  | cons c rest ih => rw [read_cons, read_cons, step_after, ih]

/-- Pages that end in a text are scanned one after the other. -/
theorem scan_append {first second : String} {before after : List Tag}
    (h : scan first = { tags := before }) (k : scan second = { tags := after }) :
    scan (first ++ second) = { tags := before ++ after } := by
  have start : read {} first.toList = { tags := before } := h
  have rest : read {} second.toList = { tags := after } := k
  have joined := read_after before {} second.toList
  rw [rest, List.append_nil] at joined
  rw [scan, String.toList_append, read_append, start]
  exact joined

end Scanner

end CallDesk
