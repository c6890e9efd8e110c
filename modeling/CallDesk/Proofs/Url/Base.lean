import CallDesk.Proofs.Text.FormData
import CallDesk.Proofs.Url.Place
import Mathlib.Data.List.Basic

/-! # Addresses that go on

An address of the web without a query and a fragment may be followed by these, and when its last
slashes are taken away it may be followed by a slash and any text at all. The longer text is an address
of the same place. A blank or a control at the end of a text is the exception, because a reader drops it
there but not inside.
-/

namespace CallDesk.Url

open Text

/-! ## What is looked at -/

section

variable {α : Type} {p : α → Bool} {a : α}

/-- What is dropped at the start ends before the first element that is kept. -/
theorem dropWhile_append_cons (stop : p a = false) (before rest : List α) :
    (before ++ a :: rest).dropWhile p = before.dropWhile p ++ a :: rest := by
  rw [List.dropWhile_append, List.dropWhile_cons_of_neg (by simp [stop])]
  split
  · next none => rw [List.isEmpty_iff.mp none, List.nil_append]
  · rfl

end

/-- The characters that are looked at in a text that goes on. -/
def front (cs : List Char) : List Char := (cs.dropWhile isEdge).filter fun c => !isLineSpace c

/-- The characters that are looked at in a text that goes before. -/
def rear (cs : List Char) : List Char := (cs.reverse.dropWhile isEdge).reverse.filter fun c => !isLineSpace c

theorem isLineSpace_of_not_edge {c : Char} (visible : isEdge c = false) : isLineSpace c = false := by
  simp only [isEdge, decide_eq_false_iff_not] at visible
  simp only [isLineSpace, Bool.or_eq_false_iff, beq_eq_false_iff_ne]
  refine ⟨⟨?_, ?_⟩, ?_⟩ <;> rintro rfl <;> exact visible (by decide)

variable {cs t : List Char}

/-- Where a text goes on, a character that is no edge keeps everything before it and after it. -/
theorem significant_append (ends : ∃ c ∈ cs.getLast?, isEdge c = false) (t : List Char) :
    significant (.ofList (cs ++ t)) = front cs ++ rear t := by
  obtain ⟨c, last, stop⟩ := ends
  obtain ⟨before, rfl⟩ := List.getLast?_eq_some_iff.mp last
  rw [significant, String.toList_ofList, List.append_assoc, List.singleton_append, dropWhile_append_cons stop,
    List.reverse_append, List.reverse_cons, List.append_assoc, List.singleton_append, dropWhile_append_cons stop,
    List.reverse_append, List.reverse_cons, List.reverse_reverse, List.filter_append, front, rear,
    dropWhile_append_cons stop]

theorem front_append (visible : ∀ c ∈ t, isEdge c = false) : front (cs ++ t) = front cs ++ t := by
  have kept : t.filter (fun c => !isLineSpace c) = t :=
    List.filter_eq_self.mpr fun c member => by simp [isLineSpace_of_not_edge (visible c member)]
  cases t with
  | nil => rw [List.append_nil, List.append_nil]
  | cons c rest =>
    rw [front, dropWhile_append_cons (visible c List.mem_cons_self), List.filter_append, kept, front]

theorem rear_visible (visible : ∀ c ∈ t, isEdge c = false) : rear t = t := by
  have kept : t.filter (fun c => !isLineSpace c) = t :=
    List.filter_eq_self.mpr fun c member => by simp [isLineSpace_of_not_edge (visible c member)]
  have whole : t.reverse.dropWhile isEdge = t.reverse := by
    cases reversed : t.reverse with
    | nil => rfl
    | cons c rest =>
      have member : c ∈ t := List.mem_reverse.mp (reversed ▸ List.mem_cons_self)
      rw [List.dropWhile_cons_of_neg (by simp [visible c member])]
  rw [rear, whole, List.reverse_reverse, kept]

/-- A slash keeps everything before it and after it. -/
theorem significant_slash (stem t : String) :
    significant (stem ++ "/" ++ t) = front stem.toList ++ '/' :: rear t.toList := by
  have ends : ∃ c ∈ (stem.toList ++ ['/']).getLast?, isEdge c = false :=
    ⟨'/', List.getLast?_concat, by decide⟩
  have whole : stem ++ "/" ++ t = .ofList ((stem.toList ++ ['/']) ++ t.toList) := by
    rw [← String.toList_inj, String.toList_ofList, String.toList_append, String.toList_append]
    rfl
  have slashed : ∀ c ∈ ['/'], isEdge c = false := List.forall_mem_singleton.mpr (by decide)
  rw [whole, significant_append ends, front_append slashed, List.append_assoc, List.singleton_append]

/-! ## The scheme -/

/-- A scheme is a word before a colon. -/
structure Word (name : List Char) : Prop where
  letter : ∃ c ∈ name.head?, isLetter c = true
  inside : ∀ c ∈ name, isInScheme c = true

theorem isInScheme_of_letter {c : Char} (letter : isLetter c = true) : isInScheme c = true := by
  have upper : ('A' ≤ c ∧ c ≤ 'Z') ↔ (65 ≤ c.toNat ∧ c.toNat ≤ 90) := Iff.rfl
  have lower : ('a' ≤ c ∧ c ≤ 'z') ↔ (97 ≤ c.toNat ∧ c.toNat ≤ 122) := Iff.rfl
  simp only [isLetter, Bool.or_eq_true, Bool.and_eq_true, decide_eq_true_eq, upper, lower] at letter
  simp only [isInScheme, isAlphanumeric, Bool.or_eq_true, Bool.and_eq_true, decide_eq_true_eq]
  omega

theorem schemeOff?_eq_some_iff {scheme : String} {rest : List Char} :
    schemeOff? cs = some (scheme, rest) ↔
      ∃ name, Word name ∧ cs = name ++ ':' :: rest ∧ scheme = .ofList (name.map schemeOff?.foldCase) := by
  constructor
  · intro off
    cases cs with
    | nil => contradiction
    | cons c others =>
      simp only [schemeOff?, List.head?_cons] at off
      split at off
      swap
      · contradiction
      next letter =>
      split at off
      swap
      · contradiction
      next after =>
      obtain ⟨rfl, rfl⟩ := Prod.mk.inj (Option.some.inj off)
      refine ⟨(c :: others).takeWhile isInScheme, ⟨⟨c, ?_, letter⟩, ?_⟩, ?_, rfl⟩
      · rw [List.takeWhile_cons_of_pos (isInScheme_of_letter letter)]
        rfl
      · intro d member
        exact List.mem_takeWhile_imp member
      · rw [← after, List.takeWhile_append_dropWhile]
  · rintro ⟨name, word, rfl, rfl⟩
    obtain ⟨c, first, letter⟩ := word.letter
    have colon : isInScheme ':' = false := by decide
    have head : (name ++ ':' :: rest).head? = some c := by
      rw [List.head?_append, first]
      rfl
    have after : (name ++ ':' :: rest).dropWhile isInScheme = ':' :: rest := by
      rw [List.dropWhile_append_of_pos word.inside, List.dropWhile_cons_of_neg (by simp [colon])]
    have before : (name ++ ':' :: rest).takeWhile isInScheme = name := by
      rw [List.takeWhile_append_of_pos word.inside, List.takeWhile_cons_of_neg (by simp [colon]), List.append_nil]
    simp only [schemeOff?, head, letter, after, before, if_true]

/-- A scheme is taken off whatever follows. -/
theorem schemeOff?_append {scheme : String} {rest : List Char} (off : schemeOff? cs = some (scheme, rest))
    (t : List Char) : schemeOff? (cs ++ t) = some (scheme, rest ++ t) := by
  obtain ⟨name, word, rfl, rfl⟩ := schemeOff?_eq_some_iff.mp off
  apply schemeOff?_eq_some_iff.mpr
  refine ⟨name, word, ?_, rfl⟩
  rw [List.append_assoc, List.cons_append]

/-- A scheme does not reach into what follows, when that has no colon. -/
theorem schemeOff?_of_append {scheme : String} {rest : List Char} (colon : ':' ∉ t)
    (off : schemeOff? (cs ++ t) = some (scheme, rest)) :
    ∃ inner, schemeOff? cs = some (scheme, inner) ∧ rest = inner ++ t := by
  obtain ⟨name, word, whole, rfl⟩ := schemeOff?_eq_some_iff.mp off
  rcases List.append_eq_append_iff.mp whole with ⟨between, -, within⟩ | ⟨between, outer, within⟩
  · apply absurd _ colon
    rw [within]
    exact List.mem_append_right _ List.mem_cons_self
  · cases between with
    | nil =>
      apply absurd _ colon
      rw [← List.nil_append t, ← within]
      exact List.mem_cons_self
    | cons c inner =>
      obtain ⟨rfl, rfl⟩ := List.cons.inj within
      exact ⟨inner, schemeOff?_eq_some_iff.mpr ⟨name, word, outer, rfl⟩, rfl⟩

/-- The scheme of a text is told before the slashes at its end. -/
theorem schemeOff?_of_slashes {text stem scheme : String} {slashes rest : List Char}
    (trimmed : text.toList = stem.toList ++ slashes) (only : ∀ c ∈ slashes, c = '/')
    (off : schemeOff? (front text.toList) = some (scheme, rest)) :
    ∃ inner, schemeOff? (front stem.toList) = some (scheme, inner) ∧ rest = inner ++ slashes := by
  have visible : ∀ c ∈ slashes, isEdge c = false := by
    intro c member
    obtain rfl := only c member
    decide
  have colon : ':' ∉ slashes := fun member => absurd (only _ member) (by decide)
  rw [trimmed, front_append visible] at off
  exact schemeOff?_of_append colon off

theorem isSlash_of_only (only : ∀ c ∈ t, c = '/') : ∀ c ∈ t, isSlash c = true := by
  intro c member
  obtain rfl := only c member
  decide

/-! ## Addresses that may go on -/

/-- A text is the address `u` of the web, and does not end in a character that a reader drops there. -/
structure IsAddress (text : String) (u : Url) : Prop where
  read : Url.read text = .ok u
  web : IsWeb u.scheme
  ends : ∀ c ∈ text.toList.getLast?, isEdge c = false

/-- An address of the web without a query and a fragment. -/
structure IsBase (text : String) (u : Url) : Prop extends IsAddress text u where
  query : u.query = none
  fragment : u.fragment = none

variable {u : Url} {text : String}

/-- The end of a text is not dropped when a test says so. -/
theorem visible_end (visible : text.toList.getLast?.all (fun c => !isEdge c) = true) :
    ∀ c ∈ text.toList.getLast?, isEdge c = false := by
  intro c last
  have kept := (Option.all_eq_true _ _).mp visible c last
  simpa using kept

theorem IsAddress.significant (address : IsAddress text u) (t : String) :
    significant (text ++ t) = front text.toList ++ rear t.toList := by
  have ends : ∃ c ∈ text.toList.getLast?, isEdge c = false := by
    cases last : text.toList.getLast? with
    | none =>
      have empty : text = "" := String.toList_inj.mp (List.getLast?_eq_none_iff.mp last)
      have read := address.read
      rw [empty] at read
      contradiction
    | some c => exact ⟨c, rfl, address.ends c last⟩
  rw [← significant_append ends, ← String.toList_append, String.ofList_toList]

/-- What an address is looked at for: its place, and what may follow that. -/
theorem IsAddress.tells (address : IsAddress text u) :
    ∃ cs, schemeOff? (front text.toList) = some (u.scheme, cs) ∧ Tells (place (body cs)) u := by
  have whole : Url.significant text = front text.toList := by
    have nothing := address.significant ""
    rw [String.append_empty] at nothing
    rw [nothing]
    exact List.append_nil _
  have read := address.read
  cases off : schemeOff? (Url.significant text) with
  | none =>
    rw [Url.read, off] at read
    contradiction
  | some found =>
    obtain ⟨scheme, cs⟩ := found
    obtain rfl := read_scheme off u read
    exact ⟨cs, whole ▸ off, read_tells address.web off read⟩

/-- An address without the slashes at its end goes on with a slash and any text, and names the same place. -/
theorem IsAddress.read_slash (address : IsAddress text u) {stem : String} {slashes : List Char}
    (trimmed : text.toList = stem.toList ++ slashes) (only : ∀ c ∈ slashes, c = '/') (t : String) :
    ∃ path query fragment, Url.read (stem ++ "/" ++ t) = .ok { u with path, query, fragment } := by
  obtain ⟨cs, off, tells⟩ := address.tells
  have slash := isSlash_of_only only
  obtain ⟨inner, before, rfl⟩ := schemeOff?_of_slashes trimmed only off
  have read : schemeOff? (Url.significant (stem ++ "/" ++ t)) = some (u.scheme, inner ++ '/' :: rear t.toList) := by
    rw [significant_slash, schemeOff?_append before]
  have same : place (body (inner ++ '/' :: rear t.toList)) = place (body (inner ++ slashes)) :=
    place_body_append slash (by rintro c ⟨⟩; decide) tells.ne_nil
  exact read_of_tells address.web read (same ▸ tells)

/-- The characters after the scheme of a base are its place and its path. -/
theorem IsBase.opens (base : IsBase text u) :
    ∃ cs, schemeOff? (front text.toList) = some (u.scheme, cs) ∧ ('?' ∉ cs ∧ '#' ∉ cs) ∧ Tells (place cs) u ∧
      u.path = readPath true (onward cs) := by
  obtain ⟨cs, off, -⟩ := base.tells
  obtain ⟨query, fragment, parts, inQuery⟩ := exists_parts cs
  have nothing := base.significant ""
  rw [String.append_empty] at nothing
  have whole : schemeOff? (Url.significant text) =
      some (u.scheme, body cs ++ marked '?' query ++ marked '#' fragment) := by
    rw [nothing, ← parts, ← off]
    exact congrArg schemeOff? (List.append_nil _)
  obtain ⟨-, tells, path, queried, pointed⟩ := (read_eq_ok_iff base.web whole body_plain inQuery).mp base.read
  obtain rfl := Option.map_eq_none_iff.mp (queried.symm.trans base.query)
  obtain rfl := Option.map_eq_none_iff.mp (pointed.symm.trans base.fragment)
  rw [marked, marked, List.append_nil, List.append_nil] at parts
  exact ⟨cs, off, parts ▸ body_plain, parts ▸ tells, parts ▸ path⟩

theorem marked_visible {mark : Char} (visible : isEdge mark = false) {part : Option (List Char)}
    (rest : ∀ p ∈ part, ∀ c ∈ p, isEdge c = false) : ∀ c ∈ marked mark part, isEdge c = false := by
  intro c member
  cases part with
  | none => exact absurd member List.not_mem_nil
  | some p =>
    rcases List.mem_cons.mp member with rfl | inside
    · exact visible
    · exact rest p rfl c inside

/-- A base goes on with a query and a fragment of visible characters. -/
theorem IsBase.read_marked (base : IsBase text u) {query fragment : Option (List Char)}
    (inQuery : ∀ q ∈ query, '#' ∉ q ∧ ∀ c ∈ q, isEdge c = false)
    (inFragment : ∀ f ∈ fragment, ∀ c ∈ f, isEdge c = false) :
    Url.read (text ++ .ofList (marked '?' query ++ marked '#' fragment)) = .ok { u with
      query := query.map (written (isPlainInQuery true))
      fragment := fragment.map (written isPlainInFragment) } := by
  obtain ⟨cs, off, inPlace, tells, path⟩ := base.opens
  have visible : ∀ c ∈ marked '?' query ++ marked '#' fragment, isEdge c = false := by
    intro c member
    rcases List.mem_append.mp member with asked | pointed
    · exact marked_visible (by decide) (fun q given => (inQuery q given).2) c asked
    · exact marked_visible (by decide) inFragment c pointed
  have whole : Url.significant (text ++ .ofList (marked '?' query ++ marked '#' fragment)) =
      front text.toList ++ (marked '?' query ++ marked '#' fragment) := by
    rw [base.significant, String.toList_ofList, rear_visible visible]
  have read := schemeOff?_append off (marked '?' query ++ marked '#' fragment)
  rw [← whole, ← List.append_assoc] at read
  obtain ⟨user, named, host, port, known⟩ := tells
  apply (read_eq_ok_iff base.web read inPlace fun q given => (inQuery q given).1).mpr
  exact ⟨rfl, ⟨user, named, host, port, known⟩, path, rfl, rfl⟩

/-- A base without the slashes at its end goes on with a slash and a path. The two paths differ only in what
follows the same way. -/
theorem IsBase.read_onward (base : IsBase text u) {stem : String} {slashes : List Char}
    (trimmed : text.toList = stem.toList ++ slashes) (only : ∀ c ∈ slashes, c = '/') :
    ∃ way, way <:+ front stem.toList ∧ (∀ c ∈ way.head?, isSlash c = true) ∧
      u.path = readPath true (way ++ slashes) ∧
      ∀ t : String, '?' ∉ t.toList ∧ '#' ∉ t.toList → (∀ c ∈ t.toList, isEdge c = false) →
        Url.read (stem ++ "/" ++ t) = .ok { u with path := readPath true (way ++ '/' :: t.toList) } := by
  obtain ⟨cs, off, inPlace, tells, path⟩ := base.opens
  have slash := isSlash_of_only only
  obtain ⟨inner, before, rfl⟩ := schemeOff?_of_slashes trimmed only off
  have told := place_ne_nil slash tells.ne_nil
  obtain ⟨placed, onwards⟩ := place_append told fun c first => slash c (List.mem_of_mem_head? first)
  have suffix : onward inner <:+ front stem.toList := by
    obtain ⟨name, -, whole, -⟩ := schemeOff?_eq_some_iff.mp before
    have inside : inner <:+ front stem.toList := by
      rw [whole, ← List.singleton_append, ← List.append_assoc]
      exact List.suffix_append _ _
    exact ((List.dropWhile_suffix _).trans (List.dropWhile_suffix _)).trans inside
  refine ⟨onward inner, suffix, ?_, onwards ▸ path, fun t plain visible => ?_⟩
  · intro c first
    have stop := List.head?_dropWhile_not (fun c => !isSlash c) (inner.dropWhile isSlash)
    rw [onward] at first
    rw [first] at stop
    simpa using stop
  · have plainly : '?' ∉ inner ++ '/' :: t.toList ∧ '#' ∉ inner ++ '/' :: t.toList := by
      simp only [List.mem_append, List.mem_cons, not_or] at inPlace ⊢
      exact ⟨⟨inPlace.1.1, by decide, plain.1⟩, ⟨inPlace.2.1, by decide, plain.2⟩⟩
    have read : schemeOff? (Url.significant (stem ++ "/" ++ t)) =
        some (u.scheme, inner ++ '/' :: t.toList ++ marked '?' none ++ marked '#' none) := by
      rw [significant_slash, rear_visible visible, schemeOff?_append before, marked, marked, List.append_nil,
        List.append_nil]
    apply (read_eq_ok_iff base.web read plainly (by rintro q ⟨⟩)).mpr
    obtain ⟨same, after⟩ := place_append told (t := '/' :: t.toList) (by rintro c ⟨⟩; decide)
    rw [same, ← placed, after]
    obtain ⟨user, named, host, port, known⟩ := tells
    exact ⟨rfl, ⟨user, named, host, port, known⟩, rfl, base.query, base.fragment⟩

/-- A base goes on with a path. -/
theorem IsBase.append_path (base : IsBase text u) {t : String} (plain : '?' ∉ t.toList ∧ '#' ∉ t.toList)
    (visible : ∀ c ∈ t.toList, isEdge c = false) : ∃ path, IsBase (text ++ "/" ++ t) { u with path } := by
  have whole : text.toList = text.toList ++ [] := (List.append_nil _).symm
  obtain ⟨way, -, -, -, read⟩ := base.read_onward whole (by simp)
  refine ⟨_, ⟨read t plain visible, base.web, ?_⟩, base.query, base.fragment⟩
  intro c last
  have rest : ("/" ++ t).toList = '/' :: t.toList := by
    rw [String.toList_append]
    rfl
  rw [String.append_assoc, String.toList_append, rest, List.getLast?_append_cons] at last
  rcases List.mem_cons.mp (List.mem_of_getLast? last) with rfl | member
  · decide
  · exact visible c member

/-! ## Form data in an address -/

/-- Characters that stand for themselves in a part of an address are written as they are. -/
theorem written_plain {keep : UInt8 → Bool} (plain : ∀ c ∈ cs, c.toNat < 128 ∧ keep (asciiByte c) = true) :
    written keep cs = .ofList cs := by
  have bytes : utf8 (.ofList cs) = cs.map asciiByte := by
    rw [utf8_ascii] <;> rw [String.toList_ofList]
    exact fun c member => (plain c member).1
  have each : ∀ c ∈ cs,
      (if keep (asciiByte c) then [Char.ofNat (asciiByte c).toNat] else percentByte (asciiByte c)) = [c] := by
    intro c member
    obtain ⟨ascii, kept⟩ := plain c member
    rw [kept, if_pos rfl, toNat_asciiByte ascii, Char.ofNat_toNat]
  rw [written, bytes, percentBytes, List.flatMap_map, List.flatMap_def, List.map_congr_left each, ← List.flatMap_def,
    List.flatMap_singleton']

/-- The characters of a line of form data stand for themselves in a query and in a fragment. -/
theorem plain_formLine {pairs : List (String × String)} : ∀ c ∈ (formLine pairs).toList,
    c ≠ '#' ∧ isPlainInQuery true (asciiByte c) = true ∧ isPlainInFragment (asciiByte c) = true := by
  have coded : ∀ n : Fin 128, isAlphanumeric n = true →
      isPlainInQuery true (UInt8.ofNat n) = true ∧ isPlainInFragment (UInt8.ofNat n) = true := by decide
  intro c member
  have ascii : c.toNat < 128 := Nat.lt_succ_of_lt (formLine_bounds c member).2
  rcases mem_formLine member with rfl | rfl | form
  · decide
  · decide
  · simp only [isFormChar, Bool.or_eq_true, List.contains_eq_mem, decide_eq_true_eq, List.mem_cons,
      List.not_mem_nil, or_false] at form
    rcases form with alphanumeric | rfl | rfl | rfl | rfl | rfl | rfl
    · refine ⟨?_, coded ⟨c.toNat, ascii⟩ alphanumeric⟩
      rintro rfl
      exact absurd alphanumeric (by decide)
    all_goals decide

theorem visible_formLine {pairs : List (String × String)} : ∀ c ∈ (formLine pairs).toList, isEdge c = false := by
  intro c member
  have low := (formLine_bounds c member).1
  simp only [isEdge, decide_eq_false_iff_not]
  omega

theorem written_formLine {keep : UInt8 → Bool} {pairs : List (String × String)}
    (plain : ∀ c ∈ (formLine pairs).toList, keep (asciiByte c) = true) :
    written keep (formLine pairs).toList = formLine pairs := by
  rw [written_plain fun c member => ⟨Nat.lt_succ_of_lt (formLine_bounds c member).2, plain c member⟩,
    String.ofList_toList]

theorem formLine_inQuery (pairs : List (String × String)) :
    ∀ q ∈ some (formLine pairs).toList, '#' ∉ q ∧ ∀ c ∈ q, isEdge c = false := by
  rintro q ⟨⟩
  exact ⟨fun member => (plain_formLine '#' member).1 rfl, visible_formLine⟩

/-- A base goes on with form data in its query. -/
theorem IsBase.read_query (base : IsBase text u) (query : List (String × String)) :
    Url.read (text ++ "?" ++ formLine query) = .ok { u with query := some (formLine query) } := by
  have whole : text ++ "?" ++ formLine query =
      text ++ .ofList (marked '?' (some (formLine query).toList) ++ marked '#' none) := by
    rw [← String.toList_inj]
    simp [marked]
  rw [whole, base.read_marked (formLine_inQuery query) (by rintro f ⟨⟩), Option.map_some, Option.map_none,
    written_formLine fun c member => (plain_formLine c member).2.1, base.fragment]

/-- A base goes on with form data in its query and in its fragment. -/
theorem IsBase.read_query_fragment (base : IsBase text u) (query fragment : List (String × String)) :
    Url.read (text ++ "?" ++ formLine query ++ "#" ++ formLine fragment) =
      .ok { u with query := some (formLine query), fragment := some (formLine fragment) } := by
  have inFragment : ∀ f ∈ some (formLine fragment).toList, ∀ c ∈ f, isEdge c = false := by
    rintro f ⟨⟩
    exact visible_formLine
  have whole : text ++ "?" ++ formLine query ++ "#" ++ formLine fragment =
      text ++ .ofList (marked '?' (some (formLine query).toList) ++ marked '#' (some (formLine fragment).toList)) := by
    rw [← String.toList_inj]
    simp [marked]
  rw [whole, base.read_marked (formLine_inQuery query) inFragment, Option.map_some, Option.map_some,
    written_formLine fun c member => (plain_formLine c member).2.1,
    written_formLine fun c member => (plain_formLine c member).2.2]

end CallDesk.Url
