import CallDesk.Proofs.Session.Jar

/-! # What a cookie says

The header that sets a cookie is cut at its semicolons into the pair and the attributes, and whatever value
was put into the pair is read back from it. The reader finds the first pair of the name in the headers of a
request: it does not matter what other pairs, parts that are no pairs, blanks and headers that are no text
stand around it. Nothing is claimed of an empty value, which is read as no cookie.
-/

namespace CallDesk

open Text

namespace Cookie

/-- A cookie to be set: the name is a token, and the value is any text that is not empty. -/
structure Assignment where
  name : String
  val : String
  secure : Bool
  plain : IsName name
  filled : val ≠ ""

namespace Assignment

/-- The header that sets the cookie. -/
def header (c : Assignment) : String := set c.name c.val c.secure

/-- The pair that a browser keeps of the cookie and sends. -/
def pair (c : Assignment) : String × String := (c.name, percentEncode c.val)

/-- What the header says of the cookie, beside the pair. -/
def attributes (c : Assignment) : List String :=
  ["Path=/", "HttpOnly", "SameSite=Lax"] ++ if c.secure then ["Secure"] else []

end Assignment

/-- The parts of a header between its semicolons. -/
def parts (header : String) : List (List Char) := header.toList.splitOn ';'

/-- A part of a header holds a pair, with blanks around it. -/
def Holds (part : List Char) (c : String × String) : Prop :=
  ∃ lead rest, (∀ x ∈ lead ++ rest, isBlank x = true) ∧ part = lead ++ (text c).toList ++ rest

/-- A part of a header is a pair of the name: past the blanks it starts with the name and an equals sign. -/
def HasName (name : String) (part : List Char) : Prop := name.toList ++ ['='] <+: trimLeft part

/-- A pair is the first one of its name in the headers that are text. -/
def IsFirst (c : String × String) (headers : List String) : Prop :=
  ∃ before part after, (headers.filter isReadableHeader).flatMap parts = before ++ part :: after ∧
    (∀ other ∈ before, ¬ HasName c.1 other) ∧ Holds part c

/-! ## The header that sets a cookie -/

/-- The header that sets a cookie is the pair and the attributes, and nothing else. -/
theorem parts_header (c : Assignment) :
    (parts c.header).map trimChars = (text c.pair).toList :: c.attributes.map String.toList := by
  have sendable : Sendable c.pair := sendable_coded c.plain c.val
  have whole : ';' ∉ (text c.pair).toList := fun member => (sendable.mem_text ';' member).2 rfl
  have trimmed : trimChars (text c.pair).toList = (text c.pair).toList := by
    rw [sendable.trim_text, toList_text]
  have rest : ((setRest c.secure).splitOn ';').map trimChars = c.attributes.map String.toList := by
    rw [Assignment.attributes]
    cases c.secure <;> decide
  have header : c.header.toList = (text c.pair).toList ++ ';' :: setRest c.secure := toList_set _ _ _
  rw [parts, header, List.splitOn_append_cons_self_of_not_mem whole, List.map_cons, trimmed, rest]

/-! ## Finding a pair -/

theorem pairs_eq (header : String) : pairs header = (parts header).filterMap ofPart? := by
  rw [parts, ← splitAll_eq_splitOn]
  rfl

/-- Blanks around a pair do not matter. -/
theorem Holds.ofPart? {part : List Char} {c : String × String} (holds : Holds part c) (sendable : Sendable c) :
    ofPart? part = some c := by
  obtain ⟨lead, rest, blank, rfl⟩ := holds
  have whole : '=' ∉ c.1.toList := fun member => (sendable.name '=' member).2.2 rfl
  rw [Cookie.ofPart?, trimChars_append_blanks fun x member => blank x (List.mem_append_right lead member),
    trimChars_append fun x member => blank x (List.mem_append_left rest member), sendable.trim_text,
    cut?_append_cons whole]
  simp only [Option.map_some, String.ofList_toList]

/-- A part in which a pair is found is one of its name. -/
theorem hasName_of_ofPart? {part : List Char} {c : String × String} (found : ofPart? part = some c) :
    HasName c.1 part := by
  obtain ⟨⟨name, val⟩, cut, rfl⟩ := Option.map_eq_some_iff.mp found
  refine List.IsPrefix.trans ?_ (exists_trimChars_front part)
  rw [eq_append_of_cut? cut, String.toList_ofList]
  exact ⟨val, by rw [List.append_assoc, List.singleton_append]⟩

/-- The first pair of a name is the one that is found. -/
theorem IsFirst.lookup {c : String × String} {headers : List String} (first : IsFirst c headers)
    (sendable : Sendable c) : ((headers.filter isReadableHeader).flatMap pairs).lookup c.1 = some c.2 := by
  obtain ⟨before, part, after, cut, free, holds⟩ := first
  have each : pairs = fun header => (parts header).filterMap Cookie.ofPart? := funext pairs_eq
  have none : (before.filterMap Cookie.ofPart?).lookup c.1 = none := by
    rw [List.lookup_eq_none_iff]
    intro other member
    obtain ⟨part, listed, found⟩ := List.mem_filterMap.mp member
    rw [bne_iff_ne]
    intro same
    exact free part listed (same ▸ hasName_of_ofPart? found)
  rw [each, ← List.filterMap_flatMap, cut, List.filterMap_append, List.filterMap_cons_some (holds.ofPart? sendable),
    List.lookup_append, none, Option.none_or, List.lookup_cons, beq_self_eq_true]

/-- The value of a cookie is read from the first pair of its name. -/
theorem IsFirst.read? {c : Assignment} {headers : List String} (first : IsFirst c.pair headers) :
    read? headers c.name = some c.val := by
  have found : ((headers.filter isReadableHeader).flatMap pairs).lookup c.name = some (percentEncode c.val) :=
    first.lookup (sendable_coded c.plain c.val)
  rw [Cookie.read?, found]
  dsimp only
  rw [percentDecode?_percentEncode, Option.filter_some_pos]
  simp [c.filled]

/-! ## Cookies that are set -/

/-- No cookie is left out of a response. -/
theorem carried_assignments (cs : List Assignment) : carried (cs.map Assignment.header) = cs.map Assignment.header := by
  rw [carried, List.filter_eq_self]
  intro header member
  obtain ⟨c, -, rfl⟩ := List.mem_map.mp member
  exact isHeaderText_set c.plain c.val c.secure

/-- Cookies are set by legal headers, which a response carries one by one and in order; each says its pair and
the attributes of the cookies of a session, and the reader takes the very value from any headers in which
the pair is the first one of its name. -/
theorem cookies_carry_values (cs : List Assignment) :
    (∀ response : Web.Response,
      (response.withCookies (cs.map Assignment.header)).cookies = response.cookies ++ cs.map Assignment.header) ∧
    ∀ c ∈ cs, isHeaderText c.header = true ∧
      (parts c.header).map trimChars = (text c.pair).toList :: c.attributes.map String.toList ∧
      ∀ headers, IsFirst c.pair headers → read? headers c.name = some c.val :=
  ⟨fun response => by rw [response.cookies_withCookies, carried_assignments], fun c _ =>
    ⟨isHeaderText_set c.plain c.val c.secure, parts_header c, fun _ first => first.read?⟩⟩

/-- A cookie whose value holds what separates cookies, names and attributes. -/
def oddAssignment : Assignment where
  name := "vd_access_token"
  val := " a;b=é%"
  secure := true
  plain := isName_of_known (by decide)
  filled := by decide

/-- Headers with that cookie: the first one is no text, and the parts before the pair are no pairs of the name. -/
def crowdedHeaders : List String :=
  ["vd_access_token=other; caf\u00E9=1",
    "theme;;=; vd_access_token ; vd_access_token =1;xvd_access_token=2;\t vd_access_token=%20a%3Bb%3D%C3%A9%25 ; a=b",
    "vd_access_token=late"]

/-- The cookie is the first one of its name there. -/
theorem oddAssignment_first : IsFirst oddAssignment.pair crowdedHeaders := by
  refine ⟨["theme", "", "=", " vd_access_token ", " vd_access_token =1", "xvd_access_token=2"].map String.toList,
    "\t vd_access_token=%20a%3Bb%3D%C3%A9%25 ".toList, [" a=b", "vd_access_token=late"].map String.toList,
    by decide +kernel, ?_, "\t ".toList, " ".toList, ?_, by decide +kernel⟩
  · unfold HasName
    decide
  · exact List.all_eq_true.mp (by decide)

/-- A value with separators is read from between other cookies. -/
theorem cookies_carry_values_crowded :
    IsFirst oddAssignment.pair crowdedHeaders ∧ read? crowdedHeaders "vd_access_token" = some " a;b=é%" :=
  ⟨oddAssignment_first,
    ((cookies_carry_values [oddAssignment]).2 oddAssignment (List.mem_singleton_self _)).2.2 crowdedHeaders
      oddAssignment_first⟩

end Cookie

end CallDesk
