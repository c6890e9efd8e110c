import CallDesk.Proofs.Text.Percent
import CallDesk.Proofs.Text.Split
import CallDesk.Session.Cookie
import CallDesk.Web.MediaType

/-! # Cookies on their way

A browser sends its cookies as pairs of a name and a value, several to a header. The reader finds the
pairs as they were sent, in any order, as long as they can be told apart. The headers that set the
cookies of a session are legal and hold such pairs, because percent coding leaves plain characters only.
-/

namespace CallDesk

open Text

theorem isHeaderText_append (s t : String) : isHeaderText (s ++ t) = (isHeaderText s && isHeaderText t) := by
  rw [isHeaderText, String.toList_append, List.all_append, isHeaderText, isHeaderText]

namespace Cookie

/-- A character of a header that can be read as text. -/
def isReadableChar (c : Char) : Bool := (32 ≤ c.toNat && c.toNat < 127) || c == '\t'

theorem isHeaderChar_of_readable {c : Char} (readable : isReadableChar c = true) : isHeaderChar c = true := by
  rw [isReadableChar, Bool.or_eq_true, Bool.and_eq_true, decide_eq_true_eq, decide_eq_true_eq] at readable
  rw [isHeaderChar, Bool.or_eq_true, Bool.and_eq_true, decide_eq_true_eq, bne_iff_ne]
  rcases readable with ⟨low, high⟩ | tab
  · exact .inl ⟨low, Nat.ne_of_lt high⟩
  · exact .inr tab

/-- A cookie that reaches the reader as it was sent: of visible characters, with inner blanks at most,
and without the characters that end a name or a value. -/
structure Sendable (c : String × String) : Prop where
  name : ∀ x ∈ c.1.toList, isReadableChar x = true ∧ x ≠ ';' ∧ x ≠ '='
  val : ∀ x ∈ c.2.toList, isReadableChar x = true ∧ x ≠ ';'
  start : ∀ x ∈ c.1.toList.head?, isBlank x = false
  stop : ∀ x ∈ c.2.toList.getLast?, isBlank x = false

/-- A cookie as it is sent. -/
def text (c : String × String) : String := c.1 ++ "=" ++ c.2

/-- Cookies as they are sent in one header. -/
def line (cs : List (String × String)) : String := "; ".intercalate (cs.map text)

/-! ## Reading what was sent -/

theorem toList_text (c : String × String) : (text c).toList = c.1.toList ++ '=' :: c.2.toList := by
  rw [text, String.toList_append, String.toList_append, List.append_assoc]
  rfl

theorem Sendable.mem_text {c : String × String} (sendable : Sendable c) :
    ∀ x ∈ (text c).toList, isReadableChar x = true ∧ x ≠ ';' := by
  intro x member
  rw [toList_text] at member
  rcases List.mem_append.mp member with member | member
  · exact ⟨(sendable.name x member).1, (sendable.name x member).2.1⟩
  · rcases List.mem_cons.mp member with rfl | member
    · decide
    · exact sendable.val x member

/-- The cookie in a part of a header. -/
def ofPart? (part : List Char) : Option (String × String) :=
  (cut? '=' (trimChars part)).map fun (name, val) => (.ofList name, .ofList val)

theorem Sendable.trim_text {c : String × String} (sendable : Sendable c) :
    trimChars (text c).toList = c.1.toList ++ '=' :: c.2.toList := by
  have plain : isBlank '=' = false := by decide
  rw [toList_text]
  apply trimChars_eq_self
  · intro x first
    cases name : c.1.toList with
    | nil =>
      rw [name] at first
      exact Option.some.inj first ▸ plain
    | cons y rest =>
      rw [name] at first
      exact sendable.start x (name ▸ first)
  · intro x last
    rw [List.getLast?_append, List.getLast?_cons] at last
    obtain rfl := Option.some.inj last
    cases stop : c.2.toList.getLast? with
    | none => exact plain
    | some y => exact sendable.stop y stop

/-- Blanks that a part of a header may start with. -/
def IsLead (lead : List Char) : Prop := ∀ x ∈ lead, isBlank x = true ∧ x ≠ ';'

/-- A cookie is found in its part of a header. -/
theorem ofPart?_text {c : String × String} {lead : List Char} (blank : IsLead lead) (sendable : Sendable c) :
    ofPart? (lead ++ (text c).toList) = some c := by
  have whole : '=' ∉ c.1.toList := fun member => (sendable.name '=' member).2.2 rfl
  rw [ofPart?, trimChars_append fun x member => (blank x member).1, sendable.trim_text, cut?_append_cons whole]
  simp only [Option.map_some, String.ofList_toList]

theorem ofPart?_blank {lead : List Char} (blank : IsLead lead) : ofPart? lead = none := by
  rw [← List.append_nil lead, ofPart?, trimChars_append fun x member => (blank x member).1]
  rfl

/-- A cookie is one part. -/
theorem part_whole {c : String × String} {lead : List Char} (blank : IsLead lead) (sendable : Sendable c) :
    ';' ∉ lead ++ (text c).toList := by
  intro member
  rcases List.mem_append.mp member with member | member
  · exact (blank ';' member).2 rfl
  · exact (sendable.mem_text ';' member).2 rfl

theorem toList_line (cs : List (String × String)) :
    (line cs).toList = [';', ' '].intercalate (cs.map fun c => (text c).toList) := by
  rw [line, String.toList_intercalate, List.map_map]
  rfl

theorem toList_line_nil : (line []).toList = [] := by
  rw [toList_line, List.map_nil, List.intercalate_nil]

theorem toList_line_singleton (c : String × String) : (line [c]).toList = (text c).toList := by
  rw [toList_line, List.map_cons, List.map_nil, List.intercalate_singleton]

theorem toList_line_cons (c d : String × String) (rest : List (String × String)) :
    (line (c :: d :: rest)).toList = (text c).toList ++ ';' :: ([' '] ++ (line (d :: rest)).toList) := by
  rw [toList_line, toList_line, List.map_cons, List.map_cons, List.intercalate_cons_cons, List.append_assoc]
  rfl

/-- The cookies of a header are found, whatever blanks it starts with. -/
theorem split_line {lead : List Char} (blank : IsLead lead) {cs : List (String × String)}
    (sendable : ∀ c ∈ cs, Sendable c) :
    (splitAll ';' (lead ++ (line cs).toList)).filterMap ofPart? = cs := by
  -- after the first cookie the rest of the header starts with the blank behind the semicolon
  induction cs generalizing lead with
  | nil =>
    have whole : ';' ∉ lead := fun member => (blank ';' member).2 rfl
    rw [toList_line_nil, List.append_nil, splitAll_of_not_mem whole]
    exact List.filterMap_cons_none (ofPart?_blank blank)
  | cons c rest ih =>
    have first := sendable c List.mem_cons_self
    cases rest with
    | nil =>
      rw [toList_line_singleton, splitAll_of_not_mem (part_whole blank first),
        List.filterMap_cons_some (ofPart?_text blank first)]
      rfl
    | cons d rest =>
      have others : ∀ c ∈ d :: rest, Sendable c := fun c member => sendable c (List.mem_cons_of_mem _ member)
      have spaced : IsLead [' '] := by simp [IsLead, isBlank]
      rw [toList_line_cons, ← List.append_assoc, splitAll_append_cons (part_whole blank first),
        List.filterMap_cons_some (ofPart?_text blank first), ih spaced others]

theorem pairs_line {cs : List (String × String)} (sendable : ∀ c ∈ cs, Sendable c) : pairs (line cs) = cs := by
  have none : IsLead [] := fun x member => absurd member List.not_mem_nil
  exact split_line none sendable

/-- Headers of cookies can be read as text. -/
theorem isReadableHeader_line {cs : List (String × String)} (sendable : ∀ c ∈ cs, Sendable c) :
    isReadableHeader (line cs) = true := by
  have readable : ∀ x ∈ (line cs).toList, isReadableChar x = true := by
    induction cs with
    | nil => rw [toList_line_nil]; nofun
    | cons c rest ih =>
      have first := (sendable c List.mem_cons_self).mem_text
      cases rest with
      | nil =>
        rw [toList_line_singleton]
        exact fun x member => (first x member).1
      | cons d rest =>
        rw [toList_line_cons]
        intro x member
        rcases List.mem_append.mp member with member | member
        · exact (first x member).1
        rcases List.mem_cons.mp member with rfl | member
        · decide
        rcases List.mem_cons.mp member with rfl | member
        · decide
        · exact ih (fun c member => sendable c (List.mem_cons_of_mem _ member)) x member
  exact List.all_eq_true.mpr readable

/-- The cookies of several headers are found one after another. -/
theorem pairs_lines {lines : List (List (String × String))} (sendable : ∀ c ∈ lines.flatten, Sendable c) :
    ((lines.map line).filter isReadableHeader).flatMap pairs = lines.flatten := by
  induction lines with
  | nil => rfl
  | cons cs lines ih =>
    have first : ∀ c ∈ cs, Sendable c := fun c member => sendable c (by simp [member])
    have rest : ∀ c ∈ lines.flatten, Sendable c := fun c member =>
      sendable c (List.mem_append_right cs member)
    rw [List.map_cons, List.filter_cons_of_pos (isReadableHeader_line first), List.flatMap_cons,
      pairs_line first, ih rest, List.flatten_cons]

/-! ## The cookies of a session -/

/-- The names of the two cookies. -/
def names : List String := [access, refresh]

/-- A name made of the characters of tokens: visible characters of ASCII that separate nothing in a header. -/
def IsName (name : String) : Prop := ∀ c ∈ name.toList, Web.MediaType.isToken c = true

/-- Characters of tokens are visible, and none of them ends a name or a pair. -/
theorem isToken_visible {c : Char} (token : Web.MediaType.isToken c = true) :
    32 < c.toNat ∧ c.toNat < 127 ∧ c ≠ ';' ∧ c ≠ '=' := by
  rw [Web.MediaType.isToken, Bool.or_eq_true, List.contains_iff_mem] at token
  rcases token with alphanumeric | mark
  · simp only [isAlphanumeric, Bool.or_eq_true, Bool.and_eq_true, decide_eq_true_eq] at alphanumeric
    refine ⟨by omega, by omega, ?_, ?_⟩
    · rintro rfl
      exact absurd alphanumeric (by decide)
    · rintro rfl
      exact absurd alphanumeric (by decide)
  · have marks : ['!', '#', '$', '%', '&', '\'', '*', '+', '-', '.', '^', '_', Char.ofNat 96, '|', '~'].all
        (fun c => decide (32 < c.toNat ∧ c.toNat < 127 ∧ c ≠ ';' ∧ c ≠ '=')) = true := by decide
    exact of_decide_eq_true (List.all_eq_true.mp marks c mark)

theorem isReadableChar_of_visible {c : Char} (low : 32 < c.toNat) (high : c.toNat < 127) : isReadableChar c = true := by
  rw [isReadableChar, decide_eq_true (Nat.le_of_lt low), decide_eq_true high]
  rfl

/-- The cookies of a session have such names. -/
theorem isName_of_known {name : String} (known : name ∈ names) : IsName name := by
  have each : ∀ name ∈ names, name.toList.all Web.MediaType.isToken = true := by decide
  exact List.all_eq_true.mp (each name known)

/-- Coded characters are visible, and none of them ends a pair. -/
theorem isCoded_visible {val : String} :
    ∀ x ∈ (percentEncode val).toList, 32 < x.toNat ∧ x.toNat < 127 ∧ x ≠ ';' := by
  intro x member
  have coded := isCoded_of_mem_percentEncode x member
  obtain ⟨low, high⟩ := isCoded_bounds coded
  refine ⟨low, high, ?_⟩
  rintro rfl
  exact absurd coded (by decide)

/-- Percent coding makes every text the value of a cookie. -/
theorem sendable_coded {name : String} (plain : IsName name) (val : String) : Sendable (name, percentEncode val) := by
  refine ⟨fun x member => ?_, fun x member => ?_, fun x first => ?_, fun x last => ?_⟩
  · obtain ⟨low, high, other⟩ := isToken_visible (plain x member)
    exact ⟨isReadableChar_of_visible low high, other⟩
  · obtain ⟨low, high, other⟩ := isCoded_visible x member
    exact ⟨isReadableChar_of_visible low high, other⟩
  · obtain ⟨low, high, -⟩ := isToken_visible (plain x (List.mem_of_head? first))
    exact isBlank_of_visible low high
  · obtain ⟨low, high, -⟩ := isCoded_visible x (List.mem_of_getLast? last)
    exact isBlank_of_visible low high

/-- What follows a cookie in the header that sets it, after the first semicolon. -/
def setRest (secure : Bool) : List Char :=
  " Path=/; HttpOnly; SameSite=Lax".toList ++ (if secure then "; Secure" else "").toList

/-- What follows a cookie in the header that removes it. -/
def expireRest : List Char := " Path=/; HttpOnly; SameSite=Lax; Max-Age=0".toList

theorem toList_set (name val : String) (secure : Bool) :
    (set name val secure).toList = (text (name, percentEncode val)).toList ++ ';' :: setRest secure := by
  rw [set, text]
  simp only [String.toList_append, List.append_assoc]
  rfl

theorem toList_expire (name : String) : (expire name).toList = (text (name, "")).toList ++ ';' :: expireRest := by
  rw [expire, text]
  simp only [String.toList_append, List.append_assoc]
  rfl

/-- The header that sets a cookie is legal. -/
theorem isHeaderText_set {name : String} (plain : IsName name) (val : String) (secure : Bool) :
    isHeaderText (set name val secure) = true := by
  have rest : (';' :: setRest secure).all isHeaderChar = true := by cases secure <;> decide
  rw [isHeaderText, toList_set, List.all_eq_true]
  intro x member
  rcases List.mem_append.mp member with member | member
  · exact isHeaderChar_of_readable ((sendable_coded plain val).mem_text x member).1
  · exact List.all_eq_true.mp rest x member

/-- No token of a sign-in is left out of its response. -/
theorem carried_keep (tokens : Tokens) (secure : Bool) : carried (keep tokens secure) = keep tokens secure := by
  have first := isHeaderText_set (isName_of_known (by decide : access ∈ names)) tokens.access secure
  rw [carried, keep, List.filter_cons_of_pos first]
  cases tokens.refresh with
  | none => rfl
  | some token =>
    rw [List.filter_cons_of_pos (isHeaderText_set (isName_of_known (by decide)) token secure)]
    rfl

end Cookie

end CallDesk
