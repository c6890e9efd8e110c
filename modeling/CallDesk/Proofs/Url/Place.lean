import CallDesk.Proofs.Url.Credentials

/-! # The place of a web address

An address of the web tells its place first, the user, the host and the port, and then where to go from
there. The place is read from the characters before the first slash alone. What follows changes nothing
in it, and no text that begins with a slash can make an address of a place unreadable.
-/

namespace CallDesk.Url

open Text

/-! ## Results of a reader -/

section

variable {ε α β : Type}

theorem error_bind (e : ε) (f : α → Except ε β) : (Except.error e >>= f) = .error e := rfl

theorem check_eq_ok_iff {c : Prop} [Decidable c] {e : ε} {x : Except ε β} {b : β} :
    (if c then .error e else x) = .ok b ↔ ¬ c ∧ x = .ok b := by
  split
  · next fails => simp [fails]
  · next holds => simp [holds]

theorem bind_eq_ok_iff {x : Except ε α} {f : α → Except ε β} {b : β} :
    (x >>= f) = .ok b ↔ ∃ a, x = .ok a ∧ f a = .ok b := by
  cases x with
  | error e => simp [error_bind]
  | ok a => simp [bind, Except.bind]

end

/-! ## Where a place ends -/

def isSlash (c : Char) : Bool := c == '/' || c == '\\'

/-- The characters that tell the place of an address, after the slashes at its start. -/
def place (cs : List Char) : List Char := (cs.dropWhile isSlash).takeWhile fun c => !isSlash c

/-- The characters after the place. -/
def onward (cs : List Char) : List Char := (cs.dropWhile isSlash).dropWhile fun c => !isSlash c

variable {cs t : List Char}

/-- What begins with a slash leaves the place before it as it is. -/
theorem place_append (found : place cs ≠ []) (slash : ∀ c ∈ t.head?, isSlash c = true) :
    place (cs ++ t) = place cs ∧ onward (cs ++ t) = onward cs ++ t := by
  have some : (cs.dropWhile isSlash).isEmpty = false := by
    cases dropped : cs.dropWhile isSlash with
    | nil =>
      rw [place, dropped] at found
      exact absurd rfl found
    | cons c rest => rfl
  have start : (cs ++ t).dropWhile isSlash = cs.dropWhile isSlash ++ t := by
    rw [List.dropWhile_append, some]
    rfl
  have after : t.takeWhile (fun c => !isSlash c) = [] ∧ t.dropWhile (fun c => !isSlash c) = t := by
    cases t with
    | nil => exact ⟨rfl, rfl⟩
    | cons c t =>
      have stop : ¬ (!isSlash c) = true := by simp [slash c rfl]
      exact ⟨List.takeWhile_cons_of_neg stop, List.dropWhile_cons_of_neg stop⟩
  rw [place, onward, start, List.takeWhile_append, List.dropWhile_append, after.1, after.2]
  constructor
  · split
    · next whole =>
      rw [List.append_nil]
      exact ((List.takeWhile_prefix _).eq_of_length whole).symm
    · rfl
  · split
    · next done => rw [onward, List.isEmpty_iff.mp done, List.nil_append]
    · rfl

/-- Slashes alone tell no place. -/
theorem place_slashes (slashes : ∀ c ∈ t, isSlash c = true) : place t = [] := by
  rw [place, List.dropWhile_eq_nil_iff.mpr slashes]
  rfl

/-- The place of a text is told before the slashes at its end. -/
theorem place_ne_nil (slashes : ∀ c ∈ t, isSlash c = true) (found : place (cs ++ t) ≠ []) : place cs ≠ [] := by
  intro none
  apply found
  have only : cs.dropWhile isSlash = [] := by
    cases dropped : cs.dropWhile isSlash with
    | nil => rfl
    | cons c rest =>
      have other := List.head?_dropWhile_not isSlash cs
      simp only [dropped, List.head?_cons] at other
      rw [place, dropped, List.takeWhile_cons_of_pos (by simp [other])] at none
      contradiction
  refine place_slashes fun c member => ?_
  rcases List.mem_append.mp member with before | after
  · exact List.dropWhile_eq_nil_iff.mp only c before
  · exact slashes c after

/-! ## What a place tells -/

/-- The text of the host in a place, and that of the port, if there is one. -/
def hostText (authority : List Char) : List Char × Option (List Char) :=
  cutHost false [] (cutUser authority).2

def portOf (scheme : String) : Option (List Char) → Except Error (Option Nat)
  | some digits => readPort scheme digits
  | none => .ok none

/-- A place tells the user, the host and the port of an address. -/
structure Tells (authority : List Char) (u : Url) : Prop where
  user : u.credentials = (cutUser authority).1.bind readCredentials
  named : (hostText authority).1.isEmpty = false
  host : specialHost (hostText authority).1 = .ok u.host
  port : portOf u.scheme (hostText authority).2 = .ok u.port
  known : (u.host.isEmpty && u.credentials.isSome) = false

theorem Tells.ne_nil {authority : List Char} {u : Url} (tells : Tells authority u) : authority ≠ [] := by
  rintro rfl
  exact absurd tells.named (by decide)

variable {scheme : String} {query fragment : Option (List Char)} {u : Url}

/-- The reader of an address of the web, one step after another. -/
theorem readAuthority_eq :
    readAuthority scheme true (cs.dropWhile isSlash) query fragment =
      if (hostText (place cs)).1.isEmpty then .error .emptyHost
      else specialHost (hostText (place cs)).1 >>= fun host =>
        portOf scheme (hostText (place cs)).2 >>= fun port =>
          if host.isEmpty && ((cutUser (place cs)).1.bind readCredentials).isSome then .error .emptyHost
          else .ok {
            scheme, credentials := (cutUser (place cs)).1.bind readCredentials, host, port
            path := readPath true (onward cs)
            query := query.map (written (isPlainInQuery true))
            fragment := fragment.map (written isPlainInFragment) } := by
  have cut : (cs.dropWhile isSlash).span (fun c => !(c == '/' || (true && c == '\\'))) = (place cs, onward cs) :=
    List.span_eq_takeWhile_dropWhile _ _
  simp only [readAuthority, cut, error_bind, if_true, Bool.true_or, Bool.and_true]
  -- a user without a host is refused as a place without a host is
  by_cases named : (hostText (place cs)).1.isEmpty = true
  · rw [if_pos named, hostText] at *
    rw [if_pos named, ite_self]
  · have somewhere : (cutUser (place cs)).2.isEmpty = false := by
      cases nowhere : (cutUser (place cs)).2 with
      | nil =>
        rw [hostText, nowhere] at named
        exact absurd rfl named
      | cons c rest => rfl
    rw [if_neg named, somewhere, Bool.and_false, Bool.false_and, if_neg Bool.false_ne_true]
    rw [hostText] at *
    rw [if_neg named]
    cases text : (cutHost false [] (cutUser (place cs)).2).2 with
    | none => rfl
    | some digits => rfl

/-- An address of the web is its place and what follows it, and either is read by itself. -/
theorem readAuthority_eq_ok_iff :
    readAuthority scheme true (cs.dropWhile isSlash) query fragment = .ok u ↔
      u.scheme = scheme ∧ Tells (place cs) u ∧ u.path = readPath true (onward cs) ∧
        u.query = query.map (written (isPlainInQuery true)) ∧
        u.fragment = fragment.map (written isPlainInFragment) := by
  simp only [readAuthority_eq, check_eq_ok_iff, bind_eq_ok_iff, Bool.not_eq_true]
  constructor
  · rintro ⟨named, host, hosted, port, ported, known, made⟩
    obtain rfl := Except.ok.inj made
    exact ⟨rfl, ⟨rfl, named, hosted, ported, known⟩, rfl, rfl, rfl⟩
  · rintro ⟨rfl, tells, path, query, fragment⟩
    have known := tells.known
    rw [tells.user] at known
    refine ⟨tells.named, u.host, tells.host, u.port, tells.port, known, ?_⟩
    rw [← tells.user, ← path, ← query, ← fragment]

/-! ## Whole addresses -/

/-- A part of an address after its mark, if there is one. -/
def marked (mark : Char) : Option (List Char) → List Char
  | some part => mark :: part
  | none => []

/-- A text before its first mark, and after it if there is one. -/
def cutOff (mark : Char) (cs : List Char) : List Char × Option (List Char) :=
  match cut? mark cs with
  | some (before, part) => (before, some part)
  | none => (cs, none)

theorem cutOff_marked {mark : Char} {before : List Char} (whole : mark ∉ before) (part : Option (List Char)) :
    cutOff mark (before ++ marked mark part) = (before, part) := by
  cases part with
  | none => rw [marked, List.append_nil, cutOff, cut?_of_not_mem whole]
  | some part => rw [marked, cutOff, cut?_append_cons whole]

/-- What is cut off is all there is besides. -/
theorem exists_marked (mark : Char) (cs : List Char) :
    ∃ before part, mark ∉ before ∧ cs = before ++ marked mark part := by
  by_cases whole : mark ∈ cs
  · obtain ⟨before, after, rfl, first⟩ := List.eq_append_cons_of_mem whole
    exact ⟨before, some after, first, rfl⟩
  · exact ⟨cs, none, whole, (List.append_nil cs).symm⟩

/-- The schemes that requests are made with. -/
def IsWeb (scheme : String) : Prop := scheme = "http" ∨ scheme = "https"

theorem IsWeb.special (web : IsWeb scheme) : scheme ≠ "file" ∧ isSpecial scheme = true := by
  rcases web with rfl | rfl <;> decide

theorem readAuthority_scheme (special : Bool) :
    Gives (·.scheme = scheme) (readAuthority scheme special cs query fragment) := by
  simp only [readAuthority]
  refine gives_check (gives_check (gives_either _ _ fun host => ?_))
  split
  · exact gives_bind _ fun port => gives_check (gives_ok rfl)
  · exact gives_bind _ fun port => gives_check (gives_ok rfl)

theorem readFile_scheme : Gives (·.scheme = "file") (readFile cs query fragment) := by
  simp only [readFile]
  split
  · split
    · split
      · exact gives_ok rfl
      · split
        · exact gives_ok rfl
        · exact gives_bind _ fun host => gives_ok rfl
    · exact gives_ok rfl
  · exact gives_ok rfl

/-- An address has the scheme that it begins with. -/
theorem read_scheme {s : String} (off : schemeOff? (significant s) = some (scheme, cs)) :
    Gives (·.scheme = scheme) (read s) := by
  simp only [read, off]
  split
  · next file =>
    obtain rfl := beq_iff_eq.mp file
    exact readFile_scheme
  split
  · exact readAuthority_scheme _
  split
  · exact readAuthority_scheme _
  · exact gives_ok rfl

theorem read_eq {s : String} (web : IsWeb scheme) (off : schemeOff? (significant s) = some (scheme, cs)) :
    read s =
      let (rest, fragment) := cutOff '#' cs
      let (rest, query) := cutOff '?' rest
      readAuthority scheme true (rest.dropWhile isSlash) query fragment := by
  have other : (scheme == "file") = false := beq_false_of_ne web.special.1
  simp only [read, off, other, web.special.2, if_true, Bool.false_eq_true, if_false]
  rfl

/-- An address of the web is read from its parts. -/
theorem read_eq_ok_iff {s : String} (web : IsWeb scheme)
    (off : schemeOff? (significant s) = some (scheme, cs ++ marked '?' query ++ marked '#' fragment))
    (inPlace : '?' ∉ cs ∧ '#' ∉ cs) (inQuery : ∀ q ∈ query, '#' ∉ q) :
    read s = .ok u ↔
      u.scheme = scheme ∧ Tells (place cs) u ∧ u.path = readPath true (onward cs) ∧
        u.query = query.map (written (isPlainInQuery true)) ∧
        u.fragment = fragment.map (written isPlainInFragment) := by
  have before : '#' ∉ cs ++ marked '?' query := by
    rw [List.mem_append]
    rintro (member | member)
    · exact inPlace.2 member
    · cases query with
      | none => exact absurd member List.not_mem_nil
      | some q =>
        rcases List.mem_cons.mp member with same | inside
        · exact absurd same (by decide)
        · exact inQuery q rfl inside
  simp only [read_eq web off, cutOff_marked before, cutOff_marked inPlace.1, readAuthority_eq_ok_iff]

/-! ### Addresses by their place -/

/-- The characters of an address before its query and its fragment. -/
def body (cs : List Char) : List Char := cs.takeWhile fun c => c != '?' && c != '#'

theorem body_plain : '?' ∉ body cs ∧ '#' ∉ body cs := by
  constructor
  · intro member
    exact absurd (List.mem_takeWhile_imp member) (by decide)
  · intro member
    exact absurd (List.mem_takeWhile_imp member) (by decide)

/-- What follows the body is a query and a fragment. -/
theorem exists_parts (cs : List Char) :
    ∃ query fragment, cs = body cs ++ marked '?' query ++ marked '#' fragment ∧ ∀ q ∈ query, '#' ∉ q := by
  have whole : body cs ++ cs.dropWhile (fun c => c != '?' && c != '#') = cs := List.takeWhile_append_dropWhile
  have stop := List.head?_dropWhile_not (fun c => c != '?' && c != '#') cs
  cases rest : cs.dropWhile fun c => c != '?' && c != '#' with
  | nil =>
    rw [rest, List.append_nil] at whole
    refine ⟨none, none, ?_, by rintro q ⟨⟩⟩
    rw [marked, marked, List.append_nil, List.append_nil, whole]
  | cons c after =>
    rw [rest] at whole
    simp only [rest, List.head?_cons, Bool.and_eq_false_iff, bne_eq_false_iff_eq] at stop
    rcases stop with rfl | rfl
    · obtain ⟨query, fragment, noFragment, rfl⟩ := exists_marked '#' after
      refine ⟨some query, fragment, ?_, ?_⟩
      · rw [List.append_assoc]
        exact whole.symm
      · rintro q ⟨⟩
        exact noFragment
    · refine ⟨none, some after, ?_, by rintro q ⟨⟩⟩
      rw [List.append_assoc]
      exact whole.symm

/-- An address of the web tells its place, -/
theorem read_tells {s : String} (web : IsWeb scheme) (off : schemeOff? (significant s) = some (scheme, cs))
    (made : read s = .ok u) : Tells (place (body cs)) u := by
  obtain ⟨query, fragment, parts, inQuery⟩ := exists_parts cs
  rw [parts] at off
  exact ((read_eq_ok_iff web off body_plain inQuery).mp made).2.1

/-- and what tells a place is an address, whatever else it says. -/
theorem read_of_tells {s : String} (web : IsWeb u.scheme) (off : schemeOff? (significant s) = some (u.scheme, cs))
    (tells : Tells (place (body cs)) u) :
    ∃ path query fragment, read s = .ok { u with path, query, fragment } := by
  obtain ⟨query, fragment, parts, inQuery⟩ := exists_parts cs
  rw [parts] at off
  obtain ⟨user, named, host, port, known⟩ := tells
  refine ⟨readPath true (onward (body cs)), query.map (written (isPlainInQuery true)),
    fragment.map (written isPlainInFragment), (read_eq_ok_iff web off body_plain inQuery).mpr ?_⟩
  exact ⟨rfl, ⟨user, named, host, port, known⟩, rfl, rfl, rfl⟩

/-- The place is told before the slashes at the end of a text, and before a slash that the text goes on with. -/
theorem place_body_append {onto : List Char} (slashes : ∀ c ∈ t, isSlash c = true)
    (slash : ∀ c ∈ onto.head?, isSlash c = true) (found : place (body (cs ++ t)) ≠ []) :
    place (body (cs ++ onto)) = place (body (cs ++ t)) := by
  have slashed {cs : List Char} (first : ∀ c ∈ cs.head?, isSlash c = true) :
      ∀ c ∈ (body cs).head?, isSlash c = true := by
    intro c member
    cases cs with
    | nil => exact absurd member (Option.not_mem_none c)
    | cons d cs =>
      have kept : (d != '?' && d != '#') = true := by
        have slash := first d rfl
        simp only [isSlash, Bool.or_eq_true, beq_iff_eq] at slash
        rcases slash with rfl | rfl <;> decide
      rw [body, List.takeWhile_cons, if_pos kept] at member
      exact first c member
  rw [body, List.takeWhile_append] at found ⊢
  rw [body, List.takeWhile_append]
  split
  · next whole =>
    rw [if_pos whole] at found
    have told : place cs ≠ [] :=
      place_ne_nil (fun c member => slashes c ((List.takeWhile_sublist _).subset member)) found
    have before := (place_append told (slashed fun c first => slashes c (List.mem_of_mem_head? first))).1
    exact (place_append told (slashed slash)).1.trans before.symm
  · rfl

end CallDesk.Url
