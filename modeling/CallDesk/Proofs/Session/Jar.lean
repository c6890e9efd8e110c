import CallDesk.Proofs.Session.Cookie
import CallDesk.Web.Message

/-! # The cookie jar of a browser

A browser keeps the cookies that responses set, one of a name, and drops those that a response lets
expire. It sends what it keeps in any order, over any number of headers, and among cookies of other
names. Whatever it does there, a token that was set is read back as it was.
-/

namespace CallDesk

open Text

/-- The cookies of the headers of a response. -/
def Web.Response.cookies (response : Web.Response) : List String :=
  (response.headers.filter fun h => Web.lower h.1 == "set-cookie").map (·.2)

/-- Only cookies that can be headers are sent, after those that a response already has. -/
theorem Web.Response.cookies_withCookies (response : Web.Response) (cookies : List String) :
    (response.withCookies cookies).cookies = response.cookies ++ Cookie.carried cookies := by
  have name : (Web.lower "set-cookie" == "set-cookie") = true := by decide
  have added : ((Cookie.carried cookies).map fun c => ("set-cookie", c)).filter
      (fun h => Web.lower h.1 == "set-cookie") = (Cookie.carried cookies).map fun c => ("set-cookie", c) := by
    refine List.filter_eq_self.mpr fun h member => ?_
    obtain ⟨c, -, rfl⟩ := List.mem_map.mp member
    exact name
  rw [Response.cookies, withCookies, List.filter_append, List.map_append, added, List.map_map]
  congr 1
  exact List.map_id _

/-- The cookies that a browser keeps. -/
abbrev Jar := List (String × String)

namespace Jar

/-- Takes a cookie from the header that sets it. -/
def store (jar : Jar) (header : String) : Jar :=
  match splitAll ';' header.toList with
  | [] => jar
  | part :: attributes => match Cookie.ofPart? part with
    | none => jar
    | some (name, val) =>
      let others := jar.filter fun c => c.1 != name
      if (attributes.map trimChars).contains "Max-Age=0".toList then others else (name, val) :: others

/-- Takes the cookies of a response. -/
def receive (jar : Jar) (response : Web.Response) : Jar := response.cookies.foldl store jar

/-- What a browser may send: its cookies in any order, among others, in any number of headers. -/
def Sends (jar : Jar) (headers : List String) : Prop :=
  ∃ (lines : List (List (String × String))) (others : List (String × String)),
    headers = lines.map Cookie.line ∧ lines.flatten.Perm (jar ++ others) ∧
      ∀ c ∈ others, Cookie.Sendable c ∧ c.1 ∉ Cookie.names

/-! ## Storing -/

variable {jar : Jar} {name : String}

/-- Whether the attributes of a cookie let it expire. -/
def expires (attributes : List Char) : Bool :=
  ((splitAll ';' attributes).map trimChars).contains "Max-Age=0".toList

/-- A header sets the cookie that it starts with. -/
theorem store_text (jar : Jar) {header : String} {c : String × String} {attributes : List Char}
    (sendable : Cookie.Sendable c) (starts : header.toList = (Cookie.text c).toList ++ ';' :: attributes) :
    jar.store header =
      if expires attributes then jar.filter fun d => d.1 != c.1 else c :: jar.filter fun d => d.1 != c.1 := by
  have none : Cookie.IsLead [] := fun x member => absurd member List.not_mem_nil
  have part := Cookie.ofPart?_text none sendable
  have whole := Cookie.part_whole none sendable
  rw [List.nil_append] at part whole
  rw [store, starts, splitAll_append_cons whole]
  simp only [part]
  rfl

theorem store_set (jar : Jar) (known : name ∈ Cookie.names) (val : String) (secure : Bool) :
    jar.store (Cookie.set name val secure) =
      (name, percentEncode val) :: jar.filter fun c => c.1 != name := by
  have kept : expires (Cookie.setRest secure) = false := by cases secure <;> decide
  have sendable := Cookie.sendable_coded (Cookie.isName_of_known known) val
  rw [store_text jar sendable (Cookie.toList_set name val secure), kept]
  rfl

theorem store_expire (jar : Jar) (known : name ∈ Cookie.names) :
    jar.store (Cookie.expire name) = jar.filter fun c => c.1 != name := by
  have empty : percentEncode "" = "" := by decide +kernel
  have dropped : expires Cookie.expireRest = true := by decide
  have sendable := Cookie.sendable_coded (Cookie.isName_of_known known) ""
  rw [store_text jar (empty ▸ sendable) (Cookie.toList_expire name), dropped]
  rfl

/-! ## What a jar keeps -/

/-- Every cookie of a jar reaches the reader as it was set. -/
def Clean (jar : Jar) : Prop := ∀ c ∈ jar, Cookie.Sendable c

/-- A jar keeps a token, or none, under a name. -/
structure Keeps (jar : Jar) (name : String) (token : Option String) : Prop where
  entries : ∀ val, (name, val) ∈ jar ↔ token.map percentEncode = some val
  legible : ∀ t, token = some t → t ≠ ""

theorem Clean.filter (clean : jar.Clean) (p : String × String → Bool) : Clean (jar.filter p) :=
  fun c member => clean c (List.mem_filter.mp member).1

theorem Clean.store_set (clean : jar.Clean) (known : name ∈ Cookie.names) (val : String) (secure : Bool) :
    (jar.store (Cookie.set name val secure)).Clean := by
  rw [Jar.store_set jar known]
  intro c member
  rcases List.mem_cons.mp member with rfl | member
  · exact Cookie.sendable_coded (Cookie.isName_of_known known) val
  · exact clean.filter _ c member

theorem Clean.store_expire (clean : jar.Clean) (known : name ∈ Cookie.names) :
    (jar.store (Cookie.expire name)).Clean := by
  rw [Jar.store_expire jar known]
  exact clean.filter _

theorem keeps_nil (name : String) : Keeps [] name none := by
  refine ⟨fun val => ?_, nofun⟩
  exact ⟨fun member => absurd member List.not_mem_nil, nofun⟩

variable {other : String} {token : Option String}

/-- Setting a cookie changes what is kept under its name, and nothing else. -/
theorem Keeps.store_set (keeps : jar.Keeps name token) (known : other ∈ Cookie.names) {val : String}
    (legible : val ≠ "") (secure : Bool) :
    (jar.store (Cookie.set other val secure)).Keeps name (if other = name then some val else token) := by
  rw [Jar.store_set jar known]
  split
  · rename_i same
    subst same
    refine ⟨fun found => ?_, fun t kept => Option.some.inj kept ▸ legible⟩
    simp [eq_comm]
  · rename_i different
    refine ⟨fun found => ?_, keeps.legible⟩
    rw [← keeps.entries]
    simp [Ne.symm different]

/-- Letting a cookie expire drops what is kept under its name, and nothing else. -/
theorem Keeps.store_expire (keeps : jar.Keeps name token) (known : other ∈ Cookie.names) :
    (jar.store (Cookie.expire other)).Keeps name (if other = name then none else token) := by
  rw [Jar.store_expire jar known]
  split
  · rename_i same
    subst same
    refine ⟨fun found => ?_, nofun⟩
    simp
  · rename_i different
    refine ⟨fun found => ?_, keeps.legible⟩
    rw [← keeps.entries]
    simp [Ne.symm different]

/-! ## Reading what a browser sends -/

/-- A name with one value at most has it wherever it stands. -/
theorem lookup_of_entries {l : List (String × String)} {val? : Option String}
    (entries : ∀ val, (name, val) ∈ l ↔ val? = some val) : l.lookup name = val? := by
  cases found : l.lookup name with
  | none =>
    cases val? with
    | none => rfl
    | some val =>
      have member := (entries val).mpr rfl
      have absent := List.lookup_eq_none_iff.mp found _ member
      exact absurd absent (by simp)
  | some val =>
    obtain ⟨before, after, rfl, -⟩ := List.lookup_eq_some_iff.mp found
    exact ((entries val).mp (List.mem_append_right _ List.mem_cons_self)).symm

/-- What a browser keeps is what is read from the headers that it sends. -/
theorem Keeps.read (keeps : jar.Keeps name token) (clean : jar.Clean) (known : name ∈ Cookie.names)
    {headers : List String} (sent : jar.Sends headers) : Cookie.read? headers name = token := by
  obtain ⟨lines, others, rfl, mixed, foreign⟩ := sent
  have sendable : ∀ c ∈ lines.flatten, Cookie.Sendable c := by
    intro c member
    rcases List.mem_append.mp (mixed.mem_iff.mp member) with member | member
    · exact clean c member
    · exact (foreign c member).1
  have entries : ∀ val, (name, val) ∈ lines.flatten ↔ token.map percentEncode = some val := by
    intro val
    rw [mixed.mem_iff, List.mem_append, ← keeps.entries]
    exact or_iff_left fun member => (foreign _ member).2 known
  rw [Cookie.read?, Cookie.pairs_lines sendable, lookup_of_entries entries]
  cases token with
  | none => rfl
  | some t =>
    have legible : t.isEmpty = false := by simpa using keeps.legible t rfl
    simp [percentDecode?_percentEncode, legible]

end Jar

end CallDesk
