import CallDesk.Proofs.Url.Base
import CallDesk.Session.Callback

/-! # What a callback says

The identity provider writes its answer as form data, into the query and the fragment of an address of
this site. Whatever it writes is read: each parameter is the last one of its name that the fragment has,
or else the last one that the query has. The outcome follows from the parameters alone, an error before a
token and a token before a confirmation.
-/

namespace CallDesk.Callback

open Text

/-! ## Parameters -/

/-- The values that some pairs give to a name, in order. -/
def valuesOf (name : String) (pairs : List (String × String)) : List String :=
  pairs.filterMap fun pair => if pair.1 = name then some pair.2 else none

/-- A value without the blanks at its ends, unless it is blank. -/
def unlessBlank (val : String) : Option String := if isBlankText val then none else some (trim val)

/-- What the pairs of a query and of a fragment give to a name. The last value counts, and a value of the
fragment hides those of the query even if it is blank. -/
def parameter (query fragment : List (String × String)) (name : String) : Option String :=
  ((valuesOf name fragment).getLast?.or (valuesOf name query).getLast?).bind unlessBlank

/-- The first pair of a name in reverse order is its last one. -/
theorem lookup_reverse (name : String) (pairs : List (String × String)) :
    pairs.reverse.lookup name = (valuesOf name pairs).getLast? := by
  rw [List.lookup_eq_findSome?, valuesOf, List.getLast?_filterMap]
  congr 1
  funext pair
  by_cases same : pair.1 = name
  · rw [if_pos same, if_pos (beq_iff_eq.mpr same.symm)]
  · rw [if_neg same, if_neg fun found => same (beq_iff_eq.mp found).symm]

theorem get?_eq_parameter (query fragment : List (String × String)) (name : String) :
    (⟨query ++ fragment⟩ : Callback).get? name = parameter query fragment name := by
  rw [get?, List.reverse_append, List.lookup_append, lookup_reverse, lookup_reverse, parameter]
  cases (valuesOf name fragment).getLast?.or (valuesOf name query).getLast? with
  | none => rfl
  | some val =>
    simp only [Option.map_some, Option.bind_some, Option.filter_some, trim_isEmpty, unlessBlank]
    cases isBlankText val <;> rfl

/-! ## Outcomes -/

/-- The names of confirmations. -/
def confirmations : List (String × Confirmation) :=
  [("signup", .signup), ("recovery", .recovery), ("invite", .invite)]

/-- What parameters mean: the provider's account of an error or its name, or else tokens, or else a
confirmation, or else nothing. -/
inductive Means (given : String → Option String) : Outcome → Prop
  | described {message : String} (description : given "error_description" = some message) :
      Means given (.failed message)
  | named {message : String} (undescribed : given "error_description" = none) (error : given "error" = some message) :
      Means given (.failed message)
  | authenticated {token : String} (fine : given "error_description" = none ∧ given "error" = none)
      (access : given "access_token" = some token) :
      Means given (.authenticated { access := token, refresh := given "refresh_token" })
  | confirmed {name : String} {what : Confirmation} (fine : given "error_description" = none ∧ given "error" = none)
      (stranger : given "access_token" = none) (type : given "type" = some name)
      (known : (name, what) ∈ confirmations) :
      Means given (.confirmed what)
  | silent (fine : given "error_description" = none ∧ given "error" = none) (stranger : given "access_token" = none)
      (unknown : ∀ name what, given "type" = some name → (name, what) ∉ confirmations) :
      Means given (.failed "No authentication token found")

theorem ofName?_eq_some_iff {name : String} {what : Confirmation} :
    Confirmation.ofName? name = some what ↔ (name, what) ∈ confirmations := by
  constructor
  · intro found
    have same : (what.wireName == name) = true := by
      rw [Confirmation.ofName?] at found
      exact List.find?_some (p := fun what => Confirmation.wireName what == name) found
    obtain rfl := beq_iff_eq.mp same
    cases what <;> decide
  · intro known
    simp only [confirmations, List.mem_cons, Prod.mk.injEq, List.not_mem_nil, or_false] at known
    rcases known with ⟨rfl, rfl⟩ | ⟨rfl, rfl⟩ | ⟨rfl, rfl⟩ <;> rfl

theorem outcome_means (c : Callback) : Means c.get? c.outcome := by
  rw [outcome]
  cases described : c.get? "error_description" with
  | some message => exact .described described
  | none =>
    cases error : c.get? "error" with
    | some message => exact .named described error
    | none =>
      simp only [Option.or_none]
      cases access : c.get? "access_token" with
      | some token => exact .authenticated ⟨described, error⟩ access
      | none =>
        dsimp only
        cases confirmed : (c.get? "type").bind Confirmation.ofName? with
        | some what =>
          obtain ⟨name, type, known⟩ := Option.bind_eq_some_iff.mp confirmed
          exact .confirmed ⟨described, error⟩ access type (ofName?_eq_some_iff.mp known)
        | none =>
          refine .silent ⟨described, error⟩ access fun name what type known => ?_
          rw [type, Option.bind_some, ofName?_eq_some_iff.mpr known] at confirmed
          contradiction

/-- Parameters have one meaning. -/
theorem Means.unique {given : String → Option String} {first second : Outcome} (one : Means given first)
    (other : Means given second) : first = second := by
  cases one <;> cases other
  case confirmed.confirmed name what _ _ type known name' what' _ _ type' known' =>
    obtain rfl := Option.some.inj (type.symm.trans type')
    have same := (ofName?_eq_some_iff.mpr known).symm.trans (ofName?_eq_some_iff.mpr known')
    rw [Option.some.inj same]
  all_goals simp_all

/-! ## Addresses of callbacks -/

/-- The parameters of an address are those of its query and its fragment. -/
theorem ofUrl_forms (u : Url) (query fragment : List (String × String)) :
    ofUrl { u with query := some (formLine query), fragment := some (formLine fragment) } = ⟨query ++ fragment⟩ := by
  simp only [ofUrl, Option.map_some, Option.getD_some, formPairs_formLine]

theorem read_forms {text : String} {u : Url} (base : Url.IsBase text u) (query fragment : List (String × String)) :
    read (text ++ "?" ++ formLine query ++ "#" ++ formLine fragment) = .ok ⟨query ++ fragment⟩ := by
  simp only [read, base.read_query_fragment, ofUrl_forms]

/-- A callback is read whatever its base address is and whatever the provider adds to it, and it means what
its parameters mean. -/
theorem read_means {text : String} {u : Url} (base : Url.IsBase text u) (query fragment : List (String × String)) :
    ∃ c, read (text ++ "?" ++ formLine query ++ "#" ++ formLine fragment) = .ok c ∧
      (∀ name, c.get? name = parameter query fragment name) ∧ Means (parameter query fragment) c.outcome := by
  refine ⟨⟨query ++ fragment⟩, read_forms base query fragment, get?_eq_parameter query fragment, ?_⟩
  have given : (⟨query ++ fragment⟩ : Callback).get? = parameter query fragment :=
    funext (get?_eq_parameter query fragment)
  rw [← given]
  exact outcome_means _

/-- A blank refresh token of the fragment hides that of the query, and the token keeps its characters. -/
theorem read_means_hidden :
    ∃ u c, Url.IsBase "https://app.test/auth/callback" u ∧
      read ("https://app.test/auth/callback" ++ "?" ++ formLine [("refresh_token", "r0"), ("a&b", "=#")] ++ "#" ++
        formLine [("access_token", "old"), ("type", "signup"), ("access_token", " jetön+1 "), ("refresh_token", " ")])
          = .ok c ∧ c.outcome = .authenticated { access := "jetön+1", refresh := none } := by
  have base : Url.IsBase "https://app.test/auth/callback"
      { scheme := "https", host := "app.test", path := .segments ["auth", "callback"] } :=
    ⟨⟨by decide +kernel, .inr rfl, Url.visible_end (by decide +kernel)⟩, rfl, rfl⟩
  obtain ⟨c, ok, -, means⟩ := read_means base [("refresh_token", "r0"), ("a&b", "=#")]
    [("access_token", "old"), ("type", "signup"), ("access_token", " jetön+1 "), ("refresh_token", " ")]
  refine ⟨_, c, base, ok, means.unique ?_⟩
  have hidden : none = parameter [("refresh_token", "r0"), ("a&b", "=#")]
      [("access_token", "old"), ("type", "signup"), ("access_token", " jetön+1 "), ("refresh_token", " ")]
      "refresh_token" := by decide +kernel
  rw [hidden]
  exact .authenticated ⟨by decide +kernel, by decide +kernel⟩ (by decide +kernel)

end CallDesk.Callback
