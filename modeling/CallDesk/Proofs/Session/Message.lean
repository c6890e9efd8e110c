import CallDesk.Json.Record
import CallDesk.Proofs.Json.Reader
import CallDesk.Session.Message

/-! # Two readers of one message

The message of a sign-in is read by a reader of its own, which looks at the text no further than it has to.
It agrees with the reading of the whole text: a body that is a JSON record with an address, among whatever
other members and in whatever order, is taken as a message with that address.
-/

namespace CallDesk.Session.Message

open Text Json

/-- The address in a JSON value. -/
def ofJson? (v : Json) : Option String := do
  let fs ← v.fields? [fieldName]
  fs.required fieldName Json.text?

variable {fuel : Nat} {s : Bytes} {address : String}

/-- A text is taken as the value that it is. -/
theorem textOff_of_valueOff? {rest : Bytes} (off : valueOff? fuel s = some (.string (some address), rest)) :
    textOff s = .ok (address, rest) := by
  cases fuel with
  | zero =>
    rw [valueOff?] at off
    contradiction
  | succ fuel =>
    generalize value : Json.string (some address) = v at off
    cases valueOff?_succ_iff.mp off with
    | string start text =>
      obtain rfl := (Json.string.inj value).symm
      simp only [textOff, start, text]
    | noItems | noMembers => contradiction
    | items start some inner =>
      obtain ⟨items, rfl, -⟩ := exists_items inner
      contradiction
    | members start some inner =>
      obtain ⟨members, rfl, -⟩ := exists_members inner
      contradiction
    | scalar start plain off =>
      have kind := (scalarOff?_spec off).1
      rw [← value] at kind
      contradiction

/-! ## Objects -/

/-- What has been found of an address, and what the members that are left give. -/
inductive Gives (address : String) : Option String → Fields Json → Prop
  | found : Gives address (some address) []
  | ahead : Gives address none [(fieldName, .string (some address))]

/-- The fields of a message in the members of an object, the first member apart. -/
theorem named?_cons {name : Option String} {v : Json} {members : List (Option String × Json)} {fs : Fields Json}
    (named : Json.named? [fieldName] ((name, v) :: members) = some fs) :
    (name = some fieldName ∧ ∃ rest, Json.named? [fieldName] members = some rest ∧ fs = (fieldName, v) :: rest ∧
        rest.any (·.1 == fieldName) = false) ∨
      ∃ n, name = some n ∧ n ≠ fieldName ∧ Json.named? [fieldName] members = some fs := by
  cases name with
  | none => contradiction
  | some n =>
    simp only [Json.named?, Option.bind_eq_bind, Option.bind_eq_some_iff] at named
    obtain ⟨rest, others, chosen⟩ := named
    by_cases same : n = fieldName
    · subst same
      rw [if_pos (by simp)] at chosen
      split at chosen
      · contradiction
      · next once => exact .inl ⟨rfl, rest, others, (Option.some.inj chosen).symm, Bool.eq_false_iff.mpr once⟩
    · rw [if_neg (by simp [same])] at chosen
      obtain rfl := Option.some.inj chosen
      exact .inr ⟨n, rfl, same, others⟩

/-- A message has one field. -/
theorem named?_le_one {members : List (Option String × Json)} {fs : Fields Json}
    (named : Json.named? [fieldName] members = some fs) : fs = [] ∨ ∃ v, fs = [(fieldName, v)] := by
  induction members generalizing fs with
  | nil => exact .inl (Option.some.inj named).symm
  | cons m members ih =>
    rcases named?_cons named with ⟨-, rest, others, rfl, once⟩ | ⟨n, -, -, others⟩
    · rcases ih others with rfl | ⟨w, rfl⟩
      · exact .inr ⟨m.2, rfl⟩
      · exact absurd once (by simp)
    · exact ih others

/-- A member is passed by, or its value is the address. -/
theorem memberOff_of_member {name : Option String} {v : Json} {left : Bytes} {members : List (Option String × Json)}
    {found : Option String} {fs : Fields Json} (member : Member fuel s name v left)
    (named : Json.named? [fieldName] ((name, v) :: members) = some fs) (gives : Gives address found fs) :
    ∃ n after inner found' fs', quotedOff? (skipSpace s) = some (some n, after) ∧ ¬ (n = fieldName ∧ found.isSome) ∧
      skipSpace after = 58 :: inner ∧ memberOff n found inner = .ok (found', left) ∧
      Json.named? [fieldName] members = some fs' ∧ Gives address found' fs' := by
  obtain ⟨after, inner, quoted, colon, first⟩ := member
  rcases named?_cons named with ⟨rfl, rest, others, rfl, -⟩ | ⟨n, rfl, other, others⟩
  · cases gives with
    | ahead =>
      refine ⟨fieldName, after, inner, some address, [], quoted, by simp, colon, ?_, others, .found⟩
      rw [memberOff, if_pos rfl, textOff_of_valueOff? first]
      rfl
  · refine ⟨n, after, inner, found, fs, quoted, fun same => other same.1, colon, ?_, others, gives⟩
    rw [memberOff, if_neg other, takeValue?_of_valueOff? first]

/-- The members of an object are read one after the other, the address where it comes. -/
theorem readMembers_of_members {members : List (Option String × Json)} {rest : Bytes}
    (all : Members fuel s members rest) {found : Option String} {fs : Fields Json}
    (named : Json.named? [fieldName] members = some fs) (gives : Gives address found fs)
    {steps : Nat} (enough : s.length < steps) : readMembers steps found s = .ok address := by
  induction all generalizing found fs steps with
  | last member close =>
    obtain ⟨steps, rfl⟩ : ∃ k, steps = k + 1 := ⟨steps - 1, by omega⟩
    obtain ⟨n, after, inner, found', fs', quoted, once, colon, taken, named', gives'⟩ :=
      memberOff_of_member member named gives
    obtain rfl := Option.some.inj named'
    cases gives'
    rw [readMembers.eq_def]
    simp only [quoted, if_neg once, colon, taken, close]
  | @more _ _ left _ _ _ _ _ member comma others ih =>
    obtain ⟨steps, rfl⟩ : ∃ k, steps = k + 1 := ⟨steps - 1, by omega⟩
    have shorter := ((settledAt _).member member).1
    obtain ⟨n, after, inner, found', fs', quoted, once, colon, taken, named', gives'⟩ :=
      memberOff_of_member member named gives
    rw [readMembers.eq_def]
    simp only [quoted, if_neg once, colon, taken, comma]
    refine ih named' gives' ?_
    have spaced := length_skipSpace_le left
    rw [comma, List.length_cons] at spaced
    omega

/-- The address of a message is read as the whole body tells it. -/
theorem read_of_json {v : Json} (whole : Json.read? s = some v) (given : ofJson? v = some address) :
    read s = .ok address := by
  obtain ⟨rest, front, -⟩ := front_of_read? whole
  generalize 2 * s.length + 1 = fuel at front
  obtain ⟨fs, named, field⟩ := Option.bind_eq_some_iff.mp given
  cases front with
  | string => contradiction
  | scalar start plain off =>
    have kind := (scalarOff?_spec off).1
    cases v with
    | null | bool _ | number _ => contradiction
    | string _ | array _ | object _ => contradiction
  | noItems | noMembers =>
    obtain rfl := Option.some.inj named
    contradiction
  | items start some inner =>
    obtain ⟨items, rfl, all⟩ := exists_items inner
    cases all with
    | last first close =>
      obtain rfl := Option.some.inj named
      obtain rfl := text?_eq_some_iff.mp field
      simp only [read, start, textOff_of_valueOff? first, close]
    | more first comma others =>
      cases others <;> contradiction
  | members start some inner =>
    obtain ⟨members, rfl, all⟩ := exists_members inner
    have gives : Gives address none fs := by
      rcases named?_le_one named with rfl | ⟨w, rfl⟩
      · contradiction
      · obtain rfl := text?_eq_some_iff.mp field
        exact .ahead
    simp only [read, start]
    exact readMembers_of_members all named gives (Nat.lt_succ_self _)

end CallDesk.Session.Message
