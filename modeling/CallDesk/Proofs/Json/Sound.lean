import CallDesk.Proofs.Json.Growth

/-! # Values that are taken whole

A value that is taken whole is sound when everything inside of it is: what is in it may be nested so deep and no
deeper, its numbers are within the doubles, and its strings, names of members included, are texts. Of an object
that is taken for one of its members, the values that are given to the name of that member decide what is read.
-/

namespace CallDesk

namespace Json

/-! ## What is inside of a value -/

/-- A value is inside of another one, below so many arrays and objects. -/
inductive Inside : Nat → Json → Json → Prop
  | here (v : Json) : Inside 0 v v
  | item {depth : Nat} {w v : Json} {items : List Json} (listed : v ∈ items) (inner : Inside depth w v) :
      Inside (depth + 1) w (.array items)
  | member {depth : Nat} {w : Json} {members : List (Option String × Json)} {m : Option String × Json}
      (listed : m ∈ members) (inner : Inside depth w m.2) : Inside (depth + 1) w (.object members)

/-- A value is an array or an object. -/
def IsNested (v : Json) : Prop := (∃ items, v = .array items) ∨ ∃ members, v = .object members

/-- A value is within what a decoder can hold: its arrays and objects are not nested too deep, and its numbers are
within the doubles. -/
structure Fits (v : Json) : Prop where
  nesting : ∀ depth w, Inside depth w v → w.IsNested → depth < maxDepth
  numbers : ∀ depth n, Inside depth (.number n) v → n.number?.isSome = true

/-- Every string inside of a value is a text, the names of members included. -/
structure IsText (v : Json) : Prop where
  strings : ∀ depth s, Inside depth (.string s) v → s.isSome = true
  names : ∀ depth members, Inside depth (.object members) v → ∀ m ∈ members, m.1.isSome = true

/-- What a value that is taken whole must be, at its depth, apart from what is inside of it. -/
def Sits (limit depth : Nat) : Json → Prop
  | .null | .bool _ => True
  | .number n => n.number?.isSome = true
  | .string s => s.isSome = true
  | .array _ => depth < limit
  | .object members => depth < limit ∧ ∀ m ∈ members, m.1.isSome = true

/-- A value below another one has so much less room. -/
theorem sits_below {limit depth : Nat} {v : Json} : Sits (limit + 1) (depth + 1) v ↔ Sits limit depth v := by
  cases v with
  | null | bool | number | string => exact Iff.rfl
  | array items => exact Nat.add_lt_add_iff_right
  | object members => exact and_congr_left' Nat.add_lt_add_iff_right

theorem itemsSound_iff {limit : Nat} {items : List Json} :
    itemsSound limit items = true ↔ ∀ v ∈ items, soundWithin limit v = true := by
  induction items with
  | nil => simp [itemsSound]
  | cons v items ih => simp [itemsSound, ih]

theorem membersSound_iff {limit : Nat} {members : List (Option String × Json)} :
    membersSound limit members = true ↔ ∀ m ∈ members, m.1.isSome = true ∧ soundWithin limit m.2 = true := by
  induction members with
  | nil => simp [membersSound]
  | cons m members ih => simp [membersSound, ih]

/-- What holds of a value without parts holds of all that is inside of it. -/
theorem inside_iff_here {v : Json} (plain : ¬ v.IsNested) {p : Nat → Json → Prop} :
    (∀ depth w, Inside depth w v → p depth w) ↔ p 0 v := by
  refine ⟨fun all => all 0 v (.here v), fun holds depth w inside => ?_⟩
  cases inside with
  | here => exact holds
  | item => exact absurd (.inl ⟨_, rfl⟩) plain
  | member => exact absurd (.inr ⟨_, rfl⟩) plain

/-- What is inside of an array is the array, or inside of an item. -/
theorem inside_array_iff {items : List Json} {p : Nat → Json → Prop} :
    (∀ depth w, Inside depth w (.array items) → p depth w) ↔
      p 0 (.array items) ∧ ∀ v ∈ items, ∀ depth w, Inside depth w v → p (depth + 1) w := by
  refine ⟨fun all => ⟨all 0 _ (.here _), fun v listed depth w inner => all _ w (.item listed inner)⟩, ?_⟩
  rintro ⟨here, below⟩ depth w inside
  cases inside with
  | here => exact here
  | item listed inner => exact below _ listed _ w inner

/-- What is inside of an object is the object, or inside of the value of a member. -/
theorem inside_object_iff {members : List (Option String × Json)} {p : Nat → Json → Prop} :
    (∀ depth w, Inside depth w (.object members) → p depth w) ↔
      p 0 (.object members) ∧ ∀ m ∈ members, ∀ depth w, Inside depth w m.2 → p (depth + 1) w := by
  refine ⟨fun all => ⟨all 0 _ (.here _), fun m listed depth w inner => all _ w (.member listed inner)⟩, ?_⟩
  rintro ⟨here, below⟩ depth w inside
  cases inside with
  | here => exact here
  | member listed inner => exact below _ listed _ w inner

/-- A value is sound when everything inside of it is as it must be at its depth. -/
theorem soundWithin_iff : ∀ (v : Json) {limit : Nat},
    soundWithin limit v = true ↔ ∀ depth w, Inside depth w v → Sits limit depth w
  | null, _ | bool _, _ | number _, _ | string _, _ => by simp [inside_iff_here, IsNested, soundWithin, Sits]
  | array items, 0 => by simp [inside_array_iff, soundWithin, Sits]
  | array items, limit + 1 => by
    rw [inside_array_iff, soundWithin, itemsSound_iff, Sits, and_iff_right (Nat.succ_pos limit)]
    -- an item has one level less of room, and what is inside of it is one level less deep
    simp only [sits_below]
    exact forall₂_congr fun v listed => soundWithin_iff v
  | object members, 0 => by simp [inside_object_iff, soundWithin, Sits]
  | object members, limit + 1 => by
    rw [inside_object_iff, soundWithin, membersSound_iff, Sits, and_iff_right (Nat.succ_pos limit)]
    simp only [sits_below, ← forall₂_and]
    exact forall₂_congr fun m listed => and_congr_right' (soundWithin_iff m.2)
termination_by v => v
decreasing_by
  · have smaller := List.sizeOf_lt_of_mem listed
    simp only [array.sizeOf_spec]
    omega
  · have smaller := List.sizeOf_lt_of_mem listed
    obtain ⟨name, value⟩ := m
    simp only [object.sizeOf_spec, Prod.mk.sizeOf_spec] at smaller ⊢
    omega

/-- A value is taken whole when it is within what can be held and its strings are texts. -/
theorem isSound_iff {v : Json} : v.isSound = true ↔ v.Fits ∧ v.IsText := by
  rw [isSound, soundWithin_iff]
  constructor
  · intro all
    refine ⟨⟨?_, fun depth n inside => all depth _ inside⟩,
      ⟨fun depth s inside => all depth _ inside, fun depth members inside => (all depth _ inside).2⟩⟩
    rintro depth w inside (⟨items, rfl⟩ | ⟨members, rfl⟩)
    · exact all depth _ inside
    · exact (all depth _ inside).1
  · rintro ⟨⟨nesting, numbers⟩, ⟨strings, names⟩⟩ depth w inside
    cases w with
    | null | bool => trivial
    | number n => exact numbers depth n inside
    | string s => exact strings depth s inside
    | array items => exact nesting depth _ inside (.inl ⟨items, rfl⟩)
    | object members => exact ⟨nesting depth _ inside (.inr ⟨members, rfl⟩), names depth members inside⟩

/-- The value of a member is taken whole when the object is. -/
theorem isSound_of_member {members : List (Option String × Json)} {m : Option String × Json} (listed : m ∈ members)
    (sound : (object members).isSound = true) : m.2.isSound = true := by
  rw [isSound_iff] at sound ⊢
  obtain ⟨⟨nesting, numbers⟩, ⟨strings, names⟩⟩ := sound
  refine ⟨⟨fun depth w inner nested => ?_, fun depth n inner => numbers _ n (.member listed inner)⟩,
    ⟨fun depth s inner => strings _ s (.member listed inner),
      fun depth ms inner => names _ ms (.member listed inner)⟩⟩
  exact Nat.lt_of_succ_lt (nesting _ w (.member listed inner) nested)

/-! ## The values of a name -/

/-- The values that the members of an object give to a name. -/
def named (name : String) (members : List (Option String × Json)) : List Json :=
  members.filterMap fun m => if m.1 = some name then some m.2 else none

theorem mem_named {name : String} {members : List (Option String × Json)} {v : Json} :
    v ∈ named name members ↔ (some name, v) ∈ members := by
  simp [named, List.mem_filterMap]

theorem named_cons (name : String) (m : Option String × Json) (members : List (Option String × Json)) :
    named name (m :: members) = if m.1 = some name then m.2 :: named name members else named name members := by
  rw [named, List.filterMap_cons]
  split <;> simp_all [named]

/-- An object is taken for one member when its names are texts and no more than one member has the name. -/
theorem named?_singleton_iff {name : String} {members : List (Option String × Json)} {fs : Fields Json} :
    named? [name] members = some fs ↔ (∀ m ∈ members, m.1.isSome = true) ∧
      (named name members).length ≤ 1 ∧ fs = (named name members).map fun v => (name, v) := by
  induction members generalizing fs with
  | nil =>
    constructor
    · rintro ⟨⟩
      exact ⟨nofun, Nat.zero_le 1, rfl⟩
    · rintro ⟨-, -, rfl⟩
      rfl
  | cons m members ih =>
    obtain ⟨label | label, v⟩ := m
    · exact iff_of_false (by simp [named?]) fun ⟨texts, _⟩ => absurd (texts _ List.mem_cons_self) nofun
    rw [named?_cons_iff, named_cons]
    simp only [ih, List.mem_singleton, Option.some_inj, List.forall_mem_cons, Option.isSome_some, true_and]
    constructor
    · rintro ⟨rest, ⟨texts, once, rfl⟩, ⟨rfl, absent, rfl⟩ | ⟨other, rfl⟩⟩
      · have nothing : named label members = [] := by
          rw [List.eq_nil_iff_forall_not_mem]
          intro w listed
          rw [List.lookup_eq_none_iff] at absent
          exact absurd (absent _ (List.mem_map_of_mem listed)) (by simp)
        rw [if_pos rfl, nothing]
        exact ⟨texts, Nat.le_refl 1, rfl⟩
      · rw [if_neg other]
        exact ⟨texts, once, rfl⟩
    · rintro ⟨texts, once, rfl⟩
      by_cases same : label = name
      · subst same
        rw [if_pos rfl, List.length_cons] at once
        have nothing : named label members = [] := List.eq_nil_of_length_eq_zero (by omega)
        exact ⟨[], ⟨texts, by simp [nothing], by simp [nothing]⟩, .inl ⟨rfl, rfl, by simp [nothing]⟩⟩
      · rw [if_neg same] at once ⊢
        exact ⟨_, ⟨texts, once, rfl⟩, .inr ⟨same, rfl⟩⟩

end Json

end CallDesk
