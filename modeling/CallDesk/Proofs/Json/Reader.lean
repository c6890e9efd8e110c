import CallDesk.Json.Reader

/-! # The fuel of the reader

A value is taken off the front of a text with fuel that bounds the nesting and the number of its parts.
How much fuel there is makes no difference once it is enough, and twice the bytes that the value takes
are always enough. So a value is read inside of a larger one as it is read alone.
-/

namespace CallDesk.Json

open Text

/-! ## What a reader leaves -/

theorem length_skipSpace_le (s : Bytes) : (skipSpace s).length ≤ s.length :=
  (List.dropWhile_sublist _).length_le

/-- A string takes at least its closing quote. -/
theorem length_stringOff?_lt {s rest : Bytes} {p : Partial} {mode : StringMode} {t : Option String}
    (off : stringOff? p mode s = some (t, rest)) : rest.length < s.length := by
  fun_induction stringOff? p mode s with
  | case1 => contradiction
  | case2 =>
    obtain ⟨-, rfl⟩ := Prod.mk.inj (Option.some.inj off)
    exact Nat.lt_succ_self _
  | case4 | case8 | case9 => contradiction
  | case3 _ _ _ _ _ ih | case5 _ _ _ _ _ _ ih | case6 _ _ _ _ ih | case7 _ _ _ _ _ _ ih | case10 _ _ _ _ _ _ ih
  | case11 _ _ _ _ _ _ _ _ ih => exact Nat.lt_succ_of_lt (ih off)

theorem length_quotedOff?_lt {s rest : Bytes} {t : Option String} (off : quotedOff? s = some (t, rest)) :
    rest.length < s.length := by
  rw [quotedOff?.eq_def] at off
  split at off
  · exact Nat.lt_succ_of_lt (length_stringOff?_lt off)
  · contradiction

/-- Every digit is one byte. -/
theorem length_digitsOff (read : List Digit) (s : Bytes) :
    (digitsOff read s).1.length + (digitsOff read s).2.length = read.length + s.length := by
  induction s generalizing read with
  | nil => simp [digitsOff]
  | cons b s ih =>
    rw [digitsOff]
    split
    · rw [ih, List.length_cons, List.length_cons]
      omega
    · rw [List.length_reverse]

theorem length_digitsOff_le {s rest : Bytes} {ds : List Digit} (off : digitsOff [] s = (ds, rest)) :
    rest.length ≤ s.length := by
  have counted := length_digitsOff [] s
  simp only [off, List.length_nil] at counted
  omega

theorem length_wholeOff?_lt {s rest : Bytes} {ds : List Digit} (off : wholeOff? s = some (ds, rest)) :
    rest.length < s.length := by
  have counted := length_digitsOff [] s
  cases found : digitsOff [] s with
  | mk read left =>
    rw [found, List.length_nil, Nat.zero_add] at counted
    rw [wholeOff?, found] at off
    cases read with
    | nil => contradiction
    | cons d read =>
      split at off
      · contradiction
      · contradiction
      · obtain ⟨-, rfl⟩ := Prod.mk.inj (Option.some.inj off)
        simp only [List.length_cons] at counted
        omega

theorem length_fractionOff?_le {s rest : Bytes} {ds : List Digit} (off : fractionOff? s = some (ds, rest)) :
    rest.length ≤ s.length := by
  rw [fractionOff?.eq_def] at off
  split at off
  · split at off
    · contradiction
    · exact Nat.le_succ_of_le (length_digitsOff_le (Option.some.inj off))
  · obtain ⟨-, rfl⟩ := Prod.mk.inj (Option.some.inj off)
    exact Nat.le_refl _

theorem length_exponentOff?_le {s rest : Bytes} {exponent : Option (Bool × List Digit)}
    (off : exponentOff? s = some (exponent, rest)) : rest.length ≤ s.length := by
  cases s with
  | nil =>
    obtain ⟨-, rfl⟩ := Prod.mk.inj (Option.some.inj off)
    exact Nat.le_refl _
  | cons b s =>
    simp only [exponentOff?] at off
    split at off
    · split at off
      · contradiction
      · rename_i found
        obtain ⟨-, rfl⟩ := Prod.mk.inj (Option.some.inj off)
        apply Nat.le_trans (length_digitsOff_le found)
        apply Nat.le_succ_of_le
        split <;> simp
    · obtain ⟨-, rfl⟩ := Prod.mk.inj (Option.some.inj off)
      exact Nat.le_refl _

theorem length_numeralOff?_lt {s rest : Bytes} {n : Numeral} (off : numeralOff? s = some (n, rest)) :
    rest.length < s.length := by
  simp only [numeralOff?, Option.bind_eq_bind, Option.bind_eq_some_iff] at off
  obtain ⟨⟨whole, s₁⟩, first, ⟨fraction, s₂⟩, second, ⟨exponent, s₃⟩, third, made⟩ := off
  obtain ⟨-, rfl⟩ := Prod.mk.inj (Option.some.inj made)
  have unsigned : s₁.length < s.length := by
    apply Nat.lt_of_lt_of_le (length_wholeOff?_lt first)
    split <;> simp
  have inner : s₂.length ≤ s₁.length := length_fractionOff?_le second
  have last : s₃.length ≤ s₂.length := length_exponentOff?_le third
  exact Nat.lt_of_le_of_lt (Nat.le_trans last inner) unsigned

theorem length_wordOff?_lt {word s rest : Bytes} {v w : Json} (letters : word ≠ [])
    (off : wordOff? word v s = some (w, rest)) : w = v ∧ rest.length < s.length := by
  rw [wordOff?] at off
  split at off
  · next starts =>
    obtain ⟨rfl, rfl⟩ := Prod.mk.inj (Option.some.inj off)
    have within := (List.isPrefixOf_iff_prefix.mp starts).length_le
    have long := List.length_pos_iff.mpr letters
    rw [List.length_drop]
    exact ⟨rfl, by omega⟩
  · contradiction

/-- Takes a word or a number off the front. -/
def scalarOff? : Bytes → Option (Json × Bytes)
  | [] => none
  | b :: rest =>
    if b == 116 then wordOff? [116, 114, 117, 101] (.bool true) (b :: rest)
    else if b == 102 then wordOff? [102, 97, 108, 115, 101] (.bool false) (b :: rest)
    else if b == 110 then wordOff? [110, 117, 108, 108] .null (b :: rest)
    else (numeralOff? (b :: rest)).map fun (n, rest) => (.number n, rest)

/-- Whether a value is a word or a number. -/
def isScalar : Json → Bool
  | .null | .bool _ | .number _ => true
  | _ => false

theorem scalarOff?_spec {s rest : Bytes} {v : Json} (off : scalarOff? s = some (v, rest)) :
    v.isScalar = true ∧ rest.length < s.length := by
  cases s with
  | nil => contradiction
  | cons b s =>
    have word {word : Bytes} {w : Json} (letters : word ≠ []) (scalar : w.isScalar = true)
        (off : wordOff? word w (b :: s) = some (v, rest)) : v.isScalar = true ∧ rest.length < (b :: s).length := by
      obtain ⟨rfl, less⟩ := length_wordOff?_lt letters off
      exact ⟨scalar, less⟩
    rw [scalarOff?] at off
    split at off
    · exact word (by decide) rfl off
    split at off
    · exact word (by decide) rfl off
    split at off
    · exact word (by decide) rfl off
    · obtain ⟨⟨n, after⟩, numeral, made⟩ := Option.map_eq_some_iff.mp off
      obtain ⟨rfl, rfl⟩ := Prod.mk.inj made
      exact ⟨rfl, length_numeralOff?_lt numeral⟩

/-! ## What a value begins with -/

/-- How a value is taken off the front of a text, told by its first character. -/
inductive Front (fuel : Nat) (s : Bytes) : Json → Bytes → Prop
  | string {rest after : Bytes} {t : Option String} (start : skipSpace s = 34 :: rest)
      (text : stringOff? {} .plain rest = some (t, after)) : Front fuel s (.string t) after
  | noItems {rest after : Bytes} (start : skipSpace s = 91 :: rest) (close : skipSpace rest = 93 :: after) :
      Front fuel s (.array []) after
  | items {rest after : Bytes} {v : Json} (start : skipSpace s = 91 :: rest)
      (some : ∀ after, skipSpace rest ≠ 93 :: after) (inner : itemsOff? fuel [] (skipSpace rest) = .some (v, after)) :
      Front fuel s v after
  | noMembers {rest after : Bytes} (start : skipSpace s = 123 :: rest) (close : skipSpace rest = 125 :: after) :
      Front fuel s (.object []) after
  | members {rest after : Bytes} {v : Json} (start : skipSpace s = 123 :: rest)
      (some : ∀ after, skipSpace rest ≠ 125 :: after)
      (inner : membersOff? fuel [] (skipSpace rest) = .some (v, after)) : Front fuel s v after
  | scalar {b : UInt8} {rest after : Bytes} {v : Json} (start : skipSpace s = b :: rest)
      (plain : (b == 34) = false ∧ (b == 91) = false ∧ (b == 123) = false)
      (off : scalarOff? (b :: rest) = .some (v, after)) : Front fuel s v after

variable {fuel : Nat}

theorem valueOff?_succ_iff {s after : Bytes} {v : Json} :
    valueOff? (fuel + 1) s = some (v, after) ↔ Front fuel s v after := by
  constructor
  · intro off
    rw [valueOff?] at off
    split at off
    · contradiction
    next b rest start =>
    split at off
    · next quote =>
      obtain rfl := beq_iff_eq.mp quote
      obtain ⟨⟨t, left⟩, text, made⟩ := Option.map_eq_some_iff.mp off
      obtain ⟨rfl, rfl⟩ := Prod.mk.inj made
      exact .string start text
    next noQuote =>
    split at off
    · next bracket =>
      obtain rfl := beq_iff_eq.mp bracket
      split at off
      · next close =>
        obtain ⟨rfl, rfl⟩ := Prod.mk.inj (Option.some.inj off)
        exact .noItems start close
      · next other => exact .items start other off
    next noBracket =>
    split at off
    · next brace =>
      obtain rfl := beq_iff_eq.mp brace
      split at off
      · next close =>
        obtain ⟨rfl, rfl⟩ := Prod.mk.inj (Option.some.inj off)
        exact .noMembers start close
      · next other => exact .members start other off
    next noBrace =>
    simp only [Bool.not_eq_true] at noQuote noBracket noBrace
    exact .scalar start ⟨noQuote, noBracket, noBrace⟩ off
  · intro front
    cases front with
    | string start text => simp [valueOff?, start, text]
    | noItems start close => simp [valueOff?, start, close]
    | items start some inner =>
      simp only [valueOff?, start]
      exact inner
    | noMembers start close => simp [valueOff?, start, close]
    | members start some inner =>
      simp only [valueOff?, start]
      exact inner
    | scalar start plain off =>
      simp only [valueOff?, start, plain, Bool.false_eq_true, ↓reduceIte]
      exact off

/-! ## Parts of arrays and objects -/

/-- An item is followed by a bracket, or by a comma and more items. -/
theorem itemsOff?_succ_iff {read : List Json} {s : Bytes} {found : Json × Bytes} :
    itemsOff? (fuel + 1) read s = some found ↔ ∃ v left, valueOff? fuel s = some (v, left) ∧
      ((∃ rest, skipSpace left = 44 :: rest ∧ itemsOff? fuel (v :: read) rest = some found) ∨
        ∃ rest, skipSpace left = 93 :: rest ∧ found = (.array (v :: read).reverse, rest)) := by
  constructor
  · intro off
    rw [itemsOff?] at off
    split at off
    · contradiction
    next v left first =>
    refine ⟨v, left, first, ?_⟩
    split at off
    · next rest comma => exact .inl ⟨rest, comma, off⟩
    · next rest close => exact .inr ⟨rest, close, (Option.some.inj off).symm⟩
    · contradiction
  · rintro ⟨v, left, first, ⟨rest, comma, more⟩ | ⟨rest, close, rfl⟩⟩
    · simp only [itemsOff?, first, comma, more]
    · simp only [itemsOff?, first, close]

/-- A member is a name, a colon and a value. -/
def Member (fuel : Nat) (s : Bytes) (name : Option String) (v : Json) (left : Bytes) : Prop :=
  ∃ after inner, quotedOff? (skipSpace s) = some (name, after) ∧ skipSpace after = 58 :: inner ∧
    valueOff? fuel inner = some (v, left)

/-- A member is followed by a brace, or by a comma and more members. -/
theorem membersOff?_succ_iff {read : List (Option String × Json)} {s : Bytes} {found : Json × Bytes} :
    membersOff? (fuel + 1) read s = some found ↔ ∃ name v left, Member fuel s name v left ∧
      ((∃ rest, skipSpace left = 44 :: rest ∧ membersOff? fuel ((name, v) :: read) rest = some found) ∨
        ∃ rest, skipSpace left = 125 :: rest ∧ found = (.object ((name, v) :: read).reverse, rest)) := by
  constructor
  · intro off
    rw [membersOff?] at off
    split at off
    · contradiction
    next name after named =>
    split at off
    rotate_left
    · contradiction
    next inner colon =>
    split at off
    · contradiction
    next v left first =>
    refine ⟨name, v, left, ⟨after, inner, named, colon, first⟩, ?_⟩
    split at off
    · next rest comma => exact .inl ⟨rest, comma, off⟩
    · next rest close => exact .inr ⟨rest, close, (Option.some.inj off).symm⟩
    · contradiction
  · rintro ⟨name, v, left, ⟨after, inner, named, colon, first⟩, ⟨rest, comma, more⟩ | ⟨rest, close, rfl⟩⟩
    · simp only [membersOff?, named, colon, first, comma, more]
    · simp only [membersOff?, named, colon, first, close]

/-- The items of an array, from the first one to the closing bracket. -/
inductive Items : Nat → Bytes → List Json → Bytes → Prop
  | last {fuel : Nat} {s left rest : Bytes} {v : Json} (first : valueOff? fuel s = some (v, left))
      (close : skipSpace left = 93 :: rest) : Items (fuel + 1) s [v] rest
  | more {fuel : Nat} {s left after rest : Bytes} {v : Json} {items : List Json}
      (first : valueOff? fuel s = some (v, left)) (comma : skipSpace left = 44 :: after)
      (others : Items fuel after items rest) : Items (fuel + 1) s (v :: items) rest

/-- The members of an object, from the first one to the closing brace. -/
inductive Members : Nat → Bytes → List (Option String × Json) → Bytes → Prop
  | last {fuel : Nat} {s left rest : Bytes} {name : Option String} {v : Json} (first : Member fuel s name v left)
      (close : skipSpace left = 125 :: rest) : Members (fuel + 1) s [(name, v)] rest
  | more {fuel : Nat} {s left after rest : Bytes} {name : Option String} {v : Json}
      {members : List (Option String × Json)} (first : Member fuel s name v left)
      (comma : skipSpace left = 44 :: after) (others : Members fuel after members rest) :
      Members (fuel + 1) s ((name, v) :: members) rest

/-- The items come after those already read. -/
theorem exists_items {read : List Json} {s rest : Bytes} {w : Json} (off : itemsOff? fuel read s = some (w, rest)) :
    ∃ items, w = .array (read.reverse ++ items) ∧ Items fuel s items rest := by
  induction fuel generalizing read s with
  | zero =>
    rw [itemsOff?] at off
    contradiction
  | succ fuel ih =>
    obtain ⟨v, left, first, ⟨after, comma, more⟩ | ⟨after, close, same⟩⟩ := itemsOff?_succ_iff.mp off
    · obtain ⟨items, rfl, others⟩ := ih more
      refine ⟨v :: items, ?_, .more first comma others⟩
      rw [List.reverse_cons, List.append_assoc, List.singleton_append]
    · obtain ⟨rfl, rfl⟩ := Prod.mk.inj same
      exact ⟨[v], by rw [List.reverse_cons], .last first close⟩

/-- The members come after those already read. -/
theorem exists_members {read : List (Option String × Json)} {s rest : Bytes} {w : Json}
    (off : membersOff? fuel read s = some (w, rest)) :
    ∃ members, w = .object (read.reverse ++ members) ∧ Members fuel s members rest := by
  induction fuel generalizing read s with
  | zero =>
    rw [membersOff?] at off
    contradiction
  | succ fuel ih =>
    obtain ⟨name, v, left, first, ⟨after, comma, more⟩ | ⟨after, close, same⟩⟩ := membersOff?_succ_iff.mp off
    · obtain ⟨members, rfl, others⟩ := ih more
      refine ⟨(name, v) :: members, ?_, .more first comma others⟩
      rw [List.reverse_cons, List.append_assoc, List.singleton_append]
    · obtain ⟨rfl, rfl⟩ := Prod.mk.inj same
      exact ⟨[(name, v)], by rw [List.reverse_cons], .last first close⟩

/-! ## Enough fuel -/

/-- A value is read in the same way with any fuel that is at least twice the bytes it takes, less `spare`. -/
structure Settled (spare : Nat) (read : Nat → Option (Json × Bytes)) (s : Bytes) (found : Json × Bytes) : Prop where
  takes : found.2.length < s.length
  same : ∀ fuel, 2 * (s.length - found.2.length) ≤ fuel + spare → read fuel = some found

/-- What is read with some fuel is settled. -/
structure SettledAt (fuel : Nat) : Prop where
  value : ∀ s found, valueOff? fuel s = some found → Settled 1 (fun fuel => valueOff? fuel s) s found
  items : ∀ read s found, itemsOff? fuel read s = some found → Settled 2 (fun fuel => itemsOff? fuel read s) s found
  members : ∀ read s found, membersOff? fuel read s = some found →
    Settled 2 (fun fuel => membersOff? fuel read s) s found

theorem SettledAt.items_succ (settled : SettledAt fuel) {read : List Json} {s : Bytes} {found : Json × Bytes}
    (off : itemsOff? (fuel + 1) read s = some found) : Settled 2 (fun fuel => itemsOff? fuel read s) s found := by
  obtain ⟨v, left, first, next⟩ := itemsOff?_succ_iff.mp off
  obtain ⟨less, same⟩ := settled.value _ _ first
  have spaced := length_skipSpace_le left
  dsimp only at less same
  rcases next with ⟨rest, comma, more⟩ | ⟨rest, close, rfl⟩
  · obtain ⟨less', same'⟩ := settled.items _ _ _ more
    rw [comma, List.length_cons] at spaced
    refine ⟨by omega, fun fuel enough => ?_⟩
    obtain ⟨k, rfl⟩ : ∃ k, fuel = k + 1 := ⟨fuel - 1, by omega⟩
    exact itemsOff?_succ_iff.mpr ⟨v, left, same k (by omega), .inl ⟨rest, comma, same' k (by omega)⟩⟩
  · rw [close, List.length_cons] at spaced
    refine ⟨by dsimp only; omega, fun fuel enough => ?_⟩
    dsimp only at enough
    obtain ⟨k, rfl⟩ : ∃ k, fuel = k + 1 := ⟨fuel - 1, by omega⟩
    exact itemsOff?_succ_iff.mpr ⟨v, left, same k (by omega), .inr ⟨rest, close, rfl⟩⟩

/-- A member leaves less than it was taken from, and is read in the same way with enough fuel. -/
theorem SettledAt.member (settled : SettledAt fuel) {s left : Bytes} {name : Option String} {v : Json}
    (member : Member fuel s name v left) :
    left.length + 1 < s.length ∧ ∀ k, 2 * (s.length - left.length) ≤ k + 3 → Member k s name v left := by
  obtain ⟨after, inner, named, colon, first⟩ := member
  have unquoted := Nat.lt_of_lt_of_le (length_quotedOff?_lt named) (length_skipSpace_le s)
  have spaced := length_skipSpace_le after
  rw [colon, List.length_cons] at spaced
  obtain ⟨less, same⟩ := settled.value _ _ first
  dsimp only at less same
  exact ⟨by omega, fun k enough => ⟨after, inner, named, colon, same k (by omega)⟩⟩

theorem SettledAt.members_succ (settled : SettledAt fuel) {read : List (Option String × Json)} {s : Bytes}
    {found : Json × Bytes} (off : membersOff? (fuel + 1) read s = some found) :
    Settled 2 (fun fuel => membersOff? fuel read s) s found := by
  obtain ⟨name, v, left, member, next⟩ := membersOff?_succ_iff.mp off
  obtain ⟨less, same⟩ := settled.member member
  have spaced := length_skipSpace_le left
  rcases next with ⟨rest, comma, more⟩ | ⟨rest, close, rfl⟩
  · obtain ⟨less', same'⟩ := settled.members _ _ _ more
    rw [comma, List.length_cons] at spaced
    refine ⟨by omega, fun fuel enough => ?_⟩
    obtain ⟨k, rfl⟩ : ∃ k, fuel = k + 1 := ⟨fuel - 1, by omega⟩
    exact membersOff?_succ_iff.mpr ⟨name, v, left, same k (by omega), .inl ⟨rest, comma, same' k (by omega)⟩⟩
  · rw [close, List.length_cons] at spaced
    refine ⟨by dsimp only; omega, fun fuel enough => ?_⟩
    dsimp only at enough
    obtain ⟨k, rfl⟩ : ∃ k, fuel = k + 1 := ⟨fuel - 1, by omega⟩
    exact membersOff?_succ_iff.mpr ⟨name, v, left, same k (by omega), .inr ⟨rest, close, rfl⟩⟩

theorem SettledAt.value_succ (settled : SettledAt fuel) {s : Bytes} {found : Json × Bytes}
    (off : valueOff? (fuel + 1) s = some found) : Settled 1 (fun fuel => valueOff? fuel s) s found := by
  obtain ⟨v, after⟩ := found
  have spaced := length_skipSpace_le s
  -- what does not depend on the fuel, and what is one deeper
  have leaf (less : after.length < s.length) (front : ∀ fuel, Front fuel s v after) :
      Settled 1 (fun fuel => valueOff? fuel s) s (v, after) := by
    refine ⟨less, fun fuel enough => ?_⟩
    dsimp only at enough
    obtain ⟨k, rfl⟩ : ∃ k, fuel = k + 1 := ⟨fuel - 1, by omega⟩
    exact valueOff?_succ_iff.mpr (front k)
  have nested {inner : Bytes} {read : Nat → Option (Json × Bytes)} (short : inner.length < s.length)
      (rest : Settled 2 read inner (v, after)) (front : ∀ fuel, read fuel = some (v, after) → Front fuel s v after) :
      Settled 1 (fun fuel => valueOff? fuel s) s (v, after) := by
    obtain ⟨less, same⟩ := rest
    dsimp only at less same
    refine ⟨Nat.lt_trans less short, fun fuel enough => ?_⟩
    dsimp only at enough
    obtain ⟨k, rfl⟩ : ∃ k, fuel = k + 1 := ⟨fuel - 1, by omega⟩
    exact valueOff?_succ_iff.mpr (front k (same k (by omega)))
  cases valueOff?_succ_iff.mp off with
  | string start text =>
    rw [start, List.length_cons] at spaced
    have less := length_stringOff?_lt text
    exact leaf (by omega) fun fuel => .string start text
  | @noItems rest _ start close =>
    have inner := length_skipSpace_le rest
    rw [start, List.length_cons] at spaced
    rw [close, List.length_cons] at inner
    exact leaf (by omega) fun fuel => .noItems start close
  | @items rest _ _ start some inner =>
    have short := length_skipSpace_le rest
    rw [start, List.length_cons] at spaced
    exact nested (by omega) (settled.items _ _ _ inner) fun fuel again => .items start some again
  | @noMembers rest _ start close =>
    have inner := length_skipSpace_le rest
    rw [start, List.length_cons] at spaced
    rw [close, List.length_cons] at inner
    exact leaf (by omega) fun fuel => .noMembers start close
  | @members rest _ _ start some inner =>
    have short := length_skipSpace_le rest
    rw [start, List.length_cons] at spaced
    exact nested (by omega) (settled.members _ _ _ inner) fun fuel again => .members start some again
  | scalar start plain off =>
    have less := (scalarOff?_spec off).2
    rw [← start] at less
    exact leaf (by omega) fun fuel => .scalar start plain off

theorem settledAt (fuel : Nat) : SettledAt fuel := by
  induction fuel with
  | zero =>
    refine ⟨fun s found off => ?_, fun read s found off => ?_, fun read s found off => ?_⟩
    · rw [valueOff?] at off
      contradiction
    · rw [itemsOff?] at off
      contradiction
    · rw [membersOff?] at off
      contradiction
  | succ fuel ih => exact ⟨fun _ _ => ih.value_succ, fun _ _ _ => ih.items_succ, fun _ _ _ => ih.members_succ⟩

/-- A value that is read with some fuel is the value that is there. -/
theorem takeValue?_of_valueOff? {s : Bytes} {found : Json × Bytes} (off : valueOff? fuel s = some found) :
    takeValue? s = some found :=
  ((settledAt fuel).value s found off).same _ (by omega)

/-- A whole text begins with its value. -/
theorem front_of_read? {s : Bytes} {v : Json} (whole : read? s = some v) :
    ∃ rest, Front (2 * s.length + 1) s v rest ∧ skipSpace rest = [] := by
  rw [read?] at whole
  split at whole
  · next w rest taken =>
    split at whole
    · next done =>
      obtain rfl := Option.some.inj whole
      exact ⟨rest, valueOff?_succ_iff.mp taken, List.isEmpty_iff.mp done⟩
    · contradiction
  · contradiction

/-! ## Texts among values -/

theorem text?_eq_some_iff {v : Json} {t : String} : v.text? = some t ↔ v = .text t := by
  constructor
  · intro text
    cases v with
    | string s =>
      obtain rfl : s = some t := text
      rfl
    | null | bool _ | number _ | array _ | object _ => contradiction
  · rintro rfl
    rfl

end CallDesk.Json
