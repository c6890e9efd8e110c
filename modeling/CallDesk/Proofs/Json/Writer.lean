import CallDesk.Proofs.Json.Scalar

/-! # Reading what was written

A value whose strings are texts and whose numbers are spelled as JSON spells them is written in a form that
the reader takes for the same value. What was written ends where the reader says that it ends, so that this
holds of a value inside of another one too.
-/

namespace CallDesk

open Text

namespace Json

/-! ## Values that can be written -/

mutual

/-- Whether every string of a value is a text, and every number is spelled as JSON spells numbers. -/
def isWritable : Json → Bool
  | .null => true
  | .bool _ => true
  | .number n => n.isSpelled
  | .string s => s.isSome
  | .array items => itemsWritable items
  | .object members => membersWritable members

def itemsWritable : List Json → Bool
  | [] => true
  | v :: rest => isWritable v && itemsWritable rest

/-- `isWritable` for the members of an object, names included. -/
def membersWritable : List (Option String × Json) → Bool
  | [] => true
  | (name, v) :: rest => name.isSome && isWritable v && membersWritable rest

end

theorem itemsWritable_iff {items : List Json} : itemsWritable items = true ↔ ∀ v ∈ items, v.isWritable = true := by
  induction items with
  | nil => simp [itemsWritable]
  | cons v items ih => simp [itemsWritable, ih]

theorem membersWritable_iff {members : List (Option String × Json)} :
    membersWritable members = true ↔ ∀ m ∈ members, m.1.isSome = true ∧ m.2.isWritable = true := by
  induction members with
  | nil => simp [membersWritable]
  | cons m members ih => simp [membersWritable, ih]

/-- A byte that a value can start with. -/
structure Starts (b : UInt8) : Prop where
  visible : isSpace b = false
  opens : b ≠ 93

/-- A number starts with a sign or a digit. -/
theorem codes_numeral_start {n : Numeral} (spelled : n.isSpelled = true) :
    ∃ b inner, codes n.render = b :: inner ∧ (b = 45 ∨ ∃ d : Digit, b = asciiByte d.char) := by
  rw [codes_numeral]
  cases n.negative with
  | true => exact ⟨45, _, rfl, .inl rfl⟩
  | false =>
    have some : n.whole ≠ [] := by
      intro none
      rw [Numeral.isSpelled, none] at spelled
      contradiction
    obtain ⟨d, others, whole⟩ := List.exists_cons_of_ne_nil some
    rw [whole, digitCodes_cons]
    exact ⟨asciiByte d.char, _, rfl, .inr ⟨d, rfl⟩⟩

/-- A value starts with a byte that is neither white space nor the end of an array. -/
theorem codes_start {v : Json} (writable : v.isWritable = true) :
    ∃ b inner, codes v.chars = b :: inner ∧ Starts b := by
  cases v with
  | null => exact ⟨110, _, rfl, by decide, by decide⟩
  | bool b =>
    cases b with
    | true => exact ⟨116, _, rfl, by decide, by decide⟩
    | false => exact ⟨102, _, rfl, by decide, by decide⟩
  | number n =>
    have all : ∀ d : Fin 10, isSpace (asciiByte (Digit.char d)) = false ∧ asciiByte (Digit.char d) ≠ 93 := by decide
    rw [isWritable] at writable
    obtain ⟨b, inner, start, rfl | ⟨d, rfl⟩⟩ := codes_numeral_start writable
    · exact ⟨45, inner, by rw [chars, start], by decide, by decide⟩
    · exact ⟨_, inner, by rw [chars, start], (all d).1, (all d).2⟩
  | string s =>
    obtain ⟨inner, start, -⟩ := stringOff?_quote (s.getD "") []
    rw [List.append_nil] at start
    exact ⟨34, inner, by rw [chars, start], by decide, by decide⟩
  | array items => exact ⟨91, _, by rw [chars, codes_cons (by decide)]; rfl, by decide, by decide⟩
  | object members => exact ⟨123, _, by rw [chars, codes_cons (by decide)]; rfl, by decide, by decide⟩

/-- With enough fuel, a reader gives something. -/
def Eventually {α : Type} (read : Nat → Option α) (a : α) : Prop := ∃ least, ∀ fuel, least ≤ fuel → read fuel = some a

/-- A value is read from its text, whatever comes after its end. -/
def Reads (v : Json) : Prop :=
  ∀ rest, Ends rest → Eventually (fun fuel => valueOff? fuel (codes v.chars ++ rest)) (v, rest)

theorem eventually_of_front {s rest : Bytes} {v : Json} {least : Nat}
    (front : ∀ fuel, least ≤ fuel → Front fuel s v rest) : Eventually (fun fuel => valueOff? fuel s) (v, rest) := by
  refine ⟨least + 1, fun fuel enough => ?_⟩
  obtain ⟨k, rfl⟩ : ∃ k, fuel = k + 1 := ⟨fuel - 1, by omega⟩
  exact valueOff?_succ_iff.mpr (front k (by omega))

/-- A word or a number is read. -/
theorem reads_scalar {v : Json} {b : UInt8} {inner : Bytes} (start : codes v.chars = b :: inner)
    (visible : isSpace b = false) (plain : (b == 34) = false ∧ (b == 91) = false ∧ (b == 123) = false)
    (off : ∀ rest, Ends rest → scalarOff? (codes v.chars ++ rest) = some (v, rest)) : v.Reads := by
  intro rest ends
  have off := off rest ends
  rw [start, List.cons_append] at off ⊢
  exact eventually_of_front fun fuel (_ : 0 ≤ fuel) => .scalar (skipSpace_cons visible _) plain off

theorem reads_number {n : Numeral} (spelled : n.isSpelled = true) : (number n).Reads := by
  have all : ∀ d : Fin 10, isSpace (asciiByte (Digit.char d)) = false ∧ (asciiByte (Digit.char d) == 34) = false ∧
      (asciiByte (Digit.char d) == 91) = false ∧ (asciiByte (Digit.char d) == 123) = false ∧
      (asciiByte (Digit.char d) == 116) = false ∧ (asciiByte (Digit.char d) == 102) = false ∧
      (asciiByte (Digit.char d) == 110) = false := by decide
  obtain ⟨b, inner, start, first⟩ := codes_numeral_start spelled
  have facts : isSpace b = false ∧ (b == 34) = false ∧ (b == 91) = false ∧ (b == 123) = false ∧
      (b == 116) = false ∧ (b == 102) = false ∧ (b == 110) = false := by
    rcases first with rfl | ⟨d, rfl⟩
    · decide
    · exact all d
  obtain ⟨visible, quote, bracket, brace, t, f, n'⟩ := facts
  have written : codes (number n).chars = codes n.render := by rw [chars]
  refine reads_scalar (written.trans start) visible ⟨quote, bracket, brace⟩ fun rest ends => ?_
  have numeral := numeralOff?_codes ends spelled
  rw [start, List.cons_append] at numeral
  rw [written, start, List.cons_append, scalarOff?]
  simp only [t, f, n', Bool.false_eq_true, ↓reduceIte, numeral, Option.map_some]

theorem reads_string (s : String) : (string (some s)).Reads := by
  intro rest ends
  obtain ⟨inner, start, text⟩ := stringOff?_quote s rest
  have written : codes (string (some s)).chars = codes (quote s) := by rw [chars, Option.getD_some]
  rw [written, start]
  exact eventually_of_front fun fuel (_ : 0 ≤ fuel) => .string (skipSpace_cons (by decide) _) text

/-! ## Parts of values -/

/-- Written items go on with a comma or end with a bracket. -/
theorem ends_itemChars (items : List Json) (rest : Bytes) : Ends (codes (itemChars false items) ++ rest) := by
  intro b first
  cases items with
  | nil =>
    rw [itemChars, codes_cons (by decide)] at first
    exact .inr (.inl (Option.some.inj first).symm)
  | cons v items =>
    rw [itemChars, if_neg (by decide), List.cons_append, List.cons_append, codes_cons (by decide)] at first
    exact .inl (Option.some.inj first).symm

/-- The items of an array are read one after the other. -/
theorem reads_items {v : Json} {items : List Json} (each : ∀ w ∈ v :: items, w.Reads) (read : List Json)
    (rest : Bytes) :
    Eventually (fun fuel => itemsOff? fuel read (codes (v.chars ++ itemChars false items) ++ rest))
      (array (read.reverse ++ v :: items), rest) := by
  induction items generalizing v read with
  | nil =>
    obtain ⟨least, first⟩ := each v List.mem_cons_self _ (ends_itemChars [] rest)
    refine ⟨least + 1, fun fuel enough => ?_⟩
    obtain ⟨k, rfl⟩ : ∃ k, fuel = k + 1 := ⟨fuel - 1, by omega⟩
    rw [codes_append, List.append_assoc]
    refine itemsOff?_succ_iff.mpr ⟨v, _, first k (by omega), .inr ⟨rest, ?_, ?_⟩⟩
    · rw [itemChars, codes_cons (by decide), List.cons_append]
      exact skipSpace_cons (by decide) _
    · rw [List.reverse_cons]
  | cons w items ih =>
    obtain ⟨least, first⟩ := each v List.mem_cons_self _ (ends_itemChars (w :: items) rest)
    obtain ⟨least', others⟩ := ih (fun x member => each x (List.mem_cons_of_mem v member)) (v :: read)
    refine ⟨max least least' + 1, fun fuel enough => ?_⟩
    obtain ⟨k, rfl⟩ : ∃ k, fuel = k + 1 := ⟨fuel - 1, by omega⟩
    rw [List.reverse_cons, List.append_assoc, List.singleton_append] at others
    rw [codes_append, List.append_assoc]
    refine itemsOff?_succ_iff.mpr ⟨v, _, first k (by omega), .inl ⟨_, ?_, others k (by omega)⟩⟩
    rw [itemChars, if_neg (by decide), List.append_assoc, List.singleton_append, codes_cons (by decide)]
    exact skipSpace_cons (by decide) _

/-- The text of a member of an object. -/
def memberText (m : Option String × Json) : List Char := quote (m.1.getD "") ++ ':' :: m.2.chars

theorem memberChars_cons (first : Bool) (m : Option String × Json) (members : List (Option String × Json)) :
    memberChars first (m :: members) =
      (if first then [] else [',']) ++ (memberText m ++ memberChars false members) := by
  rw [memberChars, memberText]
  simp only [List.append_assoc, List.cons_append]

/-- Written members go on with a comma or end with a brace. -/
theorem ends_memberChars (members : List (Option String × Json)) (rest : Bytes) :
    Ends (codes (memberChars false members) ++ rest) := by
  intro b first
  cases members with
  | nil =>
    rw [memberChars, codes_cons (by decide)] at first
    exact .inr (.inr (Option.some.inj first).symm)
  | cons m members =>
    rw [memberChars_cons, if_neg (by decide), List.singleton_append, codes_cons (by decide)] at first
    exact .inl (Option.some.inj first).symm

/-- A member is read when its value is. -/
theorem reads_member {m : Option String × Json} (named : m.1.isSome = true) (value : m.2.Reads) {rest : Bytes}
    (ends : Ends rest) :
    ∃ least, ∀ fuel, least ≤ fuel → Member fuel (codes (memberText m) ++ rest) m.1 m.2 rest := by
  obtain ⟨name, v⟩ := m
  obtain ⟨name, rfl⟩ := Option.isSome_iff_exists.mp named
  obtain ⟨least, read⟩ := value rest ends
  obtain ⟨inner, start, text⟩ := stringOff?_quote name (58 :: (codes v.chars ++ rest))
  have written : codes (memberText (some name, v)) ++ rest = codes (quote name) ++ 58 :: (codes v.chars ++ rest) := by
    rw [memberText, codes_append, codes_cons (by decide), List.append_assoc]
    rfl
  refine ⟨least, fun fuel enough => ⟨58 :: (codes v.chars ++ rest), codes v.chars ++ rest, ?_, ?_, read fuel enough⟩⟩
  · rw [written, start, skipSpace_cons (by decide)]
    exact text
  · exact skipSpace_cons (by decide) _

/-- The members of an object are read one after the other. -/
theorem reads_members {m : Option String × Json} {members : List (Option String × Json)}
    (each : ∀ w ∈ m :: members, w.1.isSome = true ∧ w.2.Reads) (read : List (Option String × Json)) (rest : Bytes) :
    Eventually (fun fuel => membersOff? fuel read (codes (memberText m ++ memberChars false members) ++ rest))
      (object (read.reverse ++ m :: members), rest) := by
  induction members generalizing m read with
  | nil =>
    obtain ⟨named, value⟩ := each m List.mem_cons_self
    obtain ⟨least, first⟩ := reads_member named value (ends_memberChars [] rest)
    refine ⟨least + 1, fun fuel enough => ?_⟩
    obtain ⟨k, rfl⟩ : ∃ k, fuel = k + 1 := ⟨fuel - 1, by omega⟩
    rw [codes_append, List.append_assoc]
    refine membersOff?_succ_iff.mpr ⟨m.1, m.2, _, first k (by omega), .inr ⟨rest, ?_, ?_⟩⟩
    · rw [memberChars, codes_cons (by decide), List.cons_append]
      exact skipSpace_cons (by decide) _
    · rw [List.reverse_cons]
  | cons w members ih =>
    obtain ⟨named, value⟩ := each m List.mem_cons_self
    obtain ⟨least, first⟩ := reads_member named value (ends_memberChars (w :: members) rest)
    obtain ⟨least', others⟩ := ih (fun x member => each x (List.mem_cons_of_mem m member)) (m :: read)
    refine ⟨max least least' + 1, fun fuel enough => ?_⟩
    obtain ⟨k, rfl⟩ : ∃ k, fuel = k + 1 := ⟨fuel - 1, by omega⟩
    rw [List.reverse_cons, List.append_assoc, List.singleton_append] at others
    rw [codes_append, List.append_assoc]
    refine membersOff?_succ_iff.mpr ⟨m.1, m.2, _, first k (by omega), .inl ⟨_, ?_, others k (by omega)⟩⟩
    rw [memberChars_cons, if_neg (by decide), List.singleton_append, codes_cons (by decide)]
    exact skipSpace_cons (by decide) _

theorem reads_array {items : List Json} (writable : ∀ v ∈ items, v.isWritable = true)
    (each : ∀ v ∈ items, v.Reads) : (array items).Reads := by
  intro rest ends
  rw [chars, codes_cons (by decide)]
  cases items with
  | nil =>
    exact eventually_of_front fun fuel (_ : 0 ≤ fuel) => .noItems (skipSpace_cons (by decide) _)
      (skipSpace_cons (by decide) rest)
  | cons v items =>
    obtain ⟨b, inner, start, starts⟩ := codes_start (writable v List.mem_cons_self)
    obtain ⟨least, read⟩ := reads_items each [] rest
    have front : skipSpace (codes (v.chars ++ itemChars false items) ++ rest) =
        codes (v.chars ++ itemChars false items) ++ rest := by
      rw [codes_append, start, List.cons_append, List.cons_append]
      exact skipSpace_cons starts.visible _
    rw [itemChars, if_pos rfl, List.nil_append, List.cons_append]
    refine eventually_of_front fun fuel (enough : least ≤ fuel) =>
      .items (skipSpace_cons (by decide) _) (fun after close => ?_) (by rw [front]; exact read fuel enough)
    rw [front, codes_append, start, List.cons_append, List.cons_append] at close
    exact starts.opens (List.cons.inj close).1

theorem reads_object {members : List (Option String × Json)}
    (each : ∀ m ∈ members, m.1.isSome = true ∧ m.2.Reads) : (object members).Reads := by
  intro rest ends
  rw [chars, codes_cons (by decide)]
  cases members with
  | nil =>
    exact eventually_of_front fun fuel (_ : 0 ≤ fuel) => .noMembers (skipSpace_cons (by decide) _)
      (skipSpace_cons (by decide) rest)
  | cons m members =>
    obtain ⟨least, read⟩ := reads_members each [] rest
    obtain ⟨inner, start⟩ : ∃ inner, codes (memberText m ++ memberChars false members) ++ rest = 34 :: inner := by
      rw [memberText, quote, List.cons_append, List.cons_append, List.cons_append, codes_cons (by decide)]
      exact ⟨_, rfl⟩
    have front : skipSpace (codes (memberText m ++ memberChars false members) ++ rest) =
        codes (memberText m ++ memberChars false members) ++ rest := by
      rw [start]
      exact skipSpace_cons (by decide) _
    rw [memberChars_cons, if_pos rfl, List.nil_append, List.cons_append]
    refine eventually_of_front fun fuel (enough : least ≤ fuel) =>
      .members (skipSpace_cons (by decide) _) (fun after close => ?_) (by rw [front]; exact read fuel enough)
    rw [front, start] at close
    exact absurd (List.cons.inj close).1 (by decide)

/-- Every value that can be written is read from its text. -/
theorem reads_of_writable : ∀ v : Json, v.isWritable = true → v.Reads
  | null, _ => reads_scalar (b := 110) rfl (by decide) (by decide) fun _ _ => rfl
  | bool true, _ => reads_scalar (b := 116) rfl (by decide) (by decide) fun _ _ => rfl
  | bool false, _ => reads_scalar (b := 102) rfl (by decide) (by decide) fun _ _ => rfl
  | number _, writable => reads_number writable
  | string s, writable => by
    obtain ⟨s, rfl⟩ := Option.isSome_iff_exists.mp writable
    exact reads_string s
  | array items, writable => by
    have each := itemsWritable_iff.mp writable
    exact reads_array each fun v member => reads_of_writable v (each v member)
  | object members, writable => by
    have each := membersWritable_iff.mp writable
    exact reads_object fun m member => ⟨(each m member).1, reads_of_writable m.2 (each m member).2⟩
termination_by v => v
decreasing_by
  · have smaller := List.sizeOf_lt_of_mem member
    simp only [array.sizeOf_spec]
    omega
  · have smaller := List.sizeOf_lt_of_mem member
    obtain ⟨name, value⟩ := m
    simp only [object.sizeOf_spec, Prod.mk.sizeOf_spec] at smaller ⊢
    omega

/-- Every value that can be written is read back from its text. -/
theorem read?_render {v : Json} (writable : v.isWritable = true) : read? (utf8 v.render) = some v := by
  obtain ⟨least, read⟩ := reads_of_writable v writable [] (by rintro b ⟨⟩)
  have whole := takeValue?_of_valueOff? (read least (Nat.le_refl least))
  rw [List.append_nil, ← utf8_render] at whole
  simp only [read?, whole]
  rfl

end Json

end CallDesk
