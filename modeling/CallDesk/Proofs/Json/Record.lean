import CallDesk.Json.Record
import CallDesk.Proofs.Json.Writer

/-! # Reading records that were written

What reads a type and what writes it fit together when everything that is written can be written as text and
is read as what it was. Numbers, texts, lists and the fields of a record fit together; a record does when all
of its fields do.
-/

namespace CallDesk

open Text

/-! ## Natural numbers -/

namespace Numeral

theorem isSpelled_ofNat (n : Nat) : (ofNat n).isSpelled = true := by
  rw [isSpelled, Bool.and_eq_true]
  refine ⟨?_, rfl⟩
  rcases Nat.lt_or_ge n 10 with small | large
  · rw [ofNat, digits_of_lt small]
  · have first := head?_digits_ne_zero (by omega : 0 < n)
    obtain ⟨d, others, written⟩ := List.exists_cons_of_ne_nil (digits_ne_nil n)
    rw [written] at first
    have leading : (d.val != 0) = true := by
      rw [bne_iff_ne]
      intro zero
      exact first (congrArg some (Fin.ext zero))
    rw [ofNat, written]
    cases others with
    | nil => rfl
    | cons e others => exact leading

/-- More digits make no number smaller. -/
theorem le_valueFrom (n : Nat) (ds : List Digit) : n ≤ valueFrom n ds := by
  induction ds generalizing n with
  | nil => exact Nat.le_refl n
  | cons d ds ih =>
    have further := ih (n * 10 + d.val)
    rw [valueFrom] at further ⊢
    rw [List.foldl_cons]
    omega

theorem gather_of_lt {n : Nat} {ds : List Digit} (small : valueFrom n ds < UInt64.size) :
    gather n ds = (valueFrom n ds, []) := by
  induction ds generalizing n with
  | nil => rfl
  | cons d ds ih =>
    have first := Nat.lt_of_le_of_lt (le_valueFrom (n * 10 + d.val) ds) small
    rw [gather, if_pos first, ih small]
    rfl

/-- A number of at most 64 bits is read exactly. -/
theorem number?_ofNat {n : Nat} (small : n < UInt64.size) : (ofNat n).number? = some (.natural n) := by
  have value : valueFrom 0 (digits n) = n := value_digits n
  have whole : gather 0 (ofNat n).whole = (n, []) := by
    rw [ofNat, gather_of_lt (by rw [value]; exact small), value]
  rw [number?, whole]
  rfl

end Numeral

namespace Json

theorem natWithin?_nat {limit n : Nat} (within : n ≤ limit) (small : limit < UInt64.size) :
    natWithin? limit (nat n) = some n := by
  rw [nat, natWithin?, Numeral.number?_ofNat (Nat.lt_of_le_of_lt within small)]
  exact if_pos within

/-! ## Readers and writers -/

/-- What is written of a type can be written as text, and is read as what it was. -/
structure Codec {α : Type} (read : Json → Option α) (write : α → Json) : Prop where
  writable : ∀ a, (write a).isWritable = true
  back : ∀ a, read (write a) = some a

section

variable {α : Type} {read : Json → Option α} {write : α → Json}

theorem codec_text : Codec text? text := ⟨fun _ => rfl, fun _ => rfl⟩

theorem codec_bool : Codec bool? bool := ⟨fun _ => rfl, fun _ => rfl⟩

theorem isWritable_nat (n : Nat) : (nat n).isWritable = true := Numeral.isSpelled_ofNat n

theorem codec_uint64 : Codec uint64? fun n : UInt64 => nat n.toNat where
  writable n := isWritable_nat _
  back n := by
    have within : n.toNat ≤ UInt64.size - 1 := Nat.le_sub_one_of_lt n.toNat_lt
    rw [uint64?, natWithin?_nat within (by decide), Option.map_some, UInt64.ofNat_toNat]

theorem codec_uint32 : Codec uint32? fun n : UInt32 => nat n.toNat where
  writable n := isWritable_nat _
  back n := by
    have within : n.toNat ≤ UInt32.size - 1 := Nat.le_sub_one_of_lt n.toNat_lt
    rw [uint32?, natWithin?_nat within (by decide), Option.map_some, UInt32.ofNat_toNat]

theorem codec_uint16 : Codec uint16? fun n : UInt16 => nat n.toNat where
  writable n := isWritable_nat _
  back n := by
    have within : n.toNat ≤ UInt16.size - 1 := Nat.le_sub_one_of_lt n.toNat_lt
    rw [uint16?, natWithin?_nat within (by decide), Option.map_some, UInt16.ofNat_toNat]

theorem isWritable_option (writable : ∀ a, (write a).isWritable = true) (o : Option α) :
    (option write o).isWritable = true := by
  cases o with
  | none => rfl
  | some a => exact writable a

theorem Codec.list (codec : Codec read write) : Codec (list? read) (Json.list write) where
  writable l := by
    rw [Json.list, isWritable, itemsWritable_iff]
    intro v member
    obtain ⟨a, -, rfl⟩ := List.mem_map.mp member
    exact codec.writable a
  back l := by
    rw [Json.list, list?]
    induction l with
    | nil => rfl
    | cons a l ih => simp [List.mapM_cons, codec.back, ih]

/-! ## Texts -/

/-- What a text says, taken as a type. -/
def decode? (read : Json → Option α) (s : Bytes) : Option α := (read? s).bind read

/-- The text that a value is written as. -/
def encode (write : α → Json) (a : α) : Bytes := utf8 (write a).render

/-- What is written is read back, and what a text says survives being written and read again. -/
structure RoundTrip (read : Json → Option α) (write : α → Json) : Prop where
  back : ∀ a, decode? read (encode write a) = some a
  again : ∀ s, ((decode? read s).bind fun a => decode? read (encode write a)) = decode? read s

theorem Codec.roundTrip (codec : Codec read write) : RoundTrip read write := by
  have back : ∀ a, decode? read (encode write a) = some a := by
    intro a
    rw [decode?, encode, read?_render (codec.writable a), Option.bind_some, codec.back a]
  refine ⟨back, fun s => ?_⟩
  cases decode? read s with
  | none => rfl
  | some a => exact back a

/-! ## Records -/

theorem isWritable_record (members : List (String × Json)) :
    (record members).isWritable = members.all fun m => m.2.isWritable := by
  rw [record, isWritable]
  induction members with
  | nil => rfl
  | cons m members ih => simp [membersWritable, ih]

/-- The members of a record are its fields, as far as they are written. -/
theorem named?_members {names : List String} {members : List (String × Json)}
    (known : ∀ m ∈ members, m.1 ∈ names) (distinct : (members.map (·.1)).Nodup) :
    named? names (members.map fun (name, v) => (some name, v)) = some members := by
  induction members with
  | nil => rfl
  | cons m members ih =>
    obtain ⟨name, v⟩ := m
    rw [List.map_cons, List.nodup_cons] at distinct
    have others := ih (fun w member => known w (List.mem_cons_of_mem _ member)) distinct.2
    have field : names.contains name = true := List.contains_iff_mem.mpr (known _ List.mem_cons_self)
    have once : members.any (·.1 == name) = false := by
      rw [List.any_eq_false]
      intro w member same
      exact distinct.1 (List.mem_map.mpr ⟨w, member, beq_iff_eq.mp same⟩)
    rw [List.map_cons, named?, others]
    simp only [Option.bind_eq_bind, Option.bind_some, field, once, if_true, Bool.false_eq_true, if_false]

/-- A record that is written with its fields in their order, some of them left out, is read field by field. -/
theorem fields?_record {names : List String} {members : List (String × Json)}
    (listed : (members.map (·.1)).Sublist names) (distinct : names.Nodup) :
    fields? names (record members) = some members :=
  named?_members (fun _ member => listed.subset (List.mem_map.mpr ⟨_, member, rfl⟩)) (distinct.sublist listed)

/-- A record can be written when its members can, and is read when its fields are. -/
theorem Codec.record {read : Fields Json → Option α} {names : List String} {members : α → List (String × Json)}
    (listed : ∀ a, ((members a).map (·.1)).Sublist names) (distinct : names.Nodup)
    (writable : ∀ a, ∀ m ∈ members a, m.2.isWritable = true) (back : ∀ a, read (members a) = some a) :
    Codec (fun v => (fields? names v).bind read) (fun a => .record (members a)) where
  writable a := by
    rw [isWritable_record, List.all_eq_true]
    exact writable a
  back a := by
    rw [fields?_record (listed a) distinct, Option.bind_some]
    exact back a

/-- What an optional field says: nothing when it is left out or null. -/
def optionalOf? (read : Json → Option α) : Option Json → Option (Option α)
  | none => some none
  | some .null => some none
  | some v => (read v).map some

theorem optional_eq (fs : Fields Json) (name : String) : fs.optional name read = optionalOf? read (fs.lookup name) :=
  rfl

theorem optionalOf?_none : optionalOf? read none = some none := rfl

theorem Codec.given (codec : Codec read write) (present : ∀ a, write a ≠ .null) (a : α) :
    optionalOf? read (some (write a)) = some (some a) := by
  rw [optionalOf?.eq_3 _ _ (present a), codec.back a, Option.map_some]

/-- An optional value that is written as null when there is none, and never as null when there is one. -/
theorem Codec.optional (codec : Codec read write) (present : ∀ a, write a ≠ .null) (o : Option α) :
    optionalOf? read (some (option write o)) = some o := by
  cases o with
  | none => rfl
  | some a => exact codec.given present a

end

end Json

end CallDesk
