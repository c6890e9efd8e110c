import CallDesk.Call
import CallDesk.Campaign
import CallDesk.Proofs.Json.Record

/-! # Values of a later backend

A later backend may say more than is known here: its objects have members that are no fields, anywhere among
the others and of any value, and its calls and campaigns have statuses of other names. Such a listing is read
as the earlier one, item by item, but for the statuses that were replaced. The names of what has come in are
texts, as an object with a name that is none is not read. Nothing is claimed of a member that is a field: a
second one of the same name is still refused.
-/

namespace CallDesk

open Text

/-! ## Places -/

/-- Lists of one length whose elements are related place by place. -/
structure Placewise {α β : Type} (R : Nat → α → β → Prop) (as : List α) (bs : List β) : Prop where
  length : bs.length = as.length
  place : ∀ i a b, as[i]? = some a → bs[i]? = some b → R i a b

namespace Placewise

variable {α β : Type} {R : Nat → α → β → Prop}

theorem nil : Placewise R [] [] := ⟨rfl, fun _ _ _ first => by contradiction⟩

theorem cons {a : α} {b : β} {as : List α} {bs : List β} (first : R 0 a b)
    (rest : Placewise (fun i => R (i + 1)) as bs) : Placewise R (a :: as) (b :: bs) where
  length := congrArg (· + 1) rest.length
  place i c d left right := by
    cases i with
    | zero =>
      obtain rfl := Option.some.inj left
      obtain rfl := Option.some.inj right
      exact first
    | succ i => exact rest.place i c d left right

theorem eq_nil {bs : List β} (related : Placewise R [] bs) : bs = [] :=
  List.eq_nil_of_length_eq_zero related.length

/-- Lists that are related have related heads and tails. -/
theorem uncons {a : α} {as : List α} {bs : List β} (related : Placewise R (a :: as) bs) :
    ∃ b rest, bs = b :: rest ∧ R 0 a b ∧ Placewise (fun i => R (i + 1)) as rest := by
  cases bs with
  | nil => exact absurd related.length nofun
  | cons b rest =>
    refine ⟨b, rest, rfl, related.place 0 a b rfl rfl, Nat.succ.inj related.length, fun i c d left right => ?_⟩
    exact related.place (i + 1) c d left right

/-- Lists whose elements are equal place by place are equal. -/
theorem eq_of_eq {as bs : List α} (same : Placewise (fun _ a b => b = a) as bs) : bs = as := by
  induction as generalizing bs with
  | nil => exact same.eq_nil
  | cons a as ih =>
    obtain ⟨b, rest, rfl, rfl, others⟩ := same.uncons
    rw [ih others]

/-- What is read of the elements is related place by place when it is so for each element. -/
theorem mapM {γ δ : Type} {S : Nat → γ → δ → Prop} {read : α → Option γ} {other : β → Option δ} {as : List α}
    {bs : List β} {cs : List γ} (related : Placewise R as bs)
    (each : ∀ i a b c, R i a b → read a = some c → ∃ d, other b = some d ∧ S i c d)
    (all : as.mapM read = some cs) : ∃ ds, bs.mapM other = some ds ∧ Placewise S cs ds := by
  induction as generalizing bs cs R S with
  | nil =>
    obtain rfl := related.eq_nil
    obtain rfl : [] = cs := Option.some.inj all
    exact ⟨[], rfl, .nil⟩
  | cons a as ih =>
    obtain ⟨b, rest, rfl, first, others⟩ := related.uncons
    simp only [List.mapM_cons, Option.bind_eq_bind, Option.bind_eq_some_iff] at all
    obtain ⟨c, readFirst, cs', readRest, made⟩ := all
    obtain rfl := Option.some.inj made
    obtain ⟨d, found, here⟩ := each 0 a b c first readFirst
    obtain ⟨ds, foundRest, there⟩ := ih others (fun i => each (i + 1)) readRest
    refine ⟨d :: ds, ?_, .cons here there⟩
    rw [List.mapM_cons, found, foundRest]
    rfl

/-- What is read of a list is read of each of its elements at its place. -/
theorem of_mapM {read : α → Option β} {as : List α} {bs : List β} (all : as.mapM read = some bs) :
    Placewise (fun _ a b => read a = some b) as bs := by
  induction as generalizing bs with
  | nil =>
    obtain rfl : [] = bs := Option.some.inj all
    exact .nil
  | cons a as ih =>
    simp only [List.mapM_cons, Option.bind_eq_bind, Option.bind_eq_some_iff] at all
    obtain ⟨b, here, bs, there, made⟩ := all
    obtain rfl := Option.some.inj made
    exact .cons here (ih there)

/-- A list is read as another one when its elements are, place by place. -/
theorem mapM_eq_some_iff {read : α → Option β} {as : List α} {bs : List β} :
    as.mapM read = some bs ↔ Placewise (fun _ a b => read a = some b) as bs := by
  refine ⟨of_mapM, fun each => ?_⟩
  induction as generalizing bs with
  | nil =>
    obtain rfl := each.eq_nil
    rfl
  | cons a as ih =>
    obtain ⟨b, bs, rfl, here, there⟩ := each.uncons
    rw [List.mapM_cons, here, ih there]
    rfl

/-- A list is not read when one of its elements is not. -/
theorem mapM_eq_none_iff {read : α → Option β} {as : List α} :
    as.mapM read = none ↔ ∃ a ∈ as, read a = none := by
  induction as with
  | nil => exact iff_of_false nofun (by simp)
  | cons a as ih =>
    simp only [List.mapM_cons, List.mem_cons, exists_eq_or_imp, ← ih]
    cases read a with
    | none => simp
    | some b => cases as.mapM read <;> simp

theorem map_right {γ : Type} {S : Nat → α → γ → Prop} {as : List α} {bs : List β} (f : β → γ)
    (related : Placewise R as bs) (imp : ∀ i a b, R i a b → S i a (f b)) : Placewise S as (bs.map f) where
  length := by rw [List.length_map, related.length]
  place i a c left right := by
    rw [List.getElem?_map, Option.map_eq_some_iff] at right
    obtain ⟨b, right, rfl⟩ := right
    exact imp i a b (related.place i a b left right)

end Placewise

namespace Json

/-! ## Objects that have grown -/

/-- The members of an object and those of a later one. Members that are no fields have come in, and the values
of the others have changed as `edit` allows. -/
inductive Grown (names : List String) (edit : String → Json → Json → Prop) :
    List (Option String × Json) → List (Option String × Json) → Prop
  | done : Grown names edit [] []
  | added {members later : List (Option String × Json)} {name : String} (v : Json) (unknown : name ∉ names)
      (rest : Grown names edit members later) : Grown names edit members ((some name, v) :: later)
  | kept {members later : List (Option String × Json)} {name : String} {v w : Json} (edited : edit name v w)
      (rest : Grown names edit members later) : Grown names edit ((some name, v) :: members) ((some name, w) :: later)

/-- Fields that are the same but for what `edit` allows. -/
def SameFields (edit : String → Json → Json → Prop) (fs gs : Fields Json) : Prop :=
  ∀ name, (fs.lookup name = none ∧ gs.lookup name = none) ∨
    ∃ v w, fs.lookup name = some v ∧ gs.lookup name = some w ∧ edit name v w

/-- A name is among the fields when something is found for it. -/
theorem any_eq_isSome_lookup (fs : Fields Json) (name : String) :
    fs.any (·.1 == name) = (fs.lookup name).isSome := by
  induction fs with
  | nil => rfl
  | cons f fs ih =>
    obtain ⟨other, v⟩ := f
    rw [List.any_cons, List.lookup_cons, ih, BEq.comm]
    cases name == other <;> rfl

/-- A member is a field, which no other one is, or it is skipped. -/
theorem named?_cons_iff {names : List String} {label : String} {v : Json} {members : List (Option String × Json)}
    {fs : Fields Json} :
    named? names ((some label, v) :: members) = some fs ↔ ∃ rest, named? names members = some rest ∧
      (label ∈ names ∧ rest.lookup label = none ∧ fs = (label, v) :: rest ∨ label ∉ names ∧ fs = rest) := by
  rw [named?, Option.bind_eq_bind, Option.bind_eq_some_iff]
  refine exists_congr fun rest => and_congr_right fun _ => ?_
  rw [any_eq_isSome_lookup]
  by_cases field : label ∈ names
  · rw [if_pos (List.contains_iff_mem.mpr field)]
    cases rest.lookup label <;> simp [field, eq_comm]
  · rw [if_neg (mt List.contains_iff_mem.mp field)]
    simp only [field, Option.some_inj, false_and, not_false_eq_true, true_and, false_or]
    exact eq_comm

/-- A field that is missing comes in with a member of its name, and the other fields stay. -/
theorem named?_inserted {names : List String} {name : String} (known : name ∈ names) (x : Json)
    {before after : List (Option String × Json)} {fs : Fields Json} (named : named? names (before ++ after) = some fs)
    (absent : fs.lookup name = none) :
    ∃ gs, named? names (before ++ (some name, x) :: after) = some gs ∧ gs.lookup name = some x ∧
      ∀ other, other ≠ name → gs.lookup other = fs.lookup other := by
  induction before generalizing fs with
  | nil =>
    refine ⟨(name, x) :: fs, named?_cons_iff.mpr ⟨fs, named, .inl ⟨known, absent, rfl⟩⟩, ?_, fun other different => ?_⟩
    · rw [List.lookup_cons, BEq.rfl]
    · rw [List.lookup_cons, beq_false_of_ne different]
  | cons member before ih =>
    obtain ⟨label | label, v⟩ := member
    · contradiction
    obtain ⟨rest, read, ⟨field, once, rfl⟩ | ⟨skipped, rfl⟩⟩ := named?_cons_iff.mp named
    · have different : label ≠ name := by
        rintro rfl
        rw [List.lookup_cons, BEq.rfl] at absent
        contradiction
      rw [List.lookup_cons, beq_false_of_ne different.symm] at absent
      obtain ⟨gs, found, here, others⟩ := ih read absent
      refine ⟨(label, v) :: gs, ?_, ?_, fun other outside => ?_⟩
      · exact named?_cons_iff.mpr ⟨gs, found, .inl ⟨field, (others label different).trans once, rfl⟩⟩
      · rwa [List.lookup_cons, beq_false_of_ne different.symm]
      · rw [List.lookup_cons, List.lookup_cons, others other outside]
    · obtain ⟨gs, found, here, others⟩ := ih read absent
      exact ⟨gs, named?_cons_iff.mpr ⟨gs, found, .inr ⟨skipped, rfl⟩⟩, here, others⟩

variable {names : List String} {edit : String → Json → Json → Prop}

namespace SameFields

variable {fs gs : Fields Json}

theorem any_eq (same : SameFields edit fs gs) (name : String) : gs.any (·.1 == name) = fs.any (·.1 == name) := by
  rw [any_eq_isSome_lookup, any_eq_isSome_lookup]
  rcases same name with ⟨left, right⟩ | ⟨v, w, left, right, -⟩
  · rw [left, right]
  · rw [left, right]
    rfl

theorem cons (same : SameFields edit fs gs) {name : String} {v w : Json} (edited : edit name v w) :
    SameFields edit ((name, v) :: fs) ((name, w) :: gs) := by
  intro other
  rw [List.lookup_cons, List.lookup_cons]
  cases mine : other == name with
  | true =>
    obtain rfl := beq_iff_eq.mp mine
    exact .inr ⟨v, w, rfl, rfl, edited⟩
  | false => exact same other

/-- A field whose value cannot change has the value that it had. -/
theorem lookup_eq (same : SameFields edit fs gs) {name : String} (fixed : ∀ v w, edit name v w → w = v) :
    gs.lookup name = fs.lookup name := by
  rcases same name with ⟨left, right⟩ | ⟨v, w, left, right, edited⟩
  · rw [left, right]
  · rw [left, right, fixed v w edited]

end SameFields

/-- The fields of an object are found in a later one, and no others. -/
theorem Grown.named? {members later : List (Option String × Json)} (grown : Grown names edit members later)
    {fs : Fields Json} (named : Json.named? names members = some fs) :
    ∃ gs, Json.named? names later = some gs ∧ SameFields edit fs gs := by
  induction grown generalizing fs with
  | done =>
    obtain rfl : [] = fs := Option.some.inj named
    exact ⟨[], rfl, fun name => .inl ⟨rfl, rfl⟩⟩
  | added v unknown _ ih =>
    obtain ⟨gs, found, same⟩ := ih named
    refine ⟨gs, ?_, same⟩
    rw [Json.named?, found]
    simp only [Option.bind_eq_bind, Option.bind_some, List.contains_iff_mem, unknown, if_false]
  | @kept _ _ name v w edited _ ih =>
    simp only [Json.named?, Option.bind_eq_bind, Option.bind_eq_some_iff] at named
    obtain ⟨fs', others, chosen⟩ := named
    obtain ⟨gs, found, same⟩ := ih others
    simp only [Json.named?, found, Option.bind_eq_bind, Option.bind_some, same.any_eq]
    split at chosen
    · next field =>
      split at chosen
      · contradiction
      · next once =>
        obtain rfl := Option.some.inj chosen
        exact ⟨(name, w) :: gs, by rw [if_pos field, if_neg once], same.cons edited⟩
    · next other =>
      obtain rfl := Option.some.inj chosen
      exact ⟨gs, if_neg other, same⟩

/-- An array whose items have changed as `edit` allows at their places. -/
inductive Listed (edit : Nat → Json → Json → Prop) : Json → Json → Prop
  | array {items later : List Json} (each : Placewise edit items later) : Listed edit (.array items) (.array later)

/-- The items of a later array are read when those of the array were. -/
theorem Listed.list? {α β : Type} {edit : Nat → Json → Json → Prop} {R : Nat → α → β → Prop} {read : Json → Option α}
    {other : Json → Option β} {v w : Json} (listed : Listed edit v w)
    (each : ∀ i v w a, edit i v w → read v = some a → ∃ b, other w = some b ∧ R i a b) {as : List α}
    (all : Json.list? read v = some as) : ∃ bs, Json.list? other w = some bs ∧ Placewise R as bs := by
  cases listed with
  | array items => exact items.mapM each all

/-- The value of a field that is left as it is, or of a status that is replaced by a name. -/
def restated (change : Option String) (name : String) (v w : Json) : Prop :=
  if name = "status" then w = (change.map Json.text).getD v else w = v

theorem restated_fixed {change : Option String} {name : String} (other : name ≠ "status") {v w : Json}
    (edited : restated change name v w) : w = v := by
  rwa [restated, if_neg other] at edited

end Json

open Json

/-! ## Statuses -/

/-- The status of a name: the one that is written so, or else the one for names that are not known. -/
def Named {α : Type} (wireName : α → String) (other : α) (name : String) (status : α) : Prop :=
  wireName status = name ∨ status = other ∧ ∀ s, wireName s ≠ name

/-- A status after a change: that of its new name, or the same when nothing was changed. -/
def Follows {α : Type} (wireName : α → String) (other : α) (change : Option String) (old new : α) : Prop :=
  match change with
  | none => new = old
  | some name => Named wireName other name new

theorem named_find? {α : Type} {wireName : α → String} {all : List α} (complete : ∀ s, s ∈ all) (other : α)
    (name : String) : Named wireName other name ((all.find? (wireName · == name)).getD other) := by
  cases found : all.find? (wireName · == name) with
  | none =>
    refine .inr ⟨rfl, fun s same => ?_⟩
    have absent := List.find?_eq_none.mp found s (complete s)
    exact absent (beq_iff_eq.mpr same)
  | some s =>
    have same := List.find?_some found
    exact .inl (beq_iff_eq.mp same)

theorem CallStatus.ofName_named (name : String) : Named wireName other name (ofName name) :=
  named_find? (fun s => by cases s <;> decide) other name

theorem CampaignStatus.ofName_named (name : String) : Named wireName other name (ofName name) :=
  named_find? (fun s => by cases s <;> decide) other name

/-- A status is read in a later record, and is that of its new name if it was replaced. -/
theorem Json.SameFields.required_status {α : Type} {wireName : α → String} {other : α} {ofName : String → α}
    (named : ∀ name, Named wireName other name (ofName name)) {edit : String → Json → Json → Prop} {fs gs : Fields Json}
    (same : SameFields edit fs gs) {change : Option String}
    (edited : ∀ v w, edit "status" v w → w = (change.map Json.text).getD v) {old : α}
    (told : fs.required "status" (fun v => v.choice?.map ofName) = some old) :
    ∃ new, gs.required "status" (fun v => v.choice?.map ofName) = some new ∧
      Follows wireName other change old new := by
  rw [Fields.required] at told ⊢
  obtain ⟨v, found, read⟩ := Option.bind_eq_some_iff.mp told
  rcases same "status" with ⟨left, -⟩ | ⟨v', w, left, right, related⟩
  · rw [left] at found
    contradiction
  obtain rfl := Option.some.inj (left.symm.trans found)
  rw [right, edited _ _ related]
  cases change with
  | none => exact ⟨old, read, rfl⟩
  | some name => exact ⟨ofName name, rfl, named name⟩

/-! ## Records that have grown -/

/-- A turn in a later listing. -/
inductive Turn.Later : Json → Json → Prop
  | same (v : Json) : Later v v
  | object {members later : List (Option String × Json)}
      (grown : Grown Turn.fieldNames (fun _ v w => w = v) members later) :
      Later (.object members) (.object later)

theorem Turn.ofJson?_later {v w : Json} (later : Turn.Later v w) {t : Turn} (read : ofJson? v = some t) :
    ofJson? w = some t := by
  cases later with
  | same => exact read
  | object grown =>
    obtain ⟨fs, fields, rest⟩ := Option.bind_eq_some_iff.mp read
    obtain ⟨gs, found, same⟩ := grown.named? fields
    have kept (name : String) : gs.lookup name = fs.lookup name := same.lookup_eq fun _ _ => id
    rw [ofJson?, fields?, found, Option.bind_eq_bind, Option.bind_some]
    simp only [Fields.required, optional_eq, kept] at rest ⊢
    exact rest

/-- The turns of a call in a later listing. -/
def Turn.ListLater (v w : Json) : Prop := w = v ∨ Listed (fun _ => Turn.Later) v w

theorem Turn.optional_later {v w : Json} (later : Turn.ListLater v w) {turns : Option (List Turn)}
    (read : optionalOf? (Json.list? ofJson?) (some v) = some turns) :
    optionalOf? (Json.list? ofJson?) (some w) = some turns := by
  rcases later with rfl | listed
  · exact read
  · cases listed with
    | array items =>
      obtain ⟨as, all, rfl⟩ := Option.map_eq_some_iff.mp read
      have each (i : Nat) (v w : Json) (t : Turn) (later : Turn.Later v w) (read : ofJson? v = some t) :
          ∃ u, ofJson? w = some u ∧ u = t := ⟨t, ofJson?_later later read, rfl⟩
      obtain ⟨bs, found, same⟩ := (Listed.array items).list? each all
      rw [optionalOf?, found, same.eq_of_eq]
      · rfl
      · intro null
        contradiction

/-- A call in a later listing, with the name that its status was replaced by, if it was. -/
inductive Call.Later : Option String → Json → Json → Prop
  | same (v : Json) : Later none v v
  | object {change : Option String} {members later : List (Option String × Json)}
      (grown : Grown Call.fieldNames
        (fun name v w => if name = "transcript" then Turn.ListLater v w else restated change name v w) members later) :
      Later change (.object members) (.object later)

/-- A call whose status has followed a change. -/
def Call.Follows (change : Option String) (c d : Call) : Prop :=
  ∃ status, d = { c with status } ∧ CallDesk.Follows CallStatus.wireName .other change c.status status

theorem Call.ofJson?_later {change : Option String} {v w : Json} (later : Call.Later change v w) {c : Call}
    (read : ofJson? v = some c) : ∃ d, ofJson? w = some d ∧ Call.Follows change c d := by
  cases later with
  | same => exact ⟨c, read, c.status, rfl, rfl⟩
  | object grown =>
    obtain ⟨fs, fields, rest⟩ := Option.bind_eq_some_iff.mp read
    obtain ⟨gs, found, same⟩ := grown.named? fields
    have kept {name : String} (first : name ≠ "transcript") (second : name ≠ "status") :
        gs.lookup name = fs.lookup name := by
      refine same.lookup_eq fun v w edited => ?_
      rw [if_neg first] at edited
      exact restated_fixed second edited
    have turns {o : Option (List Turn)} (told : fs.optional "transcript" (Json.list? Turn.ofJson?) = some o) :
        gs.optional "transcript" (Json.list? Turn.ofJson?) = some o := by
      rw [optional_eq] at told ⊢
      rcases same "transcript" with ⟨left, right⟩ | ⟨v, w, left, right, later⟩
      · rw [left] at told
        rwa [right]
      · rw [left] at told
        rw [right]
        exact Turn.optional_later later told
    simp only [Option.bind_eq_bind, Option.bind_eq_some_iff] at rest
    obtain ⟨id, hId, phone, hPhone, old, hStatus, outcome, hOutcome, duration, hDuration, time, hTime, summary,
      hSummary, recording, hRecording, o, hTurns, made⟩ := rest
    obtain rfl := Option.some.inj made
    obtain ⟨new, (hNew : gs.required "status" CallStatus.ofJson? = some new), follows⟩ :=
      same.required_status CallStatus.ofName_named (fun _ _ edited => edited) hStatus
    refine ⟨_, ?_, new, rfl, follows⟩
    rw [ofJson?, fields?, found, Option.bind_eq_bind, Option.bind_some, hNew, turns hTurns]
    simp only [Fields.required, Fields.orElse, optional_eq] at *
    simp [*]

/-- A page of calls in a later listing, with the names that the statuses of its calls were replaced by. -/
inductive CallsPage.Later (changes : Nat → Option String) : Json → Json → Prop
  | object {members later : List (Option String × Json)}
      (grown : Grown CallsPage.fieldNames
        (fun name v w => if name = "calls" then Listed (fun i => Call.Later (changes i)) v w else w = v)
        members later) :
      Later changes (.object members) (.object later)

theorem CallsPage.ofJson?_later {changes : Nat → Option String} {v w : Json} (later : CallsPage.Later changes v w)
    {page : CallsPage} (read : ofJson? v = some page) :
    ∃ calls, ofJson? w = some { page with calls } ∧
      Placewise (fun i => Call.Follows (changes i)) page.calls calls := by
  cases later with
  | object grown =>
    obtain ⟨fs, fields, rest⟩ := Option.bind_eq_some_iff.mp read
    obtain ⟨gs, found, same⟩ := grown.named? fields
    have kept {name : String} (other : name ≠ "calls") : gs.lookup name = fs.lookup name := by
      refine same.lookup_eq fun v w edited => ?_
      rwa [if_neg other] at edited
    have calls {old : List Call} (told : fs.orElse "calls" [] (Json.list? Call.ofJson?) = some old) :
        ∃ new, gs.orElse "calls" [] (Json.list? Call.ofJson?) = some new ∧
          Placewise (fun i => Call.Follows (changes i)) old new := by
      rw [Fields.orElse] at told ⊢
      rcases same "calls" with ⟨left, right⟩ | ⟨v, w, left, right, listed⟩
      · rw [left] at told
        obtain rfl : [] = old := Option.some.inj told
        exact ⟨[], by rw [right], .nil⟩
      · rw [left] at told
        rw [right]
        exact listed.list? (fun _ _ _ _ later read => Call.ofJson?_later later read) told
    simp only [Option.bind_eq_bind, Option.bind_eq_some_iff] at rest
    obtain ⟨old, hCalls, total, hTotal, number, hNumber, size, hSize, made⟩ := rest
    obtain rfl := Option.some.inj made
    obtain ⟨new, hNew, follows⟩ := calls hCalls
    refine ⟨new, ?_, follows⟩
    rw [ofJson?, fields?, found, Option.bind_eq_bind, Option.bind_some, hNew]
    simp only [Fields.orElse] at *
    simp [*]

/-- A campaign in a later listing, with the name that its status was replaced by, if it was. -/
inductive Campaign.Later : Option String → Json → Json → Prop
  | same (v : Json) : Later none v v
  | object {change : Option String} {members later : List (Option String × Json)}
      (grown : Grown Campaign.fieldNames (restated change) members later) :
      Later change (.object members) (.object later)

/-- A campaign whose status has followed a change. -/
def Campaign.Follows (change : Option String) (c d : Campaign) : Prop :=
  ∃ status, d = { c with status } ∧ CallDesk.Follows CampaignStatus.wireName .other change c.status status

theorem Campaign.ofJson?_later {change : Option String} {v w : Json} (later : Campaign.Later change v w) {c : Campaign}
    (read : ofJson? v = some c) : ∃ d, ofJson? w = some d ∧ Campaign.Follows change c d := by
  cases later with
  | same => exact ⟨c, read, c.status, rfl, rfl⟩
  | object grown =>
    obtain ⟨fs, fields, rest⟩ := Option.bind_eq_some_iff.mp read
    obtain ⟨gs, found, same⟩ := grown.named? fields
    have kept {name : String} (other : name ≠ "status") : gs.lookup name = fs.lookup name :=
      same.lookup_eq fun v w => restated_fixed other
    simp only [Option.bind_eq_bind, Option.bind_eq_some_iff] at rest
    obtain ⟨id, hId, name, hName, description, hDescription, prompt, hPrompt, voice, hVoice, goal, hGoal, old, hStatus,
      leads, hLeads, made, hMade, time, hTime, whole⟩ := rest
    obtain rfl := Option.some.inj whole
    obtain ⟨new, (hNew : gs.required "status" CampaignStatus.ofJson? = some new), follows⟩ :=
      same.required_status CampaignStatus.ofName_named (fun _ _ edited => edited) hStatus
    refine ⟨_, ?_, new, rfl, follows⟩
    rw [ofJson?, fields?, found, Option.bind_eq_bind, Option.bind_some, hNew]
    simp only [Fields.required, Fields.orElse, optional_eq] at *
    simp [*]

/-- A later listing of campaigns in either of its shapes, with the names that their statuses were replaced by. -/
inductive Campaign.ListLater (changes : Nat → Option String) : Json → Json → Prop
  | bare {v w : Json} (listed : Listed (fun i => Campaign.Later (changes i)) v w) : ListLater changes v w
  | wrapped {members later : List (Option String × Json)}
      (grown : Grown ["campaigns"] (fun _ => Listed fun i => Campaign.Later (changes i)) members later) :
      ListLater changes (.object members) (.object later)

/-- A text and that of a later version of its value. -/
def LaterText (later : Json → Json → Prop) (s t : Bytes) : Prop :=
  ∃ v w, Json.read? s = some v ∧ Json.read? t = some w ∧ later v w

theorem laterText_render {later : Json → Json → Prop} {v w : Json} (related : later v w)
    (writable : v.isWritable = true) (writable' : w.isWritable = true) :
    LaterText later (utf8 v.render) (utf8 w.render) :=
  ⟨v, w, read?_render writable, read?_render writable', related⟩

end CallDesk
