import CallDesk.Proofs.Settings.Tree
import CallDesk.Settings.Layers

/-! # The names in a file of settings

Whatever a file says, no two of its entries have one name, and no two members of a table among them do: a
document refuses a key that is set twice, and of the members of a message that have one name the last one
counts.
-/

namespace CallDesk

/-- Whether the members of a tree have different names. -/
def Tree.Distinct (t : Tree) : Prop := (t.members.map Prod.fst).Nodup

theorem Tree.distinct_of_members {t : Tree} (none : t.members = []) : t.Distinct := by
  rw [Distinct, none]
  exact List.nodup_nil

/-! ## Documents -/

namespace Toml

open CallDesk.Tree

/-- Whether different members of the tables of a node have different names, as far as tables hold tables. -/
inductive Node.Proper : Node → Prop
  | leaf {v : Tree} (distinct : v.Distinct) : Proper (.leaf v)
  | table {origin : Origin} {members : List (String × Node)} (distinct : (members.map Prod.fst).Nodup)
      (each : ∀ m ∈ members, Proper m.2) : Proper (.table origin members)
  | series (tables : List Node) : Proper (.series tables)

namespace Node

theorem setIn_eq_put (key : String) (node : Node) (ms : List (String × Node)) :
    setIn key node ms = Members.put key node ms := by
  induction ms with
  | nil => rfl
  | cons m ms ih => rw [setIn, Members.put, ih]

theorem names_memberTrees (ms : List (String × Node)) : (memberTrees ms).map Prod.fst = ms.map Prod.fst := by
  induction ms with
  | nil => rfl
  | cons m ms ih => rw [memberTrees, List.map_cons, List.map_cons, ih]

theorem mem_memberTrees {ms : List (String × Node)} {m : String × Tree} (member : m ∈ memberTrees ms) :
    ∃ n ∈ ms, m = (n.1, n.2.tree) := by
  induction ms with
  | nil => cases member
  | cons n ms ih =>
    rw [memberTrees] at member
    rcases List.mem_cons.mp member with rfl | later
    · exact ⟨n, List.mem_cons_self, rfl⟩
    · obtain ⟨k, listed, same⟩ := ih later
      exact ⟨k, List.mem_cons_of_mem n listed, same⟩

namespace Proper

variable {origin : Origin} {members : List (String × Node)} {node after : Node} {key : String}

/-- A table without members. -/
theorem empty (origin : Origin) : Proper (.table origin []) := .table List.nodup_nil nofun

theorem setIn (whole : Proper (.table origin members)) (inner : Proper node) (key : String) :
    Proper (.table origin (Node.setIn key node members)) := by
  obtain _ | ⟨distinct, each⟩ | _ := whole
  rw [setIn_eq_put]
  refine .table (Members.nodup_put distinct) fun m member => ?_
  rcases Members.mem_put member with rfl | old
  · exact inner
  · exact each m old

theorem of_lookup (whole : Proper (.table origin members)) (found : members.lookup key = some node) :
    Proper node := by
  obtain _ | ⟨-, each⟩ | _ := whole
  obtain ⟨before, rest, shape, -⟩ := List.lookup_eq_some_iff.mp found
  exact each (key, node) (shape ▸ List.mem_append_right before List.mem_cons_self)

/-- The tree of a node has different names. -/
theorem distinct_tree (proper : Proper node) : node.tree.Distinct := by
  cases proper with
  | leaf distinct => exact distinct
  | table distinct each =>
    rw [Node.tree, Distinct, members, names_memberTrees]
    exact distinct
  | series tables => exact distinct_of_members rfl

theorem distinct_members (proper : Proper (.table origin members)) :
    ∀ m ∈ (Node.table origin members).tree.members, m.2.Distinct := by
  obtain _ | ⟨-, each⟩ | _ := proper
  intro m member
  obtain ⟨n, listed, rfl⟩ := mem_memberTrees member
  exact (each n listed).distinct_tree

end Proper

variable {origin : Origin} {members : List (String × Node)} {node after : Node} {key : String}

/-- A change below a key sets that key of a table, to what the change makes of what was there or to a series. -/
theorem within?_cons {made : Origin} {change : Node → Option Node} {path : List String}
    (changed : within? made change (key :: path) node = some after) :
    ∃ origin members inner, node = .table origin members ∧ after = .table origin (setIn key inner members) ∧
      ((∃ below, (below = .table made [] ∨ members.lookup key = some below) ∧
        within? made change path below = some inner) ∨ ∃ tables, inner = .series tables) := by
  cases node with
  | table origin members =>
    rw [within?] at changed
    split at changed
    · obtain ⟨inner, reached, same⟩ := Option.bind_eq_some_iff.mp changed
      exact ⟨origin, members, inner, rfl, (Option.some.inj same).symm, .inl ⟨_, .inl rfl, reached⟩⟩
    · next found =>
      split at changed
      · cases changed
      · obtain ⟨inner, reached, same⟩ := Option.bind_eq_some_iff.mp changed
        exact ⟨origin, members, inner, rfl, (Option.some.inj same).symm, .inl ⟨_, .inr found, reached⟩⟩
    · obtain ⟨inner, reached, same⟩ := Option.bind_eq_some_iff.mp changed
      obtain ⟨last, -, rfl⟩ := Option.map_eq_some_iff.mp reached
      exact ⟨origin, members, _, rfl, (Option.some.inj same).symm, .inr ⟨_, rfl⟩⟩
    · cases changed
  | leaf v => cases changed
  | series tables => cases changed

/-- Whether a node is a table. -/
def IsTable (node : Node) : Prop := ∃ origin members, node = .table origin members

namespace Proper

/-- A change of a table deep inside leaves a proper table when it leaves one of that table. -/
theorem within {made : Origin} {change : Node → Option Node}
    (keeps : ∀ node after, Proper node → change node = some after → Proper after ∧ after.IsTable) (path : List String)
    (proper : Proper node) (changed : Node.within? made change path node = some after) :
    Proper after ∧ after.IsTable := by
  induction path generalizing node after with
  | nil => exact keeps node after proper changed
  | cons key path ih =>
    obtain ⟨origin, members, inner, rfl, rfl, ⟨below, found, reached⟩ | ⟨tables, rfl⟩⟩ := within?_cons changed
    · have whole : Proper below := by
        rcases found with rfl | found
        · exact .empty _
        · exact proper.of_lookup found
      exact ⟨proper.setIn (ih whole reached).1 key, _, _, rfl⟩
    · exact ⟨proper.setIn (.series tables) key, _, _, rfl⟩

theorem assign {path : List String} {v : Tree} (distinct : v.Distinct) (proper : Proper node)
    (assigned : Node.assign? path key v node = some after) : Proper after ∧ after.IsTable := by
  refine within (fun node after proper changed => ?_) path proper assigned
  split at changed
  · split at changed
    · cases changed
    · obtain rfl := Option.some.inj changed
      exact ⟨proper.setIn (.leaf distinct) key, _, _, rfl⟩
  · cases changed

theorem openTable {path : List String} (proper : Proper node) (opened : Node.openTable? path key node = some after) :
    Proper after ∧ after.IsTable := by
  refine within (fun node after proper changed => ?_) path proper opened
  split at changed
  · split at changed
    · obtain rfl := Option.some.inj changed
      exact ⟨proper.setIn (.empty _) key, _, _, rfl⟩
    · next found =>
      have inner := proper.of_lookup found
      obtain _ | ⟨distinct, each⟩ | _ := inner
      obtain rfl := Option.some.inj changed
      exact ⟨proper.setIn (.table distinct each) key, _, _, rfl⟩
    · cases changed
  · cases changed

theorem openNext {path : List String} (proper : Proper node) (opened : Node.openNext? path key node = some after) :
    Proper after ∧ after.IsTable := by
  refine within (fun node after proper changed => ?_) path proper opened
  split at changed
  · split at changed
    · obtain rfl := Option.some.inj changed
      exact ⟨proper.setIn (.series _) key, _, _, rfl⟩
    · obtain rfl := Option.some.inj changed
      exact ⟨proper.setIn (.series _) key, _, _, rfl⟩
    · cases changed
  · cases changed

end Proper

end Node

/-! ## Values -/

theorem members_wholeOf? {negative : Bool} {n : Nat} {v : Tree} (made : wholeOf? negative n = some v) :
    v.members = [] := by
  rw [wholeOf?] at made
  split at made <;> split at made <;> cases made <;> rfl

theorem members_basedOff? {base : Nat} {s rest : List Char} {v : Tree} (taken : basedOff? base s = some (v, rest)) :
    v.members = [] := by
  obtain ⟨⟨ds, s'⟩, -, taken⟩ := Option.bind_eq_some_iff.mp taken
  obtain ⟨w, made, same⟩ := Option.bind_eq_some_iff.mp taken
  obtain ⟨rfl, -⟩ := Prod.mk.inj (Option.some.inj same)
  exact members_wholeOf? made

theorem members_decimalOff? {negative : Bool} {s rest : List Char} {v : Tree}
    (taken : decimalOff? negative s = some (v, rest)) : v.members = [] := by
  obtain ⟨⟨whole, s₁⟩, -, taken⟩ := Option.bind_eq_some_iff.mp taken
  obtain ⟨⟨fraction, s₂⟩, -, taken⟩ := Option.bind_eq_some_iff.mp taken
  obtain ⟨⟨exponent, s₃⟩, -, taken⟩ := Option.bind_eq_some_iff.mp taken
  dsimp only at taken
  split at taken
  · obtain ⟨w, made, same⟩ := Option.bind_eq_some_iff.mp taken
    obtain ⟨rfl, -⟩ := Prod.mk.inj (Option.some.inj same)
    exact members_wholeOf? made
  · obtain ⟨w, made, same⟩ := Option.bind_eq_some_iff.mp taken
    obtain ⟨rfl, -⟩ := Prod.mk.inj (Option.some.inj same)
    rw [doubleOf?] at made
    split at made
    · exact Option.some.inj made ▸ rfl
    · cases made

theorem members_numberOff? {s rest : List Char} {v : Tree} (taken : numberOff? s = some (v, rest)) :
    v.members = [] := by
  rw [numberOff?] at taken
  dsimp only at taken
  split at taken
  · exact (Prod.mk.inj (Option.some.inj taken)).1 ▸ rfl
  · exact (Prod.mk.inj (Option.some.inj taken)).1 ▸ rfl
  · split at taken
    · exact members_basedOff? taken
    · exact members_basedOff? taken
    · exact members_basedOff? taken
    · exact members_decimalOff? taken

/-- A value that is no list and no table has no members. -/
theorem members_scalarOff? {s rest : List Char} {v : Tree} (taken : scalarOff? s = some (v, rest)) :
    v.members = [] := by
  unfold scalarOff? at taken
  split at taken
  · cases taken
  split at taken
  · obtain ⟨read, -, same⟩ := Option.map_eq_some_iff.mp taken
    exact (Prod.mk.inj same).1 ▸ rfl
  split at taken
  · unfold truthOff? at taken
    split at taken
    · exact (Prod.mk.inj (Option.some.inj taken)).1 ▸ rfl
    · exact (Prod.mk.inj (Option.some.inj taken)).1 ▸ rfl
    · cases taken
  split at taken
  · next found =>
    obtain rfl := Option.some.inj taken
    rw [momentOff?] at found
    split at found
    · exact (Prod.mk.inj (Option.some.inj found)).1 ▸ rfl
    · obtain ⟨read, -, same⟩ := Option.map_eq_some_iff.mp found
      exact (Prod.mk.inj same).1 ▸ rfl
  · exact members_numberOff? taken

/-- A list has no members. -/
theorem members_itemsOff? {fuel depth : Nat} {read : List Tree} {s rest : List Char} {v : Tree}
    (taken : itemsOff? fuel depth read s = some (v, rest)) : v.members = [] := by
  induction fuel generalizing read s with
  | zero =>
    unfold itemsOff? at taken
    cases taken
  | succ fuel ih =>
    unfold itemsOff? at taken
    split at taken
    · cases taken
    · exact (Prod.mk.inj (Option.some.inj taken)).1 ▸ rfl
    · next same _ =>
      obtain rfl := Nat.succ.inj same
      split at taken
      · cases taken
      split at taken
      · exact ih taken
      · exact (Prod.mk.inj (Option.some.inj taken)).1 ▸ rfl
      · cases taken

/-- The members of a table in one line have different names. -/
theorem distinct_of_membersOff? {fuel depth : Nat} {read : Node} {s rest : List Char} {v : Tree}
    (values : ∀ less < fuel, ∀ s rest v, valueOff? less depth s = some (v, rest) → v.Distinct) (proper : read.Proper)
    (taken : membersOff? fuel depth read s = some (v, rest)) : v.Distinct := by
  induction fuel generalizing read s with
  | zero =>
    unfold membersOff? at taken
    cases taken
  | succ fuel ih =>
    unfold membersOff? at taken
    split at taken
    · cases taken
    split at taken
    · cases taken
    next value =>
    split at taken
    · cases taken
    next assigned =>
    have kept := (proper.assign (values fuel (Nat.lt_succ_self fuel) _ _ _ value) assigned).1
    split at taken
    · exact ih (fun less below => values less (Nat.lt_succ_of_lt below)) kept taken
    · exact (Prod.mk.inj (Option.some.inj taken)).1 ▸ kept.distinct_tree
    · cases taken

/-- The members of any value have different names. -/
theorem distinct_of_valueOff? {fuel depth : Nat} {s rest : List Char} {v : Tree}
    (taken : valueOff? fuel depth s = some (v, rest)) : v.Distinct := by
  induction fuel using Nat.strong_induction_on generalizing depth s rest v with
  | _ fuel ih =>
    unfold valueOff? at taken
    split at taken
    · split at taken
      · cases taken
      · exact distinct_of_members (members_itemsOff? taken)
    · split at taken
      · cases taken
      split at taken
      · exact (Prod.mk.inj (Option.some.inj taken)).1 ▸ distinct_of_members rfl
      · exact distinct_of_membersOff? (fun less below s rest v => ih less (Nat.lt_succ_of_lt below)) (.empty _) taken
    · cases taken
    · exact distinct_of_members (members_scalarOff? taken)

theorem proper_entryOff? {draft after : Draft} {s rest : List Char} (proper : draft.root.Proper)
    (taken : entryOff? draft s = some (after, rest)) : after.root.Proper ∧ after.root.IsTable := by
  obtain ⟨⟨⟨path, key⟩, s₁⟩, -, taken⟩ := Option.bind_eq_some_iff.mp taken
  obtain ⟨⟨v, s₂⟩, value, taken⟩ := Option.bind_eq_some_iff.mp taken
  obtain ⟨root, assigned, taken⟩ := Option.bind_eq_some_iff.mp taken
  obtain ⟨s₃, -, same⟩ := Option.bind_eq_some_iff.mp taken
  obtain ⟨rfl, -⟩ := Prod.mk.inj (Option.some.inj same)
  have distinct := distinct_of_valueOff? value
  exact Node.Proper.within (fun node after whole changed => whole.assign distinct changed) draft.path proper assigned

theorem proper_headerOff? {draft after : Draft} {s rest : List Char} (proper : draft.root.Proper)
    (taken : headerOff? draft s = some (after, rest)) : after.root.Proper ∧ after.root.IsTable := by
  unfold headerOff? at taken
  split at taken
  · obtain ⟨⟨⟨path, key⟩, s₁⟩, -, taken⟩ := Option.bind_eq_some_iff.mp taken
    obtain ⟨s₂, -, taken⟩ := Option.bind_eq_some_iff.mp taken
    obtain ⟨s₃, -, taken⟩ := Option.bind_eq_some_iff.mp taken
    obtain ⟨root, opened, taken⟩ := Option.bind_eq_some_iff.mp taken
    obtain ⟨s₄, -, same⟩ := Option.bind_eq_some_iff.mp taken
    obtain ⟨rfl, -⟩ := Prod.mk.inj (Option.some.inj same)
    exact proper.openNext opened
  · obtain ⟨⟨⟨path, key⟩, s₁⟩, -, taken⟩ := Option.bind_eq_some_iff.mp taken
    obtain ⟨s₂, -, taken⟩ := Option.bind_eq_some_iff.mp taken
    obtain ⟨root, opened, taken⟩ := Option.bind_eq_some_iff.mp taken
    obtain ⟨s₃, -, same⟩ := Option.bind_eq_some_iff.mp taken
    obtain ⟨rfl, -⟩ := Prod.mk.inj (Option.some.inj same)
    exact proper.openTable opened

theorem proper_readFrom? {fuel : Nat} {draft after : Draft} {s : List Char}
    (proper : draft.root.Proper ∧ draft.root.IsTable) (read : readFrom? fuel draft s = some after) :
    after.root.Proper ∧ after.root.IsTable := by
  fun_induction readFrom? fuel draft s with
  | case1 => exact Option.some.inj read ▸ proper
  | case2 => cases read
  | case3 _ _ _ _ _ _ _ taken ih => exact ih (proper_headerOff? proper.1 taken) read
  | case4 => cases read
  | case5 _ _ _ _ _ _ _ taken ih => exact ih (proper_entryOff? proper.1 taken) read
  | case6 => cases read

/-- The members of a document have different names, and so have those of the tables among them. -/
theorem distinct_of_read? {text : String} {ms : List (String × Tree)} (read : read? text = some (.table ms)) :
    (ms.map Prod.fst).Nodup ∧ ∀ m ∈ ms, m.2.Distinct := by
  obtain ⟨draft, drafted, tree⟩ := Option.map_eq_some_iff.mp read
  obtain ⟨proper, origin, members, table⟩ := proper_readFrom? ⟨.empty .opened, .opened, [], rfl⟩ drafted
  have names := proper.distinct_tree
  rw [table] at proper
  have each := proper.distinct_members
  rw [← table, tree] at each
  rw [tree] at names
  exact ⟨names, each⟩

end Toml

/-! ## Messages -/

namespace Tree

theorem nodup_ofMembers (read : List (String × Tree)) (distinct : (read.map Prod.fst).Nodup)
    (ms : List (Option String × Json)) : ((ofMembers read ms).map Prod.fst).Nodup := by
  induction ms generalizing read with
  | nil => exact distinct
  | cons m ms ih =>
    rw [ofMembers, setIn_eq_put]
    exact ih _ (Members.nodup_put distinct)

theorem members_ofJson (v : Json) : (∃ ms, v = .object ms) ∨ (ofJson v).members = [] := by
  cases v with
  | object ms => exact .inl ⟨ms, rfl⟩
  | number n =>
    right
    rw [ofJson]
    split
    · split <;> rfl
    all_goals rfl
  | _ => exact .inr rfl

theorem distinct_ofJson (v : Json) : (ofJson v).Distinct := by
  obtain ⟨ms, rfl⟩ | none := members_ofJson v
  · exact nodup_ofMembers [] List.nodup_nil ms
  · exact distinct_of_members none

theorem distinct_ofMembers (read : List (String × Tree)) (each : ∀ m ∈ read, m.2.Distinct)
    (ms : List (Option String × Json)) : ∀ m ∈ ofMembers read ms, m.2.Distinct := by
  induction ms generalizing read with
  | nil => exact each
  | cons m ms ih =>
    rw [ofMembers, setIn_eq_put]
    refine ih _ fun n member => ?_
    rcases Members.mem_put member with rfl | old
    · exact distinct_ofJson _
    · exact each n old

theorem distinct_ofJson_members (v : Json) : ∀ m ∈ (ofJson v).members, m.2.Distinct := by
  obtain ⟨ms, rfl⟩ | none := members_ofJson v
  · exact distinct_ofMembers [] nofun ms
  · rw [none]
    nofun

end Tree

/-- The entries of a file have different names, and so have the members of the tables among them. -/
theorem SettingsFile.distinct_of_entries? {name text : String} {entries : List (String × Tree)}
    (read : entries? name text = some entries) :
    (entries.map Prod.fst).Nodup ∧ ∀ e ∈ entries, e.2.Distinct := by
  unfold entries? at read
  dsimp only at read
  split at read
  · obtain ⟨t, document, same⟩ := Option.bind_eq_some_iff.mp read
    split at same
    · obtain rfl := Option.some.inj same
      exact Toml.distinct_of_read? document
    · cases same
  · obtain ⟨v, -, same⟩ := Option.bind_eq_some_iff.mp read
    split at same
    · next ms shape =>
      obtain rfl := Option.some.inj same
      have names := Tree.distinct_ofJson v
      have each := Tree.distinct_ofJson_members v
      rw [shape] at names each
      exact ⟨names, each⟩
    · cases same
  · cases read

end CallDesk
