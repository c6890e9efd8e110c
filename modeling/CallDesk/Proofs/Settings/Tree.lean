import CallDesk.Proofs.Text.Split
import CallDesk.Settings.Tree

/-! # Layers of trees

What a tree holds after something was laid over it. A value that is laid over a member takes its place, except
that the members of a table are laid over those that are there; no other member changes. So what a tree holds
at a place of two names is what the last layer says there, if it says anything.
-/

namespace CallDesk

/-! ## Members -/

namespace Members

variable {α : Type} (name : String) (v : α) (ms : List (String × α))

/-- Members with one of them set: in the place of the one of its name, or at the end. -/
def put (name : String) (v : α) : List (String × α) → List (String × α)
  | [] => [(name, v)]
  | (n, w) :: rest => if n = name then (name, v) :: rest else (n, w) :: put name v rest

theorem lookup_cons (key : String) :
    ((name, v) :: ms).lookup key = if key = name then some v else ms.lookup key := by
  rw [List.lookup_cons]
  by_cases same : key = name
  · rw [beq_iff_eq.mpr same, if_pos same]
  · rw [beq_false_of_ne same, if_neg same]

theorem lookup_put (key : String) :
    (put name v ms).lookup key = if key = name then some v else ms.lookup key := by
  induction ms with
  | nil => rw [put, lookup_cons]
  | cons m ms ih =>
    obtain ⟨n, w⟩ := m
    rw [put]
    split
    · next found =>
      rw [lookup_cons, lookup_cons, found]
      split <;> rfl
    · next missed =>
      rw [lookup_cons, lookup_cons, ih]
      split
      · next same => rw [if_neg fun equal => missed (same.symm.trans equal)]
      · rfl

/-- Setting a member leaves the other names as they are. -/
theorem names_put :
    (put name v ms).map Prod.fst =
      if name ∈ ms.map Prod.fst then ms.map Prod.fst else ms.map Prod.fst ++ [name] := by
  induction ms with
  | nil => rfl
  | cons m ms ih =>
    obtain ⟨n, w⟩ := m
    rw [put]
    by_cases same : n = name
    · simp [same]
    · simp only [same, if_false, List.map_cons, ih, List.mem_cons, Ne.symm same, false_or]
      split <;> rfl

variable {name v ms}

theorem nodup_put (distinct : (ms.map Prod.fst).Nodup) : ((put name v ms).map Prod.fst).Nodup := by
  rw [names_put]
  split
  · exact distinct
  · next fresh =>
    refine List.nodup_append.mpr ⟨distinct, by simp, ?_⟩
    rintro n member m last rfl
    exact fresh (List.mem_singleton.mp last ▸ member)

/-- What is among the members after one was set was there or is that one. -/
theorem mem_put {m : String × α} (member : m ∈ put name v ms) : m = (name, v) ∨ m ∈ ms := by
  induction ms with
  | nil => exact .inl (List.mem_singleton.mp member)
  | cons n ms ih =>
    rw [put] at member
    split at member
    · exact (List.mem_cons.mp member).imp_right (List.mem_cons_of_mem n)
    · rcases List.mem_cons.mp member with rfl | later
      · exact .inr List.mem_cons_self
      · exact (ih later).imp_right (List.mem_cons_of_mem n)

end Members

/-! ## Trees -/

namespace Tree

/-- What a tree holds under a name. -/
def member? (t : Tree) (name : String) : Option Tree := t.members.lookup name

/-- What a tree holds under a name in the table that it holds under another one. -/
def at? (t : Tree) (part name : String) : Option Tree := (t.member? part).bind (member? · name)

/-- What comes to stand in the place of a value when another one is laid over it. -/
def laid (v : Tree) (below : Option Tree) : Tree :=
  match v with
  | .table ms => layAll ms (below.getD (.table []))
  | v => v

variable {t : Tree} {name other part : String} {v : Tree} {ms : List (String × Tree)}

theorem setIn_eq_put (name : String) (v : Tree) (ms : List (String × Tree)) :
    setIn name v ms = Members.put name v ms := by
  induction ms with
  | nil => rfl
  | cons m ms ih => rw [setIn, Members.put, ih]

theorem member?_set (t : Tree) (name other : String) (v : Tree) :
    (t.set name v).member? other = if other = name then some v else t.member? other :=
  (congrArg (List.lookup other) (setIn_eq_put name v t.members)).trans (Members.lookup_put name v t.members other)

theorem lay_eq (name : String) (v t : Tree) : lay name v t = t.set name (laid v (t.member? name)) := by
  cases v with
  | table ms => rw [lay, laid, member?]
  | _ => rfl

theorem member?_lay (name other : String) (v t : Tree) :
    (lay name v t).member? other = if other = name then some (laid v (t.member? name)) else t.member? other := by
  rw [lay_eq, member?_set]

/-- Members of different names are laid over those of their names, whatever their order. -/
theorem member?_layAll (distinct : (ms.map Prod.fst).Nodup) (t : Tree) (name : String) :
    (layAll ms t).member? name =
      match ms.lookup name with
      | some v => some (laid v (t.member? name))
      | none => t.member? name := by
  induction ms generalizing t with
  | nil => rfl
  | cons m ms ih =>
    obtain ⟨n, v⟩ := m
    rw [List.map_cons, List.nodup_cons] at distinct
    rw [layAll, ih distinct.2, member?_lay, Members.lookup_cons]
    by_cases same : name = n
    · subst same
      have later : ms.lookup name = none := by
        refine List.lookup_eq_none_iff.mpr fun p member => ?_
        have there : p.1 ∈ ms.map Prod.fst := List.mem_map_of_mem member
        refine bne_iff_ne.mpr fun equal => distinct.1 ?_
        rw [equal]
        exact there
      simp [later]
    · simp [same]

/-- What is laid over a table leaves a table. -/
theorem lay_isTable (name : String) (v t : Tree) : ∃ ms, lay name v t = .table ms := ⟨_, lay_eq name v t⟩

theorem layAll_isTable (ms : List (String × Tree)) {t : Tree} (table : ∃ ns, t = .table ns) :
    ∃ ns, layAll ms t = .table ns := by
  induction ms generalizing t with
  | nil => exact table
  | cons m ms ih => exact ih (lay_isTable m.1 m.2 t)

/-- A table stays a table, and anything else stays what it is, when it is laid where nothing was. -/
theorem laid_none (v : Tree) : laid v none = v ∨ (∃ ms, v = .table ms) ∧ ∃ ms, laid v none = .table ms := by
  cases v with
  | table ms => exact .inr ⟨⟨ms, rfl⟩, layAll_isTable ms ⟨[], rfl⟩⟩
  | _ => exact .inl rfl

/-! ## Layers -/

/-- A name without a dot is a path of its own. -/
theorem path_plain {key : String} (plain : '.' ∉ key.toList) : (path? key).getD [key] = [key] := by
  rw [path?, Text.splitAll_of_not_mem plain]
  split
  · rw [Option.getD_some, List.map_singleton, String.ofList_toList]
  · rfl

/-- A layer whose keys are names is laid over member by member. -/
theorem layer_plain {entries : List (String × Tree)} (plain : ∀ e ∈ entries, '.' ∉ e.1.toList) (t : Tree) :
    t.layer entries = layAll entries t := by
  induction entries generalizing t with
  | nil => rfl
  | cons e entries ih =>
    obtain ⟨key, v⟩ := e
    have first : layAt v ((path? key).getD [key]) t = lay key v t := by
      rw [path_plain (plain (key, v) List.mem_cons_self)]
      rfl
    rw [layer, List.foldl_cons, layAll, ← ih (fun f member => plain f (List.mem_cons_of_mem _ member)), layer, ← first]

/-- A text is set at the place that two names lead to. -/
theorem layAt_eq (s part name : String) (t : Tree) :
    layAt (.text s) [part, name] t = t.set part (((t.member? part).getD .null).set name (.text s)) := rfl

/-- What a tree holds after a text was laid over a place in it. -/
theorem at?_layAt (s part' name' : String) (t : Tree) :
    (layAt (.text s) [part, name] t).at? part' name' =
      if part' = part ∧ name' = name then some (.text s) else t.at? part' name' := by
  rw [layAt_eq, at?, member?_set]
  by_cases same : part' = part
  · subst same
    rw [if_pos rfl, Option.bind_some, member?_set, at?]
    by_cases named : name' = name
    · simp [named]
    · rw [if_neg named, if_neg fun both => named both.2]
      cases t.member? part' <;> rfl
  · rw [if_neg same, if_neg fun both => same both.1, at?]

/-- Tables stay tables when a text is laid over a place in them. -/
theorem member?_layAt_isTable {s : String} (tables : ∀ u, t.member? other = some u → ∃ ms, u = .table ms) :
    ∀ u, (layAt (.text s) [part, name] t).member? other = some u → ∃ ms, u = .table ms := by
  intro u held
  rw [layAt_eq, member?_set] at held
  split at held
  · obtain rfl := Option.some.inj held
    exact ⟨_, rfl⟩
  · exact tables u held

end Tree

end CallDesk
