import CallDesk.Proofs.Settings.Field
import CallDesk.Proofs.Settings.File

/-! # Settings field by field

Settings are loaded from a file and the variables over it. For files whose sections are tables, and variables
that name fields, each field is what its variable says, or else what the file says, or else its default: no
field depends on what is given for another one. Settings cannot be loaded just when what counts for some field
is no value of it.
-/

namespace CallDesk.Settings

/-! ## What is given -/

/-- The file holds these entries; without a file there are none. -/
def Holds (entries : List (String × Tree)) : SettingsFile → Prop
  | .none => entries = []
  | .missing => False
  | .found name text => SettingsFile.entries? name text = some entries

/-- The sections in a file are tables, and no entry has a path for its name. Entries and members of other names
may be there. -/
structure InSections (entries : List (String × Tree)) : Prop where
  plain : ∀ e ∈ entries, '.' ∉ e.1.toList
  tables : ∀ e ∈ entries, e.1 ∈ sectionNames → ∃ fields, e.2 = .table fields

/-- The variables that start as those of settings do name fields, in any case, and no two of them the same one. -/
structure NameFields (vars : Variables) : Prop where
  known : ∀ v ∈ vars, "voxdial__".toList <+: (Tree.lower v.1).toList →
    ∃ (α : Type) (f : Field α), Tree.lower v.1 = f.variableName
  single : ∀ (α : Type) (f : Field α), (vars.filter fun v => Tree.lower v.1 = f.variableName).length ≤ 1

namespace Field

variable {α : Type} (f : Field α)

/-- What the variable of a field says. -/
def ofVariables? (vars : Variables) : Option String :=
  (vars.find? fun v => Tree.lower v.1 = f.variableName).map (·.2)

/-- What a file says in a field. -/
def ofFile? (entries : List (String × Tree)) : Option Tree :=
  (entries.lookup f.part).bind fun fields => fields.members.lookup f.name

/-- What counts for a field: its variable, or else the file. -/
def given? (entries : List (String × Tree)) (vars : Variables) : Option Tree :=
  ((f.ofVariables? vars).map Tree.text).or (f.ofFile? entries)

/-- The value of a field: what is given for it, taken as one of its values, or else its default. -/
def value? (entries : List (String × Tree)) (vars : Variables) : Option α :=
  match f.given? entries vars with
  | some v => f.read? v
  | none => some (f.default (vars.lookup "DATABASE_URL"))

end Field

/-! ## The layer of a file -/

section

variable {entries : List (String × Tree)} {α : Type}

/-- No field takes a table. -/
theorem read?_table (f : Field α) (ms : List (String × Tree)) : f.read? (.table ms) = none := by
  cases f <;> rfl

/-- What a value is taken as does not change when it is laid where nothing was. -/
theorem read?_laid (f : Field α) (v : Tree) : f.read? (v.laid none) = f.read? v := by
  rcases v.laid_none with same | ⟨⟨ms, rfl⟩, ns, table⟩
  · rw [same]
  · rw [table, read?_table, read?_table]

theorem member?_file (sections : InSections entries) (distinct : (entries.map Prod.fst).Nodup) (part : String) :
    ((Tree.table []).layer entries).member? part = (entries.lookup part).map fun v => v.laid none := by
  rw [Tree.layer_plain sections.plain, Tree.member?_layAll distinct]
  cases entries.lookup part <;> rfl

theorem mem_of_lookup {β : Type} {ms : List (String × β)} {key : String} {v : β} (found : ms.lookup key = some v) :
    (key, v) ∈ ms := by
  obtain ⟨before, rest, shape, -⟩ := List.lookup_eq_some_iff.mp found
  exact shape ▸ List.mem_append_right before List.mem_cons_self

/-- The sections of a file are tables of the tree that it makes. -/
theorem sectioned_file (sections : InSections entries) (distinct : (entries.map Prod.fst).Nodup) :
    Sectioned ((Tree.table []).layer entries) := by
  constructor
  · rw [Tree.layer_plain sections.plain]
    exact Tree.layAll_isTable entries ⟨[], rfl⟩
  · intro part listed v held
    rw [member?_file sections distinct] at held
    obtain ⟨u, found, rfl⟩ := Option.map_eq_some_iff.mp held
    obtain ⟨fields, rfl⟩ := sections.tables (part, u) (mem_of_lookup found) listed
    exact Tree.layAll_isTable fields ⟨[], rfl⟩

/-- The tree that a file makes holds what the file says in a field. -/
theorem at?_file (sections : InSections entries) (distinct : (entries.map Prod.fst).Nodup)
    (each : ∀ e ∈ entries, e.2.Distinct) (f : Field α) :
    ((Tree.table []).layer entries).at? f.part f.name = (f.ofFile? entries).map fun v => v.laid none := by
  rw [Tree.at?, member?_file sections distinct, Field.ofFile?]
  cases found : entries.lookup f.part with
  | none => rfl
  | some v =>
    have member := mem_of_lookup found
    obtain ⟨fields, rfl⟩ := sections.tables _ member (part_mem_sectionNames f)
    have names : (fields.map Prod.fst).Nodup := each _ member
    rw [Option.map_some, Option.bind_some, Option.bind_some, Tree.laid, Option.getD_none, Tree.member?_layAll names]
    change _ = (fields.lookup f.name).map _
    cases fields.lookup f.name <;> rfl

end

/-! ## The layer of variables -/

section

variable {α β : Type} {vars : Variables} {name val : String}

/-- A variable for a field sets the place of that field. -/
theorem keyOf?_field {f : Field α} (named : Tree.lower name = f.variableName) :
    ∃ key, keyOf? name = some key ∧ (Tree.path? key).getD [key] = [f.part, f.name] := by
  refine ⟨f.part ++ "." ++ f.name, ?_, ?_⟩
  · rw [keyOf?, named]
    cases f <;> rfl
  · cases f <;> rfl

/-- Other variables set nothing. -/
theorem keyOf?_other (other : ¬ "voxdial__".toList <+: (Tree.lower name).toList) : keyOf? name = none := by
  rw [keyOf?]
  exact if_neg fun start => other (List.isPrefixOf_iff_prefix.mp start)

theorem prefix_variableName (f : Field α) : "voxdial__".toList <+: f.variableName.toList := by
  rw [Field.variableName, String.toList_append, String.toList_append, String.toList_append, List.append_assoc,
    List.append_assoc]
  exact List.prefix_append _ _

theorem variableEntries_cons (name val : String) (vars : Variables) :
    variableEntries ((name, val) :: vars) =
      ((keyOf? name).map fun key => (key, Tree.text val)).toList ++ variableEntries vars := by
  cases keyed : keyOf? name with
  | none => exact List.filterMap_cons_none (congrArg (Option.map fun key => (key, Tree.text val)) keyed)
  | some key => exact List.filterMap_cons_some (congrArg (Option.map fun key => (key, Tree.text val)) keyed)

theorem ofVariables?_cons (f : Field α) (name val : String) (vars : Variables) :
    f.ofVariables? ((name, val) :: vars) =
      if Tree.lower name = f.variableName then some val else f.ofVariables? vars := by
  rw [Field.ofVariables?, List.find?_cons]
  split
  · next same => rw [if_pos (of_decide_eq_true same)]; rfl
  · next other => rw [if_neg (of_decide_eq_false other)]; rfl

theorem NameFields.tail {v : String × String} (names : NameFields (v :: vars)) : NameFields vars where
  known w member := names.known w (List.mem_cons_of_mem v member)
  single α f := le_trans ((List.sublist_cons_self v vars).filter _).length_le (names.single α f)

/-- Only one variable names a field. -/
theorem NameFields.fresh (names : NameFields ((name, val) :: vars)) {f : Field α}
    (named : Tree.lower name = f.variableName) : f.ofVariables? vars = none := by
  have one := names.single α f
  rw [List.filter_cons, if_pos (decide_eq_true named), List.length_cons] at one
  have rest : (vars.filter fun v => Tree.lower v.1 = f.variableName) = [] :=
    List.length_eq_zero_iff.mp (by omega)
  rw [Field.ofVariables?, List.find?_eq_none.mpr (by simpa [List.filter_eq_nil_iff] using rest), Option.map_none]

theorem Sectioned.layAt {t : Tree} (sectioned : Sectioned t) (val part name : String) :
    Sectioned (Tree.layAt (.text val) [part, name] t) where
  table := ⟨_, Tree.layAt_eq val part name t⟩
  sections other listed := Tree.member?_layAt_isTable (sectioned.sections other listed)

/-- What the tree holds in a field after the variables were laid over it is what the variable of the field says,
or else what was there. -/
theorem at?_variables (names : NameFields vars) {t : Tree} (sectioned : Sectioned t) :
    Sectioned (t.layer (variableEntries vars)) ∧ ∀ (α : Type) (f : Field α),
      (t.layer (variableEntries vars)).at? f.part f.name =
        ((f.ofVariables? vars).map Tree.text).or (t.at? f.part f.name) := by
  induction vars generalizing t with
  | nil => exact ⟨sectioned, fun α f => rfl⟩
  | cons v vars ih =>
    obtain ⟨name, val⟩ := v
    by_cases start : "voxdial__".toList <+: (Tree.lower name).toList
    · obtain ⟨β, g, named⟩ := names.known (name, val) List.mem_cons_self start
      obtain ⟨key, keyed, path⟩ := keyOf?_field named
      have shape : t.layer (variableEntries ((name, val) :: vars)) =
          (Tree.layAt (.text val) [g.part, g.name] t).layer (variableEntries vars) := by
        rw [variableEntries_cons, keyed, ← path]
        rfl
      obtain ⟨kept, told⟩ := ih names.tail (sectioned.layAt val g.part g.name)
      rw [shape]
      refine ⟨kept, fun α f => ?_⟩
      rw [told α f, Tree.at?_layAt, ofVariables?_cons]
      by_cases same : Tree.lower name = f.variableName
      · obtain ⟨other, keyed', path'⟩ := keyOf?_field same
        obtain rfl := Option.some.inj (keyed.symm.trans keyed')
        obtain ⟨parts, rest⟩ := List.cons_eq_cons.mp (path.symm.trans path')
        obtain ⟨fields, -⟩ := List.cons_eq_cons.mp rest
        rw [if_pos same, names.fresh same, if_pos ⟨parts.symm, fields.symm⟩]
        rfl
      · have apart : ¬ (f.part = g.part ∧ f.name = g.name) := by
          rintro ⟨parts, fields⟩
          refine same (named.trans ?_)
          rw [Field.variableName, Field.variableName, parts, fields]
        rw [if_neg same, if_neg apart]
    · have shape : variableEntries ((name, val) :: vars) = variableEntries vars := by
        rw [variableEntries_cons, keyOf?_other start]
        rfl
      obtain ⟨kept, told⟩ := ih names.tail sectioned
      rw [shape]
      refine ⟨kept, fun α f => ?_⟩
      have other : Tree.lower name ≠ f.variableName := fun same => start (same ▸ prefix_variableName f)
      rw [told α f, ofVariables?_cons, if_neg other]

end

/-! ## Settings -/

section

variable {file : SettingsFile} {entries : List (String × Tree)} {vars : Variables}

theorem Holds.distinct (holds : Holds entries file) :
    (entries.map Prod.fst).Nodup ∧ ∀ e ∈ entries, e.2.Distinct := by
  cases file with
  | none =>
    obtain rfl : entries = [] := holds
    exact ⟨List.nodup_nil, nofun⟩
  | missing => exact holds.elim
  | found name text => exact SettingsFile.distinct_of_entries? holds

theorem Holds.load (holds : Holds entries file) (vars : Variables) : load file vars = ofLayers entries vars := by
  cases file with
  | none =>
    obtain rfl : entries = [] := holds
    rfl
  | missing => exact holds.elim
  | found name text =>
    have read : SettingsFile.entries? name text = some entries := holds
    rw [Settings.load, read]

/-- What the layers settle for a field is its value. -/
theorem settle?_layers (sections : InSections entries) (distinct : (entries.map Prod.fst).Nodup)
    (each : ∀ e ∈ entries, e.2.Distinct) (names : NameFields vars) (α : Type) (f : Field α) :
    settle? ((((Tree.table []).layer entries).layer (variableEntries vars)).at? f.part f.name)
      (f.get (defaults vars)) f.read? = f.value? entries vars := by
  rw [(at?_variables names (sectioned_file sections distinct)).2, at?_file sections distinct each, get_defaults,
    Field.value?, Field.given?]
  cases f.ofVariables? vars with
  | some val => rfl
  | none =>
    cases f.ofFile? entries with
    | none => rfl
    | some v => exact read?_laid f v

/-- Either each field has a value and the settings have these, or there are none. -/
theorem load_cases (holds : Holds entries file) (sections : InSections entries) (names : NameFields vars) :
    (∃ s, load file vars = .ok s ∧ ∀ (α : Type) (f : Field α), f.value? entries vars = some (f.get s)) ∨
      load file vars = .error (.settings "a value does not have the expected type") ∧
        ∃ (α : Type) (f : Field α), f.value? entries vars = none := by
  obtain ⟨distinct, each⟩ := holds.distinct
  have sectioned := (at?_variables names (sectioned_file sections distinct)).1
  rw [holds.load, ofLayers]
  cases taken : take? Tree.source (defaults vars) (((Tree.table []).layer entries).layer (variableEntries vars)) with
  | some s =>
    refine .inl ⟨s, rfl, fun α f => ?_⟩
    rw [← settle?_layers sections distinct each names]
    exact (take?_iff sectioned).mp taken α f
  | none =>
    obtain ⟨α, f, stuck⟩ := (take?_eq_none_iff sectioned).mp taken
    refine .inr ⟨rfl, α, f, ?_⟩
    rw [← settle?_layers sections distinct each names, stuck]

/-- The settings that are loaded have the values of the fields. -/
theorem value?_of_load (holds : Holds entries file) (sections : InSections entries) (names : NameFields vars)
    {s : Settings} (loaded : load file vars = .ok s) (α : Type) (f : Field α) :
    f.value? entries vars = some (f.get s) := by
  obtain ⟨t, made, fields⟩ | ⟨failed, -⟩ := load_cases holds sections names
  · obtain rfl := Except.ok.inj (loaded.symm.trans made)
    exact fields α f
  · cases loaded.symm.trans failed

/-- Two loads in which the fields have the same values come to the same. -/
theorem load_eq_of_values {file' : SettingsFile} {entries' : List (String × Tree)} {vars' : Variables}
    (holds : Holds entries file) (sections : InSections entries) (names : NameFields vars)
    (holds' : Holds entries' file') (sections' : InSections entries') (names' : NameFields vars')
    (same : ∀ (α : Type) (f : Field α), f.value? entries vars = f.value? entries' vars') :
    load file vars = load file' vars' := by
  obtain ⟨s, made, fields⟩ | ⟨failed, α, f, none⟩ := load_cases holds sections names
  · obtain ⟨t, made', fields'⟩ | ⟨-, α, f, none⟩ := load_cases holds' sections' names'
    · have equal : s = t := eq_of_fields fun α f =>
        Option.some.inj ((fields α f).symm.trans ((same α f).trans (fields' α f)))
      rw [made, made', equal]
    · cases (fields α f).symm.trans ((same α f).trans none)
  · obtain ⟨t, -, fields'⟩ | ⟨failed', -⟩ := load_cases holds' sections' names'
    · cases (fields' α f).symm.trans ((same α f).symm.trans none)
    · rw [failed, failed']

/-- An empty section says nothing. -/
theorem ofFile?_append {before after : List (String × Tree)} {part : String}
    (fresh : part ∉ (before ++ after).map Prod.fst) {α : Type} (f : Field α) :
    f.ofFile? (before ++ (part, .table []) :: after) = f.ofFile? (before ++ after) := by
  have absent (ms : List (String × Tree)) (inside : ms ⊆ before ++ after) : ms.lookup part = none := by
    refine List.lookup_eq_none_iff.mpr fun p member => bne_iff_ne.mpr ?_
    rintro rfl
    exact fresh (List.mem_map_of_mem (inside member))
  rw [Field.ofFile?, Field.ofFile?, List.lookup_append, List.lookup_append, Members.lookup_cons]
  by_cases same : f.part = part
  · rw [same, if_pos rfl, absent before (List.subset_append_left before after),
      absent after (List.subset_append_right before after)]
    rfl
  · rw [if_neg same]

/-- Each field of the settings is what its variable says, else what the file says, else its default, and there are
no settings just when what counts for some field is no value of it. What is given for one field changes no other
one, and an empty section is as good as none. A file is TOML or JSON; those of other forms are left out. -/
theorem load_by_field (holds : Holds entries file) (sections : InSections entries) (names : NameFields vars) :
    ((∃ s, load file vars = .ok s ∧ ∀ (α : Type) (f : Field α), f.value? entries vars = some (f.get s)) ∨
      (∃ why, load file vars = .error (.settings why)) ∧ ∃ (α : Type) (f : Field α), f.value? entries vars = none) ∧
    (∀ file' entries' vars', Holds entries' file' → InSections entries' → NameFields vars' →
      ∀ (α : Type) (f : Field α), f.given? entries vars = f.given? entries' vars' →
        vars.lookup "DATABASE_URL" = vars'.lookup "DATABASE_URL" →
          ∀ s s', load file vars = .ok s → load file' vars' = .ok s' → f.get s = f.get s') ∧
    ∀ file' before part after, entries = before ++ after → part ∈ sectionNames → part ∉ entries.map Prod.fst →
      Holds (before ++ (part, .table []) :: after) file' → load file' vars = load file vars := by
  refine ⟨?_, ?_, ?_⟩
  · obtain loaded | ⟨failed, stuck⟩ := load_cases holds sections names
    · exact .inl loaded
    · exact .inr ⟨⟨_, failed⟩, stuck⟩
  · intro file' entries' vars' holds' sections' names' α f same address s s' loaded loaded'
    have value : f.value? entries vars = f.value? entries' vars' := by
      rw [Field.value?, Field.value?, same, address]
    exact Option.some.inj ((value?_of_load holds sections names loaded α f).symm.trans
      (value.trans (value?_of_load holds' sections' names' loaded' α f)))
  · rintro file' before part after rfl known fresh holds'
    have plain : '.' ∉ part.toList := (by decide : ∀ name ∈ sectionNames, '.' ∉ name.toList) part known
    have sections' : InSections (before ++ (part, .table []) :: after) := by
      constructor
      · intro e member
        rcases List.mem_append.mp member with first | last
        · exact sections.plain e (List.mem_append_left after first)
        · rcases List.mem_cons.mp last with rfl | later
          · exact plain
          · exact sections.plain e (List.mem_append_right before later)
      · intro e member listed
        rcases List.mem_append.mp member with first | last
        · exact sections.tables e (List.mem_append_left after first) listed
        · rcases List.mem_cons.mp last with rfl | later
          · exact ⟨[], rfl⟩
          · exact sections.tables e (List.mem_append_right before later) listed
    refine load_eq_of_values holds' sections' names holds sections names fun α f => ?_
    rw [Field.value?, Field.value?, Field.given?, Field.given?, ofFile?_append fresh]

end

/-- The only entry of a file with one section and one text in it. -/
def singleText? : Option (List (String × Tree)) → Option (String × String × String)
  | some [(part, .table [(name, .text val)])] => some (part, name, val)
  | _ => none

theorem eq_of_singleText? {given : Option (List (String × Tree))} {part name val : String}
    (sole : singleText? given = some (part, name, val)) : given = some [(part, .table [(name, .text val)])] := by
  rw [singleText?.eq_def] at sole
  split at sole
  · cases sole
    rfl
  · contradiction

/-- A file with a port that is none. -/
def oddFile : SettingsFile := .found "config.toml" "[server]\nport = \"x\""

/-- Variables with a port, and with the address of the database. -/
def portVariables : Variables := [("Voxdial__Server__PORT", "8080"), ("DATABASE_URL", "postgresql://db/calls")]

/-- A variable sets the port that the file gets wrong, and nothing else changes. -/
theorem load_by_field_odd :
    Holds [("server", .table [("port", .text "x")])] oddFile ∧
      ∃ s, load oddFile portVariables = .ok s ∧ s.server.port = 8080 ∧ s.server.host = "0.0.0.0" ∧
        s.database.url = "postgresql://db/calls" := by
  have read : SettingsFile.entries? "config.toml" "[server]\nport = \"x\"" =
      some [("server", .table [("port", .text "x")])] := eq_of_singleText? (by decide +kernel)
  have holds : Holds [("server", .table [("port", .text "x")])] oddFile := read
  have sections : InSections [("server", .table [("port", .text "x")])] := by
    constructor
    · decide
    · rintro e member -
      obtain rfl := List.mem_singleton.mp member
      exact ⟨_, rfl⟩
  have names : NameFields portVariables := by
    constructor
    · intro v member start
      simp only [portVariables, List.mem_cons, List.not_mem_nil, or_false] at member
      rcases member with rfl | rfl
      · exact ⟨_, .port, by decide⟩
      · exact absurd start (by decide)
    · intro α f
      cases f <;> decide
  have values : ¬ ∃ (α : Type) (f : Field α),
      f.value? [("server", .table [("port", .text "x")])] portVariables = none := by
    rintro ⟨α, f, none⟩
    cases f <;> cases none
  obtain ⟨⟨s, loaded, fields⟩ | ⟨-, stuck⟩, -⟩ := load_by_field holds sections names
  · exact ⟨holds, s, loaded, (Option.some.inj (fields _ .port)).symm, (Option.some.inj (fields _ .host)).symm,
      (Option.some.inj (fields _ .databaseUrl)).symm⟩
  · exact absurd stuck values

end CallDesk.Settings
