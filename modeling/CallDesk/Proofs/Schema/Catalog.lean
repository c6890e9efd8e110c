import CallDesk.Proofs.Schema.Report
import CallDesk.Schema.Catalog
import CallDesk.Text.Digits

/-! # What the catalog is asked

A question to the catalog asks whether a view has a row whose columns have some values. Its text is what is sent, and
its meaning is read off the rows that the objects of a catalog have in the views. Columns, indexes and tables are
asked for in the current schema. The trigger is asked for by its name and its table alone, so that one in any schema
answers for it, and the report on a schema may say that a trigger is there which another schema has.
-/

namespace CallDesk.Schema

/-! ## Questions -/

/-- What a column is compared with: the current schema, a value that is sent beside the text, or one in the text. -/
inductive Operand where
  | currentSchema
  | argument (position : Nat) (value : String)
  | literal (value : String)

def Operand.text : Operand → String
  | currentSchema => "current_schema()"
  | argument position _ => "$" ++ Text.decimal position
  | literal value => "'" ++ value ++ "'"

def Operand.value (current : String) : Operand → String
  | currentSchema => current
  | argument _ value => value
  | literal value => value

/-- A column has a value. -/
structure Condition where
  column : String
  operand : Operand

def Condition.text (c : Condition) : String := c.column ++ " = " ++ c.operand.text

/-- The conditions of one line. -/
def conjunction (cs : List Condition) : String := " AND ".intercalate (cs.map Condition.text)

/-- Whether a view has a row that meets all conditions. They stand on lines, of which there is at least one. -/
structure Question where
  view : String
  first : List Condition
  more : List (List Condition) := []

def Question.conditions (q : Question) : List Condition := q.first ++ q.more.flatten

/-- The text of a question behind a margin. -/
def Question.text (q : Question) (margin : String) : String :=
  existsText margin (["SELECT 1 FROM " ++ q.view, "WHERE " ++ conjunction q.first] ++
    q.more.map fun cs => "  AND " ++ conjunction cs)

/-- The question whether an object is there. -/
def Object.question : Object → Question
  | column owner name => {
      view := "information_schema.columns", first := [⟨"table_schema", .currentSchema⟩]
      more := [[⟨"table_name", .argument 1 owner⟩, ⟨"column_name", .argument 2 name⟩]] }
  | index name => {
      view := "pg_indexes", first := [⟨"schemaname", .currentSchema⟩, ⟨"indexname", .argument 1 name⟩] }
  | table name => {
      view := "information_schema.tables"
      first := [⟨"table_schema", .currentSchema⟩, ⟨"table_name", .literal name⟩] }
  | trigger owner name => {
      view := "information_schema.triggers", first := [⟨"event_object_table", .literal owner⟩]
      more := [[⟨"trigger_name", .literal name⟩]] }

theorem conjunction_singleton (a : Condition) : conjunction [a] = a.text := rfl

theorem conjunction_pair (a b : Condition) : conjunction [a, b] = a.text ++ " AND " ++ b.text := rfl

/-- The text of a question is what is sent. -/
theorem query_eq_text (o : Object) : o.query = o.question.text o.margin := by
  have one : Text.decimal 1 = "1" := by decide +kernel
  have two : Text.decimal 2 = "2" := by decide +kernel
  cases o <;>
    simp [Object.query, Object.question, Question.text, conjunction_singleton, conjunction_pair, Condition.text,
      Operand.text, one, two, ← String.append_assoc]

/-! ## Answers -/

/-- A row of a view: its columns with their values. -/
structure Row where
  view : String
  cells : List (String × String)

/-- The row that an object of a schema has. A trigger belongs to the schema of its table. -/
def Object.row (schema : String) : Object → Row
  | column owner name => ⟨"information_schema.columns",
      [("table_schema", schema), ("table_name", owner), ("column_name", name)]⟩
  | index name => ⟨"pg_indexes", [("schemaname", schema), ("indexname", name)]⟩
  | table name => ⟨"information_schema.tables", [("table_schema", schema), ("table_name", name)]⟩
  | trigger owner name => ⟨"information_schema.triggers",
      [("trigger_schema", schema), ("trigger_name", name), ("event_object_schema", schema),
        ("event_object_table", owner)]⟩

def Catalog.rows (c : Catalog) : List Row := c.objects.map fun p => p.2.row p.1

/-- A row meets the conditions of a question. -/
def Question.admits (q : Question) (current : String) (r : Row) : Bool :=
  r.view == q.view && q.conditions.all fun cond => r.cells.lookup cond.column == some (cond.operand.value current)

/-- What a catalog answers. -/
def Question.holds (q : Question) (c : Catalog) : Bool := c.rows.any (q.admits c.current)

/-- The trigger that is looked for is one of any schema; any other object has to be in the current one. -/
theorem admits_row_iff (o p : Object) (current schema : String) :
    o.question.admits current (p.row schema) = true ↔
      p = o ∧ ((∃ owner name, o = .trigger owner name) ∨ schema = current) := by
  cases o <;> cases p <;>
    simp [Question.admits, Question.conditions, Object.question, Object.row, Operand.value, List.lookup_cons, and_comm]

/-- An object of the current schema. -/
def Catalog.Has (c : Catalog) (o : Object) : Prop := (c.current, o) ∈ c.objects

/-- An object of some schema. -/
def Catalog.HasAnywhere (c : Catalog) (o : Object) : Prop := ∃ schema, (schema, o) ∈ c.objects

variable {c d : Catalog}

theorem knows_trigger_iff (owner name : String) :
    c.knows (.trigger owner name) = true ↔ c.HasAnywhere (.trigger owner name) := by
  rw [Catalog.knows, List.any_eq_true]
  constructor
  · rintro ⟨⟨schema, p⟩, member, same⟩
    obtain rfl : p = .trigger owner name := beq_iff_eq.mp same
    exact ⟨schema, member⟩
  · rintro ⟨schema, member⟩
    exact ⟨(schema, _), member, beq_self_eq_true _⟩

theorem knows_iff_has {o : Object} (other : ∀ owner name, o ≠ .trigger owner name) : c.knows o = true ↔ c.Has o := by
  cases o with
  | trigger owner name => exact absurd rfl (other owner name)
  | _ => exact List.contains_iff_mem

theorem holds_question_iff (o : Object) :
    o.question.holds c = true ↔ ∃ schema, (schema, o) ∈ c.objects ∧
      ((∃ owner name, o = .trigger owner name) ∨ schema = c.current) := by
  rw [Question.holds, Catalog.rows, List.any_map, List.any_eq_true]
  constructor
  · rintro ⟨⟨schema, p⟩, member, admitted⟩
    obtain ⟨rfl, place⟩ := (admits_row_iff o p c.current schema).mp admitted
    exact ⟨schema, member, place⟩
  · rintro ⟨schema, member, place⟩
    exact ⟨(schema, o), member, (admits_row_iff o o c.current schema).mpr ⟨rfl, place⟩⟩

/-- What a catalog knows is what its rows answer. -/
theorem knows_eq_holds (c : Catalog) (o : Object) : c.knows o = o.question.holds c := by
  rw [Bool.eq_iff_iff, holds_question_iff]
  by_cases trigger : ∃ owner name, o = .trigger owner name
  · obtain ⟨owner, name, rfl⟩ := trigger
    rw [knows_trigger_iff]
    constructor
    · rintro ⟨schema, member⟩
      exact ⟨schema, member, .inl ⟨owner, name, rfl⟩⟩
    · rintro ⟨schema, member, -⟩
      exact ⟨schema, member⟩
  · rw [knows_iff_has fun owner name same => trigger ⟨owner, name, same⟩]
    constructor
    · exact fun here => ⟨c.current, here, .inr rfl⟩
    · rintro ⟨schema, member, known | rfl⟩
      · exact absurd known trigger
      · exact member

/-! ## The report on a catalog -/

/-- A database that is nothing but its catalog. -/
def Catalog.database : Database Catalog where
  connect _ c := (.ok (), c)
  execute
    | .present o, c => (.ok (c.knows o), c)
    | _, c => (.error "read only", c)

theorem answers_database (c : Catalog) (objects : List Object) :
    Catalog.database.answers objects c = (.ok (objects.map c.knows), c) := by
  induction objects with
  | nil => rfl
  | cons o rest ih =>
    rw [Database.answers]
    change (Except.map (_ :: ·) (Catalog.database.answers rest c).1, (Catalog.database.answers rest c).2) = _
    rw [ih]
    rfl

/-- Only the expected objects count for a report. -/
theorem Report.on_congr {there there' : Object → Bool} (same : ∀ o ∈ expectedObjects, there o = there' o) :
    Report.on there = Report.on there' := by
  simp only [expectedObjects, List.forall_mem_append, List.forall_mem_map, List.forall_mem_cons] at same
  obtain ⟨⟨columns, indexes⟩, table, trigger, -⟩ := same
  rw [Report.on, Report.on, table, trigger, Report.mk.injEq]
  refine ⟨List.filter_congr fun column member => ?_, List.filter_congr fun index member => ?_, rfl, rfl⟩
  · rw [columns column member]
  · rw [indexes index member]

/-- A catalog can always be reported on. -/
theorem run_report_database (c : Catalog) :
    Catalog.database.report.run.run c = (.ok (.on c.knows), c) := by
  have answers := answers_database c expectedObjects
  rcases Catalog.database.run_report c with ⟨there, next, told, made⟩ | ⟨why, next, told, -⟩
  · rw [answers] at told
    obtain ⟨same, rfl⟩ := Prod.mk.inj told
    rw [made, Report.on_congr (List.map_inj_left.mp (Except.ok.inj same))]
  · rw [answers] at told
    cases told

/-- The trigger that the migration adds. -/
def addedTrigger : Object := .trigger transcriptsTable transcriptsTrigger

theorem expectedObjects_triggers : ∀ o ∈ expectedObjects, o ≠ addedTrigger → ∀ owner name, o ≠ .trigger owner name := by
  rintro o member other owner name rfl
  obtain ⟨rfl, rfl⟩ : owner = transcriptsTable ∧ name = transcriptsTrigger := by
    simpa [expectedObjects, columnOf] using member
  exact other rfl

/-- Two catalogs that have the same in the current schema, whatever there is in others. -/
structure Catalog.Agrees (c d : Catalog) : Prop where
  current : d.current = c.current
  objects : ∀ o, d.Has o ↔ c.Has o

/-- What a report says of a catalog. -/
structure ReportsOn (c : Catalog) (r : Report) : Prop where
  columns : ∀ column, column ∈ r.missingColumns ↔ column ∈ expectedColumns ∧ ¬ c.Has (columnOf column)
  indexes : ∀ index, index ∈ r.missingIndexes ↔ index ∈ expectedIndexes ∧ ¬ c.Has (.index index)
  table : r.hasTable = true ↔ c.Has (.table transcriptsTable)
  /-- A trigger of another schema counts too. -/
  trigger : r.hasTrigger = true ↔ c.HasAnywhere addedTrigger
  complete : r.isComplete = true ↔ (∀ o ∈ expectedObjects, o ≠ addedTrigger → c.Has o) ∧ c.HasAnywhere addedTrigger

theorem reportsOn (c : Catalog) : ReportsOn c (.on c.knows) := by
  have column (p : String × String) : c.knows (columnOf p) = true ↔ c.Has (columnOf p) := knows_iff_has nofun
  have index (i : String) : c.knows (.index i) = true ↔ c.Has (.index i) := knows_iff_has nofun
  have table : c.knows (.table transcriptsTable) = true ↔ c.Has (.table transcriptsTable) := knows_iff_has nofun
  refine ⟨fun p => ?_, fun i => ?_, table, knows_trigger_iff _ _, ?_⟩
  · simp [Report.on, List.mem_filter, ← column]
  · simp [Report.on, List.mem_filter, ← index]
  · rw [Report.isComplete_on]
    constructor
    · intro all
      refine ⟨fun o member other => ?_, (knows_trigger_iff _ _).mp (all addedTrigger (by decide))⟩
      exact (knows_iff_has (expectedObjects_triggers o member other)).mp (all o member)
    · rintro ⟨others, anywhere⟩ o member
      by_cases same : o = addedTrigger
      · rw [same]
        exact (knows_trigger_iff _ _).mpr anywhere
      · exact (knows_iff_has (expectedObjects_triggers o member same)).mpr (others o member same)

/-- Catalogs that agree in the current schema, and on whether there is such a trigger at all, have one report. -/
theorem on_knows_congr (agrees : c.Agrees d) (trigger : d.HasAnywhere addedTrigger ↔ c.HasAnywhere addedTrigger) :
    Report.on d.knows = Report.on c.knows := by
  apply Report.on_congr
  intro o member
  rw [Bool.eq_iff_iff]
  by_cases same : o = addedTrigger
  · subst same
    exact (knows_trigger_iff _ _).trans (trigger.trans (knows_trigger_iff _ _).symm)
  · have other := expectedObjects_triggers o member same
    exact (knows_iff_has other).trans ((agrees.objects o).trans (knows_iff_has other).symm)

/-- When no other schema has the trigger, a report is complete just when the current schema has all objects. -/
theorem ReportsOn.complete_iff {r : Report} (reports : ReportsOn c r)
    (sole : ∀ schema, (schema, addedTrigger) ∈ c.objects → schema = c.current) :
    r.isComplete = true ↔ ∀ o ∈ expectedObjects, c.Has o := by
  rw [reports.complete]
  constructor
  · rintro ⟨others, schema, member⟩ o expected
    by_cases same : o = addedTrigger
    · subst same
      rw [sole schema member] at member
      exact member
    · exact others o expected same
  · intro all
    exact ⟨fun o expected _ => all o expected, c.current, all addedTrigger (by decide)⟩

/-- Every catalog is reported on, by its current schema but for the trigger: what other schemas have makes no
difference as long as they do not have that trigger. -/
theorem report_by_schema (c : Catalog) :
    (∀ o ∈ expectedObjects, o.query = o.question.text o.margin ∧ c.knows o = o.question.holds c) ∧
    ∃ r, Catalog.database.report.run.run c = (.ok r, c) ∧ ReportsOn c r ∧
      ((∀ schema, (schema, addedTrigger) ∈ c.objects → schema = c.current) →
        (r.isComplete = true ↔ ∀ o ∈ expectedObjects, c.Has o)) ∧
      ∀ d, c.Agrees d → (d.HasAnywhere addedTrigger ↔ c.HasAnywhere addedTrigger) →
        Catalog.database.report.run.run d = (.ok r, d) := by
  refine ⟨fun o _ => ⟨query_eq_text o, knows_eq_holds c o⟩, _, run_report_database c, reportsOn c, ?_, ?_⟩
  · exact (reportsOn c).complete_iff
  · intro d agrees trigger
    rw [run_report_database, on_knows_congr agrees trigger]

/-- A schema that has everything. -/
def migrated : Catalog where
  current := "public"
  objects := expectedObjects.map ("public", ·)

/-- The same schema beside a copy of it that lacks the trigger. -/
def copied : Catalog :=
  { migrated with objects := migrated.objects ++ expectedObjects.dropLast.map ("staging", ·) }

/-- A schema that has everything is complete, with or without the copy. -/
theorem report_by_schema_migrated :
    ∃ r, Catalog.database.report.run.run migrated = (.ok r, migrated) ∧
      Catalog.database.report.run.run copied = (.ok r, copied) ∧ r.isComplete = true := by
  obtain ⟨-, r, run, -, complete, same⟩ := report_by_schema migrated
  have agrees : migrated.Agrees copied := by
    refine ⟨rfl, fun o => ?_⟩
    rw [Catalog.Has, Catalog.Has, copied, List.mem_append]
    refine or_iff_left fun member => ?_
    obtain ⟨_, -, pair⟩ := List.mem_map.mp member
    exact absurd (Prod.mk.inj pair).1 (by decide)
  have inCopied : copied.HasAnywhere addedTrigger := ⟨"public", by decide +kernel⟩
  have inMigrated : migrated.HasAnywhere addedTrigger := ⟨"public", by decide +kernel⟩
  refine ⟨r, run, same copied agrees (iff_of_true inCopied inMigrated), (complete ?_).mpr fun o expected => ?_⟩
  · intro schema member
    obtain ⟨_, -, pair⟩ := List.mem_map.mp member
    exact (Prod.mk.inj pair).1.symm
  · exact List.mem_map_of_mem expected

/-- A schema without the trigger beside a copy of it that has the trigger. -/
def staged : Catalog where
  current := "public"
  objects := expectedObjects.dropLast.map ("public", ·) ++ expectedObjects.map ("staging", ·)

/-- The trigger of another schema completes the report. -/
theorem foreign_trigger_counts : ¬ ∀ (c : Catalog) (r : Report),
    Catalog.database.report.run.run c = (.ok r, c) → (r.isComplete = true ↔ ∀ o ∈ expectedObjects, c.Has o) := by
  intro claimed
  have complete : (Report.on staged.knows).isComplete = true := by decide +kernel
  have all := (claimed staged _ (run_report_database staged)).mp complete
  have missing : ("public", addedTrigger) ∉ staged.objects := by decide +kernel
  exact missing (all addedTrigger (by decide))

end CallDesk.Schema
