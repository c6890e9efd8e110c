import CallDesk.Proofs.Schema.Watch
import Mathlib.Logic.Function.Basic

/-! # Reporting on a schema

The report asks the catalog for every object that the migration adds, one question after the other. The first
question that fails ends it with the fault of the database; when none fails, the report lists the objects that are
not there in the order in which they are expected, and it is complete when all of them are there.
-/

namespace CallDesk.Schema

/-- The column of a name in a table. -/
def columnOf (c : String × String) : Object := .column c.1 c.2

/-- The objects that are asked for, in their order. -/
def expectedObjects : List Object :=
  expectedColumns.map columnOf ++ expectedIndexes.map .index ++
    [.table transcriptsTable, .trigger transcriptsTable transcriptsTrigger]

theorem expectedObjects_nodup : expectedObjects.Nodup := by decide

variable {σ ε α β : Type}

/-- What the catalog answers to questions that are asked one after the other, up to the first that fails. -/
def Database.answers (db : Database σ) : List Object → σ → Except String (List Bool) × σ
  | [], st => (.ok [], st)
  | o :: rest, st =>
    match db.execute (.present o) st with
    | (.error why, next) => (.error why, next)
    | (.ok there, next) => ((db.answers rest next).1.map (there :: ·), (db.answers rest next).2)

namespace Database

variable (db : Database σ)

theorem answers_append (xs ys : List Object) (st : σ) :
    db.answers (xs ++ ys) st =
      match db.answers xs st with
      | (.ok bits, next) => ((db.answers ys next).1.map (bits ++ ·), (db.answers ys next).2)
      | (.error why, next) => (.error why, next) := by
  induction xs generalizing st with
  | nil =>
    rw [List.nil_append, answers]
    dsimp only
    rcases db.answers ys st with ⟨_ | bits, next⟩ <;> rfl
  | cons o xs ih =>
    rw [List.cons_append, answers, answers]
    rcases db.execute (.present o) st with ⟨why | there, next⟩
    · rfl
    dsimp only
    rw [ih]
    rcases db.answers xs next with ⟨why | bits, next⟩
    · rfl
    dsimp only [Except.map]
    rcases db.answers ys next with ⟨_ | more, last⟩ <;> rfl

/-- There is an answer for every question when none of them fails. -/
theorem length_of_answers {objects : List Object} {st next : σ} {bits : List Bool}
    (told : db.answers objects st = (.ok bits, next)) : bits.length = objects.length := by
  induction objects generalizing st bits with
  | nil =>
    obtain ⟨rfl, rfl⟩ := told
    rfl
  | cons o objects ih =>
    rw [answers] at told
    rcases asked : db.execute (.present o) st with ⟨why | there, middle⟩
    · rw [asked] at told
      cases told
    · rw [asked] at told
      dsimp only at told
      rcases rest : db.answers objects middle with ⟨why | others, last⟩
      · rw [rest] at told
        cases told
      · rw [rest] at told
        cases told
        rw [List.length_cons, ih rest, List.length_cons]

theorem run_lacks (o : Object) (st : σ) :
    (db.lacks o).run.run st =
      match db.execute (.present o) st with
      | (.ok there, next) => (.ok (!there), next)
      | (.error why, next) => (.error (.database why), next) := by
  rw [lacks, ← bind_pure_comp, Work.run_bind]
  have asked : (db.ask Fault.database (.present o)).run.run st =
      ((db.execute (.present o) st).1.mapError Fault.database, (db.execute (.present o) st).2) := rfl
  rw [asked]
  rcases db.execute (.present o) st with ⟨why | there, next⟩ <;> rfl

/-- The items whose objects are not there. -/
def absent (items : List β) (bits : List Bool) : List β := ((items.zip bits).filter fun p => !p.2).map (·.1)

theorem absent_map (items : List β) (there : β → Bool) :
    absent items (items.map there) = items.filter fun item => !there item := by
  induction items with
  | nil => rfl
  | cons item items ih =>
    rw [absent, List.map_cons, List.zip_cons_cons, List.filter_cons, List.filter_cons]
    rw [absent] at ih
    cases there item <;> simp [ih]

theorem run_filterAuxM_lacks (object : β → Object) (items kept : List β) (st : σ) :
    (items.filterAuxM (fun item => db.lacks (object item)) kept).run.run st =
      match db.answers (items.map object) st with
      | (.ok bits, next) => (.ok ((absent items bits).reverse ++ kept), next)
      | (.error why, next) => (.error (.database why), next) := by
  induction items generalizing kept st with
  | nil => rfl
  | cons item items ih =>
    rw [List.filterAuxM, Work.run_bind, run_lacks, List.map_cons, answers]
    rcases db.execute (.present (object item)) st with ⟨why | there, next⟩
    · rfl
    dsimp only
    rw [ih]
    rcases db.answers (items.map object) next with ⟨why | bits, last⟩
    · rfl
    · cases there <;> simp [absent, Except.map]

/-- The objects that are not there are found by asking for each. -/
theorem run_filterM_lacks (object : β → Object) (items : List β) (st : σ) :
    (items.filterM fun item => db.lacks (object item)).run.run st =
      match db.answers (items.map object) st with
      | (.ok bits, next) => (.ok (absent items bits), next)
      | (.error why, next) => (.error (.database why), next) := by
  rw [List.filterM, Work.run_bind, run_filterAuxM_lacks]
  rcases db.answers (items.map object) st with ⟨why | bits, next⟩
  · rfl
  · simp only [List.append_nil, List.reverse_reverse]
    rfl

end Database

/-- The report on a catalog in which some objects are there. -/
def Report.on (there : Object → Bool) : Report where
  missingColumns := expectedColumns.filter fun c => !there (columnOf c)
  missingIndexes := expectedIndexes.filter fun i => !there (.index i)
  hasTable := there (.table transcriptsTable)
  hasTrigger := there (.trigger transcriptsTable transcriptsTrigger)

/-- A report is complete when every expected object is there. -/
theorem Report.isComplete_on (there : Object → Bool) :
    (Report.on there).isComplete = true ↔ ∀ o ∈ expectedObjects, there o = true := by
  simp only [Report.isComplete, Report.on, expectedObjects, Bool.and_eq_true, List.isEmpty_iff, List.filter_eq_nil_iff,
    List.forall_mem_append, List.forall_mem_map, List.forall_mem_cons, List.not_mem_nil, false_imp_iff, implies_true,
    and_true, Bool.not_eq_true', Bool.not_eq_false, and_assoc]

/-- Answers to questions that are all different are given by what is there. -/
theorem exists_there {objects : List Object} (distinct : objects.Nodup) {bits : List Bool}
    (all : bits.length = objects.length) : ∃ there : Object → Bool, bits = objects.map there := by
  induction objects generalizing bits with
  | nil => exact ⟨fun _ => false, List.length_eq_zero_iff.mp all⟩
  | cons o objects ih =>
    obtain ⟨new, distinct⟩ := List.nodup_cons.mp distinct
    cases bits with
    | nil => contradiction
    | cons bit bits =>
      obtain ⟨there, rfl⟩ := ih distinct (Nat.succ.inj all)
      refine ⟨Function.update there o bit, ?_⟩
      have others : objects.map (Function.update there o bit) = objects.map there :=
        List.map_congr_left fun p member => Function.update_of_ne (ne_of_mem_of_not_mem member new) _ _
      rw [List.map_cons, Function.update_self, others]

/-- A report is made of the answers of the catalog, or there is none. -/
theorem Database.run_report (db : Database σ) (st : σ) :
    (∃ there next, db.answers expectedObjects st = (.ok (expectedObjects.map there), next) ∧
        db.report.run.run st = (.ok (.on there), next)) ∨
      ∃ why next, db.answers expectedObjects st = (.error why, next) ∧
        db.report.run.run st = (.error (.database why), next) := by
  have columns : (expectedColumns.filterM fun (table, name) => db.lacks (.column table name)).run.run st =
      match db.answers (expectedColumns.map columnOf) st with
      | (.ok bits, next) => (.ok (absent expectedColumns bits), next)
      | (.error why, next) => (.error (.database why), next) := db.run_filterM_lacks columnOf expectedColumns st
  rw [report, Work.run_bind, columns]
  -- The questions are put together as they are asked, and whichever fails first ends both.
  rw [expectedObjects, answers_append, answers_append]
  rcases first : db.answers (expectedColumns.map columnOf) st with ⟨why | cs, st₁⟩
  · exact .inr ⟨why, st₁, rfl, rfl⟩
  dsimp only
  rw [Work.run_bind, run_filterM_lacks]
  rcases second : db.answers (expectedIndexes.map .index) st₁ with ⟨why | is, st₂⟩
  · exact .inr ⟨why, st₂, rfl, rfl⟩
  dsimp only [Except.map]
  rw [Work.run_bind, run_lacks, answers]
  rcases db.execute (.present (.table transcriptsTable)) st₂ with ⟨why | table, st₃⟩
  · exact .inr ⟨why, st₃, rfl, rfl⟩
  dsimp only
  rw [Work.run_bind, run_lacks, answers]
  rcases db.execute (.present (.trigger transcriptsTable transcriptsTrigger)) st₃ with ⟨why | trigger, st₄⟩
  · exact .inr ⟨why, st₄, rfl, rfl⟩
  have all : (cs ++ is ++ [table, trigger]).length = expectedObjects.length := by
    rw [List.length_append, List.length_append, db.length_of_answers first, db.length_of_answers second]
    rfl
  obtain ⟨there, same⟩ := exists_there expectedObjects_nodup all
  refine .inl ⟨there, st₄, congrArg (fun bits => (Except.ok bits, st₄)) same, ?_⟩
  rw [expectedObjects, List.map_append, List.map_append] at same
  obtain ⟨named, last⟩ := List.append_inj' same rfl
  obtain ⟨rfl, rfl⟩ := List.append_inj' named (by simp [db.length_of_answers second])
  obtain ⟨rfl, rfl⟩ : table = there (.table transcriptsTable) ∧
      trigger = there (.trigger transcriptsTable transcriptsTrigger) := by simpa using last
  dsimp only
  rw [List.map_map, List.map_map, absent_map, absent_map, Bool.not_not, Bool.not_not]
  rfl

end CallDesk.Schema
