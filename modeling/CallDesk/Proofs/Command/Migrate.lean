import CallDesk.Command.Migrate
import CallDesk.Proofs.Schema.Report

/-! # Runs of the migration program

A run works on the database step by step and stops at the first step that does not succeed. What it may come to is
said once, as its courses; from them follow when it succeeds, that only the task of running migrates, that the
catalog is read last, and that the report is made of what the catalog answers.
-/

namespace CallDesk.Migrate

open Schema

variable {σ : Type}

section

variable (db : Database σ) (s : DatabaseSettings) (task : Task) (st : σ)

/-- The database after the attempt to reach it. -/
def reached : σ := (db.connect s st).2

/-- The database after it was asked for its health. -/
def checked : σ := (db.execute .ping (reached db s st)).2

/-- The database when its catalog is read. -/
def prepared : σ := if task = .run then (db.migrate.run.run (checked db s st)).2 else checked db s st

/-- Everything succeeds that a task does before it reads the catalog. -/
structure Prepares : Prop where
  connects : (db.connect s st).1 = .ok ()
  healthy : (db.execute .ping (reached db s st)).1 = .ok ()
  migrates : task = .run → (db.migrate.run.run (checked db s st)).1 = .ok ()

/-- What working on a database may come to, and what is done with the database on the way: it stops at the first
step that does not succeed. -/
inductive Course : Except Failure Report → List Event → Prop
  | unreached {failure : Failure} (fails : (db.connect s st).1 ≠ .ok ()) : Course (.error failure) [⟨.connect, false⟩]
  | unhealthy {failure : Failure} (fails : (db.execute .ping (reached db s st)).1 ≠ .ok ()) :
      Course (.error failure) [⟨.connect, true⟩, ⟨.health, false⟩]
  | unmigrated {failure : Failure} {migration : List Event} (asked : task = .run)
      (fails : (db.migrate.run.run (checked db s st)).1 ≠ .ok ()) (only : ∀ e ∈ migration, e.act = .migration) :
      Course (.error failure) ([⟨.connect, true⟩, ⟨.health, true⟩] ++ migration)
  | unread {failure : Failure} {migration catalog : List Event} (prepares : Prepares db s task st)
      (fails : ∀ bits, (db.answers expectedObjects (prepared db s task st)).1 ≠ .ok bits)
      (only : ∀ e ∈ migration, task = .run ∧ e.act = .migration) (asks : ∀ e ∈ catalog, ∃ o, e.act = .question o) :
      Course (.error failure) ([⟨.connect, true⟩, ⟨.health, true⟩] ++ migration ++ catalog)
  | read {there : Object → Bool} {migration catalog : List Event} (prepares : Prepares db s task st)
      (told : (db.answers expectedObjects (prepared db s task st)).1 = .ok (expectedObjects.map there))
      (only : ∀ e ∈ migration, task = .run ∧ e.act = .migration) (asks : ∀ e ∈ catalog, ∃ o, e.act = .question o) :
      Course (.ok (.on there)) ([⟨.connect, true⟩, ⟨.health, true⟩] ++ migration ++ catalog)

end

variable {db : Database σ} {s : DatabaseSettings} {task : Task} {st : σ}

/-- When everything before succeeded, the catalog is read. -/
theorem report_course (prepares : Prepares db s task st) (migration : List Event)
    (only : ∀ e ∈ migration, task = .run ∧ e.act = .migration) :
    ∃ events, Course db s task st ((db.report.run.run (prepared db s task st)).1.mapError Failure.ofFault) events ∧
      (ExceptT.adapt Failure.ofFault db.watched.report).run.run
          (prepared db s task st, [⟨.connect, true⟩, ⟨.health, true⟩] ++ migration) =
        ((db.report.run.run (prepared db s task st)).1.mapError Failure.ofFault,
          (db.report.run.run (prepared db s task st)).2, events) := by
  obtain ⟨catalog, asks, ran⟩ :=
    Follows.report db (prepared db s task st) ([⟨.connect, true⟩, ⟨.health, true⟩] ++ migration)
  refine ⟨_, ?_, by rw [Work.run_adapt, ran]⟩
  rcases db.run_report (prepared db s task st) with ⟨there, next, told, made⟩ | ⟨why, next, told, failed⟩
  · rw [made]
    exact .read prepares (congrArg Prod.fst told) only asks
  · rw [failed]
    exact .unread prepares (fun bits same => by cases (congrArg Prod.fst told).symm.trans same) only asks

/-- What a task does with a healthy database. -/
def finish {σ : Type} (db : Database σ) (task : Task) : Work σ Failure Report := do
  if task = .run then ExceptT.adapt (Failure.during "Migration failed") db.migrate
  ExceptT.adapt Failure.ofFault db.report

theorem work_eq (db : Database σ) (s : DatabaseSettings) (task : Task) :
    work db s task = ExceptT.adapt (Failure.during "Database connection failed") (db.reach s) >>= fun _ =>
      ExceptT.adapt Failure.ofFault db.checkHealth >>= fun _ => finish db task := rfl

theorem finish_course (connects : (db.connect s st).1 = .ok ())
    (healthy : (db.execute .ping (reached db s st)).1 = .ok ()) :
    ∃ events, Course db s task st ((finish db task).run.run (checked db s st)).1 events ∧
      (finish db.watched task).run.run (checked db s st, [⟨.connect, true⟩, ⟨.health, true⟩]) =
        (((finish db task).run.run (checked db s st)).1, ((finish db task).run.run (checked db s st)).2, events) := by
  rw [finish, finish]
  dsimp only
  split
  · next run =>
    obtain ⟨migration, only, ran⟩ :=
      (Follows.migrate db).adapt (Failure.during "Migration failed") (checked db s st)
        [⟨.connect, true⟩, ⟨.health, true⟩]
    have migrate := Work.run_adapt (Failure.during "Migration failed") db.migrate (checked db s st)
    rw [migrate] at ran
    cases migrates : (db.migrate.run.run (checked db s st)).1 with
    | error failure =>
      rw [migrates] at migrate ran
      rw [Work.run_bind_error migrate, Work.run_bind_error ran]
      exact ⟨_, .unmigrated run (by rw [migrates]; nofun) only, rfl⟩
    | ok done =>
      have same : (db.migrate.run.run (checked db s st)).2 = prepared db s task st := (if_pos run).symm
      rw [migrates, same] at migrate ran
      rw [Work.run_bind_ok migrate, Work.run_bind_ok ran]
      exact report_course ⟨connects, healthy, fun _ => migrates⟩ migration fun e member => ⟨run, only e member⟩
  · next other =>
    have same : checked db s st = prepared db s task st := (if_neg other).symm
    rw [same]
    exact report_course ⟨connects, healthy, fun run => absurd run other⟩ [] nofun

/-- Work on a database takes one of its courses, and watching the database makes no difference to it. -/
theorem work_course (db : Database σ) (s : DatabaseSettings) (task : Task) (st : σ) :
    ∃ events, Course db s task st ((work db s task).run.run st).1 events ∧
      (work db.watched s task).run.run (st, []) =
        (((work db s task).run.run st).1, ((work db s task).run.run st).2, events) := by
  have reach : (ExceptT.adapt (Failure.during "Database connection failed") (db.reach s)).run.run st =
      (((db.connect s st).1.mapError _).mapError _, reached db s st) := rfl
  have reach' (kept : List Event) :
      (ExceptT.adapt (Failure.during "Database connection failed") (db.watched.reach s)).run.run (st, kept) =
        (((db.connect s st).1.mapError _).mapError _, reached db s st,
          kept ++ [⟨.connect, (db.connect s st).1.isOk⟩]) := rfl
  have ask : (ExceptT.adapt Failure.ofFault db.checkHealth).run.run (reached db s st) =
      (((db.execute .ping (reached db s st)).1.mapError _).mapError _, checked db s st) := rfl
  have ask' (kept : List Event) :
      (ExceptT.adapt Failure.ofFault db.watched.checkHealth).run.run (reached db s st, kept) =
        (((db.execute .ping (reached db s st)).1.mapError _).mapError _, checked db s st,
          kept ++ [⟨.health, (db.execute .ping (reached db s st)).1.isOk⟩]) := rfl
  rw [work_eq, work_eq]
  cases connects : (db.connect s st).1 with
  | error why =>
    rw [connects] at reach reach'
    rw [Work.run_bind_error reach, Work.run_bind_error (reach' [])]
    exact ⟨_, .unreached (by rw [connects]; nofun), rfl⟩
  | ok done =>
    rw [connects] at reach reach'
    rw [Work.run_bind_ok reach, Work.run_bind_ok (reach' [])]
    cases healthy : (db.execute .ping (reached db s st)).1 with
    | error why =>
      rw [healthy] at ask ask'
      rw [Work.run_bind_error ask, Work.run_bind_error (ask' _)]
      exact ⟨_, .unhealthy (by rw [healthy]; nofun), rfl⟩
    | ok done =>
      rw [healthy] at ask ask'
      rw [Work.run_bind_ok ask, Work.run_bind_ok (ask' _)]
      exact finish_course connects healthy

/-! ## Runs -/

/-- What a run of a task is: how it ends, and what it does with the database on the way. -/
structure Truthful (db : Database σ) (s : DatabaseSettings) (task : Task) (st : σ) (outcome : Outcome)
    (events : List Event) : Prop where
  /-- Listing the migrations succeeds without the database. -/
  list : task = .list → outcome.code = 0 ∧ events = []
  /-- Any other task succeeds when everything succeeds and all objects are there. -/
  success : task ≠ .list → (outcome.code = 0 ↔ Prepares db s task st ∧
    ∃ bits, (db.answers expectedObjects (prepared db s task st)).1 = .ok bits ∧ ∀ there ∈ bits, there = true)
  /-- Only running migrates, and not before the database was reached and found healthy. -/
  migration : ∀ before e after, events = before ++ e :: after → e.act = .migration →
    task = .run ∧ ⟨.connect, true⟩ ∈ before ∧ ⟨.health, true⟩ ∈ before
  /-- The catalog is read last, when everything before has succeeded. -/
  catalog : ∀ before e after, events = before ++ e :: after → (∃ o, e.act = .question o) →
    Prepares db s task st ∧ ⟨.connect, true⟩ ∈ before ∧ ⟨.health, true⟩ ∈ before ∧
      ∀ later ∈ after, ∃ o, later.act = .question o

/-- What comes after a part of a list that an item is not in. -/
theorem cut_after {α : Type} {xs ys before after : List α} {a : α} (cut : xs ++ ys = before ++ a :: after)
    (other : a ∉ xs) : ∃ rest, before = xs ++ rest ∧ ys = rest ++ a :: after := by
  rcases List.append_eq_append_iff.mp cut with ⟨rest, first, second⟩ | ⟨rest, first, second⟩
  · exact ⟨rest, first, second⟩
  · cases rest with
    | nil => exact ⟨[], by rw [first, List.append_nil, List.append_nil], second.symm⟩
    | cons b rest =>
      obtain ⟨rfl, -⟩ := List.cons.inj second
      exact absurd (first ▸ List.mem_append_right before List.mem_cons_self) other

/-- How a run ends whose work on the database has come to something. -/
def ended : Except Failure Report → Outcome
  | .ok r => reported r
  | .error failure => .failed failure

namespace Course

variable {result : Except Failure Report} {events : List Event}

theorem success (course : Course db s task st result events) :
    (ended result).code = 0 ↔ Prepares db s task st ∧
      ∃ bits, (db.answers expectedObjects (prepared db s task st)).1 = .ok bits ∧ ∀ there ∈ bits, there = true := by
  have failing (failure : Failure) : (ended (.error failure)).code ≠ 0 := Nat.one_ne_zero
  cases course with
  | unreached fails => exact iff_of_false (failing _) fun all => fails all.1.connects
  | unhealthy fails => exact iff_of_false (failing _) fun all => fails all.1.healthy
  | unmigrated asked fails => exact iff_of_false (failing _) fun all => fails (all.1.migrates asked)
  | unread prepares fails => exact iff_of_false (failing _) fun ⟨_, bits, told, _⟩ => fails bits told
  | @read there _ _ prepares told =>
    have code : (ended (.ok (.on there))).code = 0 ↔ (Report.on there).isComplete = true := by
      rw [ended, reported]
      split <;> simp_all
    rw [code, Report.isComplete_on]
    constructor
    · exact fun all => ⟨prepares, _, told, List.forall_mem_map.mpr all⟩
    · rintro ⟨-, bits, same, all⟩
      obtain rfl := Except.ok.inj (told.symm.trans same)
      exact List.forall_mem_map.mp all

/-- After the database was reached and found healthy it is migrated, if that is the task, and then its catalog
is read. -/
theorem shape (course : Course db s task st result events) :
    (∀ e ∈ events, e.act = .connect ∨ e.act = .health) ∨
      ∃ migration catalog, events = [⟨.connect, true⟩, ⟨.health, true⟩] ++ migration ++ catalog ∧
        (∀ e ∈ migration, task = .run ∧ e.act = .migration) ∧
        ∀ e ∈ catalog, Prepares db s task st ∧ ∃ o, e.act = .question o := by
  cases course with
  | unreached => exact .inl (by simp)
  | unhealthy => exact .inl (by simp)
  | @unmigrated _ migration asked _ only =>
    exact .inr ⟨migration, [], (List.append_nil _).symm, fun e member => ⟨asked, only e member⟩, nofun⟩
  | unread prepares _ only asks => exact .inr ⟨_, _, rfl, only, fun e member => ⟨prepares, asks e member⟩⟩
  | read prepares _ only asks => exact .inr ⟨_, _, rfl, only, fun e member => ⟨prepares, asks e member⟩⟩

variable {before after : List Event} {e : Event}

theorem migration (course : Course db s task st result events) (cut : events = before ++ e :: after)
    (migrates : e.act = .migration) : task = .run ∧ ⟨.connect, true⟩ ∈ before ∧ ⟨.health, true⟩ ∈ before := by
  have member : e ∈ events := cut ▸ List.mem_append_right before List.mem_cons_self
  rcases course.shape with early | ⟨migration, catalog, rfl, only, asks⟩
  · rcases early e member with act | act <;> cases migrates.symm.trans act
  · have other : e ∉ [⟨.connect, true⟩, ⟨.health, true⟩] := by
      rintro (_ | ⟨_, _ | ⟨_, ⟨⟩⟩⟩) <;> contradiction
    rw [List.append_assoc] at cut
    obtain ⟨rest, rfl, later⟩ := cut_after cut other
    refine ⟨?_, List.mem_append_left _ (by decide), List.mem_append_left _ (by decide)⟩
    have remains : e ∈ migration ++ catalog := later ▸ List.mem_append_right rest List.mem_cons_self
    rcases List.mem_append.mp remains with member | member
    · exact (only e member).1
    · obtain ⟨-, o, act⟩ := asks e member
      cases migrates.symm.trans act

theorem catalog (course : Course db s task st result events) (cut : events = before ++ e :: after)
    (asks : ∃ o, e.act = .question o) :
    Prepares db s task st ∧ ⟨.connect, true⟩ ∈ before ∧ ⟨.health, true⟩ ∈ before ∧
      ∀ later ∈ after, ∃ o, later.act = .question o := by
  obtain ⟨o, question⟩ := asks
  have member : e ∈ events := cut ▸ List.mem_append_right before List.mem_cons_self
  rcases course.shape with early | ⟨migration, catalog, rfl, only, asks⟩
  · rcases early e member with act | act <;> cases question.symm.trans act
  · have other : e ∉ [⟨.connect, true⟩, ⟨.health, true⟩] ++ migration := by
      intro member
      rcases List.mem_append.mp member with first | migrates
      · rcases first with _ | ⟨_, _ | ⟨_, ⟨⟩⟩⟩ <;> contradiction
      · cases question.symm.trans (only e migrates).2
    obtain ⟨rest, rfl, rfl⟩ := cut_after cut other
    refine ⟨(asks e (List.mem_append_right rest List.mem_cons_self)).1, by simp, by simp, fun later member => ?_⟩
    exact (asks later (List.mem_append_right rest (List.mem_cons_of_mem e member))).2

end Course

/-- What is reported on a catalog: the fault of the first question that fails, or else which of the expected objects
are there, those that are not in the order in which they are expected. -/
inductive Reports (db : Database σ) (st : σ) : Except Fault Report → Prop
  | failed {why : String} (fails : (db.answers expectedObjects st).1 = .error why) :
      Reports db st (.error (.database why))
  | made {there : Object → Bool} {r : Report}
      (told : (db.answers expectedObjects st).1 = .ok (expectedObjects.map there))
      (columns : r.missingColumns = expectedColumns.filter fun c => !there (columnOf c))
      (indexes : r.missingIndexes = expectedIndexes.filter fun i => !there (.index i))
      (table : r.hasTable = there (.table transcriptsTable))
      (trigger : r.hasTrigger = there (.trigger transcriptsTable transcriptsTrigger))
      (once : r.missingColumns.Nodup ∧ r.missingIndexes.Nodup) : Reports db st (.ok r)

theorem report_reports (db : Database σ) (st : σ) : Reports db st (db.report.run.run st).1 := by
  rcases db.run_report st with ⟨there, next, told, made⟩ | ⟨why, next, told, failed⟩
  · rw [made]
    have columns : (Report.on there).missingColumns.Nodup := List.Pairwise.filter _ (by decide)
    have indexes : (Report.on there).missingIndexes.Nodup := List.Pairwise.filter _ (by decide)
    exact .made (congrArg Prod.fst told) rfl rfl rfl rfl ⟨columns, indexes⟩
  · rw [failed]
    exact .failed (congrArg Prod.fst told)

variable {files : Directory} {vars : Variables} {args : List String} {options : Options} {settings : Settings}

/-- With settings that can be loaded, a task that is not listing works on the database. -/
theorem run_work (asked : Invocation.read args = .work options task)
    (loaded : settingsOf files vars options = .ok settings) (working : task ≠ .list) (db : Database σ) (st : σ) :
    (run db files vars args).run st =
      (ended ((work db settings.database task).run.run st).1, ((work db settings.database task).run.run st).2) := by
  have start : settings.logging.start false = .ok () := rfl
  rw [run, asked]
  dsimp only
  rw [loaded]
  dsimp only
  rw [start]
  cases task with
  | list => contradiction
  | run =>
    dsimp only
    rw [StateT.run_bind]
    rcases (work db settings.database .run).run.run st with ⟨_ | _, _⟩ <;> rfl
  | verify =>
    dsimp only
    rw [StateT.run_bind]
    rcases (work db settings.database .verify).run.run st with ⟨_ | _, _⟩ <;> rfl

/-- Listing the migrations does nothing with the database. -/
theorem run_list (asked : Invocation.read args = .work options .list)
    (loaded : settingsOf files vars options = .ok settings) (db : Database σ) (st : σ) :
    (run db files vars args).run st = ({ code := 0, output := listText }, st) := by
  have start : settings.logging.start false = .ok () := rfl
  rw [run, asked]
  dsimp only
  rw [loaded]
  dsimp only
  rw [start]
  rfl

/-- With settings that can be loaded, a run of a task tells the truth about the schema, and what it reports is what
the catalog answers. -/
theorem run_truthful (asked : Invocation.read args = .work options task)
    (loaded : settingsOf files vars options = .ok settings) (db : Database σ) (st : σ) :
    (∃ outcome final events, (run db files vars args).run st = (outcome, final) ∧
      (run db.watched files vars args).run (st, []) = (outcome, final, events) ∧
      Truthful db settings.database task st outcome events) ∧
    ∀ st, Reports db st (db.report.run.run st).1 := by
  refine ⟨?_, report_reports db⟩
  by_cases listing : task = .list
  · subst listing
    refine ⟨_, _, _, run_list asked loaded db st, run_list asked loaded db.watched (st, []), ?_⟩
    have silent (before : List Event) (e : Event) (after : List Event) : [] ≠ before ++ e :: after := by simp
    exact ⟨fun _ => ⟨rfl, rfl⟩, fun other => absurd rfl other, fun _ _ _ cut => absurd cut (silent _ _ _),
      fun _ _ _ cut => absurd cut (silent _ _ _)⟩
  · obtain ⟨events, course, watched⟩ := work_course db settings.database task st
    refine ⟨_, _, events, run_work asked loaded listing db st, ?_, ?_⟩
    · rw [run_work asked loaded listing, watched]
    · exact ⟨fun same => absurd same listing, fun _ => course.success, fun _ _ _ => course.migration,
        fun _ _ _ => course.catalog⟩

/-- A database without the trigger, which cannot be migrated. -/
def untriggered : Database Unit where
  connect _ st := (.ok (), st)
  execute
    | .ping, st => (.ok (), st)
    | .present o, st => (.ok (o != .trigger transcriptsTable transcriptsTrigger), st)
    | _, st => (.error "permission denied", st)

theorem run_truthful_untriggered :
    Invocation.read ["verify"] = .work {} .verify ∧ settingsOf [] [] {} = .ok {} ∧
      ((run untriggered [] [] ["verify"]).run ()).1.code ≠ 0 := by
  have asked : Invocation.read ["verify"] = .work {} .verify := by decide +kernel
  have loaded : settingsOf [] [] {} = .ok {} := by rfl
  refine ⟨asked, loaded, ?_⟩
  obtain ⟨⟨outcome, final, events, ran, -, truthful⟩, -⟩ := run_truthful asked loaded untriggered ()
  rw [ran]
  intro success
  obtain ⟨-, bits, told, all⟩ := (truthful.success (by decide)).mp success
  have answers : (untriggered.answers expectedObjects ()).1 = .ok (List.replicate 10 true ++ [false]) := by rfl
  obtain rfl := Except.ok.inj (answers.symm.trans told)
  exact absurd (all false (by decide)) (by decide)

end CallDesk.Migrate
