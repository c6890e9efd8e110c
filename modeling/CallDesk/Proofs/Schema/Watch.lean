import CallDesk.Schema.Database

/-! # Watching a database

A database that is watched answers as it did before and keeps what was done with it, in order: whether it was
reached, asked for its health, asked for an object or told something else, and whether that succeeded. Work that
is done on a watched database comes to the same as the work on the database itself, and what it does can be read
off what was kept.
-/

namespace CallDesk.Schema

/-- What is done with a database. -/
inductive Act where
  | connect
  /-- Asking whether it answers at all. -/
  | health
  /-- A question to its catalog. -/
  | question (o : Object)
  /-- Anything else that is said to it: what migrating says. -/
  | migration
deriving DecidableEq

def Statement.act {α : Type} : Statement α → Act
  | .ping => .health
  | .present o => .question o
  | _ => .migration

/-- Something that was done with a database, and whether it succeeded. -/
structure Event where
  act : Act
  succeeded : Bool
deriving DecidableEq

variable {σ ε α β : Type}

/-- A database that keeps what is done with it. -/
def Database.watched (db : Database σ) : Database (σ × List Event) where
  connect settings st :=
    let (answer, next) := db.connect settings st.1
    (answer, next, st.2 ++ [⟨.connect, answer.isOk⟩])
  execute s st :=
    let (answer, next) := db.execute s st.1
    (answer, next, st.2 ++ [⟨s.act, answer.isOk⟩])

/-- Work that goes on after other work, when that did not fail. -/
theorem Work.run_bind (w : Work σ ε α) (f : α → Work σ ε β) (st : σ) :
    (w >>= f).run.run st =
      match w.run.run st with
      | (.ok a, next) => (f a).run.run next
      | (.error e, next) => (.error e, next) := by
  rw [ExceptT.run_bind, StateT.run_bind]
  rcases w.run.run st with ⟨_ | a, next⟩
  · rfl
  · rfl

theorem Work.run_bind_ok {w : Work σ ε α} {st next : σ} {a : α} (ran : w.run.run st = (.ok a, next))
    (f : α → Work σ ε β) : (w >>= f).run.run st = (f a).run.run next := by
  rw [run_bind, ran]

theorem Work.run_bind_error {w : Work σ ε α} {st next : σ} {e : ε} (ran : w.run.run st = (.error e, next))
    (f : α → Work σ ε β) : (w >>= f).run.run st = (.error e, next) := by
  rw [run_bind, ran]

theorem Work.run_tryCatch (w : Work σ ε α) (f : ε → Work σ ε α) (st : σ) :
    (tryCatch w f).run.run st =
      match w.run.run st with
      | (.ok a, next) => (.ok a, next)
      | (.error e, next) => (f e).run.run next := by
  rw [ExceptT.run_tryCatch, StateT.run_bind]
  rcases w.run.run st with ⟨_ | a, next⟩
  · rfl
  · rfl

theorem Work.run_adapt {ε' : Type} (f : ε → ε') (w : Work σ ε α) (st : σ) :
    (ExceptT.adapt f w).run.run st = ((w.run.run st).1.mapError f, (w.run.run st).2) := rfl

/-- Work on a watched database comes to what the same work comes to on the database itself, and adds events of
some kinds to those that were kept. -/
def Follows (kinds : Act → Prop) (w : Work σ ε α) (v : Work (σ × List Event) ε α) : Prop :=
  ∀ st kept, ∃ more : List Event, (∀ e ∈ more, kinds e.act) ∧
    v.run.run (st, kept) = ((w.run.run st).1, (w.run.run st).2, kept ++ more)

namespace Follows

variable {kinds : Act → Prop}

theorem pure (a : α) : Follows kinds (pure a : Work σ ε α) (pure a) :=
  fun st kept => ⟨[], nofun, congrArg (fun all => (Except.ok a, st, all)) (List.append_nil kept).symm⟩

theorem throw (e : ε) : Follows kinds (throw e : Work σ ε α) (throw e) :=
  fun st kept => ⟨[], nofun, congrArg (fun all => (Except.error e, st, all)) (List.append_nil kept).symm⟩

theorem bind {w : Work σ ε α} {v : Work (σ × List Event) ε α} {f : α → Work σ ε β}
    {g : α → Work (σ × List Event) ε β} (first : Follows kinds w v) (rest : ∀ a, Follows kinds (f a) (g a)) :
    Follows kinds (w >>= f) (v >>= g) := by
  intro st kept
  obtain ⟨more, known, ran⟩ := first st kept
  rw [Work.run_bind, Work.run_bind, ran]
  rcases w.run.run st with ⟨e | a, next⟩
  · exact ⟨more, known, rfl⟩
  · obtain ⟨others, known', ran'⟩ := rest a next (kept ++ more)
    refine ⟨more ++ others, List.forall_mem_append.mpr ⟨known, known'⟩, ?_⟩
    rw [← List.append_assoc]
    exact ran'

theorem rescue {w : Work σ ε α} {v : Work (σ × List Event) ε α} {f : ε → Work σ ε α}
    {g : ε → Work (σ × List Event) ε α} (first : Follows kinds w v) (rest : ∀ e, Follows kinds (f e) (g e)) :
    Follows kinds (tryCatch w f) (tryCatch v g) := by
  intro st kept
  obtain ⟨more, known, ran⟩ := first st kept
  rw [Work.run_tryCatch, Work.run_tryCatch, ran]
  rcases w.run.run st with ⟨e | a, next⟩
  · obtain ⟨others, known', ran'⟩ := rest e next (kept ++ more)
    refine ⟨more ++ others, List.forall_mem_append.mpr ⟨known, known'⟩, ?_⟩
    rw [← List.append_assoc]
    exact ran'
  · exact ⟨more, known, rfl⟩

theorem adapt {ε' : Type} {w : Work σ ε α} {v : Work (σ × List Event) ε α} (follows : Follows kinds w v)
    (f : ε → ε') : Follows kinds (ExceptT.adapt f w) (ExceptT.adapt f v) := by
  intro st kept
  obtain ⟨more, known, ran⟩ := follows st kept
  refine ⟨more, known, ?_⟩
  rw [Work.run_adapt, Work.run_adapt, ran]

/-- What is said to a database is kept as what it is. -/
theorem ask (db : Database σ) (toError : String → ε) (s : Statement α) (known : kinds s.act) :
    Follows kinds (db.ask toError s) (db.watched.ask toError s) := by
  intro st kept
  exact ⟨[⟨s.act, (db.execute s st).1.isOk⟩], List.forall_mem_singleton.mpr known, rfl⟩

theorem forM {item : Type} {f : item → Work σ ε Unit} {g : item → Work (σ × List Event) ε Unit}
    (each : ∀ i, Follows kinds (f i) (g i)) (items : List item) : Follows kinds (items.forM f) (items.forM g) := by
  induction items with
  | nil => exact pure ()
  | cons i items ih => exact bind (each i) fun _ => ih

theorem filterM {item : Type} {f : item → Work σ ε Bool} {g : item → Work (σ × List Event) ε Bool}
    (each : ∀ i, Follows kinds (f i) (g i)) (items : List item) :
    Follows kinds (items.filterM f) (items.filterM g) := by
  have onto (items kept : List item) : Follows kinds (items.filterAuxM f kept) (items.filterAuxM g kept) := by
    induction items generalizing kept with
    | nil => exact pure kept
    | cons i items ih => exact bind (each i) fun there => ih _
  exact bind (onto items []) fun kept => pure kept.reverse

theorem map {w : Work σ ε α} {v : Work (σ × List Event) ε α} (follows : Follows kinds w v) (f : α → β) :
    Follows kinds (f <$> w) (f <$> v) := by
  rw [← bind_pure_comp, ← bind_pure_comp]
  exact bind follows fun a => pure (f a)

/-- A report does nothing but ask the catalog. -/
theorem report (db : Database σ) : Follows (∃ o, · = .question o) db.report db.watched.report := by
  have lacks (o : Object) : Follows (∃ o, · = .question o) (db.lacks o) (db.watched.lacks o) :=
    map (ask db Fault.database (.present o) ⟨o, rfl⟩) not
  refine bind (filterM (fun c => lacks _) expectedColumns) fun columns => ?_
  refine bind (filterM (fun i => lacks _) expectedIndexes) fun indexes => ?_
  exact bind (lacks _) fun table => bind (lacks _) fun trigger => pure _

/-- A migration says nothing but what migrations say. -/
theorem migrateAll (db : Database σ) : Follows (· = .migration) db.migrateAll db.watched.migrateAll := by
  have step {α : Type} (s : Statement α) (known : s.act = .migration) :
      Follows (· = .migration) (db.step s) (db.watched.step s) := ask db MigrationError.statement s known
  have one (m : Migration) : Follows (· = .migration) (db.applyOne m) (db.watched.applyOne m) := by
    refine bind (step _ rfl) fun _ => bind (rescue ?_ fun e => ?_) fun _ => step _ rfl
    · exact bind (step _ rfl) fun _ => bind (step _ rfl) fun _ => step _ rfl
    · exact bind (rescue (step _ rfl) fun _ => pure ()) fun _ => throw e
  have up (done : List Applied) (m : Migration) :
      Follows (· = .migration) (db.bringUp done m) (db.watched.bringUp done m) := by
    rw [Database.bringUp, Database.bringUp]
    split
    · split
      · exact pure ()
      · exact throw _
    · exact one m
  refine bind (step _ rfl) fun name => bind (step _ rfl) fun _ => bind (step _ rfl) fun _ => bind (step _ rfl) ?_
  rintro (_ | version)
  · refine bind (step _ rfl) fun done => ?_
    dsimp only
    split
    · exact throw _
    · exact bind (forM (up done) migrations) fun _ => bind (step _ rfl) fun name => step _ rfl
  · exact throw _

theorem migrate (db : Database σ) : Follows (· = .migration) db.migrate db.watched.migrate := (migrateAll db).adapt _

end Follows

end CallDesk.Schema
