import CallDesk.Backend.Exchange

/-! # What a dialog may ask for

A dialog does not know what it will be told. A property of every request it may make, whatever the
replies are, is a property of the requests of every run, against any backend. Such properties go
through the operations that build dialogs.
-/

namespace CallDesk

/-- A backend that never answers. -/
def Backend.lost : Backend Unit := ⟨fun st _ => (.lost "connection refused", st), fun _ => false⟩

/-- A backend that has its replies ready, and tells one after the other whatever it is asked. -/
def Backend.teller : Backend (List Reply) where
  answer replies _ := (replies.headD (.lost "connection closed"), replies.tail)
  secondIsEarlier _ := false

namespace Dialog

variable {α β : Type} {σ : Type}

/-- Every request that a dialog may make has a property, whatever it is told in between. -/
inductive Asks (p : Request → Prop) : Dialog α → Prop
  | done (a : α) : Asks p (done a)
  | ask {r : Request} {next : Reply → Dialog α} (first : p r) (rest : ∀ reply, Asks p (next reply)) :
      Asks p (ask r next)
  | both {r s : Request} {next : Race → Dialog α} (first : p r) (second : p s)
      (rest : ∀ race, Asks p (next race)) : Asks p (both r s next)

/-- A dialog followed by another is run one after the other. -/
theorem run_bind (b : Backend σ) (s : σ) (d : Dialog α) (f : α → Dialog β) :
    (d.bind f).run b s =
      let t := d.run b s
      let u := (f t.result).run b t.state
      { u with requests := t.requests ++ u.requests } := by
  induction d generalizing s with
  | done a => rfl
  | ask r next ih => simp only [bind, run, ih, List.cons_append]
  | both r₁ r₂ next ih => simp only [bind, run, ih, List.cons_append]

/-- Changing the result of a dialog changes nothing that is asked. -/
theorem run_map (b : Backend σ) (s : σ) (f : α → β) (d : Dialog α) :
    (d.map f).run b s = ⟨f (d.run b s).result, (d.run b s).requests, (d.run b s).state⟩ := by
  rw [map, run_bind]
  simp only [run, List.append_nil]

variable {p : Request → Prop}

theorem asks_bind {d : Dialog α} {f : α → Dialog β} (first : d.Asks p) (rest : ∀ a, (f a).Asks p) :
    (d.bind f).Asks p := by
  induction first with
  | done a => exact rest a
  | ask first _ ih => exact .ask first ih
  | both first second _ ih => exact .both first second ih

theorem asks_map {d : Dialog α} (f : α → β) (h : d.Asks p) : (d.map f).Asks p :=
  asks_bind h fun a => .done (f a)

/-- A property of every request that a dialog may make may be weakened. -/
theorem Asks.imp {q : Request → Prop} {d : Dialog α} (h : d.Asks p) (weaker : ∀ r, p r → q r) : d.Asks q := by
  induction h with
  | done a => exact .done a
  | ask first _ ih => exact .ask (weaker _ first) ih
  | both first second _ ih => exact .both (weaker _ first) (weaker _ second) ih

/-- What holds of every request a dialog may make holds of the requests of a run. -/
theorem Asks.run {d : Dialog α} (h : d.Asks p) (b : Backend σ) (s : σ) :
    ∀ q ∈ (d.run b s).requests, p q := by
  induction h generalizing s with
  | done a =>
    intro q member
    exact absurd member List.not_mem_nil
  | ask first _ ih =>
    intro q member
    rcases List.mem_cons.mp member with rfl | member
    · exact first
    · exact ih _ _ q member
  | both first second _ ih =>
    intro q member
    rcases List.mem_cons.mp member with rfl | member
    · exact first
    rcases List.mem_cons.mp member with rfl | member
    · exact second
    · exact ih _ _ q member

/-- A dialog that may make no request makes none. -/
theorem requests_eq_nil {d : Dialog α} (silent : d.Asks fun _ => False) (b : Backend σ) (s : σ) :
    (d.run b s).requests = [] := List.eq_nil_iff_forall_not_mem.mpr (silent.run b s)

end Dialog

end CallDesk
