import CallDesk.Proofs.Backend.Listing
import Mathlib.Logic.Relation

/-! # Two operations at the same time

The overview waits for two operations that are under way together. Their replies come in any order, and the wait
looks at the operations in any order, as often as it wants, but only at one whose reply is there. A fault ends the
wait at once, a value is kept until the other one has come too. What a wait can end with is told here by the two
operations alone, and the join of a race is shown to be one such end, all of which some race has.
-/

namespace CallDesk

variable {α β : Type}

/-- Where a wait for two operations stands. -/
inductive Wait (α β : Type) where
  /-- The values that were taken so far. -/
  | waiting (first : Option α) (second : Option β)
  | ended (result : Except Fault (α × β))

namespace Wait

/-- Looks at the first operation, which is done. A value that was taken before is not taken again. -/
def lookFirst (done : Except Fault α) : Wait α β → Wait α β
  | waiting none second => match done, second with
    | .error fault, _ => ended (.error fault)
    | .ok a, none => waiting (some a) none
    | .ok a, some b => ended (.ok (a, b))
  | wait => wait

/-- Looks at the second operation, which is done. -/
def lookSecond (done : Except Fault β) : Wait α β → Wait α β
  | waiting first none => match done, first with
    | .error fault, _ => ended (.error fault)
    | .ok b, none => waiting none (some b)
    | .ok b, some a => ended (.ok (a, b))
  | wait => wait

end Wait

/-- Two operations under way: whether their replies are there, and the wait for them. -/
structure Flight (α β : Type) where
  firstIsHere : Bool := false
  secondIsHere : Bool := false
  wait : Wait α β := .waiting none none

namespace Flight

variable {first : Except Fault α} {second : Except Fault β}

/-- One step of a flight: a reply comes, or the wait looks at an operation whose reply is there. -/
inductive Step (first : Except Fault α) (second : Except Fault β) : Flight α β → Flight α β → Prop
  | firstComes {here : Bool} {wait : Wait α β} : Step first second ⟨false, here, wait⟩ ⟨true, here, wait⟩
  | secondComes {here : Bool} {wait : Wait α β} : Step first second ⟨here, false, wait⟩ ⟨here, true, wait⟩
  | looksAtFirst {here : Bool} {wait : Wait α β} :
      Step first second ⟨true, here, wait⟩ ⟨true, here, wait.lookFirst first⟩
  | looksAtSecond {here : Bool} {wait : Wait α β} :
      Step first second ⟨here, true, wait⟩ ⟨here, true, wait.lookSecond second⟩

/-- Any number of steps. -/
abbrev Steps (first : Except Fault α) (second : Except Fault β) : Flight α β → Flight α β → Prop :=
  Relation.ReflTransGen (Step first second)

/-- A flight can end with a result. -/
def Ends (first : Except Fault α) (second : Except Fault β) (result : Except Fault (α × β)) : Prop :=
  ∃ flight, Steps first second {} flight ∧ flight.wait = .ended result

/-- What two operations can come to together: the values of both, or the fault of one. -/
inductive Outcome (first : Except Fault α) (second : Except Fault β) : Except Fault (α × β) → Prop
  | both {a : α} {b : β} (left : first = .ok a) (right : second = .ok b) : Outcome first second (.ok (a, b))
  | left {fault : Fault} (fails : first = .error fault) : Outcome first second (.error fault)
  | right {fault : Fault} (fails : second = .error fault) : Outcome first second (.error fault)

/-- What is known of a wait: the values that it has taken are those of the operations, it has not taken both, and
when it is over it has ended with an outcome. -/
inductive Sound (first : Except Fault α) (second : Except Fault β) : Wait α β → Prop
  | untaken : Sound first second (.waiting none none)
  | firstTaken {a : α} (left : first = .ok a) : Sound first second (.waiting (some a) none)
  | secondTaken {b : β} (right : second = .ok b) : Sound first second (.waiting none (some b))
  | ended {result : Except Fault (α × β)} (outcome : Outcome first second result) : Sound first second (.ended result)

theorem Sound.lookFirst {wait : Wait α β} (sound : Sound first second wait) :
    Sound first second (wait.lookFirst first) := by
  cases sound with
  | untaken =>
    cases first with
    | error fault => exact .ended (.left rfl)
    | ok a => exact .firstTaken rfl
  | firstTaken left => exact .firstTaken left
  | secondTaken right =>
    cases first with
    | error fault => exact .ended (.left rfl)
    | ok a => exact .ended (.both rfl right)
  | ended outcome => exact .ended outcome

theorem Sound.lookSecond {wait : Wait α β} (sound : Sound first second wait) :
    Sound first second (wait.lookSecond second) := by
  cases sound with
  | untaken =>
    cases second with
    | error fault => exact .ended (.right rfl)
    | ok b => exact .secondTaken rfl
  | firstTaken left =>
    cases second with
    | error fault => exact .ended (.right rfl)
    | ok b => exact .ended (.both left rfl)
  | secondTaken right => exact .secondTaken right
  | ended outcome => exact .ended outcome

/-- A step keeps what is known of the wait. -/
theorem Step.sound {flight next : Flight α β} (step : Step first second flight next)
    (sound : Sound first second flight.wait) : Sound first second next.wait := by
  cases step with
  | firstComes | secondComes => exact sound
  | looksAtFirst => exact sound.lookFirst
  | looksAtSecond => exact sound.lookSecond

theorem Steps.sound {flight next : Flight α β} (steps : Steps first second flight next)
    (sound : Sound first second flight.wait) : Sound first second next.wait := by
  induction steps with
  | refl => exact sound
  | tail _ step ih => exact step.sound ih

/-- When both operations were looked at, the wait is over. -/
theorem Sound.looked {wait : Wait α β} (sound : Sound first second wait) :
    ∃ result, (wait.lookFirst first).lookSecond second = .ended result := by
  cases sound with
  | untaken => cases first <;> cases second <;> exact ⟨_, rfl⟩
  | firstTaken left => cases second <;> exact ⟨_, rfl⟩
  | secondTaken right => cases first <;> exact ⟨_, rfl⟩
  | ended outcome => exact ⟨_, rfl⟩

/-- Both replies can come at any time. -/
theorem steps_here (flight : Flight α β) : Steps first second flight ⟨true, true, flight.wait⟩ := by
  obtain ⟨firstIsHere, secondIsHere, wait⟩ := flight
  have second_comes (here : Bool) : Steps first second ⟨here, secondIsHere, wait⟩ ⟨here, true, wait⟩ := by
    cases secondIsHere with
    | true => exact .refl
    | false => exact .single .secondComes
  cases firstIsHere with
  | true => exact second_comes true
  | false => exact .head .firstComes (second_comes true)

/-- Wherever a flight has got to, it can end. -/
theorem can_end {flight : Flight α β} (steps : Steps first second {} flight) :
    ∃ result last, Steps first second flight last ∧ last.wait = .ended result := by
  obtain ⟨result, ended⟩ := (steps.sound .untaken).looked
  exact ⟨result, _, ((steps_here flight).tail .looksAtFirst).tail .looksAtSecond, ended⟩

/-- The ends of a flight are the outcomes of its two operations, in whichever order these are done. -/
theorem ends_iff {result : Except Fault (α × β)} : Ends first second result ↔ Outcome first second result := by
  constructor
  · rintro ⟨flight, steps, ended⟩
    have sound := steps.sound .untaken
    rw [ended] at sound
    cases sound with
    | ended outcome => exact outcome
  · intro outcome
    have come : Steps first second {} ⟨true, true, .waiting none none⟩ := steps_here {}
    -- both values need both replies, a fault ends the wait with the other reply still to come
    cases outcome with
    | both left right =>
      exact ⟨_, (come.tail .looksAtFirst).tail .looksAtSecond, by rw [left, right]; rfl⟩
    | left fails => exact ⟨_, .tail (.single .firstComes) .looksAtFirst, by rw [fails]; rfl⟩
    | right fails => exact ⟨_, .tail (.single .secondComes) .looksAtSecond, by rw [fails]; rfl⟩

end Flight

/-! ## The overview -/

/-- A backend that tells the same, and always answers the second of two requests first, or always the first one. -/
def Backend.ordered {σ : Type} (b : Backend σ) (secondIsEarlier : Bool) : Backend σ :=
  { b with secondIsEarlier := fun _ => secondIsEarlier }

namespace Overview

/-- The overview of the values of both operations. -/
def ofBoth (values : Summary × CallsPage) : Overview := ⟨values.1, values.2.calls⟩

/-- What the counters and the calls come to together: the overview of both if there are both, the fault of the one
that alone fails, and one of two faults. -/
structure Joins (summary : Except Fault Summary) (recent : Except Fault CallsPage) (answer : Except Fault Overview) :
    Prop where
  ok_iff : ∀ data, answer = .ok data ↔ ∃ s page, summary = .ok s ∧ recent = .ok page ∧ data = ⟨s, page.calls⟩
  first : ∀ fault page, summary = .error fault → recent = .ok page → answer = .error fault
  second : ∀ s fault, summary = .ok s → recent = .error fault → answer = .error fault
  either : ∀ fault fault', summary = .error fault → recent = .error fault' →
    answer = .error fault ∨ answer = .error fault'

variable {summary : Except Fault Summary} {recent : Except Fault CallsPage}

theorem joins_of_outcome {result : Except Fault (Summary × CallsPage)}
    (outcome : Flight.Outcome summary recent result) : Joins summary recent (result.map ofBoth) := by
  cases outcome with
  | both left right => constructor <;> simp_all [Except.map, ofBoth, eq_comm]
  | left fails => constructor <;> simp_all [Except.map]
  | right fails => constructor <;> simp_all [Except.map]

/-- Two answers are the same unless both operations fail. -/
theorem Joins.unique {answer answer' : Except Fault Overview} (joins : Joins summary recent answer)
    (joins' : Joins summary recent answer')
    (one : ∀ fault fault', ¬ (summary = .error fault ∧ recent = .error fault')) : answer' = answer := by
  cases left : summary with
  | ok s =>
    cases right : recent with
    | ok page =>
      rw [(joins.ok_iff _).mpr ⟨s, page, left, right, rfl⟩, (joins'.ok_iff _).mpr ⟨s, page, left, right, rfl⟩]
    | error fault => rw [joins.second s fault left right, joins'.second s fault left right]
  | error fault =>
    cases right : recent with
    | ok page => rw [joins.first fault page left right, joins'.first fault page left right]
    | error fault' => exact absurd ⟨left, right⟩ (one fault fault')

/-- The join of a race is an outcome, and each outcome is the join of one of the two races with its replies. -/
theorem join_iff {first second : Reply} {limit : UInt32} {answer : Except Fault Overview} :
    (∃ order, join ⟨first, second, order⟩ limit = answer) ↔
      ∃ result, Flight.Outcome (Client.summaryOf first) (Client.callsOf limit second) result ∧
        result.map ofBoth = answer := by
  simp only [join]
  generalize Client.summaryOf first = summary
  generalize Client.callsOf limit second = recent
  constructor
  · rintro ⟨order, rfl⟩
    cases summary with
    | ok s =>
      cases recent with
      | ok page => exact ⟨_, .both rfl rfl, rfl⟩
      | error fault => exact ⟨_, .right rfl, rfl⟩
    | error fault =>
      cases recent with
      | ok page => exact ⟨_, .left rfl, rfl⟩
      | error fault' =>
        cases order with
        | true => exact ⟨_, .right rfl, rfl⟩
        | false => exact ⟨_, .left rfl, rfl⟩
  · rintro ⟨result, outcome, rfl⟩
    cases outcome with
    | both left right =>
      subst left right
      exact ⟨false, rfl⟩
    | left fails =>
      subst fails
      cases recent <;> exact ⟨false, rfl⟩
    | right fails =>
      subst fails
      cases summary <;> exact ⟨true, rfl⟩

/-! ## Loading it -/

variable {c : Client} {limit : UInt32} {q q' : Request} {σ : Type}

/-- When its requests can be made, both are made, and their replies are joined. -/
theorem load_run (summaryMade : c.summaryRequest = .ok q) (callsMade : c.callsRequest 1 limit = .ok q')
    (b : Backend σ) (st : σ) :
    (load c limit).run b st =
      ⟨join ⟨(b.answer st q).1, (b.answer (b.answer st q).2 q').1, b.secondIsEarlier st⟩ limit, [q, q'],
        (b.answer (b.answer st q).2 q').2⟩ := by
  rw [load, summaryMade, callsMade]
  rfl

/-- What the requests of the overview come to when each is made by itself, one after the other. -/
def parts (c : Client) (limit : UInt32) (b : Backend σ) (st : σ) : Except Fault Summary × Except Fault CallsPage :=
  let summary := c.summary.run b st
  (summary.result, ((c.calls 1 limit).run b summary.state).result)

theorem parts_made (summaryMade : c.summaryRequest = .ok q) (callsMade : c.callsRequest 1 limit = .ok q')
    (b : Backend σ) (st : σ) :
    parts c limit b st =
      (Client.summaryOf (b.answer st q).1, Client.callsOf limit (b.answer (b.answer st q).2 q').1) := by
  rw [parts, Client.summary, Client.calls, summaryMade, callsMade]
  rfl

/-- The order is nothing to requests that are made by themselves. -/
theorem parts_ordered (c : Client) (limit : UInt32) (b : Backend σ) (st : σ) (order : Bool) :
    parts c limit (b.ordered order) st = parts c limit b st := by
  rw [parts, parts, Client.summary, Client.calls]
  cases c.summaryRequest <;> cases c.callsRequest 1 limit <;> rfl

/-- Loading the overview joins its parts. -/
theorem load_joins (c : Client) (limit : UInt32) (b : Backend σ) (st : σ) :
    Joins (parts c limit b st).1 (parts c limit b st).2 ((load c limit).run b st).result := by
  cases summaryMade : c.summaryRequest with
  | error detail =>
    -- a request that cannot be made fails before any other is sent, so that there is no race
    have first : (parts c limit b st).1 =
        .error (.unreachable ("Failed to " ++ "get dashboard summary" ++ ": " ++ detail)) := by
      rw [parts, Client.summary, summaryMade]
      rfl
    have unmade : load c limit = .done (.error (.unreachable ("Failed to get dashboard summary: " ++ detail))) := by
      rw [load, summaryMade]
    rw [unmade]
    exact joins_of_outcome (.left first)
  | ok q =>
    cases callsMade : c.callsRequest 1 limit with
    | error detail =>
      have second : (parts c limit b st).2 =
          .error (.unreachable ("Failed to " ++ "list calls" ++ ": " ++ detail)) := by
        rw [parts, Client.calls, callsMade]
        rfl
      have unmade : load c limit = .done (.error (.unreachable ("Failed to list calls: " ++ detail))) := by
        rw [load, summaryMade, callsMade]
      rw [unmade]
      exact joins_of_outcome (.right second)
    | ok q' =>
      obtain ⟨result, outcome, same⟩ := join_iff.mp ⟨b.secondIsEarlier st, rfl⟩
      rw [load_run summaryMade callsMade, parts_made summaryMade callsMade, ← same]
      exact joins_of_outcome outcome

/-- In some order loading ends with an answer just when waiting for both replies can end so. -/
theorem load_ends_iff (summaryMade : c.summaryRequest = .ok q) (callsMade : c.callsRequest 1 limit = .ok q')
    (b : Backend σ) (st : σ) {answer : Except Fault Overview} :
    (∃ order, ((load c limit).run (b.ordered order) st).result = answer) ↔
      ∃ result, Flight.Ends (parts c limit b st).1 (parts c limit b st).2 result ∧ result.map ofBoth = answer := by
  have run (order : Bool) : ((load c limit).run (b.ordered order) st).result =
      join ⟨(b.answer st q).1, (b.answer (b.answer st q).2 q').1, order⟩ limit := by
    rw [load_run summaryMade callsMade]
    rfl
  simp only [run, parts_made summaryMade callsMade, Flight.ends_iff]
  exact join_iff

end Overview

/-- A request gets the first page of the calls, with so many calls on it. -/
structure Request.GetsRecent (c : Client) (limit : UInt32) (q : Request) : Prop where
  verb : q.verb = .get
  payload : q.payload = .none
  url : ∃ u, Url.read (c.address "/calls") = .ok u ∧
    q.url = u.addQuery ("page=1&page_size=" ++ Text.decimal limit.toNat)

theorem Client.callsRequest_getsRecent {c : Client} {limit : UInt32} {q : Request}
    (made : c.callsRequest 1 limit = .ok q) : q.GetsRecent c limit := by
  obtain ⟨verb, payload, ⟨u, read, same⟩, -⟩ := request_made made
  have first : "page=" ++ Text.decimal (UInt32.toNat 1) ++ "&page_size=" = "page=1&page_size=" := by decide +kernel
  exact ⟨verb, payload, u, read, by rw [same, formLine_page, first]⟩

end CallDesk
