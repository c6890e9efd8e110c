import CallDesk.Proofs.Backend.Client

/-! # Why a page cannot be loaded

Each fault of an operation has its cause in the reply to its request, or in a request that cannot be made.
What loads a page from several replies makes no faults of its own: when it fails, it fails with the fault of
one of its requests.
-/

namespace CallDesk

/-! ## Results and replies -/

namespace Dialog

variable {α β σ : Type}

/-- The replies that a run gets, in the order of the requests. -/
def replies (b : Backend σ) (s : σ) : Dialog α → List Reply
  | done _ => []
  | ask q next =>
    let (reply, s) := b.answer s q
    reply :: (next reply).replies b s
  | both q r next =>
    let earlier := b.secondIsEarlier s
    let (first, s) := b.answer s q
    let (second, s) := b.answer s r
    first :: second :: (next ⟨first, second, earlier⟩).replies b s

/-- What follows a dialog is told after it. -/
theorem replies_bind (b : Backend σ) (s : σ) (d : Dialog α) (f : α → Dialog β) :
    (d.bind f).replies b s = d.replies b s ++ (f (d.run b s).result).replies b (d.run b s).state := by
  induction d generalizing s with
  | done a => rfl
  | ask q next ih => simp only [bind, run, replies, ih, List.cons_append]
  | both q r next ih => simp only [bind, run, replies, ih, List.cons_append]

/-- Changing the result of a dialog changes nothing that is told. -/
theorem replies_map (b : Backend σ) (s : σ) (f : α → β) (d : Dialog α) : (d.map f).replies b s = d.replies b s := by
  rw [map, replies_bind]
  simp only [replies, List.append_nil]

/-- What holds of the replies and the result of a dialog, whatever the replies are. -/
inductive Ensures : (List Reply → α → Prop) → Dialog α → Prop
  | done {post : List Reply → α → Prop} {a : α} (holds : post [] a) : Ensures post (done a)
  | ask {post : List Reply → α → Prop} {q : Request} {next : Reply → Dialog α}
      (rest : ∀ reply, Ensures (fun replies => post (reply :: replies)) (next reply)) : Ensures post (ask q next)
  | both {post : List Reply → α → Prop} {q r : Request} {next : Race → Dialog α}
      (rest : ∀ race, Ensures (fun replies => post (race.first :: race.second :: replies)) (next race)) :
      Ensures post (both q r next)

namespace Ensures

/-- What always holds is ensured. -/
theorem of_forall {post : List Reply → α → Prop} (always : ∀ replies a, post replies a) (d : Dialog α) :
    Ensures post d := by
  induction d generalizing post with
  | done a => exact .done (always [] a)
  | ask q next ih => exact .ask fun reply => ih reply fun replies a => always _ a
  | both q r next ih => exact .both fun race => ih race fun replies a => always _ a

theorem imp {post post' : List Reply → α → Prop} {d : Dialog α} (ensures : Ensures post d)
    (weaker : ∀ replies a, post replies a → post' replies a) : Ensures post' d := by
  induction ensures generalizing post' with
  | done holds => exact .done (weaker [] _ holds)
  | ask _ ih => exact .ask fun reply => ih reply fun _ _ => weaker _ _
  | both _ ih => exact .both fun race => ih race fun _ _ => weaker _ _

theorem bind {post : List Reply → α → Prop} {d : Dialog α} (first : Ensures post d)
    {post' : List Reply → β → Prop} {f : α → Dialog β}
    (rest : ∀ replies a, post replies a → Ensures (fun more => post' (replies ++ more)) (f a)) :
    Ensures post' (d.bind f) := by
  induction first generalizing post' with
  | done holds => exact rest [] _ holds
  | ask _ ih => exact .ask fun reply => ih reply fun replies a holds => rest (reply :: replies) a holds
  | both _ ih =>
    exact .both fun race => ih race fun replies a holds => rest (race.first :: race.second :: replies) a holds

theorem map {post : List Reply → α → Prop} {d : Dialog α} (first : Ensures post d) {post' : List Reply → β → Prop}
    {f : α → β} (holds : ∀ replies a, post replies a → post' replies (f a)) : Ensures post' (d.map f) := by
  refine first.bind fun replies a told => .done ?_
  rw [List.append_nil]
  exact holds replies a told

/-- What is ensured holds of every run. -/
theorem run {post : List Reply → α → Prop} {d : Dialog α} (ensures : Ensures post d) (b : Backend σ) (s : σ) :
    post (d.replies b s) (d.run b s).result := by
  induction ensures generalizing s with
  | done holds => exact holds
  | ask _ ih => exact ih _ _
  | both _ ih => exact ih ⟨_, _, _⟩ _

end Ensures

end Dialog

/-! ## Causes -/

/-- A reply is the cause of a fault. The status 401 and the other failures are told in the words of the backend,
of the rest only the kind is told. -/
inductive Reply.Fails : Reply → Fault → Prop
  | lost (why detail : String) : Fails (.lost why) (.unreachable detail)
  | cut {status : Nat} (success : 200 ≤ status ∧ status < 300) (detail : String) :
      Fails (.answer status none) (.unreachable detail)
  | undecodable {status : Nat} (success : 200 ≤ status ∧ status < 300) (body : Text.Bytes) (detail : String) :
      Fails (.answer status (some body)) (.undecodable detail)
  | unauthorized (body : Option Text.Bytes) :
      Fails (.answer 401 body) (.unauthorized (Backend.failureText 401 (body.getD [])))
  | refused {status : Nat} (failure : ¬ (200 ≤ status ∧ status < 300)) (other : status ≠ 401)
      (body : Option Text.Bytes) :
      Fails (.answer status body) (.refused status (Backend.failureText status (body.getD [])))

/-- A fault of a client has one of its replies as its cause, or a request that the client cannot make. -/
inductive Client.Blames (c : Client) (replies : List Reply) : Fault → Prop
  | reply {reply : Reply} {fault : Fault} (told : reply ∈ replies) (fails : reply.Fails fault) : Blames c replies fault
  | request {verb : Verb} {path : String} {query : Option String} {payload : Payload} {why : String}
      (unmade : c.request verb path query payload = .error why) (detail : String) :
      Blames c replies (.unreachable detail)

theorem Reply.accept_fails {reply : Reply} {operation : String} {fault : Fault}
    (failed : reply.accept operation = .error fault) : reply.Fails fault := by
  cases reply with
  | lost detail =>
    obtain rfl := Except.error.inj failed
    exact .lost detail _
  | answer status body =>
    simp only [accept] at failed
    split at failed
    · contradiction
    next failure =>
    split at failed
    · next same =>
      obtain rfl := Except.error.inj failed
      subst same
      exact .unauthorized body
    · next other =>
      obtain rfl := Except.error.inj failed
      exact .refused failure other body

/-- A reply whose body is taken is a success. -/
theorem Reply.accept_ok {reply : Reply} {operation : String} {body : Option Text.Bytes}
    (taken : reply.accept operation = .ok body) :
    ∃ status, reply = .answer status body ∧ 200 ≤ status ∧ status < 300 := by
  cases reply with
  | lost detail => contradiction
  | answer status told =>
    simp only [accept] at taken
    split at taken
    · next success =>
      obtain rfl := Except.ok.inj taken
      exact ⟨status, rfl, success⟩
    · split at taken <;> contradiction

theorem Reply.value_fails {α : Type} {reply : Reply} {operation : String} {read : Json → Option α} {fault : Fault}
    (failed : reply.value operation read = .error fault) : reply.Fails fault := by
  rw [value] at failed
  split at failed
  · next refused =>
    obtain rfl := Except.error.inj failed
    exact accept_fails refused
  · next taken =>
    obtain ⟨status, rfl, success⟩ := accept_ok taken
    obtain rfl := Except.error.inj failed
    exact .cut success _
  · next body taken =>
    obtain ⟨status, rfl, success⟩ := accept_ok taken
    split at failed
    · contradiction
    · obtain rfl := Except.error.inj failed
      exact .undecodable success body _

/-- A value that is read from a reply is that of the body of a success. -/
theorem Reply.value_ok {α : Type} {reply : Reply} {operation : String} {read : Json → Option α} {a : α} :
    reply.value operation read = .ok a ↔ ∃ status body, reply = .answer status (some body) ∧ 200 ≤ status ∧
      status < 300 ∧ (Json.read? body).bind read = some a := by
  constructor
  · intro told
    rw [value] at told
    split at told
    · contradiction
    · contradiction
    · next body taken =>
      obtain ⟨status, rfl, least, most⟩ := accept_ok taken
      split at told
      · next decoded =>
        obtain rfl := Except.ok.inj told
        exact ⟨status, body, rfl, least, most, decoded⟩
      · contradiction
  · rintro ⟨status, body, rfl, least, most, decoded⟩
    simp only [value, accept, if_pos (And.intro least most), decoded]

theorem error_of_map {α β : Type} {f : α → β} {answer : Except Fault α} {fault : Fault}
    (failed : answer.map f = .error fault) : answer = .error fault := by
  cases answer with
  | ok a => contradiction
  | error other => exact congrArg Except.error (Except.error.inj failed)

/-! ## Operations -/

namespace Client

variable {c : Client}

/-- A result that is no fault of the client's own. -/
def Explains {α : Type} (c : Client) (replies : List Reply) (answer : Except Fault α) : Prop :=
  ∀ fault, answer = .error fault → c.Blames replies fault

theorem Blames.append {replies : List Reply} {fault : Fault} (before : List Reply) (blames : c.Blames replies fault) :
    c.Blames (before ++ replies) fault := by
  cases blames with
  | reply told fails => exact .reply (List.mem_append_right before told) fails
  | request unmade detail => exact .request unmade detail

theorem Explains.ok {α : Type} (replies : List Reply) (a : α) : c.Explains replies (.ok a) := by
  rintro fault ⟨⟩

theorem send_explains {α : Type} (operation : String) {take : Reply → Except Fault α}
    (fails : ∀ {reply fault}, take reply = .error fault → reply.Fails fault) {verb : Verb} {path : String}
    {query : Option String} {payload : Payload} :
    (send operation take (c.request verb path query payload)).Ensures c.Explains := by
  cases made : c.request verb path query payload with
  | error why =>
    refine .done fun fault failed => ?_
    obtain rfl := Except.error.inj failed
    exact .request made _
  | ok q => exact .ask fun reply => .done fun fault failed => .reply List.mem_cons_self (fails failed)

theorem callsOf_fails {pageSize : UInt32} {reply : Reply} {fault : Fault}
    (failed : callsOf pageSize reply = .error fault) : reply.Fails fault := Reply.value_fails (error_of_map failed)

theorem calls_explains (page pageSize : UInt32) : (c.calls page pageSize).Ensures c.Explains :=
  send_explains _ callsOf_fails

theorem call_explains (id : String) : (c.call id).Ensures c.Explains := send_explains _ Reply.value_fails

theorem campaigns_explains : c.campaigns.Ensures c.Explains := send_explains _ Reply.value_fails

end Client

/-! ## Pages -/

variable {c : Client}

theorem CallHistory.load_explains (page pageSize : UInt32) :
    (CallHistory.load c page pageSize).Ensures c.Explains := by
  refine (Client.calls_explains _ _).bind fun replies answer explains => ?_
  cases answer with
  | error fault =>
    refine .done fun fault' failed => ?_
    obtain rfl := Except.error.inj failed
    rw [List.append_nil]
    exact explains fault rfl
  | ok listing =>
    dsimp only
    split
    · refine (Client.calls_explains _ _).map fun more answer explains fault failed => ?_
      exact (explains fault (error_of_map failed)).append replies
    · exact .done (Client.Explains.ok _ _)

/-- A transcript that cannot be had does not keep the call from being shown. -/
theorem CallDetail.load_explains (id : String) : (CallDetail.load c id).Ensures c.Explains := by
  refine (Client.call_explains id).bind fun replies answer explains => ?_
  cases answer with
  | error fault =>
    refine .done fun fault' failed => ?_
    obtain rfl := Except.error.inj failed
    rw [List.append_nil]
    exact explains fault rfl
  | ok call =>
    dsimp only
    split
    · exact .done (Client.Explains.ok _ _)
    · exact (Dialog.Ensures.of_forall (fun _ _ => trivial) _).map fun _ _ _ => Client.Explains.ok _ _

/-- The overview fails with the fault of one of its parts. -/
theorem Overview.join_fails {race : Race} {limit : UInt32} {fault : Fault} (failed : join race limit = .error fault) :
    Client.summaryOf race.first = .error fault ∨ Client.callsOf limit race.second = .error fault := by
  rw [join] at failed
  split at failed
  · contradiction
  · next summary recent =>
    obtain rfl := Except.error.inj failed
    exact .inl summary
  · next summary recent =>
    obtain rfl := Except.error.inj failed
    exact .inr recent
  · next summary recent =>
    obtain rfl := Except.error.inj failed
    cases race.secondIsEarlier with
    | true => exact .inr recent
    | false => exact .inl summary

theorem Overview.load_explains (limit : UInt32) : (Overview.load c limit).Ensures c.Explains := by
  rw [Overview.load]
  split
  · refine .both fun race => .done fun fault failed => ?_
    rcases join_fails failed with first | second
    · exact .reply List.mem_cons_self (Reply.value_fails first)
    · exact .reply (List.mem_cons_of_mem _ List.mem_cons_self) (Client.callsOf_fails second)
  · next why unmade =>
    refine .done fun fault failed => ?_
    obtain rfl := Except.error.inj failed
    exact .request unmade _
  · next why made unmade =>
    refine .done fun fault failed => ?_
    obtain rfl := Except.error.inj failed
    exact .request unmade _

end CallDesk
