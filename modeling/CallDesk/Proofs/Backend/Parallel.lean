import CallDesk.Proofs.Backend.Request

/-! # Two dialogs side by side

Two dialogs are alike when they ask for like things and, told like things, go on alike to like results. So
are two runs of them, against backends that tell like things. What pages ask the backend for is shown to be
alike in two ways at once: the clients may be bound to different tokens, and where there was no answer the
replies may tell different reasons. The results then differ at most in the details of a fault that says
that there was no answer, which no page shows.
-/

namespace CallDesk

/-! ## Dialogs -/

namespace Dialog

variable {α β γ δ σ τ : Type} {asks : Request → Request → Prop} {told : Reply → Reply → Prop}

/-- Dialogs that ask for like things, and have like results when they are told like things. -/
inductive Alike (asks : Request → Request → Prop) (told : Reply → Reply → Prop) (gives : α → β → Prop) :
    Dialog α → Dialog β → Prop
  | done {a : α} {b : β} (like : gives a b) : Alike asks told gives (done a) (done b)
  | ask {q r : Request} {next : Reply → Dialog α} {next' : Reply → Dialog β} (like : asks q r)
      (rest : ∀ reply reply', told reply reply' → Alike asks told gives (next reply) (next' reply')) :
      Alike asks told gives (ask q next) (ask r next')
  | both {q₁ q₂ r₁ r₂ : Request} {next : Race → Dialog α} {next' : Race → Dialog β} (first : asks q₁ r₁)
      (second : asks q₂ r₂)
      (rest : ∀ race race', told race.first race'.first → told race.second race'.second →
        race'.secondIsEarlier = race.secondIsEarlier → Alike asks told gives (next race) (next' race')) :
      Alike asks told gives (both q₁ q₂ next) (both r₁ r₂ next')

namespace Alike

variable {gives : α → β → Prop} {gives' : γ → δ → Prop} {d : Dialog α} {e : Dialog β}

theorem bind {f : α → Dialog γ} {g : β → Dialog δ} (first : Alike asks told gives d e)
    (rest : ∀ a b, gives a b → Alike asks told gives' (f a) (g b)) : Alike asks told gives' (d.bind f) (e.bind g) := by
  induction first with
  | done like => exact rest _ _ like
  | ask like _ ih => exact .ask like ih
  | both first second _ ih => exact .both first second ih

theorem map {f : α → γ} {g : β → δ} (first : Alike asks told gives d e)
    (like : ∀ a b, gives a b → gives' (f a) (g b)) : Alike asks told gives' (d.map f) (e.map g) :=
  first.bind fun a b given => .done (like a b given)

end Alike

end Dialog

/-- Backends that tell like things when they are asked for like things, from states that are paired. -/
structure Backend.Alike {σ τ : Type} (asks : Request → Request → Prop) (told : Reply → Reply → Prop)
    (paired : σ → τ → Prop) (b : Backend σ) (c : Backend τ) : Prop where
  told : ∀ {s t q r}, paired s t → asks q r → told (b.answer s q).1 (c.answer t r).1
  next : ∀ {s t q r}, paired s t → asks q r → paired (b.answer s q).2 (c.answer t r).2
  order : ∀ {s t}, paired s t → c.secondIsEarlier t = b.secondIsEarlier s

/-- Dialogs that are alike have like results against backends that are alike. -/
theorem Dialog.Alike.run {α β σ τ : Type} {asks : Request → Request → Prop} {told : Reply → Reply → Prop}
    {gives : α → β → Prop} {paired : σ → τ → Prop} {d : Dialog α} {e : Dialog β} {b : Backend σ} {c : Backend τ}
    (alike : Alike asks told gives d e) (backends : b.Alike asks told paired c) {s : σ} {t : τ} (start : paired s t) :
    gives (d.run b s).result (e.run c t).result := by
  induction alike generalizing s t with
  | done like => exact like
  | ask like _ ih => exact ih _ _ (backends.told start like) (backends.next start like)
  | both first second _ ih =>
    have between := backends.next start first
    exact ih _ _ (backends.told start first) (backends.told between second) (backends.order start)
      (backends.next between second)

/-! ## Replies and what they come to -/

/-- A request was lost, or the body of its answer was. -/
inductive Reply.IsLost : Reply → Prop
  | lost (detail : String) : IsLost (.lost detail)
  | cut {status : Nat} (success : 200 ≤ status ∧ status < 300) : IsLost (.answer status none)

/-- Replies are the same, or there is no answer in either, for whatever reason. -/
def Reply.Like (reply reply' : Reply) : Prop := reply' = reply ∨ reply.IsLost ∧ reply'.IsLost

/-- Faults are the same, or both say that there was no answer. -/
inductive Fault.Like : Fault → Fault → Prop
  | same (fault : Fault) : Like fault fault
  | unreachable (detail detail' : String) : Like (.unreachable detail) (.unreachable detail')

theorem Fault.Like.userMessage {fault fault' : Fault} (like : fault.Like fault') :
    fault'.userMessage = fault.userMessage := by cases like <;> rfl

theorem Fault.Like.isUnauthorized {fault fault' : Fault} (like : fault.Like fault') :
    fault'.isUnauthorized = fault.isUnauthorized := by cases like <;> rfl

/-- Results are the same, or faults that are like. -/
inductive LikeResults {α : Type} : Except Fault α → Except Fault α → Prop
  | ok (a : α) : LikeResults (.ok a) (.ok a)
  | error {fault fault' : Fault} (like : fault.Like fault') : LikeResults (.error fault) (.error fault')

namespace LikeResults

variable {α β : Type}

theorem refl (answer : Except Fault α) : LikeResults answer answer := by
  cases answer with
  | ok a => exact .ok a
  | error fault => exact .error (.same fault)

theorem map {answer answer' : Except Fault α} (like : LikeResults answer answer') (f : α → β) :
    LikeResults (answer.map f) (answer'.map f) := by
  cases like with
  | ok a => exact .ok (f a)
  | error like => exact .error like

/-- Neither the details of a fault nor its kind are in the view of a result. -/
theorem view {answer answer' : Except Fault α} (like : LikeResults answer answer') :
    View.ofExcept answer' = View.ofExcept answer := by
  cases like with
  | ok a => rfl
  | error like => exact congrArg View.failed like.userMessage

end LikeResults

theorem Reply.IsLost.value {α : Type} {reply : Reply} (lost : reply.IsLost) (operation : String)
    (read : Json → Option α) : ∃ detail, reply.value operation read = .error (.unreachable detail) := by
  cases lost with
  | lost detail => exact ⟨_, rfl⟩
  | cut success => exact ⟨_, by rw [Reply.value, Reply.accept, if_pos success]⟩

theorem Reply.Like.value {α : Type} {reply reply' : Reply} (like : reply.Like reply') (operation : String)
    (read : Json → Option α) : LikeResults (reply.value operation read) (reply'.value operation read) := by
  rcases like with rfl | ⟨lost, lost'⟩
  · exact .refl _
  · obtain ⟨detail, fault⟩ := lost.value operation read
    obtain ⟨detail', fault'⟩ := lost'.value operation read
    rw [fault, fault']
    exact .error (.unreachable detail detail')

/-! ## Clients -/

/-- Requests are like when both can be made or neither can. -/
inductive Attempts (asks : Request → Request → Prop) : Except String Request → Except String Request → Prop
  | made {q r : Request} (like : asks q r) : Attempts asks (.ok q) (.ok r)
  | failed (detail detail' : String) : Attempts asks (.error detail) (.error detail')

/-- Clients that make like requests. -/
def Client.Alike (asks : Request → Request → Prop) (c c' : Client) : Prop :=
  ∀ verb path query payload, Attempts asks (c.request verb path query payload) (c'.request verb path query payload)

/-- A request, and the same one with another token. -/
structure Request.Rebound (token token' : String) (q r : Request) : Prop where
  verb : r.verb = q.verb
  url : r.url = q.url
  payload : r.payload = q.payload
  bearer : ∃ basic, q.authorization = basic ++ ["Bearer " ++ token] ∧ r.authorization = basic ++ ["Bearer " ++ token']

namespace Client

/-- Clients that are bound to different tokens make the same requests but for these, if headers can hold them. -/
theorem alike_bind (c : Client) {token token' : String} (legal : isHeaderText token = true)
    (legal' : isHeaderText token' = true) :
    (c.bind (some token)).Alike (Request.Rebound token token') (c.bind (some token')) := by
  intro verb path query payload
  simp only [request, bind, isHeaderText_bearer, legal, legal', ↓reduceIte]
  split
  · exact .failed _ _
  split
  · exact .failed _ _
  split
  · exact .failed _ _
  · exact .made ⟨rfl, rfl, rfl, _, rfl, rfl⟩

theorem alike_self (c : Client) : c.Alike Eq c := by
  intro verb path query payload
  cases c.request verb path query payload with
  | ok q => exact .made rfl
  | error detail => exact .failed _ _

variable {asks : Request → Request → Prop} {c c' : Client}

theorem send_alike {α : Type} (operation : String) {take : Reply → Except Fault α}
    (like : ∀ reply reply', reply.Like reply' → LikeResults (take reply) (take reply'))
    {request request' : Except String Request} (attempts : Attempts asks request request') :
    (send operation take request).Alike asks Reply.Like LikeResults (send operation take request') := by
  cases attempts with
  | made first => exact .ask first fun reply reply' told => .done (like reply reply' told)
  | failed detail detail' => exact .done (.error (.unreachable _ _))

theorem callsOf_like (pageSize : UInt32) (reply reply' : Reply) (like : reply.Like reply') :
    LikeResults (callsOf pageSize reply) (callsOf pageSize reply') := (like.value _ _).map _

theorem calls_alike (alike : c.Alike asks c') (page pageSize : UInt32) :
    (c.calls page pageSize).Alike asks Reply.Like LikeResults (c'.calls page pageSize) :=
  send_alike _ (callsOf_like pageSize) (alike _ _ _ _)

theorem call_alike (alike : c.Alike asks c') (id : String) :
    (c.call id).Alike asks Reply.Like LikeResults (c'.call id) :=
  send_alike _ (fun _ _ like => like.value _ _) (alike _ _ _ _)

theorem transcript_alike (alike : c.Alike asks c') (id : String) :
    (c.transcript id).Alike asks Reply.Like LikeResults (c'.transcript id) :=
  send_alike _ (fun _ _ like => (like.value _ _).map _) (alike _ _ _ _)

theorem campaigns_alike (alike : c.Alike asks c') : c.campaigns.Alike asks Reply.Like LikeResults c'.campaigns :=
  send_alike _ (fun _ _ like => like.value _ _) (alike _ _ _ _)

theorem createCampaign_alike (alike : c.Alike asks c') (form : CampaignForm) :
    (c.createCampaign form).Alike asks Reply.Like LikeResults (c'.createCampaign form) :=
  send_alike _ (fun _ _ like => like.value _ _) (alike _ _ _ _)

theorem importContacts_alike (alike : c.Alike asks c') (name : String) (contents : Text.Bytes) :
    (c.importContacts name contents).Alike asks Reply.Like LikeResults (c'.importContacts name contents) :=
  send_alike _ (fun _ _ like => like.value _ _) (alike _ _ _ _)

end Client

/-! ## What pages ask for -/

variable {asks : Request → Request → Prop} {c c' : Client}

theorem CallHistory.load_alike (alike : c.Alike asks c') (page pageSize : UInt32) :
    (CallHistory.load c page pageSize).Alike asks Reply.Like LikeResults (CallHistory.load c' page pageSize) := by
  refine (c.calls_alike alike _ _).bind fun answer answer' like => ?_
  cases like with
  | error like => exact .done (.error like)
  | ok listing =>
    dsimp only
    split
    · exact (c.calls_alike alike _ _).map fun answer answer' like => like.map _
    · exact .done (.ok _)

theorem CallDetail.load_alike (alike : c.Alike asks c') (id : String) :
    (CallDetail.load c id).Alike asks Reply.Like LikeResults (CallDetail.load c' id) := by
  refine (c.call_alike alike id).bind fun answer answer' like => ?_
  cases like with
  | error like => exact .done (.error like)
  | ok call =>
    dsimp only
    split
    · exact .done (.ok _)
    · refine (c.transcript_alike alike id).map fun answer answer' like => ?_
      rw [(like.map (·.turns)).view]
      exact .ok _

/-- Of two parts that fail, the one that is told is the same when the same one fails earlier. -/
theorem Overview.join_like {race race' : Race} (first : race.first.Like race'.first)
    (second : race.second.Like race'.second) (order : race'.secondIsEarlier = race.secondIsEarlier) (limit : UInt32) :
    LikeResults (Overview.join race limit) (Overview.join race' limit) := by
  have summary : LikeResults (Client.summaryOf race.first) (Client.summaryOf race'.first) := first.value _ _
  have recent := Client.callsOf_like limit _ _ second
  rw [Overview.join, Overview.join, order]
  generalize Client.summaryOf race.first = first, Client.summaryOf race'.first = first' at summary ⊢
  generalize Client.callsOf limit race.second = second, Client.callsOf limit race'.second = second' at recent ⊢
  cases summary with
  | ok summary =>
    cases recent with
    | ok recent => exact .ok _
    | error like => exact .error like
  | error like =>
    cases recent with
    | ok recent => exact .error like
    | error like' =>
      cases race.secondIsEarlier with
      | true => exact .error like'
      | false => exact .error like

theorem Overview.load_alike (alike : c.Alike asks c') (limit : UInt32) :
    (Overview.load c limit).Alike asks Reply.Like LikeResults (Overview.load c' limit) := by
  have summary : Attempts asks c.summaryRequest c'.summaryRequest := alike _ _ _ _
  have recent : Attempts asks (c.callsRequest 1 limit) (c'.callsRequest 1 limit) := alike _ _ _ _
  rw [Overview.load, Overview.load]
  generalize c.summaryRequest = first, c'.summaryRequest = first' at summary ⊢
  generalize c.callsRequest 1 limit = second, c'.callsRequest 1 limit = second' at recent ⊢
  cases summary with
  | failed detail detail' => exact .done (.error (.unreachable _ _))
  | made first =>
    cases recent with
    | failed detail detail' => exact .done (.error (.unreachable _ _))
    | made second =>
      exact .both first second fun race race' told told' order => .done (join_like told told' order limit)

theorem CampaignForm.submit_alike (alike : c.Alike asks c') (form : CampaignForm) :
    (form.submit c).Alike asks Reply.Like LikeResults (form.submit c') := by
  rw [CampaignForm.submit, CampaignForm.submit]
  cases form.normalized.check with
  | error fault => exact .done (.refl _)
  | ok _ => exact c.createCampaign_alike alike _

/-- An upload tells nothing of a fault but its message. -/
theorem Upload.send_alike (alike : c.Alike asks c') (name : Option String) (contents : Text.Bytes) :
    (Upload.send c name contents).Alike asks Reply.Like Eq (Upload.send c' name contents) := by
  rw [Upload.send, Upload.send]
  split
  · exact .done rfl
  · refine (c.importContacts_alike alike _ _).map fun answer answer' like => ?_
    cases like with
    | ok result => rfl
    | error like => exact congrArg Upload.failed like.userMessage.symm

end CallDesk
