import CallDesk.Proofs.Backend.Lookup
import CallDesk.Proofs.Backend.Parallel
import CallDesk.Proofs.Backend.Reason

/-! # What operations come to

An operation of a client is one request, and the reply to it alone decides what the operation comes to: nothing
but a success whose body is decoded gives a value, and every other reply has its own kind of fault. Each fault has
words for the user, and what the backend says about a failure is in them.
-/

namespace CallDesk

open Text

/-- A fault without what only a log is told of it. -/
def Fault.bare : Fault → Fault
  | unreachable _ => unreachable ""
  | undecodable _ => undecodable ""
  | fault => fault

/-- A user is told something of a reply that is missing or cannot be used, whatever a log is told. -/
theorem Fault.isFilled_unreachable (detail : String) : IsFilled (unreachable detail).userMessage :=
  isFilled_iff.mpr (show isBlankText "Unable to reach the server. Please try again." = false by decide)

theorem Fault.isFilled_undecodable (detail : String) : IsFilled (undecodable detail).userMessage :=
  isFilled_iff.mpr (show isBlankText "Received an unexpected response from the server" = false by decide)

/-- The fault that a failure with a status is, in words that were found for it. -/
def Fault.ofStatus (status : Nat) (words : String) : Fault :=
  if status = 401 then .unauthorized words else .refused status words

/-- What an operation looks for in the body of a success. -/
inductive Expects (α : Type) where
  /-- Nothing: any success will do. -/
  | nothing (a : α)
  /-- A value that the body is decoded to. -/
  | value (decode? : Bytes → Option α)

/-- What a reply comes to, for what is expected of a success. -/
inductive Reply.ComesTo {α : Type} : Expects α → Reply → Except Fault α → Prop
  | lost {expects : Expects α} (why detail : String) : ComesTo expects (.lost why) (.error (.unreachable detail))
  | accepted {a : α} {status : Nat} (success : 200 ≤ status ∧ status < 300) (body : Option Bytes) :
      ComesTo (.nothing a) (.answer status body) (.ok a)
  | cut {decode? : Bytes → Option α} {status : Nat} (success : 200 ≤ status ∧ status < 300) (detail : String) :
      ComesTo (.value decode?) (.answer status none) (.error (.unreachable detail))
  | undecodable {decode? : Bytes → Option α} {status : Nat} {body : Bytes} (success : 200 ≤ status ∧ status < 300)
      (broken : decode? body = none) (detail : String) :
      ComesTo (.value decode?) (.answer status (some body)) (.error (.undecodable detail))
  | decoded {decode? : Bytes → Option α} {status : Nat} {body : Bytes} {a : α}
      (success : 200 ≤ status ∧ status < 300) (whole : decode? body = some a) :
      ComesTo (.value decode?) (.answer status (some body)) (.ok a)
  | unauthorized {expects : Expects α} (body : Option Bytes) :
      ComesTo expects (.answer 401 body) (.error (.unauthorized (Backend.failureText 401 (body.getD []))))
  | refused {expects : Expects α} {status : Nat} (failure : ¬ (200 ≤ status ∧ status < 300)) (other : status ≠ 401)
      (body : Option Bytes) :
      ComesTo expects (.answer status body) (.error (.refused status (Backend.failureText status (body.getD []))))

/-! ## Replies -/

namespace Reply

variable {α β : Type} {reply : Reply} {operation : String}

/-- A reply whose body is not taken comes to a fault of its kind, whatever was expected. -/
theorem comesTo_of_accept {fault : Fault} (failed : reply.accept operation = .error fault) (expects : Expects α) :
    reply.ComesTo expects (.error fault) := by
  cases accept_fails failed with
  | lost why detail => exact .lost why detail
  | unauthorized body => exact .unauthorized body
  | refused failure other body => exact .refused failure other body
  | cut success detail => simp [accept, success] at failed
  | undecodable success body detail => simp [accept, success] at failed

theorem value_comesTo (operation : String) (read : Json → Option α) (reply : Reply) :
    reply.ComesTo (.value (Json.decode? read)) (reply.value operation read) := by
  rw [value]
  cases taken : reply.accept operation with
  | error fault => exact comesTo_of_accept taken _
  | ok body =>
    obtain ⟨status, rfl, success⟩ := accept_ok taken
    cases body with
    | none => exact .cut success _
    | some body =>
      dsimp only
      cases decoded : (Json.read? body).bind read with
      | none => exact .undecodable success decoded _
      | some a => exact .decoded success decoded

/-- A value that is completed after it was decoded is expected in its complete form. -/
theorem ComesTo.map {decode? : Bytes → Option α} {answer : Except Fault α}
    (comes : reply.ComesTo (.value decode?) answer) (f : α → β) :
    reply.ComesTo (.value fun body => (decode? body).map f) (answer.map f) := by
  cases comes with
  | lost why detail => exact .lost why detail
  | cut success detail => exact .cut success detail
  | undecodable success broken detail => exact .undecodable success (by rw [broken, Option.map_none]) detail
  | decoded success whole => exact .decoded success (by rw [whole, Option.map_some])
  | unauthorized body => exact .unauthorized body
  | refused failure other body => exact .refused failure other body

/-- When nothing is expected of a success, its body is not looked at. -/
theorem accept_comesTo (operation : String) (a : α) (reply : Reply) :
    reply.ComesTo (.nothing a) ((reply.accept operation).map fun _ => a) := by
  cases taken : reply.accept operation with
  | error fault => exact comesTo_of_accept taken _
  | ok body =>
    obtain ⟨status, rfl, success⟩ := accept_ok taken
    exact .accepted success _

namespace ComesTo

variable {expects : Expects α} {answer answer' : Except Fault α}

/-- A reply comes to one thing, but for what only a log is told. -/
theorem unique (comes : reply.ComesTo expects answer) (comes' : reply.ComesTo expects answer') :
    answer.mapError Fault.bare = answer'.mapError Fault.bare := by
  cases comes with
  | lost why detail =>
    cases comes' with
    | lost => rfl
  | accepted success body =>
    cases comes' with
    | accepted => rfl
    | unauthorized => omega
    | refused failure => exact absurd success failure
  | cut success detail =>
    cases comes' with
    | cut => rfl
    | unauthorized => omega
    | refused failure => exact absurd success failure
  | undecodable success broken detail =>
    cases comes' with
    | undecodable => rfl
    | decoded _ whole => rw [broken] at whole; contradiction
    | unauthorized => omega
    | refused failure => exact absurd success failure
  | decoded success whole =>
    cases comes' with
    | undecodable _ broken => rw [broken] at whole; contradiction
    | decoded _ whole' => rw [Option.some.inj (whole.symm.trans whole')]
    | unauthorized => omega
    | refused failure => exact absurd success failure
  | unauthorized body =>
    cases comes' with
    | accepted success | cut success | undecodable success | decoded success => omega
    | unauthorized => rfl
    | refused _ other => exact absurd rfl other
  | refused failure other body =>
    cases comes' with
    | accepted success | cut success | undecodable success | decoded success => exact absurd success failure
    | unauthorized => exact absurd rfl other
    | refused => rfl

/-- Every fault that a reply comes to has words for the user. -/
theorem isFilled {fault : Fault} (comes : reply.ComesTo expects (.error fault)) : IsFilled fault.userMessage := by
  cases comes with
  | lost | cut => exact Fault.isFilled_unreachable _
  | undecodable => exact Fault.isFilled_undecodable _
  | unauthorized body => exact Backend.isFilled_failureText _ _
  | refused failure other body => exact Backend.isFilled_failureText _ _

/-- The token is not accepted when the status is 401, and only then. -/
theorem isUnauthorized_iff (comes : reply.ComesTo expects answer) :
    (∃ fault, answer = .error fault ∧ fault.isUnauthorized = true) ↔ ∃ body, reply = .answer 401 body := by
  constructor
  · rintro ⟨fault, rfl, unauthorized⟩
    cases comes with
    | lost | cut | undecodable | refused => contradiction
    | unauthorized body => exact ⟨body, rfl⟩
  · rintro ⟨body, rfl⟩
    cases comes with
    | accepted success | cut success | undecodable success | decoded success => omega
    | unauthorized => exact ⟨_, rfl, rfl⟩
    | refused _ other => exact absurd rfl other

/-- A reply that is no success is told in the words for its status and its body. -/
theorem failed {status : Nat} {body : Option Bytes} (comes : (Reply.answer status body).ComesTo expects answer)
    (failure : ¬ (200 ≤ status ∧ status < 300)) :
    answer = .error (.ofStatus status (Backend.failureText status (body.getD []))) := by
  cases comes with
  | accepted success | cut success | undecodable success | decoded success => exact absurd success failure
  | unauthorized => rfl
  | refused _ other => rw [Fault.ofStatus, if_neg other]

theorem rejected {body : Option Bytes} (comes : (Reply.answer 401 body).ComesTo expects answer) :
    answer = .error (.unauthorized (Backend.failureText 401 (body.getD []))) := comes.failed (by decide)

/-- A value is the one that the body of a success is decoded to. -/
theorem value {decode? : Bytes → Option α} {status : Nat} {body : Bytes} {a : α}
    (comes : (Reply.answer status (some body)).ComesTo (.value decode?) answer) (success : 200 ≤ status ∧ status < 300)
    (whole : decode? body = some a) : answer = .ok a := by
  cases comes with
  | undecodable _ broken => rw [broken] at whole; contradiction
  | decoded _ whole' => rw [Option.some.inj (whole.symm.trans whole')]
  | unauthorized => omega
  | refused failure => exact absurd success failure

end ComesTo

end Reply

/-! ## Operations -/

namespace Client

/-- The operations of a client, each with its request and what it expects of a success. -/
inductive Operation (c : Client) : {α : Type} → Answer α → Except String Request → Expects α → Prop
  | calls (page pageSize : UInt32) :
      Operation c (c.calls page pageSize)
        (c.request .get "/calls"
          (some (formLine [("page", decimal page.toNat), ("page_size", decimal pageSize.toNat)])) .none)
        (.value fun body => (Json.decode? CallsPage.ofJson? body).map fun listing =>
          if listing.pageSize = 0 then { listing with pageSize } else listing)
  | call (id : String) :
      Operation c (c.call id) (c.request .get ("/calls/" ++ percentEncode id) none .none)
        (.value (Json.decode? Call.ofJson?))
  | transcript (id : String) :
      Operation c (c.transcript id) (c.request .get ("/calls/" ++ percentEncode id ++ "/transcript") none .none)
        (.value fun body => (Json.decode? Transcript.ofJson? body).map fun transcript =>
          if transcript.callId.isEmpty then { transcript with callId := id } else transcript)
  | campaigns :
      Operation c c.campaigns (c.request .get "/campaigns" none .none) (.value (Json.decode? Campaign.listOfJson?))
  | createCampaign (form : CampaignForm) :
      Operation c (c.createCampaign form) (c.request .post "/campaigns" none (.message form.toJson))
        (.value (Json.decode? Campaign.ofJson?))
  | summary :
      Operation c c.summary (c.request .get "/dashboard/summary" none .none) (.value (Json.decode? Summary.ofJson?))
  | importContacts (name : String) (contents : Bytes) :
      Operation c (c.importContacts name contents) (c.request .post "/contacts/import" none (.file name contents))
        (.value (Json.decode? ImportResult.ofJson?))
  | createProfile (path : String) :
      Operation c (c.createProfile path) (c.request .post path none (.message (.record []))) (.nothing ())

variable {c : Client} {α : Type} {operation : Answer α} {request : Except String Request} {expects : Expects α}

/-- Every operation sends its request, if it can be made, and takes what the reply comes to. -/
theorem Operation.eq_send (known : c.Operation operation request expects) :
    ∃ name take, operation = send name take request ∧ ∀ reply : Reply, reply.ComesTo expects (take reply) := by
  cases known with
  | calls => exact ⟨_, _, rfl, fun reply => (reply.value_comesTo _ _).map _⟩
  | transcript => exact ⟨_, _, rfl, fun reply => (reply.value_comesTo _ _).map _⟩
  | call | campaigns | createCampaign | summary | importContacts =>
    exact ⟨_, _, rfl, fun reply => reply.value_comesTo _ _⟩
  | createProfile => exact ⟨_, _, rfl, fun reply => reply.accept_comesTo _ ()⟩

/-- An operation whose request cannot be made says that there was no answer. -/
theorem Operation.run_unmade (known : c.Operation operation request expects) {why : String}
    (unmade : request = .error why) {σ : Type} (b : Backend σ) (st : σ) :
    ∃ detail, operation.run b st = ⟨.error (.unreachable detail), [], st⟩ := by
  obtain ⟨name, take, rfl, -⟩ := known.eq_send
  subst unmade
  exact ⟨_, rfl⟩

/-- An operation whose request can be made sends it, and is what the reply comes to. -/
theorem Operation.run_made (known : c.Operation operation request expects) {q : Request} (made : request = .ok q)
    {σ : Type} (b : Backend σ) (st : σ) :
    ∃ answer, operation.run b st = ⟨answer, [q], (b.answer st q).2⟩ ∧ (b.answer st q).1.ComesTo expects answer := by
  obtain ⟨name, take, rfl, comes⟩ := known.eq_send
  subst made
  exact ⟨_, rfl, comes _⟩

theorem Operation.replies_made (known : c.Operation operation request expects) {q : Request} (made : request = .ok q)
    {σ : Type} (b : Backend σ) (st : σ) : operation.replies b st = [(b.answer st q).1] := by
  obtain ⟨name, take, rfl, -⟩ := known.eq_send
  subst made
  rfl

/-- Nothing but the reply to its request decides what an operation comes to. -/
theorem Operation.result_congr (known : c.Operation operation request expects) {q : Request} (made : request = .ok q)
    {σ τ : Type} {b : Backend σ} {b' : Backend τ} {st : σ} {st' : τ} (same : (b'.answer st' q).1 = (b.answer st q).1) :
    (operation.run b' st').result = (operation.run b st).result := by
  obtain ⟨name, take, rfl, -⟩ := known.eq_send
  subst made
  exact congrArg take same

/-- What an operation comes to, with the replies that it gets. -/
inductive Answered (expects : Expects α) : List Reply → Except Fault α → Prop
  | unmade (detail : String) : Answered expects [] (.error (.unreachable detail))
  | told {reply : Reply} {answer : Except Fault α} (comes : reply.ComesTo expects answer) :
      Answered expects [reply] answer

theorem Operation.answered (known : c.Operation operation request expects) : operation.Ensures (Answered expects) := by
  obtain ⟨name, take, rfl, comes⟩ := known.eq_send
  cases request with
  | error why => exact .done (.unmade _)
  | ok q => exact .ask fun reply => .done (.told (comes reply))

/-- An operation is one request at most. When it cannot be made there is no answer; when it is made, the reply
decides alone what the operation comes to, each kind of reply to a result of its own. A user is told something of
every fault, and the token is refused by the status 401 only. -/
theorem replies_classified (known : c.Operation operation request expects) {σ : Type} (b : Backend σ) (st : σ) :
    (∀ why, request = .error why → ∃ detail, operation.run b st = ⟨.error (.unreachable detail), [], st⟩) ∧
    (∀ q, request = .ok q → (operation.run b st).requests = [q] ∧
      (b.answer st q).1.ComesTo expects (operation.run b st).result ∧
      (∀ answer, (b.answer st q).1.ComesTo expects answer →
        answer.mapError Fault.bare = (operation.run b st).result.mapError Fault.bare) ∧
      ((∃ fault, (operation.run b st).result = .error fault ∧ fault.isUnauthorized = true) ↔
        ∃ body, (b.answer st q).1 = .answer 401 body)) ∧
    ∀ fault, (operation.run b st).result = .error fault → IsFilled fault.userMessage := by
  cases made : request with
  | error why =>
    obtain ⟨detail, run⟩ := known.run_unmade made b st
    refine ⟨fun _ _ => ⟨detail, run⟩, by rintro q ⟨⟩, fun fault failed => ?_⟩
    rw [run] at failed
    obtain rfl := Except.error.inj failed
    exact Fault.isFilled_unreachable detail
  | ok q =>
    obtain ⟨answer, run, comes⟩ := known.run_made made b st
    rw [run]
    refine ⟨by rintro why ⟨⟩, ?_, ?_⟩
    · rintro q' ⟨⟩
      exact ⟨rfl, comes, fun other comes' => comes'.unique comes, comes.isUnauthorized_iff⟩
    · rintro fault rfl
      exact comes.isFilled

/-- A failure whose status is not listed, and whose body broke off, has words all the same. -/
theorem replies_classified_unlisted :
    ((localClient.createProfile "/profiles/me").run .teller [.answer 599 none]).result =
        .error (.refused 599 "Request failed") ∧ IsFilled "Request failed" := by
  have failed : ((localClient.createProfile "/profiles/me").run .teller [.answer 599 none]).result =
      .error (.refused 599 "Request failed") := by decide +kernel
  exact ⟨failed, (replies_classified (.createProfile "/profiles/me") .teller [.answer 599 none]).2.2 _ failed⟩

/-! ## What is told of a failure -/

open Backend

/-- The body of a failure, when it is an object, decides in which words an operation fails. An object that the
decoder takes explains the failure, and one that it does not take is as good as none. -/
theorem failures_explained (known : c.Operation operation request expects) {q : Request} (made : request = .ok q)
    {σ : Type} (b : Backend σ) (st : σ) {status : Nat} {body : Bytes} {members : List (Option String × Json)}
    (told : (b.answer st q).1 = .answer status (some body)) (failure : ¬ (200 ≤ status ∧ status < 300))
    (object : Json.read? (bodyText body) = some (.object members)) :
    ∃ words, (operation.run b st).result = .error (.ofStatus status words) ∧
      ((Json.object members).isSound = true → Explained status members words) ∧
      ((Json.object members).isSound = false → words = reason status) := by
  obtain ⟨answer, run, comes⟩ := known.run_made made b st
  rw [told] at comes
  refine ⟨failureText status body, ?_, failureText_explained object, failureText_unsound object⟩
  rw [run]
  exact comes.failed failure

/-- A failure whose `detail` is no text, and which its `message` explains. -/
def quotaMembers : List (Option String × Json) :=
  [(some "detail", .list (fun n => .nat n) [7]), (some "message", .text "Quota exceeded"), (some "code", .null)]

theorem localClient_makes_call :
    ∃ q, localClient.request .get ("/calls/" ++ percentEncode "c1") none .none = .ok q := localClient_makes _

theorem failures_explained_quota :
    IsFirst (IsUseful quotaMembers) "message" ∧ HasText quotaMembers "message" "Quota exceeded" ∧
      ((localClient.call "c1").run .teller [.answer 429 (some (utf8 (Json.object quotaMembers).render))]).result =
        .error (.ofStatus 429 "Quota exceeded") := by
  have object : Json.read? (bodyText (utf8 (Json.object quotaMembers).render)) = some (.object quotaMembers) :=
    read?_object (by decide +kernel)
  have failure : ¬ (200 ≤ 429 ∧ 429 < 300) := by decide
  obtain ⟨q, made⟩ := localClient_makes_call
  obtain ⟨words, failed, explained, -⟩ :=
    failures_explained (.call "c1") made .teller [.answer 429 _] rfl failure object
  have sound : (Json.object quotaMembers).isSound = true := by decide +kernel
  obtain rfl : words = "Quota exceeded" := (explained sound).told "message" _ (by decide) (by decide) (by decide)
  exact ⟨by decide, by decide, failed⟩

/-- A failure whose `detail` is blank. -/
def blankMembers : List (Option String × Json) :=
  [(some "detail", .text " "), (some "message", .text "Quota exceeded")]

/-- A blank text hides the words of the member after it: the reason of the status is told. -/
theorem blank_hides_explanation :
    Json.read? (bodyText (utf8 (Json.object blankMembers).render)) = some (.object blankMembers) ∧
      IsFirst (IsUseful blankMembers) "message" ∧ HasText blankMembers "message" "Quota exceeded" ∧
      ((localClient.call "c1").run .teller [.answer 429 (some (utf8 (Json.object blankMembers).render))]).result =
        .error (.ofStatus 429 "Too Many Requests") := by
  have object : Json.read? (bodyText (utf8 (Json.object blankMembers).render)) = some (.object blankMembers) :=
    read?_object (by decide +kernel)
  have sound : (Json.object blankMembers).isSound = true := by decide +kernel
  have words : failureText 429 (utf8 (Json.object blankMembers).render) = "Too Many Requests" :=
    (failureText_explained object sound).hidden "message" (by decide) (by decide)
  obtain ⟨q, made⟩ := localClient_makes_call
  obtain ⟨answer, run, comes⟩ := (Operation.call "c1").run_made made .teller
    [.answer 429 (some (utf8 (Json.object blankMembers).render))]
  rw [run, comes.failed (by decide), Option.getD_some, words]
  exact ⟨object, by decide, by decide, rfl⟩

end Client

end CallDesk
