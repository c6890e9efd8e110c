import CallDesk.Backend.Load
import CallDesk.Proofs.Backend.Dialog
import CallDesk.Proofs.Session.Cookie
import CallDesk.Proofs.Url.Credentials

/-! # The credentials of requests to the backend

Every request that a client makes carries the token that the client is bound to, and a client whose
token no header can hold makes none. The header of a name and a password goes before the token's;
it is there only when the address of the request names a user, which the backend's address alone
can bring about.
-/

namespace CallDesk

open Text

/-- A request carries a token: a header can hold the token, and its header is the last one, after
that of the user whom the address names, if it names one. -/
structure Request.Bears (token : String) (q : Request) : Prop where
  legal : isHeaderText token = true
  authorization : q.authorization = (Client.basicHeader? q.url).toList ++ ["Bearer " ++ token]

theorem isHeaderText_bearer (token : String) : isHeaderText ("Bearer " ++ token) = isHeaderText token := by
  rw [isHeaderText_append]
  rfl

namespace Client

/-- The text that the address of a path is read from. -/
def address (c : Client) (path : String) : String :=
  c.base ++ "/" ++ .ofList (path.toList.dropWhile (· == '/'))

/-- What a client puts into a request. -/
structure Made (c : Client) (verb : Verb) (path : String) (query : Option String) (payload : Payload)
    (q : Request) : Prop where
  verb : q.verb = verb
  payload : q.payload = payload
  url : ∃ url, Url.read (c.address path) = .ok url ∧ q.url = match query with
    | some piece => url.addQuery piece
    | none => url
  bears : ∀ token, c.token = some token → q.Bears token

theorem request_made {c : Client} {verb : Verb} {path : String} {query : Option String} {payload : Payload}
    {q : Request} (ok : c.request verb path query payload = .ok q) : c.Made verb path query payload q := by
  simp only [request] at ok
  split at ok
  · contradiction
  rename_i url read
  split at ok
  · contradiction
  split at ok
  · contradiction
  split at ok
  · rename_i unbound
    obtain rfl := Except.ok.inj ok
    exact ⟨rfl, rfl, ⟨url, read, rfl⟩, fun token bound => absurd (unbound.symm.trans bound) (by simp)⟩
  rename_i token bound
  split at ok
  · rename_i legal
    obtain rfl := Except.ok.inj ok
    refine ⟨rfl, rfl, ⟨url, read, rfl⟩, fun other same => ?_⟩
    obtain rfl := Option.some.inj (bound.symm.trans same)
    exact ⟨isHeaderText_bearer token ▸ legal, rfl⟩
  · contradiction

/-- A request is the client's: it carries the client's token, and names no user unless the address of
the backend has an `@`. -/
structure Signs (c : Client) (q : Request) : Prop where
  bears : ∀ token, c.token = some token → q.Bears token
  userless : '@' ∉ c.base.toList → q.url.credentials = none

/-- The address of a path without an `@` names no user that the backend's own address does not name. -/
theorem address_plain {c : Client} {path : String} (base : '@' ∉ c.base.toList) (plain : '@' ∉ path.toList) :
    '@' ∉ (c.address path).toList := by
  have rest : '@' ∉ path.toList.dropWhile (· == '/') :=
    fun member => plain ((List.dropWhile_sublist _).subset member)
  simp only [address, String.toList_append, String.toList_ofList, List.mem_append]
  rintro ((member | member) | member)
  · exact base member
  · exact absurd member (by decide)
  · exact rest member

theorem Made.userless {c : Client} {verb : Verb} {path : String} {query : Option String} {payload : Payload}
    {q : Request} (made : c.Made verb path query payload q) (base : '@' ∉ c.base.toList)
    (plain : '@' ∉ path.toList) : q.url.credentials = none := by
  obtain ⟨url, read, same⟩ := made.url
  have none := Url.read_userless (address_plain base plain) url read
  rw [same]
  cases query with
  | none => exact none
  | some piece => exact none

theorem request_signs {c : Client} {verb : Verb} {path : String} {query : Option String} {payload : Payload}
    {q : Request} (plain : '@' ∉ path.toList) (ok : c.request verb path query payload = .ok q) : c.Signs q :=
  ⟨(request_made ok).bears, fun base => (request_made ok).userless base plain⟩

/-- An operation asks for nothing but the request it is given. -/
theorem send_asks {α : Type} {p : Request → Prop} (operation : String) (take : Reply → Except Fault α)
    {request : Except String Request} (made : ∀ q, request = .ok q → p q) :
    (send operation take request).Asks p := by
  cases request with
  | error detail => exact .done _
  | ok q => exact .ask (made q rfl) fun reply => .done _

/-- What an operation asks for does not depend on the backend. -/
theorem send_requests {α σ : Type} (operation : String) (take : Reply → Except Fault α)
    (request : Except String Request) (b : Backend σ) (st : σ) :
    ((send operation take request).run b st).requests = request.toOption.toList := by
  cases request with
  | error detail => rfl
  | ok q => rfl

/-! ## Operations -/

variable (c : Client)

theorem callsRequest_signs (page pageSize : UInt32) : ∀ q, c.callsRequest page pageSize = .ok q → c.Signs q :=
  fun _ => request_signs (by decide)

theorem summaryRequest_signs : ∀ q, c.summaryRequest = .ok q → c.Signs q := fun _ => request_signs (by decide)

theorem calls_signs (page pageSize : UInt32) : (c.calls page pageSize).Asks c.Signs :=
  send_asks _ _ (c.callsRequest_signs page pageSize)

/-- Percent coding leaves no `@` in an id. -/
theorem idPath_plain (id : String) : '@' ∉ ("/calls/" ++ percentEncode id).toList := by
  rw [String.toList_append, List.mem_append]
  rintro (member | member)
  · exact absurd member (by decide)
  · exact absurd (isCoded_of_mem_percentEncode '@' member) (by decide)

theorem call_signs (id : String) : (c.call id).Asks c.Signs :=
  send_asks _ _ fun _ => request_signs (idPath_plain id)

theorem transcript_signs (id : String) : (c.transcript id).Asks c.Signs := by
  refine send_asks _ _ fun _ => request_signs ?_
  rw [String.toList_append, List.mem_append]
  rintro (member | member)
  · exact idPath_plain id member
  · exact absurd member (by decide)

theorem campaigns_signs : c.campaigns.Asks c.Signs := send_asks _ _ fun _ => request_signs (by decide)

theorem createCampaign_signs (form : CampaignForm) : (c.createCampaign form).Asks c.Signs :=
  send_asks _ _ fun _ => request_signs (by decide)

theorem importContacts_signs (name : String) (contents : Bytes) :
    (c.importContacts name contents).Asks c.Signs :=
  send_asks _ _ fun _ => request_signs (by decide)

end Client

/-! ## What pages ask for -/

variable (c : Client)

theorem CallHistory.load_signs (page pageSize : UInt32) : (CallHistory.load c page pageSize).Asks c.Signs := by
  refine Dialog.asks_bind (c.calls_signs _ _) fun answer => ?_
  cases answer with
  | error fault => exact .done _
  | ok listing =>
    dsimp only
    split
    · exact Dialog.asks_map _ (c.calls_signs _ _)
    · exact .done _

theorem CallDetail.load_signs (id : String) : (CallDetail.load c id).Asks c.Signs := by
  refine Dialog.asks_bind (c.call_signs id) fun answer => ?_
  cases answer with
  | error fault => exact .done _
  | ok call =>
    dsimp only
    split
    · exact .done _
    · exact Dialog.asks_map _ (c.transcript_signs id)

theorem Overview.load_signs (limit : UInt32) : (Overview.load c limit).Asks c.Signs := by
  rw [Overview.load]
  split
  · rename_i summary recent first second
    exact .both (c.summaryRequest_signs _ first) (c.callsRequest_signs _ _ _ second) fun race => .done _
  · exact .done _
  · exact .done _

/-- A form whose required fields are not filled is not sent. -/
theorem CampaignForm.submit_signs (form : CampaignForm) : (form.submit c).Asks c.Signs := by
  rw [CampaignForm.submit]
  cases form.normalized.check with
  | error fault => exact .done _
  | ok _ => exact c.createCampaign_signs _

theorem Upload.send_signs (name : Option String) (contents : Bytes) :
    (Upload.send c name contents).Asks c.Signs := by
  rw [Upload.send]
  split
  · exact .done _
  · exact Dialog.asks_map _ (c.importContacts_signs _ _)

end CallDesk
