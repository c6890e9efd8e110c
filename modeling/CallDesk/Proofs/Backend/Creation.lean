import CallDesk.Proofs.Backend.Failure
import CallDesk.Proofs.Backend.Request
import CallDesk.Proofs.CampaignForm
import CallDesk.Proofs.Json.Messages

/-! # Sending the form of a campaign

A form is sent when its two required fields have something in them besides white space, and a request can be made
at all; it is sent once, without white space at the ends of its fields and without fields that say nothing.
What is created is what a successful answer holds.
-/

namespace CallDesk

open Text

/-! ## Forms -/

namespace CampaignForm

variable {form : CampaignForm}

/-- A member of a message that says something, without white space at its ends. -/
def Informs (m : Option String × Json) : Prop := ∃ s, m.2 = .text s ∧ s ≠ "" ∧ IsTrimmed s

theorem informs_trim {s : String} (filled : Text.IsFilled s) (name : String) : Informs (some name, .text (trim s)) :=
  ⟨trim s, rfl, trim_ne_empty_iff.mpr filled, isTrimmed_trim s⟩

theorem informs_trimmed {name : String} {o : Option String} {m : String × Json} (given : m ∈ member name (trimmed? o)) :
    Informs (some m.1, m.2) := by
  cases kept : trimmed? o with
  | none =>
    rw [kept] at given
    contradiction
  | some t =>
    rw [kept] at given
    obtain rfl := List.mem_singleton.mp given
    obtain ⟨trimmed, some⟩ := Option.filter_eq_some_iff.mp kept
    obtain ⟨s, rfl, rfl⟩ := Option.map_eq_some_iff.mp trimmed
    refine ⟨trim s, rfl, ?_, isTrimmed_trim s⟩
    rintro empty
    rw [empty] at some
    contradiction

/-- Every member of the message of a filled form says something. -/
theorem toJson_informs (filled : form.IsFilled) :
    ∃ members, form.normalized.toJson = .object members ∧ ∀ m ∈ members, Informs m := by
  refine ⟨_, rfl, fun m member => ?_⟩
  obtain ⟨⟨name, v⟩, given, rfl⟩ := List.mem_map.mp member
  simp only [List.mem_append, List.mem_cons] at given
  rcases given with ((same | description) | (same | voice)) | goal
  · obtain ⟨rfl, rfl⟩ := Prod.mk.inj same
    exact informs_trim filled.name _
  · exact informs_trimmed description
  · obtain ⟨rfl, rfl⟩ := Prod.mk.inj same
    exact informs_trim filled.prompt _
  · exact informs_trimmed voice
  · exact informs_trimmed goal

end CampaignForm

/-! ## Requests -/

namespace Client

variable {c : Client} {path : String}

/-- A path can be asked for: its address is one of the web, with a host that a request can name. -/
def Addresses (c : Client) (path : String) : Prop :=
  ∃ url, Url.read (c.address path) = .ok url ∧ Url.IsWeb url.scheme ∧ url.host.toList.all isRequestHostChar = true

/-- With a token that a header can hold, a request is made when its path can be asked for. -/
theorem addresses_iff (legal : ∀ token, c.token = some token → isHeaderText token = true) {verb : Verb}
    {query : Option String} {payload : Payload} :
    c.Addresses path ↔ ∃ q, c.request verb path query payload = .ok q := by
  constructor
  · rintro ⟨url, read, web, host⟩
    exact request_ok read web host legal
  · rintro ⟨q, made⟩
    have read := made
    simp only [request] at read
    split at read
    · contradiction
    next url address =>
    split at read
    · contradiction
    next web =>
    split at read
    · contradiction
    next host =>
    refine ⟨url, address, ?_, by simpa using host⟩
    simp only [Bool.and_eq_true, bne_iff_ne, ne_eq, not_and, Decidable.not_not] at web
    by_cases http : url.scheme = "http"
    · exact .inl http
    · exact .inr (web http)

/-- With such a token, a path for which no request is made cannot be asked for. -/
theorem not_addresses (legal : ∀ token, c.token = some token → isHeaderText token = true) {verb : Verb}
    {query : Option String} {payload : Payload} {why : String}
    (unmade : c.request verb path query payload = .error why) :
    ¬ c.Addresses path := by
  intro addresses
  obtain ⟨q, made⟩ := (addresses_iff legal).mp addresses
  rw [unmade] at made
  contradiction

/-- Below an address of the web with a host that a request can name every path can be asked for. -/
theorem addresses_of_base {text : String} {u : Url} (address : Url.IsAddress text u)
    (host : u.host.toList.all isRequestHostChar = true) (token : Option String) (path : String) :
    ((of text).bind token).Addresses path := by
  obtain ⟨url, read, scheme, named⟩ := read_address address token path
  exact ⟨url, read, scheme ▸ address.web, named ▸ host⟩

theorem addresses_localhost (token : Option String) (path : String) :
    ((of "http://localhost:8000/api/v1").bind token).Addresses path :=
  addresses_of_base isAddress_localhost (by decide) token path

end Client

/-- A request posts a form to the campaigns, as a message that says what the form says without white space at
the ends of its fields. -/
structure Request.Creates (c : Client) (form : CampaignForm) (q : Request) : Prop where
  verb : q.verb = .post
  url : Url.read (c.address "/campaigns") = .ok q.url
  type : ∀ boundary, q.payload.contentType? boundary = some "application/json"
  body : ∀ boundary, Json.decode? CampaignForm.ofJson? (q.payload.bytes boundary) = some form.normalized
  members : ∀ boundary, ∃ members, Json.read? (q.payload.bytes boundary) = some (.object members) ∧
    ∀ m ∈ members, CampaignForm.Informs m

namespace CampaignForm

variable {c : Client} {form : CampaignForm}

theorem creates_of_request (filled : form.IsFilled) {q : Request}
    (made : c.request .post "/campaigns" none (.message form.normalized.toJson) = .ok q) : q.Creates c form := by
  have parts := Client.request_made made
  obtain ⟨url, read, same⟩ := parts.url
  obtain ⟨members, shape, informs⟩ := toJson_informs filled
  have text := Json.read?_render (codec.writable form.normalized)
  refine ⟨parts.verb, same ▸ read, fun boundary => ?_, fun boundary => ?_, fun boundary => ?_⟩
  · rw [parts.payload]
    rfl
  · rw [parts.payload, Payload.bytes]
    exact codec.roundTrip.back form.normalized
  · rw [parts.payload, Payload.bytes, text, shape]
    exact ⟨members, rfl, informs⟩

/-- Why a filled form is not taken: what is wrong with the one reply to it, or that it is not sent. -/
inductive Declines : List Reply → Fault → Prop
  | reply {reply : Reply} {fault : Fault} (fails : reply.Fails fault) : Declines [reply] fault
  | unsent (detail : String) : Declines [] (.unreachable detail)

variable {σ : Type} (b : Backend σ) (st : σ)

/-- A form that can be sent is answered by the reply to it. -/
theorem createCampaign_made {q : Request} (made : c.request .post "/campaigns" none (.message form.toJson) = .ok q) :
    (c.createCampaign form).run b st =
        ⟨(b.answer st q).1.value "create campaign" Campaign.ofJson?, [q], (b.answer st q).2⟩ ∧
      (c.createCampaign form).replies b st = [(b.answer st q).1] := by
  rw [Client.createCampaign, made]
  exact ⟨rfl, rfl⟩

/-- A form that cannot be sent is not answered. -/
theorem createCampaign_unmade {why : String}
    (unmade : c.request .post "/campaigns" none (.message form.toJson) = .error why) :
    (c.createCampaign form).run b st = ⟨.error (.unreachable ("Failed to create campaign: " ++ why)), [], st⟩ ∧
      (c.createCampaign form).replies b st = [] := by
  rw [Client.createCampaign, unmade]
  exact ⟨rfl, rfl⟩

end CampaignForm

end CallDesk
