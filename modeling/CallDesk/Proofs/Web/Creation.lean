import CallDesk.Proofs.Backend.Creation
import CallDesk.Proofs.Page.Form
import CallDesk.Web.Service

/-! # Creating a campaign

A user posts the form of a campaign. It is sent to the backend when it is filled, once, and the user is led to the
campaigns when the backend tells the campaign that it has made. In every other case the form comes back as it was
entered, with the reason.
-/

namespace CallDesk.Web

open Html Text

variable {s : Settings} {r : Request} {form : CampaignForm} {token : String} {σ : Type}

/-- A user posts the form of a campaign, with a token that a header can hold. -/
structure Request.PostsForm (r : Request) (token : String) (form : CampaignForm) : Prop where
  method : r.method = "POST"
  path : r.path = "/dashboard/campaigns/new"
  signed : r.token? = some token
  legal : isHeaderText token = true
  form : r.campaignForm = .ok form

/-- The way to the campaigns. -/
def toCampaigns : Response := { status := 303, headers := [("location", "/dashboard/campaigns")] }

/-- A page with a form. -/
def formPage (status : Nat) (page : String) : Response :=
  { status, headers := [("content-type", "text/html; charset=utf-8")], body := page }

/-- A form comes back as it was entered: with what it misses, or, when it is filled, with what went wrong. -/
inductive ComesBack (form : CampaignForm) (replies : List Reply) : Response → Prop
  | misses {fault : Fault} {page : String} (misses : form.Misses fault)
      (shown : ShowsForm page form fault.userMessage) : ComesBack form replies (formPage 422 page)
  | declined {fault : Fault} {page : String} (filled : form.IsFilled) (declines : CampaignForm.Declines replies fault)
      (shown : ShowsForm page form fault.userMessage) : ComesBack form replies (formPage 200 page)

theorem ComesBack.ne_toCampaigns {replies : List Reply} {response : Response} (back : ComesBack form replies response) :
    response ≠ toCampaigns := by
  intro same
  cases back with
  | misses => exact Nat.ne_of_gt (by decide : 303 < 422) (congrArg Response.status same)
  | declined => exact Nat.ne_of_lt (by decide : 200 < 303) (congrArg Response.status same)

theorem respond_form (posts : r.PostsForm token form) :
    respond s r = (form.submit (client s (some token))).map (campaignSent s form) := by
  have found : Route.of? "/dashboard/campaigns/new" = some .newCampaign := by decide +kernel
  have wanted : Route.purpose? .newCampaign "POST" = some .submit := by decide
  rw [respond, posts.path, found, posts.method]
  dsimp only
  rw [wanted]
  dsimp only
  have guarded : Route.isPrivate .newCampaign = true := rfl
  rw [routed, if_pos guarded, posts.signed]
  dsimp only
  rw [privateRoute, posts.form]
  rfl

/-- The page of a form that is not taken shows it as it was entered. -/
theorem campaignFormPage_shows (s : Settings) (form : CampaignForm) (message : String) :
    ∃ page, campaignFormPage s form (some message) = formPage 200 page ∧ ShowsForm page form message := by
  refine ⟨_, rfl, ?_⟩
  have shown := Page.formDocument_shows { title := "New Campaign", place := some .campaigns, assistant := s.assistant }
    form message
  rw [Page.formDocument, render_append, render_append] at shown
  exact shown

/-- A form that misses a field is refused. -/
theorem campaignSent_misses (s : Settings) {fault : Fault} (misses : form.Misses fault) (replies : List Reply) :
    ComesBack form replies (campaignSent s form (.error fault)) := by
  obtain ⟨page, response, shown⟩ := campaignFormPage_shows s form fault.userMessage
  have refused : campaignSent s form (.error fault) = formPage 422 page := by
    cases misses with
    | name => rw [campaignSent, response]; rfl
    | prompt => rw [campaignSent, response]; rfl
  exact refused ▸ .misses misses shown

/-- A filled form that is not taken comes back as a page. -/
theorem campaignSent_declines (s : Settings) {replies : List Reply} {fault : Fault} (filled : form.IsFilled)
    (declines : CampaignForm.Declines replies fault) : ComesBack form replies (campaignSent s form (.error fault)) := by
  obtain ⟨page, response, shown⟩ := campaignFormPage_shows s form fault.userMessage
  have told : campaignSent s form (.error fault) = formPage 200 page := by
    rw [campaignSent, response]
    -- Only what the form misses is told by a fault of this kind.
    rintro field message rfl
    rcases declines with ⟨⟨⟩⟩
  exact told ▸ .declined filled declines shown

/-- What becomes of a form that is posted: what is asked of the backend, and what is answered. -/
structure Creates (c : Client) (form : CampaignForm) (t : Trace σ Response) (replies : List Reply) : Prop where
  /-- The backend is asked once at most. -/
  once : t.requests.length ≤ 1
  /-- It is asked when the form is filled and its address can be asked. -/
  sent : t.requests.length = 1 ↔ form.IsFilled ∧ c.Addresses "/campaigns"
  request : ∀ q ∈ t.requests, q.Creates c form
  /-- The form is taken when the backend tells the campaign. -/
  taken : t.result = toCampaigns ↔ ∃ status body campaign, replies = [.answer status (some body)] ∧ 200 ≤ status ∧
    status < 300 ∧ Json.decode? Campaign.ofJson? body = some campaign
  /-- A form that is not taken comes back. -/
  shown : t.result ≠ toCampaigns → ComesBack form replies t.result

/-- A form that comes back without a request was not to be sent. -/
theorem creates_unsent {c : Client} (unsent : ¬ (form.IsFilled ∧ c.Addresses "/campaigns")) {response : Response}
    (back : ComesBack form [] response) (st : σ) : Creates c form ⟨response, [], st⟩ [] := by
  refine ⟨Nat.zero_le 1, ⟨nofun, fun both => absurd both unsent⟩, nofun, ⟨fun same => ?_, ?_⟩, fun _ => back⟩
  · exact absurd same back.ne_toCampaigns
  · rintro ⟨status, body, campaign, none, -⟩
    contradiction

/-- A filled form that is sent is answered by what the reply holds. -/
theorem creates_sent (s : Settings) {c : Client} (filled : form.IsFilled) {q : CallDesk.Request}
    (asked : c.Addresses "/campaigns") (creates : q.Creates c form) (operation : String) (reply : Reply) (st : σ) :
    Creates c form ⟨campaignSent s form (reply.value operation Campaign.ofJson?), [q], st⟩ [reply] := by
  have sole : ∀ p ∈ [q], p.Creates c form := List.forall_mem_singleton.mpr creates
  cases told : reply.value operation Campaign.ofJson? with
  | ok campaign =>
    obtain ⟨status, body, rfl, least, most, decoded⟩ := Reply.value_ok.mp told
    refine ⟨Nat.le_refl 1, ⟨fun _ => ⟨filled, asked⟩, fun _ => rfl⟩, sole, ?_, fun other => absurd rfl other⟩
    exact ⟨fun _ => ⟨status, body, campaign, rfl, least, most, decoded⟩, fun _ => rfl⟩
  | error fault =>
    have back : ComesBack form [reply] (campaignSent s form (.error fault)) :=
      campaignSent_declines s filled (.reply (Reply.value_fails told))
    refine ⟨Nat.le_refl 1, ⟨fun _ => ⟨filled, asked⟩, fun _ => rfl⟩, sole, ⟨fun same => ?_, ?_⟩, fun _ => back⟩
    · exact absurd same back.ne_toCampaigns
    · rintro ⟨status, body, campaign, only, least, most, decoded⟩
      obtain rfl := List.singleton_inj.mp only
      have taken : Reply.value operation Campaign.ofJson? (.answer status (some body)) = .ok campaign :=
        Reply.value_ok.mpr ⟨status, body, rfl, least, most, decoded⟩
      exact nomatch told.symm.trans taken

/-- What is asked and answered when a user posts the form of a campaign. -/
theorem respond_creates (s : Settings) (posts : r.PostsForm token form) (b : Backend σ) (st : σ) :
    Creates (client s (some token)) form ((respond s r).run b st) ((respond s r).replies b st) := by
  have legal : ∀ bound, (client s (some token)).token = some bound → isHeaderText bound = true := by
    rintro bound ⟨⟩
    exact posts.legal
  rw [respond_form posts, Dialog.run_map, Dialog.replies_map, CampaignForm.submit]
  rcases form.check_normalized with ⟨filled, passed⟩ | ⟨fault, misses, failed⟩
  · rw [passed]
    dsimp only
    cases made : (client s (some token)).request .post "/campaigns" none (.message form.normalized.toJson) with
    | error why =>
      obtain ⟨run, replies⟩ := CampaignForm.createCampaign_unmade b st made
      rw [run, replies]
      have unasked := Client.not_addresses legal made
      exact creates_unsent (fun both => unasked both.2) (campaignSent_declines s filled (.unsent _)) st
    | ok q =>
      obtain ⟨run, replies⟩ := CampaignForm.createCampaign_made b st made
      rw [run, replies]
      exact creates_sent s filled ((Client.addresses_iff legal).mpr ⟨q, made⟩)
        (CampaignForm.creates_of_request filled made) _ _ _
  · rw [failed]
    exact creates_unsent (fun both => misses.not_filled both.1) (campaignSent_misses s misses []) st

/-- A form with white space around its name and a goal of white space alone. -/
def springPost : Request :=
  { method := "POST", target := "/dashboard/campaigns/new"
    headers := [("Cookie", "vd_access_token=abc123"), ("Content-Type", "application/x-www-form-urlencoded")]
    body := utf8 "name=+Spring+&system_prompt=Be+nice&goal=%09" }

def springForm : CampaignForm := { name := " Spring ", systemPrompt := "Be nice", goal := some "\t" }

theorem springPost_posts : springPost.PostsForm "abc123" springForm :=
  ⟨rfl, by decide +kernel, by decide +kernel, by decide +kernel, by decide +kernel⟩

theorem respond_creates_spring :
    springPost.PostsForm "abc123" springForm ∧
      Creates (client {} (some "abc123")) springForm ((respond {} springPost).run .lost ())
        ((respond {} springPost).replies .lost ()) ∧
      ((respond {} springPost).run .lost ()).requests.length = 1 := by
  have creates := respond_creates {} springPost_posts .lost ()
  have asked : (client {} (some "abc123")).Addresses "/campaigns" :=
    Client.addresses_localhost (some "abc123") "/campaigns"
  have filled : springForm.IsFilled := ⟨⟨'S', by decide, by decide⟩, ⟨'B', by decide, by decide⟩⟩
  exact ⟨springPost_posts, creates, creates.sent.mpr ⟨filled, asked⟩⟩

/-- A filled form is not sent to an address that cannot be asked. -/
theorem filled_form_unsent : ¬ ∀ (s : Settings) (r : Request) (token : String) (form : CampaignForm),
    r.PostsForm token form → (((respond s r).run .lost ()).requests.length = 1 ↔ form.IsFilled) := by
  intro sends
  have sent := (sends { backend := { baseUrl := "not a url" } } springPost _ _ springPost_posts).mpr
    ⟨⟨'S', by decide, by decide⟩, ⟨'B', by decide, by decide⟩⟩
  have unsent : ((respond { backend := { baseUrl := "not a url" } } springPost).run .lost ()).requests = [] := by
    decide +kernel
  rw [unsent] at sent
  exact absurd sent (by decide)

end CallDesk.Web
