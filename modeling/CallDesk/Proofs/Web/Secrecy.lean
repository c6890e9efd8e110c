import CallDesk.Proofs.Backend.Parallel
import CallDesk.Proofs.Session.Cookie
import CallDesk.Proofs.Web.Credentials

/-! # What responses do not show

Two runs of the service are put side by side. Their requests differ at most in the token that the cookies
hold, and the backends may tell different reasons where they give no answer. The responses are the same, so
that neither the token nor the reason can be learned from them. A sign-in hands its tokens to the browser in
cookies: two that hand out other tokens differ in these cookies alone.
-/

namespace CallDesk.Web

variable {s : Settings} {r r' : Request}

/-! ## Requests that differ in their cookies -/

namespace Request.SameButCookies

theorem header (same : r.SameButCookies r') {name : String} (other : name ≠ "cookie") :
    r'.header? name = r.header? name := by
  rw [header?, same.headers name other]
  rfl

theorem mediaType (same : r.SameButCookies r') : r'.mediaType? = r.mediaType? := by
  rw [mediaType?, same.header (by decide)]
  rfl

theorem chars (same : r.SameButCookies r') : r'.targetChars = r.targetChars := by
  rw [targetChars, same.target]
  rfl

theorem path (same : r.SameButCookies r') : r'.path = r.path := by
  rw [Request.path, same.chars]
  rfl

theorem page (same : r.SameButCookies r') : r'.page = r.page := by
  rw [Request.page, query, same.chars]
  rfl

theorem campaignForm (same : r.SameButCookies r') : r'.campaignForm = r.campaignForm := by
  rw [Request.campaignForm, isForm, same.header (by decide), bodyWithin, same.body]
  rfl

theorem uploadedFile (same : r.SameButCookies r') : r'.uploadedFile = r.uploadedFile := by
  rw [Request.uploadedFile, same.mediaType, same.body]
  rfl

end Request.SameButCookies

/-! ## Routes -/

/-- A fragment shows nothing of a fault but what a user is told, and whether it is about the token. -/
theorem fragment_like {α : Type} (view : View α → Html) {answer answer' : Except Fault α}
    (like : LikeResults answer answer') : fragment view answer = fragment view answer' := by
  cases like with
  | ok a => rfl
  | error like => rw [fragment, fragment, like.isUnauthorized, like.userMessage]

/-- A form is shown again with what a user is told. -/
theorem campaignSent_like (s : Settings) (form : CampaignForm) {answer answer' : Except Fault Campaign}
    (like : LikeResults answer answer') : campaignSent s form answer = campaignSent s form answer' := by
  cases like with
  | ok campaign => rfl
  | error like => cases like <;> rfl

section

variable {asks : CallDesk.Request → CallDesk.Request → Prop} {c c' : Client}

theorem taken_alike {α : Type} (intake : Except Refusal α) {go go' : α → Dialog Response}
    (alike : ∀ a, (go a).Alike asks Reply.Like Eq (go' a)) :
    (taken intake go).Alike asks Reply.Like Eq (taken intake go') := by
  cases intake with
  | ok a => exact alike a
  | error refusal => exact .done rfl

theorem uploadSent_alike (alike : c.Alike asks c') (upload : Option (Option Multipart.Part)) :
    (uploadSent s c upload).Alike asks Reply.Like Eq (uploadSent s c' upload) := by
  rcases upload with _ | _ | part
  · exact .done rfl
  · exact (Upload.send_alike alike _ _).map fun _ _ => congrArg _
  · exact (Upload.send_alike alike _ _).map fun _ _ => congrArg _

/-- What a private route asks for and answers depends on the request but for its cookies. -/
theorem privateRoute_alike (alike : c.Alike asks c') (same : r.SameButCookies r') (route : Route) (purpose : Purpose) :
    (privateRoute s c r route purpose).Alike asks Reply.Like Eq (privateRoute s c' r' route purpose) := by
  unfold privateRoute
  rw [same.campaignForm, same.page, same.uploadedFile]
  split
  · exact .done rfl
  · exact .done rfl
  · exact taken_alike _ fun form => (form.submit_alike alike).map fun _ _ => campaignSent_like s form
  · exact .done rfl
  · exact taken_alike _ fun page => .done rfl
  · exact taken_alike _ fun id => .done rfl
  · exact taken_alike _ fun upload => uploadSent_alike alike upload
  · exact .done rfl
  · exact .done rfl
  · exact (Overview.load_alike alike _).map fun _ _ => fragment_like _
  · exact (Client.campaigns_alike alike).map fun _ _ => fragment_like _
  · exact taken_alike _ fun page => (CallHistory.load_alike alike _ _).map fun _ _ => fragment_like _
  · exact taken_alike _ fun id => (CallDetail.load_alike alike id).map fun _ _ => fragment_like _
  · exact .done rfl

/-- An open route only tells whether there is a session. -/
theorem openRoute_alike {route : Route} (other : route ≠ .session) (signed : r'.token?.isSome = r.token?.isSome) :
    (openRoute s r route).Alike asks Reply.Like Eq (openRoute s r' route) := by
  cases route with
  | session => contradiction
  | landing =>
    rw [openRoute, openRoute, signed]
    exact .done rfl
  | _ => exact .done rfl

/-- Requests of two sessions are answered alike, whatever else they bring. -/
theorem respond_alike {token token' : String} (other : ¬ r.IsSignIn) (same : r.SameButCookies r')
    (signed : r.token? = some token) (signed' : r'.token? = some token')
    (alike : (client s (some token)).Alike asks (client s (some token'))) :
    (respond s r).Alike asks Reply.Like Eq (respond s r') := by
  have served {route : Route} {purpose : Purpose} (found : Route.of? r.path = some route)
      (wanted : route.purpose? r.method = some purpose) :
      (routed s r route purpose).Alike asks Reply.Like Eq (routed s r' route purpose) := by
    rw [routed, routed, signed, signed']
    split
    · exact privateRoute_alike alike same route purpose
    · refine openRoute_alike ?_ (by rw [signed, signed']; rfl)
      rintro rfl
      exact other ⟨Route.method_of_session wanted, Route.path_of_session found⟩
  rw [respond, respond, same.path, same.method]
  cases found : Route.of? r.path with
  | none => exact .done rfl
  | some route =>
    dsimp only
    cases wanted : route.purpose? r.method with
    | none => exact .done rfl
    | some purpose =>
      cases purpose with
      | peek => exact (served found wanted).map fun _ _ => congrArg Response.withoutBody
      | view => exact served found wanted
      | submit => exact served found wanted

end

/-! ## Tokens -/

/-- A response differs from another one at most in the values of cookies that it sets. -/
structure Response.SameButSetCookies (response other : Response) : Prop where
  status : other.status = response.status
  body : other.body = response.body
  headers : List.Forall₂ (fun h h' => h'.1 = h.1 ∧ (h.1 ≠ "set-cookie" → h'.2 = h.2)) response.headers other.headers

/-- A sign-in is answered with its tokens in cookies. -/
theorem signIn_answer {tokens : Tokens} (signIn : r.IsSignIn) (signed : r.newTokens? = some tokens) {σ : Type}
    (b : Backend σ) (st : σ) :
    ((respond s r).run b st).result = sessionMessage s ⟨.redirecting, .now Site.overview, some tokens⟩ := by
  obtain ⟨address, posted, found⟩ := Option.bind_eq_some_iff.mp signed
  rw [signIn_result b st s signIn, ok_of_toOption posted]
  dsimp only
  generalize (callbackOf address).outcome = outcome at found ⊢
  cases outcome with
  | authenticated known =>
    obtain rfl := Option.some.inj found
    rfl
  | confirmed what => contradiction
  | failed message => contradiction

theorem sessionMessage_tokens (s : Settings) {tokens tokens' : Tokens}
    (renewed : tokens'.refresh.isSome = tokens.refresh.isSome) :
    (sessionMessage s ⟨.redirecting, .now Site.overview, some tokens⟩).SameButSetCookies
      (sessionMessage s ⟨.redirecting, .now Site.overview, some tokens'⟩) := by
  have only (val val' : String) :
      ("set-cookie", val').1 = ("set-cookie", val).1 ∧
        (("set-cookie", val).1 ≠ "set-cookie" → ("set-cookie", val').2 = ("set-cookie", val).2) :=
    ⟨rfl, fun other => absurd rfl other⟩
  refine ⟨rfl, rfl, ?_⟩
  simp only [sessionMessage, Response.withCookies, Cookie.carried_keep]
  refine .cons ⟨rfl, fun _ => rfl⟩ (.cons (only _ _) ?_)
  generalize tokens.refresh = refresh, tokens'.refresh = refresh' at renewed ⊢
  cases refresh with
  | none =>
    obtain rfl := Option.isNone_iff_eq_none.mp (Option.isSome_eq_false_iff.mp renewed)
    exact .nil
  | some token =>
    obtain ⟨token', rfl⟩ := Option.isSome_iff_exists.mp renewed
    exact .cons (only _ _) .nil

/-- A response does not show the token of the session. Two requests that differ in it alone are answered with
the same status, headers and body, when the backend tells like things to both, whether it gives an answer or not.
Two sign-ins, each of which has a token to renew the session or each of which has none, are answered with the same
status and body and with the same headers but for the cookies that hold the tokens, whatever the backend tells. -/
theorem responses_keep_tokens (s : Settings) (r r' : Request) {σ τ : Type} (b : Backend σ) (c : Backend τ) (st : σ)
    (st' : τ) :
    (¬ r.IsSignIn → r.SameButCookies r' →
      ∀ token token', r.token? = some token → r'.token? = some token' →
        isHeaderText token = true → isHeaderText token' = true →
        ∀ paired : σ → τ → Prop, b.Alike (CallDesk.Request.Rebound token token') Reply.Like paired c → paired st st' →
          ((respond s r').run c st').result = ((respond s r).run b st).result) ∧
    (r.IsSignIn → r'.IsSignIn →
      ∀ tokens tokens', r.newTokens? = some tokens → r'.newTokens? = some tokens' →
        tokens'.refresh.isSome = tokens.refresh.isSome →
          ((respond s r).run b st).result.SameButSetCookies ((respond s r').run c st').result) := by
  constructor
  · intro other same token token' signed signed' legal legal' paired backends start
    have alike : (client s (some token)).Alike (CallDesk.Request.Rebound token token') (client s (some token')) :=
      (Client.of s.backend.baseUrl).alike_bind legal legal'
    exact ((respond_alike other same signed signed' alike).run backends start).symm
  · intro signIn signIn' tokens tokens' signed signed' renewed
    rw [signIn_answer signIn signed b st, signIn_answer signIn' signed' c st']
    exact sessionMessage_tokens s renewed

/-- A backend that refuses every request, in words that do not tell who asks. -/
def refuser : Backend Unit where
  answer st q := (.answer 403 (some (Text.utf8 ("\x7b\"detail\": \"No " ++ q.verb.name ++ " for you\"\x7d"))), st)
  secondIsEarlier _ := false

theorem refuser_alike (token token' : String) :
    refuser.Alike (CallDesk.Request.Rebound token token') Reply.Like (fun _ _ => True) refuser where
  told _ rebound := .inl (by simp only [refuser, rebound.verb])
  next _ _ := trivial
  order _ := rfl

/-- Another user asks for the campaigns. -/
def otherCampaignsRequest : Request := { campaignsRequest with headers := [("cookie", "vd_access_token=xyz789")] }

/-- A user signs in with another token. -/
def otherSignInRequest : Request := { signInRequest with body := Text.utf8 "[\"https://app.test/?access_token=new\"]" }

theorem responses_keep_tokens_refused :
    ((respond {} otherCampaignsRequest).run refuser ()).result = ((respond {} campaignsRequest).run refuser ()).result ∧
      ((respond {} signInRequest).run refuser ()).result.SameButSetCookies
        ((respond {} otherSignInRequest).run refuser ()).result := by
  have user : ¬ campaignsRequest.IsSignIn := fun signIn => absurd signIn.method (by decide)
  have same : campaignsRequest.SameButCookies otherCampaignsRequest := by
    refine ⟨rfl, rfl, rfl, fun name other => ?_⟩
    have cookie : lower "cookie" = "cookie" := by decide +kernel
    have differs : (lower "cookie" == name) = false := by
      rw [cookie]
      exact beq_eq_false_iff_ne.mpr other.symm
    simp [Request.headerValues, otherCampaignsRequest, campaignsRequest, differs]
  refine ⟨?_, ?_⟩
  · exact (responses_keep_tokens {} campaignsRequest otherCampaignsRequest refuser refuser () ()).1 user same "abc123"
      "xyz789" (by decide +kernel) (by decide +kernel) (by decide) (by decide) _ (refuser_alike _ _) trivial
  · exact (responses_keep_tokens {} signInRequest otherSignInRequest refuser refuser () ()).2
      ⟨rfl, by decide +kernel⟩ ⟨rfl, by decide +kernel⟩ ⟨"xyz", none⟩ ⟨"new", none⟩ (by decide +kernel)
      (by decide +kernel) rfl

end CallDesk.Web
