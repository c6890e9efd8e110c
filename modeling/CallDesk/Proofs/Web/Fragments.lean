import CallDesk.Proofs.Backend.Failure
import CallDesk.Proofs.Web.Links
import CallDesk.Proofs.Web.Secrecy

/-! # What fragments show

A fragment always has something to show. Whatever the backend tells, or does not tell, the response to a user is
a success with one of three things: the data that were loaded, the way to signing in when the backend does
not accept the token, and what went wrong in any other case. The reasons why there was no answer are not shown.
-/

namespace CallDesk.Web

open Html

/-- A request for a fragment of a page: what is loaded for it, how that is shown, and where a failure leads. -/
inductive Request.Fetches (s : Settings) (c : Client) (r : Request) :
    {α : Type} → Answer α → (View α → Html) → Action → Prop
  | overview (path : r.path = "/fragments/dashboard") :
      r.Fetches s c (Overview.load c s.dashboard.recentCallsLimit) Page.overview ⟨"/dashboard", "Retry"⟩
  | campaigns (path : r.path = "/fragments/campaigns") :
      r.Fetches s c c.campaigns Page.campaigns ⟨"/dashboard/campaigns", "Retry"⟩
  | calls {page : Option UInt32} (path : r.path = "/fragments/calls") (asked : r.page = .ok page) :
      r.Fetches s c (CallHistory.load c (Pager.requested page) s.dashboard.callsPageSize) Page.callHistory
        ⟨"/dashboard/calls", "Retry"⟩
  | call {segment id : String} (path : r.path = "/fragments/calls/" ++ segment) (filled : segment ≠ "")
      (whole : '/' ∉ segment.toList) (asked : Request.callId segment = .ok id) :
      r.Fetches s c (CallDetail.load c id) Page.callDetail ⟨"/dashboard/calls", "Back to calls"⟩

/-- What is shown of a result that came of some replies. -/
inductive Shown {α : Type} (c : Client) (view : View α → Html) (back : Action) (replies : List Reply) :
    Except Fault α → Html → Prop
  | ready (a : α) : Shown c view back replies (.ok a) (view (.ready a))
  | signIn {body : Option Text.Bytes} (told : .answer 401 body ∈ replies) :
      Shown c view back replies (.error (.unauthorized (Backend.failureText 401 (body.getD []))))
        (Page.banner (Backend.failureText 401 (body.getD [])) (some ⟨"/login", "Sign In"⟩))
  | failed {fault : Fault} (other : fault.isUnauthorized = false) (blames : c.Blames replies fault) :
      Shown c view back replies (.error fault) (Page.banner fault.userMessage (some back))

variable {s : Settings} {c : Client} {r : Request} {α : Type} {load : Answer α} {view : View α → Html} {back : Action}

namespace Request.Fetches

/-- A fragment is asked of a private route. -/
theorem route (fetches : r.Fetches s c load view back) :
    ∃ route, Route.of? r.path = some route ∧ route.isPrivate = true ∧ route.purpose? "GET" = some .view ∧
      privateRoute s c r route .view = load.map (fragment view) := by
  cases fetches with
  | overview path =>
    have found : Route.of? "/fragments/dashboard" = some .overviewFragment := by decide +kernel
    exact ⟨_, path ▸ found, rfl, rfl, rfl⟩
  | campaigns path =>
    have found : Route.of? "/fragments/campaigns" = some .campaignsFragment := by decide +kernel
    exact ⟨_, path ▸ found, rfl, rfl, rfl⟩
  | calls path asked =>
    have found : Route.of? "/fragments/calls" = some .callsFragment := by decide +kernel
    refine ⟨_, path ▸ found, rfl, rfl, ?_⟩
    rw [privateRoute, asked]
    rfl
  | call path filled whole asked =>
    refine ⟨_, path ▸ Route.of?_callSegment filled whole, rfl, rfl, ?_⟩
    rw [privateRoute, asked]
    rfl

/-- The response to a user is what was loaded, as the fragment shows it. -/
theorem respond_eq {token : String} (get : r.method = "GET") (signed : r.token? = some token)
    (fetches : r.Fetches s (client s (some token)) load view back) : respond s r = load.map (fragment view) := by
  obtain ⟨route, found, guarded, wanted, served⟩ := fetches.route
  rw [respond_view get signed found wanted guarded, served]

/-- A failure is shown with the way back. -/
theorem failed_eq (fetches : r.Fetches s c load view back) (message : String) :
    view (.failed message) = Page.banner message (some back) := by cases fetches <;> rfl

/-- A fragment is not loaded because of a reply, or of a request that cannot be made. -/
theorem explains (fetches : r.Fetches s c load view back) : load.Ensures c.Explains := by
  cases fetches with
  | overview => exact Overview.load_explains _
  | campaigns => exact Client.campaigns_explains
  | calls => exact CallHistory.load_explains _ _
  | call => exact CallDetail.load_explains _

/-- What a fragment shows of a result. -/
theorem shown (fetches : r.Fetches s c load view back) {replies : List Reply} {answer : Except Fault α}
    (explains : c.Explains replies answer) :
    ∃ html, Shown c view back replies answer html ∧ fragment view answer = .page html.render := by
  cases answer with
  | ok a => exact ⟨_, .ready a, rfl⟩
  | error fault =>
    have blames := explains fault rfl
    cases told : fault.isUnauthorized with
    | false =>
      refine ⟨_, .failed told blames, ?_⟩
      rw [fragment, ← fetches.failed_eq]
      simp only [told, Bool.false_eq_true, if_false]
    | true =>
      cases blames with
      | request unmade detail => contradiction
      | reply member fails =>
        cases fails with
        | unauthorized body =>
          have action : signInAction = ⟨"/login", "Sign In"⟩ := rfl
          refine ⟨_, .signIn member, ?_⟩
          rw [fragment, ← action]
          simp only [Fault.isUnauthorized, Fault.userMessage, if_true]
        | _ => exact absurd told Bool.false_ne_true

end Request.Fetches

/-- A fragment shows every user exactly what became of its load, as a success: the data, or the words of the
backend and the way to sign in if a 401 was the cause of the failure, or what a user is told of any other failure,
with the fragment's own way back. Another backend that tells the same but for the reasons why there is no answer
gets the same response. -/
theorem fragments_show {token : String} (get : r.method = "GET") (signed : r.token? = some token)
    (fetches : r.Fetches s (client s (some token)) load view back) {σ : Type} (b : Backend σ) (st : σ) :
    (∃ html, Shown (client s (some token)) view back (load.replies b st) (load.run b st).result html ∧
      (respond s r).run b st =
        ⟨{ status := 200, headers := [("content-type", "text/html; charset=utf-8")], body := html.render },
          (load.run b st).requests, (load.run b st).state⟩) ∧
    ∀ {τ : Type} (b' : Backend τ) (st' : τ) (paired : σ → τ → Prop), b.Alike Eq Reply.Like paired b' → paired st st' →
      ((respond s r).run b' st').result = ((respond s r).run b st).result := by
  constructor
  · obtain ⟨html, shown, response⟩ := fetches.shown (fetches.explains.run b st)
    refine ⟨html, shown, ?_⟩
    rw [fetches.respond_eq get signed, Dialog.run_map, response]
    rfl
  · intro τ b' st' paired backends start
    have user : ¬ r.IsSignIn := fun signIn => absurd (get.symm.trans signIn.method) (by decide)
    have same : r.SameButCookies r := ⟨rfl, rfl, rfl, fun _ _ => rfl⟩
    have alike := respond_alike user same signed signed (client s (some token)).alike_self
    exact (alike.run backends start).symm

/-- A backend that cannot be found, for a reason that names it. -/
def nowhere : Backend Unit := ⟨fun st _ => (.lost "dns error: no address for backend.internal", st), fun _ => false⟩

theorem nowhere_alike : Backend.lost.Alike Eq Reply.Like (fun _ _ => True) nowhere where
  told _ _ := .inr ⟨.lost _, .lost _⟩
  next _ _ := trivial
  order _ := rfl

theorem fragments_show_lost :
    (∃ html, Shown (client {} (some "abc123")) Page.campaigns ⟨"/dashboard/campaigns", "Retry"⟩
        ((client {} (some "abc123")).campaigns.replies .lost ())
        ((client {} (some "abc123")).campaigns.run .lost ()).result html ∧
      ((respond {} campaignsRequest).run .lost ()).result.body = html.render) ∧
    ((respond {} campaignsRequest).run nowhere ()).result = ((respond {} campaignsRequest).run .lost ()).result := by
  have signed : campaignsRequest.token? = some "abc123" := by decide +kernel
  have fetches : campaignsRequest.Fetches {} (client {} (some "abc123")) (client {} (some "abc123")).campaigns
      Page.campaigns ⟨"/dashboard/campaigns", "Retry"⟩ := .campaigns (by decide +kernel)
  obtain ⟨⟨html, shown, response⟩, hidden⟩ := fragments_show rfl signed fetches .lost ()
  refine ⟨⟨html, shown, ?_⟩, hidden nowhere () _ nowhere_alike trivial⟩
  rw [response]

end CallDesk.Web
