import CallDesk.Proofs.Backend.Dialog
import CallDesk.Proofs.Web.Route
import CallDesk.Web.Service

/-! # Strangers

A request without a session gets the same answer from a private route whatever else it brings: its
query, its path and its body are not looked at, and the backend is not asked. A page leads to signing
in; a part of a page is replaced by a banner, of which a request without a body gets the head alone.
-/

namespace CallDesk.Web

/-- What stands in the place of a part of a page. -/
def signInBanner : Response :=
  { status := 401
    headers := [("content-type", "text/html; charset=utf-8")]
    body := (Page.banner "Your session has expired. Please sign in again." (some ⟨"/login", "Sign In"⟩)).render }

/-- The way to the sign-in page. -/
def signInRedirect : Response := { status := 303, headers := [("location", "/login")] }

/-- A response as a method gets it: to `HEAD` without its body. -/
def Response.to (method : String) (response : Response) : Response :=
  if method = "HEAD" then response.withoutBody else response

variable {s : Settings} {r : Request} {route : Route} {purpose : Purpose}

/-- A guard goes before everything that a route does. -/
theorem routed_stranger (guarded : route.isPrivate = true) (stranger : r.token? = none) :
    routed s r route purpose = .done (if route.isFragment then signInBanner else signInRedirect) := by
  rw [routed, guarded, stranger]
  rfl

/-- A response is its route's, as the method of the request gets it. -/
theorem respond_done {response : Response} (found : Route.of? r.path = some route)
    (wanted : route.purpose? r.method = some purpose)
    (served : routed s r route purpose = .done response) : respond s r = .done (response.to r.method) := by
  have peek := Route.isPeek_iff wanted
  rw [respond, found]
  dsimp only
  rw [wanted, Response.to]
  cases purpose with
  | view =>
    rw [if_neg fun head => absurd (peek.mpr head) nofun]
    exact served
  | peek =>
    dsimp only
    rw [if_pos (peek.mp rfl), served]
    rfl
  | submit =>
    rw [if_neg fun head => absurd (peek.mpr head) nofun]
    exact served

/-- Without a session a request for a page of the dashboard is led to signing in, and one for a part of
a page is told that it has to, before anything else of it is looked at. -/
theorem respond_stranger (s : Settings) (r : Request) {route : Route} {purpose : Purpose}
    (found : Route.of? r.path = some route) (wanted : route.purpose? r.method = some purpose)
    (stranger : r.token? = none) {σ : Type} (b : Backend σ) (st : σ) :
    (Site.overview.toList <+: r.path.toList → (respond s r).run b st = ⟨signInRedirect, [], st⟩) ∧
      ("/fragments/".toList <+: r.path.toList →
        (respond s r).run b st = ⟨signInBanner.to r.method, [], st⟩) := by
  constructor
  · intro under
    obtain ⟨guarded, page⟩ := Route.of?_dashboard found under
    have bodiless : signInRedirect.to r.method = signInRedirect := ite_self _
    rw [respond_done found wanted (routed_stranger guarded stranger), page]
    exact congrArg (Trace.mk · [] st) bodiless
  · intro under
    obtain ⟨guarded, part⟩ := Route.of?_fragment found under
    rw [respond_done found wanted (routed_stranger guarded stranger), part]
    rfl

/-- A part of a page is asked for with a cookie and a query that cannot be read. -/
def strangerRequest (method : String) : Request :=
  { method, target := "/fragments/calls?page=x", headers := [("cookie", "vd_access_token=%FF")] }

theorem respond_stranger_calls :
    (strangerRequest "GET").token? = none ∧
      (respond {} (strangerRequest "GET")).run .lost () = ⟨signInBanner, [], ()⟩ := by
  have found : Route.of? (strangerRequest "GET").path = some .callsFragment := by decide +kernel
  have stranger : (strangerRequest "GET").token? = none := by decide +kernel
  have under : "/fragments/".toList <+: (strangerRequest "GET").path.toList := by decide +kernel
  have wanted : Route.callsFragment.purpose? (strangerRequest "GET").method = some .view := by decide
  exact ⟨stranger, (respond_stranger {} _ found wanted stranger .lost ()).2 under⟩

/-- A request for the head alone has no banner. -/
theorem head_hides_banner :
    ¬ ∀ (r : Request) (route : Route) (purpose : Purpose), Route.of? r.path = some route →
      route.purpose? r.method = some purpose → r.token? = none → "/fragments/".toList <+: r.path.toList →
      ((respond {} r).run .lost ()).result = signInBanner := by
  intro always
  have shown := always (strangerRequest "HEAD") .callsFragment .peek (by decide +kernel) (by decide)
    (by decide +kernel) (by decide +kernel)
  exact absurd shown (by decide +kernel)

end CallDesk.Web
