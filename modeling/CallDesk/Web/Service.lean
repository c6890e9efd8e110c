import CallDesk.Backend.Load
import CallDesk.Page.Campaigns
import CallDesk.Page.Document
import CallDesk.Web.Asset.Script
import CallDesk.Web.Asset.Style
import CallDesk.Web.Intake
import CallDesk.Web.Route

/-! # The web service

What each route answers. A page of the dashboard is sent at once, without data, and has a place
that its script fills from a fragment; a fragment asks the backend and always has something to
show. Private routes are guarded before anything else is looked at: without a session a page leads
to signing in, and a fragment says that the session has expired.
-/

namespace CallDesk.Web

open Html

/-- The client that a service reaches the backend with. -/
def client (s : Settings) (token : Option String) : Client :=
  (Client.of s.backend.baseUrl).bind token

def guestPage (s : Settings) (title body : String) : Response :=
  .page (Shell.document { title, assistant := s.assistant } body)

def dashboardPage (s : Settings) (title : String) (place : Section) (body : String) : Response :=
  .page (Shell.document { title, place := some place, assistant := s.assistant } body)

/-- What follows from what a request brings, when it has its form. -/
def taken {α : Type} (intake : Except Refusal α) (go : α → Dialog Response) : Dialog Response :=
  match intake with
  | .ok a => go a
  | .error refusal => .done refusal.response

/-- The label of the link that leads to signing in. -/
def signInAction : Action := ⟨Site.signIn, "Sign In"⟩

/-- What stands in place of a fragment when there is no session. -/
def expired : Response :=
  (Response.page (Page.banner "Your session has expired. Please sign in again."
    (some signInAction)).render).withStatus 401

def unknownPage (s : Settings) : Response :=
  (guestPage s "Not found" Page.notFound.render).withStatus 404

def otherMethod (route : Route) : Response :=
  { status := 405, headers := [("allow", route.allowed)] }

/-! ## Fragments -/

/-- A fragment with what was asked for. A token that the backend does not accept leads to signing
in, any other failure is shown in the fragment's own way. -/
def fragment {α : Type} (view : View α → Html) (answer : Except Fault α) : Response :=
  .page (Html.render (match answer with
    | .ok a => view (.ready a)
    | .error fault =>
      if fault.isUnauthorized then Page.banner fault.userMessage (some signInAction)
      else view (.failed fault.userMessage)))

def overviewFragment (s : Settings) (c : Client) : Dialog Response :=
  (Overview.load c s.dashboard.recentCallsLimit).map (fragment Page.overview)

def campaignsFragment (c : Client) : Dialog Response :=
  c.campaigns.map (fragment Page.campaigns)

def callsFragment (s : Settings) (c : Client) (page : Option UInt32) : Dialog Response :=
  (CallHistory.load c (Pager.requested page) s.dashboard.callsPageSize).map
    (fragment Page.callHistory)

def callFragment (c : Client) (id : String) : Dialog Response :=
  (CallDetail.load c id).map (fragment Page.callDetail)

/-! ## Pages of the dashboard -/

def overviewPage (s : Settings) : Response :=
  dashboardPage s "Dashboard" .overview
    ((Page.heading "Overview" none).render ++
      Page.deferred Site.overviewFragment (Page.overview .loading).render)

def campaignsPage (s : Settings) : Response :=
  dashboardPage s "Campaigns" .campaigns
    (Page.campaignsHeading.render ++
      Page.deferred Site.campaignsFragment (Page.campaigns .loading).render)

/-- The page with the form that creates a campaign. -/
def campaignFormPage (s : Settings) (form : CampaignForm) (error : Option String) : Response :=
  dashboardPage s "New Campaign" .campaigns (Page.campaignForm form error).render

def callsPage (s : Settings) (page : Option UInt32) : Response :=
  dashboardPage s "Calls" .calls
    ((Page.heading "Calls" none).render ++
      Page.deferred (Site.callsFragment (Pager.requested page)) (Page.callHistory .loading).render)

def callPage (s : Settings) (id : String) : Response :=
  dashboardPage s "Call" .calls
    (Page.deferred (Site.callFragment id) (Page.callDetail .loading).render)

def contactsPage (s : Settings) (upload : Upload) : Response :=
  dashboardPage s "Contacts" .contacts (Page.contacts upload).render

/-! ## Submissions -/

/-- The response to a campaign that was sent. One that is not taken is shown again with the
reason. -/
def campaignSent (s : Settings) (form : CampaignForm) : Except Fault Campaign → Response
  | .ok _ => .redirect Site.campaigns
  | .error fault =>
    let page := campaignFormPage s form (some fault.userMessage)
    match fault with
    | .invalid _ _ => page.withStatus 422
    | _ => page

/-- What a user is told whose upload cannot be read. -/
def unreadableUpload : Upload := .failed "Failed to read the uploaded file"

/-- The response to an upload: the page of the contacts with what became of it. -/
def uploadSent (s : Settings) (c : Client) : Option (Option Multipart.Part) → Dialog Response
  | none => .done (contactsPage s unreadableUpload)
  | some none => (Upload.send c none []).map (contactsPage s)
  | some (some part) => (Upload.send c part.fileName part.contents).map (contactsPage s)

/-- What a callback leads to, as the page of a sign-in is told it. -/
def sessionMessage (s : Settings) (r : Resolution) : Response :=
  (Response.message (.record [
    ("html", .text (Page.signInEnd r.view).render),
    ("redirect", .option .text r.navigation.target?),
    ("delay_ms", .nat r.navigation.delay.toNat)])).withCookies
      (match r.tokens with
        | some tokens => Cookie.keep tokens s.auth.secureCookies
        | none => [])

/-- The response to the address of a callback. One that is no address has no parameters. -/
def sessionSent (s : Settings) (address : String) : Dialog Response :=
  let callback := match Callback.read address with
    | .ok callback => callback
    | .error _ => {}
  (callback.follow (client s none) s.auth).map (sessionMessage s)

/-! ## Routes -/

def signedOut : Response :=
  (Response.redirect Site.landing).withCookies
    [Cookie.expire Cookie.access, Cookie.expire Cookie.refresh]

/-- A text that browsers may keep for an hour. -/
def asset (type body : String) : Response :=
  { status := 200, headers := [("content-type", type), ("cache-control", "public, max-age=3600")]
    body }

def health : Response := .message (.record [
  ("status", .text "ok"), ("service", .text "voxdial-web"), ("version", .text "0.1.0")])

/-- The response of a route that is open to everyone. -/
def openRoute (s : Settings) (r : Request) : Route → Dialog Response
  | .landing => .done (guestPage s "AI voice calling" (Page.landing r.token?.isSome).render)
  | .signIn => .done (.redirect s.auth.loginUrl)
  | .signOut => .done signedOut
  | .callback => .done (guestPage s "Signing in" Page.signInStart.render)
  | .session => taken r.callbackAddress (sessionSent s)
  | .style => .done (asset "text/css; charset=utf-8" Asset.style)
  | .script => .done (asset "text/javascript; charset=utf-8" Asset.script)
  | .health => .done health
  | _ => .done (unknownPage s)

/-- The response of a private route to a user, whose client is `c`. -/
def privateRoute (s : Settings) (c : Client) (r : Request) (route : Route) (purpose : Purpose) :
    Dialog Response :=
  match route, purpose with
  | .overview, _ => .done (overviewPage s)
  | .campaigns, _ => .done (campaignsPage s)
  | .newCampaign, .submit =>
    taken r.campaignForm fun form => (form.submit c).map (campaignSent s form)
  | .newCampaign, _ => .done (campaignFormPage s {} none)
  | .calls, _ => taken r.page fun page => .done (callsPage s page)
  | .call id, _ => taken (Request.callId id) fun id => .done (callPage s id)
  | .contacts, .submit => taken r.uploadedFile (uploadSent s c)
  | .contacts, _ => .done (contactsPage s .idle)
  | .integrations, _ => .done (.redirect s.dashboard.integrationsUrl)
  | .overviewFragment, _ => overviewFragment s c
  | .campaignsFragment, _ => campaignsFragment c
  | .callsFragment, _ => taken r.page (callsFragment s c)
  | .callFragment id, _ => taken (Request.callId id) (callFragment c)
  | _, _ => .done (unknownPage s)

def routed (s : Settings) (r : Request) (route : Route) (purpose : Purpose) : Dialog Response :=
  if route.isPrivate then
    match r.token? with
    | some token => privateRoute s (client s (some token)) r route purpose
    | none => .done (if route.isFragment then expired else .redirect Site.signIn)
  else openRoute s r route

def respond (s : Settings) (r : Request) : Dialog Response :=
  match Route.of? r.path with
  | none => .done (unknownPage s)
  | some route => match route.purpose? r.method with
    | none => .done (otherMethod route)
    | some .peek => (routed s r route .peek).map Response.withoutBody
    | some purpose => routed s r route purpose

/-! ## Marks of a response -/

/-- The id of a request: the one it brings, or else a fresh one. -/
def Request.id (r : Request) (fresh : String) : String := (r.header? "x-request-id").getD fresh

/-- A response with the id of its request and the milliseconds it took. -/
def Response.stamped (r : Response) (id : String) (elapsed : Nat) : Response :=
  { r with headers := r.headers ++
      [("x-request-id", id), ("x-response-time", Text.decimal elapsed)] }

end CallDesk.Web
