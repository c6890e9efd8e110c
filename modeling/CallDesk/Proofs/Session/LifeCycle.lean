import CallDesk.Proofs.Session.Jar
import CallDesk.Proofs.Web.SignIn
import Mathlib.Data.List.Induction

/-! # The life of a session

A browser that signs in and out, in any order and as often as it wants, belongs to the session of the
last sign-in since the last sign-out. A callback that fails, or that only confirms something, changes
nothing. The invariant is that the jar keeps the token of that session and nothing that hides it.
-/

namespace CallDesk.Web

/-! ## The cookies of responses -/

/-- A response whose only header is another one sets no cookie. -/
theorem Response.cookies_single {response : Response} {name val : String}
    (single : response.headers = [(name, val)]) (other : (lower name == "set-cookie") = false) :
    response.cookies = [] := by
  rw [cookies, single, List.filter_cons_of_neg (by simp [other])]
  rfl

theorem signedOut_cookies :
    signedOut.cookies = [Cookie.expire Cookie.access, Cookie.expire Cookie.refresh] := by
  have bare : (Response.redirect Site.landing).cookies = [] := Response.cookies_single rfl (by decide)
  rw [signedOut, Response.cookies_withCookies, bare]
  decide

/-- A sign-in sets the cookies of its tokens, and a post that does not sign in sets none. -/
theorem signIn_cookies (s : Settings) {r : Request} (signIn : r.IsSignIn) {σ : Type} (b : Backend σ) (st : σ) :
    ((respond s r).run b st).result.cookies = match r.newTokens? with
      | some tokens => Cookie.keep tokens s.auth.secureCookies
      | none => [] := by
  rw [signIn_result b st s signIn, Request.newTokens?]
  cases r.callbackAddress with
  | error refusal => exact Response.cookies_single rfl (by decide)
  | ok address =>
    have bare (v : Json) : (Response.message v).cookies = [] := Response.cookies_single rfl (by decide)
    simp only [sessionMessage, Response.cookies_withCookies, bare, Except.toOption, Option.bind_some,
      List.nil_append]
    cases (callbackOf address).outcome with
    | authenticated tokens =>
      simp only [Outcome.resolution, Outcome.tokens?]
      rw [Cookie.carried_keep]
    | confirmed what => rfl
    | failed message => rfl

/-! ## Visits -/

/-- Whether a request signs out. -/
structure Request.IsSignOut (r : Request) : Prop where
  method : r.method = "GET"
  path : r.path = Site.signOut

theorem respond_signOut (s : Settings) {r : Request} (signOut : r.IsSignOut) :
    respond s r = .done signedOut := by
  have route : Route.of? Site.signOut = some .signOut := by decide
  rw [respond, signOut.path, route, signOut.method]
  rfl

/-- A request that may change the session of a browser. -/
inductive Visit where
  | signIn (r : Request) (posts : r.IsSignIn)
  | signOut (r : Request) (leaves : r.IsSignOut)

namespace Visit

/-- The request of a visit. -/
def request : Visit → Request
  | signIn r _ => r
  | signOut r _ => r

/-- Whether a visit is no sign-out. -/
def stays : Visit → Bool
  | signIn _ _ => true
  | signOut _ _ => false

/-- The access token that a visit signs in with, if it does. -/
def token? : Visit → Option String
  | signIn r _ => r.newTokens?.map (·.access)
  | signOut _ _ => none

end Visit

/-- The token of the session after some visits: that of the last one that signed in since the last
sign-out. -/
def sessionToken (visits : List Visit) : Option String :=
  (visits.reverse.takeWhile Visit.stays).findSome? Visit.token?

/-- A browser, and the backend behind the site. -/
structure World (σ : Type) where
  jar : Jar
  backend : σ

variable {σ : Type}

/-- A visit: the backend may do anything while it is answered, and the browser takes the cookies. -/
def World.visit (s : Settings) (b : Backend σ) (w : World σ) (v : Visit) : World σ :=
  let t := (respond s v.request).run b w.backend
  ⟨w.jar.receive t.result, t.state⟩

theorem World.jar_visit (s : Settings) (b : Backend σ) (w : World σ) (v : Visit) :
    (w.visit s b v).jar = w.jar.receive ((respond s v.request).run b w.backend).result := by
  simp only [visit]

/-- Visits one after another, from a browser without cookies. -/
def World.after (s : Settings) (b : Backend σ) (st : σ) (visits : List Visit) : World σ :=
  visits.foldl (visit s b) ⟨[], st⟩

/-! ## The invariant -/

/-- A jar belongs to the session of a token, or to none. -/
structure Belongs (jar : Jar) (token : Option String) : Prop where
  clean : jar.Clean
  access : jar.Keeps Cookie.access token

theorem belongs_nil : Belongs [] none := ⟨nofun, Jar.keeps_nil _⟩

/-- Signing out ends every session. -/
theorem Belongs.signOut {jar : Jar} {token : Option String} (belongs : Belongs jar token) :
    Belongs (jar.receive signedOut) none := by
  have access : Cookie.access ∈ Cookie.names := by decide
  have refresh : Cookie.refresh ∈ Cookie.names := by decide
  have ended := belongs.access.store_expire access
  rw [if_pos rfl] at ended
  have gone := ended.store_expire refresh
  rw [ite_self] at gone
  rw [Jar.receive, signedOut_cookies, List.foldl_cons, List.foldl_cons, List.foldl_nil]
  exact ⟨(belongs.clean.store_expire access).store_expire refresh, gone⟩

/-- Signing in starts the session of the new token. -/
theorem Belongs.keep {jar : Jar} {token : Option String} (belongs : Belongs jar token) (tokens : Tokens)
    (legible : tokens.access ≠ "") (renewable : ∀ t, tokens.refresh = some t → t ≠ "") (secure : Bool) :
    Belongs ((Cookie.keep tokens secure).foldl Jar.store jar) (some tokens.access) := by
  have access : Cookie.access ∈ Cookie.names := by decide
  have refresh : Cookie.refresh ∈ Cookie.names := by decide
  have other : Cookie.refresh ≠ Cookie.access := by decide
  have clean := belongs.clean.store_set access tokens.access secure
  have kept := belongs.access.store_set access legible secure
  rw [if_pos rfl] at kept
  rw [Cookie.keep, List.foldl_cons]
  cases renewal : tokens.refresh with
  | none =>
    simp only [List.foldl_nil]
    exact ⟨clean, kept⟩
  | some t =>
    have still := kept.store_set refresh (renewable t renewal) secure
    rw [if_neg other] at still
    simp only [List.foldl_cons, List.foldl_nil]
    exact ⟨clean.store_set refresh t secure, still⟩

/-- The session after one more visit. -/
theorem sessionToken_concat (visits : List Visit) (v : Visit) :
    sessionToken (visits ++ [v]) = match v with
      | .signIn r _ => (r.newTokens?.map (·.access)).or (sessionToken visits)
      | .signOut _ _ => none := by
  rw [sessionToken, List.reverse_append]
  cases v with
  | signIn r posts =>
    rw [List.reverse_singleton, List.singleton_append, List.takeWhile_cons_of_pos rfl, List.findSome?_cons,
      Visit.token?]
    dsimp only
    cases r.newTokens? with
    | none => rfl
    | some tokens => rfl
  | signOut r leaves => rfl

/-- A visit leads from session to session. -/
theorem Belongs.visit (s : Settings) (b : Backend σ) {w : World σ} {visits : List Visit}
    (belongs : Belongs w.jar (sessionToken visits)) (v : Visit) :
    Belongs (w.visit s b v).jar (sessionToken (visits ++ [v])) := by
  rw [sessionToken_concat, World.jar_visit]
  cases v with
  | signOut r leaves =>
    simp only [Visit.request, respond_signOut s leaves, Dialog.run]
    exact belongs.signOut
  | signIn r posts =>
    simp only [Visit.request, Jar.receive, signIn_cookies s posts]
    cases signed : r.newTokens? with
    | none => exact belongs
    | some tokens =>
      obtain ⟨legible, renewable⟩ := Request.newTokens_ne_empty signed
      exact belongs.keep tokens legible renewable _

theorem belongs_after (s : Settings) (b : Backend σ) (st : σ) (visits : List Visit) :
    Belongs (World.after s b st visits).jar (sessionToken visits) := by
  -- from the last visit back, since the last visits tell the session
  induction visits using List.reverseRecOn with
  | nil => exact belongs_nil
  | append_singleton visits v ih =>
    rw [World.after, List.foldl_append]
    exact ih.visit s b v

/-- The session that a browser's next request belongs to is that of the last sign-in since the last
sign-out, however its visits went and however it sends its cookies. -/
theorem token_after (s : Settings) (b : Backend σ) (st : σ) (visits : List Visit) (r : Request)
    (sent : (World.after s b st visits).jar.Sends (r.headerValues "cookie")) :
    r.token? = sessionToken visits := by
  have belongs := belongs_after s b st visits
  exact belongs.access.read belongs.clean (by decide) sent

/-- The post of a callback with some parameters. -/
def callbackPost (parameters : String) : Request :=
  { method := "POST", target := Site.session, headers := [("content-type", "application/json")]
    body := Text.utf8 ("[\"https://app.test/#" ++ parameters ++ "\"]") }

/-- A user signs in and then follows a link that is no longer good. -/
def twoCallbacks : List Visit := [
  .signIn (callbackPost "access_token=clé&refresh_token=r1") ⟨rfl, by decide +kernel⟩,
  .signIn (callbackPost "error=expired") ⟨rfl, by decide +kernel⟩]

/-- The next request of the browser, which has a cookie of another site's making. -/
def nextRequest : Request :=
  { method := "GET", target := Site.overview
    headers := [("Cookie", "lang=en; vd_refresh_token=r1"), ("cookie", "vd_access_token=cl%C3%A9")] }

theorem token_after_failure :
    (World.after {} .lost () twoCallbacks).jar.Sends (nextRequest.headerValues "cookie") ∧
      nextRequest.token? = some "clé" := by
  have lang : Cookie.Sendable ("lang", "en") := by
    constructor <;> simp [Cookie.isReadableChar, Text.isBlank]
  have jar : (World.after {} .lost () twoCallbacks).jar =
      [("vd_refresh_token", "r1"), ("vd_access_token", "cl%C3%A9")] := by decide +kernel
  have sent : (World.after {} .lost () twoCallbacks).jar.Sends (nextRequest.headerValues "cookie") := by
    refine ⟨[[("lang", "en"), ("vd_refresh_token", "r1")], [("vd_access_token", "cl%C3%A9")]], [("lang", "en")],
      by decide +kernel, ?_, ?_⟩
    · rw [jar]
      decide
    · intro c member
      obtain rfl := List.mem_singleton.mp member
      exact ⟨lang, by decide⟩
  refine ⟨sent, ?_⟩
  rw [token_after {} .lost () twoCallbacks nextRequest sent]
  decide +kernel

end CallDesk.Web
