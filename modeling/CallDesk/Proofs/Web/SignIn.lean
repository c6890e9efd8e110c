import CallDesk.Proofs.Backend.Client
import CallDesk.Proofs.Web.Route
import CallDesk.Web.Service

/-! # Signing in

A sign-in is a posted callback. What it asks of the backend and what it answers follow from the
callback's outcome alone: neither the cookies of the browser nor the replies of the backend matter.
-/

namespace CallDesk

/-- The tokens of an outcome that signs in. -/
def Outcome.tokens? : Outcome → Option Tokens
  | authenticated tokens => some tokens
  | _ => none

namespace Callback

/-- A parameter that is there is not empty. -/
theorem get?_ne_empty {c : Callback} {name val : String} (found : c.get? name = some val) : val ≠ "" := by
  have kept := (Option.filter_eq_some_iff.mp found).2
  rintro rfl
  contradiction

/-- The tokens of a callback are not empty. -/
theorem tokens_ne_empty {c : Callback} {tokens : Tokens} (signed : c.outcome.tokens? = some tokens) :
    tokens.access ≠ "" ∧ ∀ token, tokens.refresh = some token → token ≠ "" := by
  rw [outcome] at signed
  split at signed
  · contradiction
  split at signed
  · rename_i access found
    obtain rfl := Option.some.inj signed
    exact ⟨get?_ne_empty found, fun token renewed => get?_ne_empty renewed⟩
  · split at signed <;> contradiction

variable {σ : Type} (b : Backend σ) (st : σ)

/-- The request for a profile, as the user of some tokens makes it. -/
def profileRequest (c : Client) (auth : SignInSettings) (tokens : Tokens) : Except String Request :=
  (c.bind (some tokens.access)).request .post auth.profilePath none (.message (.record []))

/-- After a sign-in a profile is asked for, and nothing else ever. -/
theorem follow_requests (c : Client) (auth : SignInSettings) (callback : Callback) :
    ((callback.follow c auth).run b st).requests =
      (callback.outcome.tokens?.bind fun tokens => (profileRequest c auth tokens).toOption).toList := by
  rw [follow]
  cases callback.outcome with
  | authenticated tokens =>
    rw [Dialog.run_map, Answer.bestEffort, Dialog.run_map]
    exact Client.send_requests ..
  | confirmed what => rfl
  | failed message => rfl

/-- Whether there is a profile does not matter. -/
theorem follow_result (c : Client) (auth : SignInSettings) (callback : Callback) :
    ((callback.follow c auth).run b st).result = callback.outcome.resolution auth.confirmationDelay := by
  rw [follow]
  cases callback.outcome with
  | authenticated tokens => rw [Dialog.run_map]
  | confirmed what => rfl
  | failed message => rfl

end Callback

namespace Web

/-- Whether a request posts a callback. -/
structure Request.IsSignIn (r : Request) : Prop where
  method : r.method = "POST"
  path : r.path = Site.session

/-- The callback of an address. One that is no address has no parameters. -/
def callbackOf (address : String) : Callback :=
  match Callback.read address with
  | .ok callback => callback
  | .error _ => {}

/-- The tokens that a request signs in with. -/
def Request.newTokens? (r : Request) : Option Tokens :=
  r.callbackAddress.toOption.bind fun address => (callbackOf address).outcome.tokens?

theorem Request.newTokens_ne_empty {r : Request} {tokens : Tokens} (signed : r.newTokens? = some tokens) :
    tokens.access ≠ "" ∧ ∀ token, tokens.refresh = some token → token ≠ "" := by
  obtain ⟨address, -, signed⟩ := Option.bind_eq_some_iff.mp signed
  exact Callback.tokens_ne_empty signed

variable {s : Settings} {r : Request} {σ : Type} (b : Backend σ) (st : σ)

theorem respond_signIn (s : Settings) (signIn : r.IsSignIn) :
    respond s r = taken r.callbackAddress (sessionSent s) := by
  have route : Route.of? Site.session = some .session := by decide
  rw [respond, signIn.path, route, signIn.method]
  rfl

/-- The callback of an address is followed. -/
theorem sessionSent_eq (s : Settings) (address : String) :
    sessionSent s address =
      ((callbackOf address).follow (client s none) s.auth).map (sessionMessage s) := rfl

/-- A sign-in asks for a profile with the new token; a post that does not sign in asks for nothing. -/
theorem signIn_requests (s : Settings) (signIn : r.IsSignIn) :
    ((respond s r).run b st).requests =
      (r.newTokens?.bind fun tokens =>
        (Callback.profileRequest (client s none) s.auth tokens).toOption).toList := by
  rw [respond_signIn s signIn, Request.newTokens?]
  cases r.callbackAddress with
  | error refusal => rfl
  | ok address =>
    simp only [taken, sessionSent_eq, Dialog.run_map]
    exact Callback.follow_requests b st _ _ _

/-- The answer to a sign-in is the outcome of its callback. -/
theorem signIn_result (s : Settings) (signIn : r.IsSignIn) :
    ((respond s r).run b st).result = match r.callbackAddress with
      | .ok address => sessionMessage s ((callbackOf address).outcome.resolution s.auth.confirmationDelay)
      | .error refusal => refusal.response := by
  rw [respond_signIn s signIn]
  cases r.callbackAddress with
  | error refusal => rfl
  | ok address =>
    simp only [taken, sessionSent_eq, Dialog.run_map]
    rw [Callback.follow_result]

/-- A request differs from another one at most in its cookies. -/
structure Request.SameButCookies (r other : Request) : Prop where
  method : other.method = r.method
  target : other.target = r.target
  body : other.body = r.body
  headers : ∀ name, name ≠ "cookie" → other.headerValues name = r.headerValues name

/-- What a sign-in does has nothing to do with who is signed in. -/
theorem signIn_ignores_cookies (s : Settings) {other : Request} (signIn : r.IsSignIn)
    (same : r.SameButCookies other) : respond s other = respond s r := by
  have path : other.path = r.path := by
    rw [Request.path, Request.targetChars, same.target]
    rfl
  have type : other.mediaType? = r.mediaType? := by
    rw [Request.mediaType?, Request.header?, same.headers _ (by decide)]
    rfl
  have address : other.callbackAddress = r.callbackAddress := by
    rw [Request.callbackAddress, type, Request.bodyWithin, same.body]
    rfl
  have again : other.IsSignIn := ⟨same.method.trans signIn.method, path.trans signIn.path⟩
  rw [respond_signIn s again, respond_signIn s signIn, address]

end Web

end CallDesk
