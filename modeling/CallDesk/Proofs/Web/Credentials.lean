import CallDesk.Proofs.Web.SignIn

/-! # Whose requests reach the backend

The requests that the backend gets while a response is made are those of the user whose token the
cookies of the request hold. A sign-in is the one exception: its request is that of the new user.
Routes that are open to everyone ask for nothing.
-/

namespace CallDesk.Web

/-- The end of the backend's address has no `@` that the setting does not have. -/
theorem client_plain {s : Settings} {token : Option String} (plain : '@' ∉ s.backend.baseUrl.toList) :
    '@' ∉ (client s token).base.toList := by
  intro member
  have kept : '@' ∈ (s.backend.baseUrl.toList.reverse.dropWhile (· == '/')).reverse := by
    rwa [client, Client.bind, Client.of, String.toList_ofList] at member
  have inside := (List.dropWhile_sublist _).subset (List.mem_reverse.mp kept)
  exact plain (List.mem_reverse.mp inside)

variable (s : Settings) (r : Request)

/-! ## What routes ask for -/

theorem taken_asks {α : Type} {p : CallDesk.Request → Prop} (intake : Except Refusal α)
    {go : α → Dialog Response} (asks : ∀ a, (go a).Asks p) : (taken intake go).Asks p := by
  cases intake with
  | error refusal => exact .done _
  | ok a => exact asks a

theorem uploadSent_signs (c : Client) (upload : Option (Option Multipart.Part)) :
    (uploadSent s c upload).Asks c.Signs := by
  rcases upload with _ | _ | part
  · exact .done _
  · exact Dialog.asks_map _ (Upload.send_signs c _ _)
  · exact Dialog.asks_map _ (Upload.send_signs c _ _)

/-- A private route makes its requests with the user's client. -/
theorem privateRoute_signs (c : Client) (route : Route) (purpose : Purpose) :
    (privateRoute s c r route purpose).Asks c.Signs := by
  unfold privateRoute
  split
  · exact .done _
  · exact .done _
  · exact taken_asks _ fun form => Dialog.asks_map _ (form.submit_signs c)
  · exact .done _
  · exact taken_asks _ fun page => .done _
  · exact taken_asks _ fun id => .done _
  · exact taken_asks _ fun upload => uploadSent_signs s c upload
  · exact .done _
  · exact .done _
  · exact Dialog.asks_map _ (Overview.load_signs c _)
  · exact Dialog.asks_map _ c.campaigns_signs
  · exact taken_asks _ fun page => Dialog.asks_map _ (CallHistory.load_signs c _ _)
  · exact taken_asks _ fun id => Dialog.asks_map _ (CallDetail.load_signs c id)
  · exact .done _

/-- Of the open routes only signing in asks for anything. -/
theorem openRoute_silent {route : Route} (other : route ≠ .session) :
    (openRoute s r route).Asks fun _ => False := by
  cases route <;> first | exact .done _ | contradiction

/-- A response asks for what its route asks for. -/
theorem respond_asks {p : CallDesk.Request → Prop}
    (served : ∀ route purpose, Route.of? r.path = some route → route.purpose? r.method = some purpose →
      (routed s r route purpose).Asks p) : (respond s r).Asks p := by
  rw [respond]
  split
  · exact .done _
  rename_i route found
  split
  · exact .done _
  · rename_i wanted
    exact Dialog.asks_map _ (served route _ found wanted)
  · rename_i purpose _ wanted
    exact served route purpose found wanted

/-- A request that does not sign in asks as the user whom its cookies name, if they do. -/
theorem respond_signs (other : ¬ r.IsSignIn) :
    (respond s r).Asks fun q => ∃ token, r.token? = some token ∧ (client s (some token)).Signs q := by
  refine respond_asks s r fun route purpose found wanted => ?_
  rw [routed]
  split
  · split
    · rename_i token signed
      exact (privateRoute_signs s r _ route purpose).imp fun q signs => ⟨token, signed, signs⟩
    · exact .done _
  · refine (openRoute_silent s r ?_).imp fun q => False.elim
    rintro rfl
    exact other ⟨Route.method_of_session wanted, Route.path_of_session found⟩

/-- The addresses that are open to everyone and ask the backend for nothing. -/
def openPaths : List String :=
  ["/", "/login", "/logout", "/auth/callback", "/health", "/static/app.css", "/static/app.js"]

/-- A path that is open to everyone, or that has no route. -/
def IsOpen (path : String) : Prop := path ∈ openPaths ∨ Route.of? path = none

theorem IsOpen.route {path : String} {route : Route} (isOpen : IsOpen path)
    (found : Route.of? path = some route) : route.isPrivate = false ∧ route ≠ .session := by
  rcases isOpen with listed | unknown
  · have all : ∀ path ∈ openPaths, ∀ route ∈ Route.of? path,
        route.isPrivate = false ∧ route ≠ .session := by decide
    exact all path listed route found
  · exact absurd (unknown.symm.trans found) nofun

theorem respond_open_silent (isOpen : IsOpen r.path) : (respond s r).Asks fun _ => False := by
  refine respond_asks s r fun route purpose found wanted => ?_
  obtain ⟨unguarded, other⟩ := isOpen.route found
  rw [routed, unguarded]
  exact openRoute_silent s r other

/-! ## Confinement -/

/-- The settings name no user of the backend: there is no `@` in its addresses. -/
structure NamesNoUser (s : Settings) : Prop where
  backend : '@' ∉ s.backend.baseUrl.toList
  profile : '@' ∉ s.auth.profilePath.toList

/-- A request carries a token, and no other credentials unless the settings name a user. -/
structure Carries (s : Settings) (token : String) (q : CallDesk.Request) : Prop where
  bears : q.Bears token
  only : NamesNoUser s → q.authorization = ["Bearer " ++ token]

theorem carries_of_userless {s : Settings} {token : String} {q : CallDesk.Request} (bears : q.Bears token)
    (userless : NamesNoUser s → q.url.credentials = none) : Carries s token q := by
  refine ⟨bears, fun plain => ?_⟩
  have noBasic : Client.basicHeader? q.url = none := by
    rw [Client.basicHeader?, userless plain]
    rfl
  rw [bears.authorization, noBasic]
  rfl

theorem carries_of_signs {s : Settings} {token : String} {q : CallDesk.Request}
    (signs : (client s (some token)).Signs q) : Carries s token q :=
  carries_of_userless (signs.bears token rfl) fun plain => signs.userless (client_plain plain.backend)

/-- The requests that the backend gets while a response is made. -/
def asked {σ : Type} (s : Settings) (r : Request) (b : Backend σ) (st : σ) : List CallDesk.Request :=
  ((respond s r).run b st).requests

variable {σ : Type} (b : Backend σ) (st : σ)

theorem ok_of_toOption {ε α : Type} {x : Except ε α} {a : α} (h : x.toOption = some a) : x = .ok a := by
  cases x with
  | error e => contradiction
  | ok b => exact congrArg Except.ok (Option.some.inj h)

/-- What a sign-in asks for. -/
theorem asked_signIn {s : Settings} {r : Request} {q : CallDesk.Request} (signIn : r.IsSignIn)
    (member : q ∈ asked s r b st) :
    q.verb = .post ∧ Url.read ((client s none).address s.auth.profilePath) = .ok q.url ∧
      ∃ tokens, r.newTokens? = some tokens ∧ Carries s tokens.access q := by
  rw [asked, signIn_requests b st s signIn, Option.mem_toList] at member
  obtain ⟨tokens, posted, ok⟩ := Option.bind_eq_some_iff.mp member
  have made := Client.request_made (ok_of_toOption ok)
  obtain ⟨url, read, rfl⟩ := made.url
  refine ⟨made.verb, read, tokens, posted, carries_of_userless (made.bears _ rfl) fun plain => ?_⟩
  exact made.userless (client_plain plain.backend) plain.profile

/-- Credentials are confined. A request of a user makes requests that carry the user's token, and none
when no header can hold it. A sign-in makes at most one request, for the profile of the user who signs
in, whoever was signed in before. Open routes make none. -/
theorem respond_confines_credentials (s : Settings) (r : Request) {σ : Type} (b : Backend σ) (st : σ) :
    (¬ r.IsSignIn → ∀ token, r.token? = some token →
      (∀ q ∈ asked s r b st, Carries s token q) ∧ (isHeaderText token = false → asked s r b st = [])) ∧
    (r.IsSignIn →
      (asked s r b st).length ≤ 1 ∧
      (∀ q ∈ asked s r b st,
        q.verb = .post ∧ Url.read ((client s none).address s.auth.profilePath) = .ok q.url ∧
          ∃ tokens, r.newTokens? = some tokens ∧ Carries s tokens.access q) ∧
      ∀ other, r.SameButCookies other → respond s other = respond s r) ∧
    (IsOpen r.path → asked s r b st = []) := by
  refine ⟨fun other token signed => ?_, fun signIn => ⟨?_, fun q => asked_signIn b st signIn, ?_⟩, ?_⟩
  · have carried : ∀ q ∈ asked s r b st, Carries s token q := by
      intro q member
      obtain ⟨same, known, signs⟩ := (respond_signs s r other).run b st q member
      obtain rfl := Option.some.inj (signed.symm.trans known)
      exact carries_of_signs signs
    refine ⟨carried, fun illegal => List.eq_nil_iff_forall_not_mem.mpr fun q member => ?_⟩
    have legal := (carried q member).bears.legal
    exact absurd (illegal.symm.trans legal) (by decide)
  · rw [asked, signIn_requests b st s signIn]
    cases r.newTokens?.bind fun tokens => (Callback.profileRequest (client s none) s.auth tokens).toOption with
    | none => exact Nat.zero_le 1
    | some q => exact Nat.le_refl 1
  · exact fun other same => signIn_ignores_cookies s signIn same
  · exact fun isOpen => Dialog.requests_eq_nil (respond_open_silent s r isOpen) b st

/-! ### A user in the backend's address -/

/-- A user asks for the campaigns. -/
def campaignsRequest : Request :=
  { method := "GET", target := "/fragments/campaigns", headers := [("cookie", "vd_access_token=abc123")] }

/-- Another user signs in with the cookies of the first one. -/
def signInRequest : Request :=
  { method := "POST", target := "/auth/session"
    headers := [("cookie", "vd_access_token=abc123"), ("content-type", "application/json")]
    body := Text.utf8 "[\"https://app.test/#access_token=xyz\"]" }

theorem campaigns_carry_token :
    (¬ campaignsRequest.IsSignIn ∧ campaignsRequest.token? = some "abc123" ∧
      (asked {} campaignsRequest .lost ()).length = 1 ∧
      ∀ q ∈ asked {} campaignsRequest .lost (), Carries {} "abc123" q) ∧
    signInRequest.IsSignIn ∧ (asked {} signInRequest .lost ()).map (·.authorization) = [["Bearer xyz"]] ∧
      (asked {} signInRequest .lost ()).length ≤ 1 := by
  have user : ¬ campaignsRequest.IsSignIn := fun signIn => absurd signIn.method (by decide)
  have signed : campaignsRequest.token? = some "abc123" := by decide +kernel
  have signIn : signInRequest.IsSignIn := ⟨rfl, by decide +kernel⟩
  refine ⟨⟨user, signed, by decide +kernel, ?_⟩, signIn, by decide +kernel, ?_⟩
  · exact ((respond_confines_credentials {} campaignsRequest .lost ()).1 user _ signed).1
  · exact ((respond_confines_credentials {} signInRequest .lost ()).2.1 signIn).1

/-- The address of the backend may name a user, whose credentials then go before the token. -/
theorem address_adds_credentials :
    ¬ ∀ (s : Settings) (r : Request) (token : String), ¬ r.IsSignIn → r.token? = some token →
      isHeaderText token = true → ∀ q ∈ asked s r .lost (), q.authorization = ["Bearer " ++ token] := by
  intro single
  have user : ¬ campaignsRequest.IsSignIn := fun signIn => absurd signIn.method (by decide)
  have one := single { backend := { baseUrl := "http://user:pw@backend.test/api/v1" } } campaignsRequest "abc123"
    user (by decide +kernel) (by decide)
  exact absurd one (by decide +kernel)

end CallDesk.Web
