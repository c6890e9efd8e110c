import CallDesk.Proofs.Backend.Request
import CallDesk.Proofs.Session.LifeCycle
import CallDesk.Proofs.Session.Message

/-! # The answer to a sign-in

The page of a sign-in posts the address that it was opened with. What it is told, and what the browser is
given to keep, is the outcome of that address and nothing else: neither the status nor the body of a reply of
the backend, nor that there is none, makes a difference. The backend is asked for a profile at most.
-/

namespace CallDesk.Web

open Text

/-- A request posts a message with an address. -/
structure Request.Posts (r : Request) (address : String) : Prop extends r.IsSignIn where
  json : r.mediaType?.any MediaType.isJson = true
  text : (Json.read? r.body).bind Session.Message.ofJson? = some address

theorem Request.Posts.message {r : Request} {address : String} (posts : r.Posts address) :
    Session.Message.read r.body = .ok address := by
  obtain ⟨v, whole, given⟩ := Option.bind_eq_some_iff.mp posts.text
  exact Session.Message.read_of_json whole given

/-- The address of a message is taken from a body that is not too large. -/
theorem Request.Posts.callbackAddress {r : Request} {address : String} (posts : r.Posts address)
    (small : r.body.length ≤ maxBody) : r.callbackAddress = .ok address := by
  simp only [Request.callbackAddress, posts.json, if_true, Request.bodyWithin, small, posts.message, bind, Except.bind]

theorem Request.Posts.tooLarge {r : Request} {address : String} (posts : r.Posts address)
    (large : maxBody < r.body.length) : r.callbackAddress = .error .tooLarge := by
  simp only [Request.callbackAddress, posts.json, if_true, Request.bodyWithin, Nat.not_le.mpr large, if_false, bind,
    Except.bind]

/-! ## What is answered -/

/-- The outcome of an address. One that cannot be read says nothing. -/
inductive Resolves (address : String) : Outcome → Prop
  | callback {c : Callback} (read : Callback.read address = .ok c) : Resolves address c.outcome
  | unreadable {fault : Fault} (refused : Callback.read address = .error fault) :
      Resolves address (.failed "No authentication token found")

theorem resolves_callbackOf (address : String) : Resolves address (callbackOf address).outcome := by
  rw [callbackOf]
  cases read : Callback.read address with
  | ok c => exact .callback read
  | error fault => exact .unreadable read

/-- A response tells the page where to go, and after how many milliseconds, and sets cookies. -/
structure Response.Tells (response : Response) (redirect : Option String) (delay : Nat) (cookies : List String) :
    Prop where
  status : response.status = 200
  body : ∃ html, response.body = (Json.record [("html", .text html), ("redirect", .option .text redirect),
    ("delay_ms", .nat delay)]).render
  cookies : response.cookies = cookies

/-- What a sign-in is answered. -/
def Response.Answers (s : Settings) (response : Response) : Outcome → Prop
  | .authenticated tokens => response.Tells (some "/dashboard") 0
      (Cookie.set "vd_access_token" tokens.access s.auth.secureCookies ::
        (tokens.refresh.map fun token => Cookie.set "vd_refresh_token" token s.auth.secureCookies).toList)
  | .confirmed _ => response.Tells (some "/login") s.auth.confirmationDelay.toNat []
  | .failed _ => response.Tells none 0 []

theorem sessionMessage_answers (s : Settings) (outcome : Outcome) :
    (sessionMessage s (outcome.resolution s.auth.confirmationDelay)).Answers s outcome := by
  have bare (v : Json) : (Response.message v).cookies = [] := Response.cookies_single rfl (by decide)
  cases outcome with
  | authenticated tokens =>
    refine ⟨rfl, ⟨_, rfl⟩, ?_⟩
    simp only [sessionMessage, Response.cookies_withCookies, bare, Outcome.resolution, List.nil_append]
    rw [Cookie.carried_keep, Cookie.keep]
    cases tokens.refresh <;> rfl
  | confirmed what => exact ⟨rfl, ⟨_, rfl⟩, Response.cookies_withCookies _ []⟩
  | failed message => exact ⟨rfl, ⟨_, rfl⟩, Response.cookies_withCookies _ []⟩

/-! ## What is asked -/

/-- The request for the profile of a user: one, a post to the profile path, when a header can hold the token
of the user. -/
def AsksProfile (s : Settings) (requests : List CallDesk.Request) : Outcome → Prop
  | .authenticated tokens =>
    if isHeaderText tokens.access then
      ∃ q, requests = [q] ∧ q.verb = .post ∧ Url.read ((client s none).address s.auth.profilePath) = .ok q.url
    else requests = []
  | _ => requests = []

theorem profile_asks {s : Settings} {u : Url} (address : Url.IsAddress s.backend.baseUrl u)
    (host : u.host.toList.all Client.isRequestHostChar = true) (outcome : Outcome) :
    AsksProfile s (outcome.tokens?.bind fun tokens =>
      (Callback.profileRequest (client s none) s.auth tokens).toOption).toList outcome := by
  cases outcome with
  | confirmed what => rfl
  | failed message => rfl
  | authenticated tokens =>
    simp only [AsksProfile, Outcome.tokens?, Option.bind_some, Callback.profileRequest]
    split
    · next legal =>
      obtain ⟨url, read, scheme, named⟩ := Client.read_address address (some tokens.access) s.auth.profilePath
      have bound : ∀ token, some tokens.access = some token → isHeaderText token = true := by
        rintro token ⟨⟩
        exact legal
      obtain ⟨q, ok⟩ : ∃ q, ((client s none).bind (some tokens.access)).request .post s.auth.profilePath none
          (.message (.record [])) = .ok q :=
        Client.request_ok read (scheme ▸ address.web) (named ▸ host) bound
      have made := Client.request_made ok
      obtain ⟨url', read', same⟩ := made.url
      refine ⟨q, ?_, made.verb, same ▸ read'⟩
      rw [ok]
      rfl
    · next illegal =>
      rw [Client.request_illegal rfl (Bool.eq_false_iff.mpr illegal), Option.toList_none]

/-! ## Sign-ins -/

theorem posts_tooLarge (s : Settings) {r : Request} {address : String} (posts : r.Posts address)
    (large : maxBody < r.body.length) {σ : Type} (b : Backend σ) (st : σ) :
    ((respond s r).run b st).result = Refusal.tooLarge.response ∧ ((respond s r).run b st).requests = [] := by
  have signIn : r.IsSignIn := posts.toIsSignIn
  have requests := signIn_requests b st s signIn
  rw [Request.newTokens?, posts.tooLarge large] at requests
  rw [signIn_result b st s signIn, posts.tooLarge large]
  exact ⟨rfl, requests⟩

/-- A sign-in is answered in the same way whatever the backend does. A message that is not too large is answered
by the outcome of its address, and the backend is asked for a profile at most; one that is too large is refused,
and the backend is not asked. -/
theorem respond_posts (s : Settings) {r : Request} {address : String} (posts : r.Posts address)
    {σ τ : Type} (b : Backend σ) (st : σ) (other : Backend τ) (st' : τ) :
    ((respond s r).run b st).result = ((respond s r).run other st').result ∧
      (r.body.length ≤ maxBody → ∃ outcome, Resolves address outcome ∧
        ((respond s r).run b st).result.Answers s outcome ∧
        ∀ u, Url.IsAddress s.backend.baseUrl u → u.host.toList.all Client.isRequestHostChar = true →
          AsksProfile s ((respond s r).run b st).requests outcome) ∧
      (maxBody < r.body.length → ((respond s r).run b st).result = Refusal.tooLarge.response ∧
        ((respond s r).run b st).requests = []) := by
  have signIn : r.IsSignIn := posts.toIsSignIn
  refine ⟨?_, fun small => ⟨(callbackOf address).outcome, resolves_callbackOf address, ?_, fun u base host => ?_⟩,
    fun large => posts_tooLarge s posts large b st⟩
  · rw [signIn_result b st s signIn, signIn_result other st' s signIn]
  · rw [signIn_result b st s signIn, posts.callbackAddress small]
    exact sessionMessage_answers s _
  · have requests := signIn_requests b st s signIn
    rw [Request.newTokens?, posts.callbackAddress small] at requests
    rw [requests]
    exact profile_asks base host _

/-- A sign-in with a token beyond ASCII, among members and parameters that do not count. -/
def signInPost : Request :=
  { method := "POST", target := Site.session, headers := [("Content-Type", "application/json; charset=utf-8")]
    body := utf8
      "\x7b\"n\": [1, \x7b\x7d], \"url\": \"https://app.test/?error=+#access_token=j\\u00e9&type=invite\"\x7d" }

theorem respond_posts_signIn :
    signInPost.Posts "https://app.test/?error=+#access_token=jé&type=invite" ∧ signInPost.body.length ≤ maxBody ∧
      ∃ u, Url.IsAddress "http://localhost:8000/api/v1" u ∧ u.host.toList.all Client.isRequestHostChar = true ∧
        ((respond {} signInPost).run .lost ()).result.Answers {} (.authenticated { access := "jé" }) ∧
        AsksProfile {} ((respond {} signInPost).run .lost ()).requests (.authenticated { access := "jé" }) := by
  have posts : signInPost.Posts "https://app.test/?error=+#access_token=jé&type=invite" :=
    ⟨⟨rfl, by decide +kernel⟩, by decide +kernel, by decide +kernel⟩
  have small : signInPost.body.length ≤ maxBody := by decide +kernel
  have address := Client.isAddress_localhost
  have host : "localhost".toList.all Client.isRequestHostChar = true := by decide
  obtain ⟨outcome, resolves, answers, asks⟩ := (respond_posts {} posts .lost () .lost ()).2.1 small
  have read : Callback.read "https://app.test/?error=+#access_token=jé&type=invite" =
      .ok ⟨[("error", " "), ("access_token", "jé"), ("type", "invite")]⟩ := by decide +kernel
  cases resolves with
  | unreadable refused =>
    rw [read] at refused
    contradiction
  | callback given =>
    obtain rfl := Except.ok.inj (read.symm.trans given)
    exact ⟨posts, small, _, address, host, answers, asks _ address host⟩

/-! ## Large messages -/

/-- Letters inside a string are taken with it. -/
theorem stringOff?_letters (n : Nat) (p : Json.Partial) (rest : Bytes) :
    ∃ p', Json.stringOff? p .plain (List.replicate n 120 ++ rest) = Json.stringOff? p' .plain rest := by
  induction n generalizing p with
  | zero => exact ⟨p, rfl⟩
  | succ n ih => exact ih (p.push 120)

/-- A member with an address, and the end of a message. -/
def addressMember : Bytes := utf8 "\"url\":\"https://app.test/#access_token=xyz\"\x7d"

theorem member_address :
    Json.Member 1 addressMember (some "url") (.string (some "https://app.test/#access_token=xyz")) [125] := by
  refine ⟨58 :: 34 :: utf8 "https://app.test/#access_token=xyz\"\x7d",
    34 :: utf8 "https://app.test/#access_token=xyz\"\x7d", by decide +kernel, rfl, ?_⟩
  exact Json.valueOff?_succ_iff.mpr (.string rfl (by decide +kernel))

/-- A message whose address comes after a member with some letters. -/
def lateMessage (letters : Nat) : Request :=
  { method := "POST", target := Site.session, headers := [("content-type", "application/json")]
    body := utf8 "\x7b\"pad\":\"" ++ (List.replicate letters 120 ++ 34 :: 44 :: addressMember) }

/-- It is a message with this address, however late the address comes. -/
theorem lateMessage_posts (letters : Nat) : (lateMessage letters).Posts "https://app.test/#access_token=xyz" := by
  have path : (lateMessage 0).path = Site.session := by decide +kernel
  have json : (lateMessage 0).mediaType?.any MediaType.isJson = true := by decide +kernel
  refine ⟨⟨rfl, path⟩, json, ?_⟩
  obtain ⟨p, pad⟩ := stringOff?_letters letters {} (34 :: 44 :: addressMember)
  have start : utf8 "\x7b\"pad\":\"" = [123, 34, 112, 97, 100, 34, 58, 34] := by decide +kernel
  have address : Json.membersOff? 2 [(some "pad", .string p.finish)] addressMember =
      some (.object [(some "pad", .string p.finish),
        (some "url", .string (some "https://app.test/#access_token=xyz"))], []) :=
    Json.membersOff?_succ_iff.mpr ⟨_, _, _, member_address, .inr ⟨_, rfl, rfl⟩⟩
  have taken : Json.valueOff? 4 (lateMessage letters).body = some (.object [(some "pad", .string p.finish),
      (some "url", .string (some "https://app.test/#access_token=xyz"))], []) := by
    rw [lateMessage, start]
    refine Json.valueOff?_succ_iff.mpr (.members rfl (by rintro _ ⟨⟩) ?_)
    have padding : Json.valueOff? 2 (34 :: (List.replicate letters 120 ++ 34 :: 44 :: addressMember)) =
        some (.string p.finish, 44 :: addressMember) := Json.valueOff?_succ_iff.mpr (.string rfl pad)
    exact Json.membersOff?_succ_iff.mpr ⟨_, _, _, ⟨_, _, rfl, rfl, padding⟩, .inl ⟨_, rfl, address⟩⟩
  rw [Json.read?, Json.takeValue?_of_valueOff? taken]
  rfl

theorem lateMessage_large (letters : Nat) : letters < (lateMessage letters).body.length := by
  rw [lateMessage, List.length_append, List.length_append, List.length_replicate, List.length_cons]
  omega

/-- A message that is too large signs nobody in, whatever its address means. -/
theorem late_address_ignored :
    (lateMessage maxBody).Posts "https://app.test/#access_token=xyz" ∧
      Resolves "https://app.test/#access_token=xyz" (.authenticated { access := "xyz" }) ∧
        ¬ ((respond {} (lateMessage maxBody)).run .lost ()).result.Answers {} (.authenticated { access := "xyz" }) := by
  have read : Callback.read "https://app.test/#access_token=xyz" = .ok ⟨[("access_token", "xyz")]⟩ := by decide +kernel
  refine ⟨lateMessage_posts maxBody, .callback read, fun answers => ?_⟩
  have status := answers.status
  rw [(posts_tooLarge {} (lateMessage_posts maxBody) (lateMessage_large maxBody) .lost ()).1] at status
  exact absurd status (by decide)

end CallDesk.Web
