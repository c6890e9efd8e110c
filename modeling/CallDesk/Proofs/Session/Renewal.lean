import CallDesk.Proofs.Session.LifeCycle

/-! # Refresh tokens

A sign-in may bring a token that renews its access token. A browser keeps such a token until it signs
out or gets another one: one that is kept is never without an access token, but a later sign-in that
brings none leaves the one of an earlier sign-in where it is. The invariant says which sign-in of the
session the kept token came from.
-/

namespace CallDesk.Web

open Text

/-! ## The sign-ins of a session -/

/-- The tokens that a visit signs in with, if it does. -/
def Visit.tokens? : Visit → Option Tokens
  | signIn r _ => r.newTokens?
  | signOut _ _ => none

/-- What was issued since the last sign-out, the last sign-in first. -/
def signIns (visits : List Visit) : List Tokens :=
  (visits.reverse.takeWhile Visit.stays).filterMap Visit.tokens?

theorem signIns_concat (visits : List Visit) (v : Visit) :
    signIns (visits ++ [v]) = match v with
      | .signIn r _ => r.newTokens?.toList ++ signIns visits
      | .signOut _ _ => [] := by
  rw [signIns, List.reverse_append, List.reverse_singleton, List.singleton_append]
  cases v with
  | signIn r posts =>
    rw [List.takeWhile_cons_of_pos rfl, List.filterMap_cons, Visit.tokens?]
    dsimp only
    cases r.newTokens? with
    | none => rfl
    | some tokens => rfl
  | signOut r leaves => rfl

theorem Visit.token?_eq (v : Visit) : v.token? = v.tokens?.map (·.access) := by
  cases v with
  | signIn r posts => rfl
  | signOut r leaves => rfl

/-- The access token of a session is that of its last sign-in. -/
theorem sessionToken_eq (visits : List Visit) :
    sessionToken visits = (signIns visits).head?.map (·.access) := by
  have each : Visit.token? = fun v => v.tokens?.map (·.access) := funext Visit.token?_eq
  rw [sessionToken, signIns, List.head?_filterMap, each, List.map_findSome?]
  rfl

theorem issued_of_mem_signIns {visits : List Visit} {tokens : Tokens} (member : tokens ∈ signIns visits) :
    ∃ v ∈ visits, v.tokens? = some tokens := by
  obtain ⟨v, recent, issued⟩ := List.mem_filterMap.mp member
  exact ⟨v, List.mem_reverse.mp ((List.takeWhile_sublist _).subset recent), issued⟩

/-! ## The invariant -/

/-- The refresh token that a browser keeps: the last one that was issued since the last sign-out. -/
def sessionRenewal (visits : List Visit) : Option String := (signIns visits).findSome? (·.refresh)

variable {jar : Jar} {token : Option String}

/-- Signing out drops the refresh token. -/
theorem keeps_renewal_signOut (kept : jar.Keeps Cookie.refresh token) :
    (jar.receive signedOut).Keeps Cookie.refresh none := by
  have access : Cookie.access ∈ Cookie.names := by decide
  have refresh : Cookie.refresh ∈ Cookie.names := by decide
  have gone := (kept.store_expire access).store_expire refresh
  rw [if_pos rfl] at gone
  rw [Jar.receive, signedOut_cookies, List.foldl_cons, List.foldl_cons, List.foldl_nil]
  exact gone

/-- Signing in replaces the refresh token by the new one, if there is a new one. -/
theorem keeps_renewal_keep (kept : jar.Keeps Cookie.refresh token) {tokens : Tokens} (legible : tokens.access ≠ "")
    (renewable : ∀ t, tokens.refresh = some t → t ≠ "") (secure : Bool) :
    ((Cookie.keep tokens secure).foldl Jar.store jar).Keeps Cookie.refresh (tokens.refresh.or token) := by
  have access : Cookie.access ∈ Cookie.names := by decide
  have refresh : Cookie.refresh ∈ Cookie.names := by decide
  have other : Cookie.access ≠ Cookie.refresh := by decide
  have still := kept.store_set access legible secure
  rw [if_neg other] at still
  rw [Cookie.keep, List.foldl_cons]
  cases renewal : tokens.refresh with
  | none => exact still
  | some t =>
    have renewed := still.store_set refresh (renewable t renewal) secure
    rw [if_pos rfl] at renewed
    exact renewed

variable {σ : Type}

/-- One more visit leads from refresh token to refresh token. -/
theorem keeps_renewal_visit (s : Settings) (b : Backend σ) {w : World σ} {visits : List Visit}
    (kept : w.jar.Keeps Cookie.refresh (sessionRenewal visits)) (v : Visit) :
    (w.visit s b v).jar.Keeps Cookie.refresh (sessionRenewal (visits ++ [v])) := by
  rw [sessionRenewal, signIns_concat, World.jar_visit]
  cases v with
  | signOut r leaves =>
    simp only [Visit.request, respond_signOut s leaves, Dialog.run]
    exact keeps_renewal_signOut kept
  | signIn r posts =>
    simp only [Visit.request, Jar.receive, signIn_cookies s posts]
    cases signed : r.newTokens? with
    | none => exact kept
    | some tokens =>
      obtain ⟨legible, renewable⟩ := Request.newTokens_ne_empty signed
      have next : (tokens :: signIns visits).findSome? (·.refresh) = tokens.refresh.or (sessionRenewal visits) := by
        rw [List.findSome?_cons]
        cases tokens.refresh with
        | none => rfl
        | some t => rfl
      simp only [Option.toList_some, List.singleton_append, next]
      exact keeps_renewal_keep kept legible renewable _

theorem keeps_renewal_after (s : Settings) (b : Backend σ) (st : σ) (visits : List Visit) :
    (World.after s b st visits).jar.Keeps Cookie.refresh (sessionRenewal visits) := by
  induction visits using List.reverseRecOn with
  | nil => exact Jar.keeps_nil _
  | append_singleton visits v ih =>
    rw [World.after, List.foldl_append]
    exact keeps_renewal_visit s b ih v

/-! ## One sign-in, or several -/

/-- Both cookies of a jar are of one sign-in: a refresh token is kept with the access token that was
issued together with it. -/
def OfOneSignIn (jar : Jar) (visits : List Visit) : Prop :=
  ∀ renewal, (Cookie.refresh, renewal) ∈ jar → ∃ v ∈ visits, ∃ tokens, v.tokens? = some tokens ∧
    (Cookie.access, percentEncode tokens.access) ∈ jar ∧ tokens.refresh.map percentEncode = some renewal

/-- The last sign-in of a session brings a refresh token if any sign-in of it does. -/
def LastRenews (issued : List Tokens) : Prop :=
  ∀ last ∈ issued.head?, last.refresh = none → ∀ tokens ∈ issued, tokens.refresh = none

theorem LastRenews.findSome? {issued : List Tokens} (renews : LastRenews issued) :
    issued.findSome? (·.refresh) = issued.head?.bind (·.refresh) := by
  cases issued with
  | nil => rfl
  | cons last earlier =>
    cases brought : last.refresh with
    | some t => simp [brought]
    | none =>
      have none := renews last rfl brought
      simpa [brought] using fun tokens member => none tokens (List.mem_cons_of_mem _ member)

/-- A refresh token is never kept without an access token, and it is the last one of the session. Where
the last sign-in brings one if any does, it is kept with the access token that it was issued with. -/
theorem renewal_after (s : Settings) (b : Backend σ) (st : σ) (visits : List Visit) :
    (∀ renewal, (Cookie.refresh, renewal) ∈ (World.after s b st visits).jar →
      ∃ access, (Cookie.access, access) ∈ (World.after s b st visits).jar) ∧
    (∀ renewal, (Cookie.refresh, renewal) ∈ (World.after s b st visits).jar ↔
      (sessionRenewal visits).map percentEncode = some renewal) ∧
    (LastRenews (signIns visits) → OfOneSignIn (World.after s b st visits).jar visits) := by
  have kept := (keeps_renewal_after s b st visits).entries
  have access := (belongs_after s b st visits).access.entries
  rw [sessionToken_eq] at access
  have last : ∀ tokens ∈ (signIns visits).head?,
      (Cookie.access, percentEncode tokens.access) ∈ (World.after s b st visits).jar := by
    intro tokens first
    rw [access, Option.mem_def.mp first]
    rfl
  refine ⟨fun renewal member => ?_, kept, fun renews renewal member => ?_⟩
  · obtain ⟨t, found, -⟩ := Option.map_eq_some_iff.mp ((kept renewal).mp member)
    obtain ⟨tokens, issued, -⟩ := List.exists_of_findSome?_eq_some found
    obtain ⟨first, rest, list⟩ := List.exists_cons_of_ne_nil (List.ne_nil_of_mem issued)
    exact ⟨_, last first (list ▸ rfl)⟩
  · have mine := (kept renewal).mp member
    rw [sessionRenewal, renews.findSome?] at mine
    obtain ⟨t, found, coded⟩ := Option.map_eq_some_iff.mp mine
    obtain ⟨tokens, first, brought⟩ := Option.bind_eq_some_iff.mp found
    obtain ⟨v, visited, issued⟩ := issued_of_mem_signIns (List.mem_of_mem_head? first)
    exact ⟨v, visited, tokens, issued, last tokens first, by rw [brought, Option.map_some, coded]⟩

/-- A user signs in twice, each time with a refresh token. -/
def renewedTwice : List Visit := [
  .signIn (callbackPost "access_token=a1&refresh_token=r1") ⟨rfl, by decide +kernel⟩,
  .signIn (callbackPost "access_token=a2&refresh_token=r2") ⟨rfl, by decide +kernel⟩]

theorem renewal_after_renewedTwice :
    LastRenews (signIns renewedTwice) ∧ sessionRenewal renewedTwice = some "r2" ∧
      OfOneSignIn (World.after {} .lost () renewedTwice).jar renewedTwice := by
  have issued : signIns renewedTwice = [⟨"a2", some "r2"⟩, ⟨"a1", some "r1"⟩] := by decide +kernel
  have renews : LastRenews (signIns renewedTwice) := by
    rw [issued]
    intro last first none
    obtain rfl := Option.some.inj first
    contradiction
  have newest : sessionRenewal renewedTwice = some "r2" := by
    rw [sessionRenewal, issued]
    rfl
  exact ⟨renews, newest, (renewal_after {} .lost () renewedTwice).2.2 renews⟩

/-- A user signs in with a refresh token, and then another user without one. -/
def twoUsers : List Visit := [
  .signIn (callbackPost "access_token=a1&refresh_token=r1") ⟨rfl, by decide +kernel⟩,
  .signIn (callbackPost "access_token=a2") ⟨rfl, by decide +kernel⟩]

/-- The refresh token of the first of two users stays with the access token of the second one. -/
theorem refresh_token_left_behind :
    ¬ ∀ (s : Settings) (visits : List Visit), OfOneSignIn (World.after s .lost () visits).jar visits := by
  intro always
  have issued : twoUsers.filterMap Visit.tokens? = [⟨"a1", some "r1"⟩, ⟨"a2", none⟩] := by decide +kernel
  have session : signIns twoUsers = [⟨"a2", none⟩, ⟨"a1", some "r1"⟩] := by
    have stayed : twoUsers.reverse.takeWhile Visit.stays = twoUsers.reverse := rfl
    rw [signIns, stayed, List.filterMap_reverse, issued]
    rfl
  have kept := (keeps_renewal_after {} .lost () twoUsers).entries
  have access := (belongs_after {} .lost () twoUsers).access.entries
  rw [sessionRenewal, session] at kept
  rw [sessionToken_eq, session] at access
  obtain ⟨v, visited, tokens, signed, token, renewal⟩ := always {} twoUsers _ ((kept _).mpr rfl)
  have member := List.mem_filterMap.mpr ⟨v, visited, signed⟩
  rw [issued] at member
  rcases List.mem_cons.mp member with rfl | member
  · have other := percentEncode_injective (Option.some.inj ((access _).mp token))
    contradiction
  · obtain rfl := List.mem_singleton.mp member
    contradiction

end CallDesk.Web
