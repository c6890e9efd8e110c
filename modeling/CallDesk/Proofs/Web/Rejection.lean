import CallDesk.Proofs.Backend.CallDetail
import CallDesk.Proofs.Web.Fragments

/-! # When the token is not accepted

A token can be refused by any request of a fragment. The response then leads to signing in, unless it is the
transcript of a call that is refused: the page of the call is shown without it, in the words of the backend, and
the only other addresses in it are those of the calls and of the recording.
-/

namespace CallDesk

open Text

/-! ## What fragments seek -/

namespace Web

/-- What a request of a fragment seeks. -/
inductive Sought where
  | summary
  | calls
  | campaigns
  | call
  | transcript
deriving DecidableEq

/-- Whether a body holds what is sought. -/
def Sought.reads (body : Bytes) : Sought → Bool
  | summary => (Json.decode? Summary.ofJson? body).isSome
  | calls => (Json.decode? CallsPage.ofJson? body).isSome
  | campaigns => (Json.decode? Campaign.listOfJson? body).isSome
  | call => (Json.decode? Call.ofJson? body).isSome
  | transcript => (Json.decode? Transcript.ofJson? body).isSome

/-- A reply is a success that holds what is sought. -/
def Sought.IsTold (sought : Sought) (reply : Reply) : Prop :=
  ∃ status body, reply = .answer status (some body) ∧ (200 ≤ status ∧ status < 300) ∧ sought.reads body = true

/-- What the requests of a fragment seek, in their order. Of the calls and of a call the second request may not
be made. -/
def Route.seeks : Route → List Sought
  | overviewFragment => [.summary, .calls]
  | campaignsFragment => [.campaigns]
  | callsFragment => [.calls, .calls]
  | callFragment _ => [.call, .transcript]
  | _ => []

/-- Of some replies one has the status 401, and every other one holds what is sought. -/
structure Rejected (seeks : List Sought) (replies : List Reply) (n : Nat) (body : Option Bytes) : Prop where
  here : replies[n]? = some (.answer 401 body)
  others : ∀ m reply sought, m ≠ n → replies[m]? = some reply → seeks[m]? = some sought → sought.IsTold reply

namespace Rejected

variable {seeks : List Sought} {n : Nat} {body : Option Bytes} {reply first second : Reply}

theorem not_nil : ¬ Rejected seeks [] n body := fun rejected => nomatch rejected.here

theorem of_singleton (rejected : Rejected seeks [reply] n body) : n = 0 ∧ reply = .answer 401 body := by
  obtain ⟨inside, here⟩ := List.getElem?_eq_some_iff.mp rejected.here
  obtain rfl : n = 0 := by simpa using inside
  exact ⟨rfl, here⟩

/-- Of two replies either one is the one that is rejected. -/
theorem of_pair {a b : Sought} (rejected : Rejected [a, b] [first, second] n body) :
    (n = 0 ∧ first = .answer 401 body ∧ b.IsTold second) ∨ (n = 1 ∧ second = .answer 401 body ∧ a.IsTold first) := by
  obtain ⟨inside, here⟩ := List.getElem?_eq_some_iff.mp rejected.here
  obtain rfl | rfl : n = 0 ∨ n = 1 := by
    rw [List.length_cons, List.length_singleton] at inside
    omega
  · exact .inl ⟨rfl, here, rejected.others 1 second b (by decide) rfl rfl⟩
  · exact .inr ⟨rfl, here, rejected.others 0 first a (by decide) rfl rfl⟩

end Rejected

/-- The words for a token that is not accepted. -/
abbrev refusal (body : Option Bytes) : String := Backend.failureText 401 (body.getD [])

/-- What is loaded from replies of which one rejects the token fails with that one. -/
def Rejects {α : Type} (seeks : List Sought) (replies : List Reply) (answer : Except Fault α) : Prop :=
  ∀ n body, Rejected seeks replies n body → answer = .error (.unauthorized (refusal body))

end Web

open Web

/-! ## Loads -/

variable {α : Type} {c : Client} {expects : Expects α} {replies : List Reply} {answer : Except Fault α}

namespace Client

theorem Answered.rejects (answered : Answered expects replies answer) (seeks : List Sought) :
    Rejects seeks replies answer := by
  intro n body rejected
  cases answered with
  | unmade => exact absurd rejected Rejected.not_nil
  | told comes =>
    obtain ⟨-, rfl⟩ := rejected.of_singleton
    exact comes.rejected

/-- An operation that gives a value was not rejected. -/
theorem Answered.not_rejected {a : α} (answered : Answered expects replies (.ok a)) {seeks : List Sought} {n : Nat}
    {body : Option Bytes} : ¬ Rejected seeks replies n body := fun rejected =>
  nomatch answered.rejects seeks n body rejected

/-- When an operation gives a value and another one follows, it is the second one that is rejected. -/
theorem Answered.rejects_second {β : Type} {a : α} (first : Answered expects replies (.ok a)) {expects' : Expects β}
    {more : List Reply} {answer' : Except Fault β} (second : Answered expects' more answer') {x y : Sought} {n : Nat}
    {body : Option Bytes} (rejected : Rejected [x, y] (replies ++ more) n body) :
    n = 1 ∧ answer' = .error (.unauthorized (refusal body)) ∧ ∃ reply, replies = [reply] ∧ x.IsTold reply := by
  cases second with
  | unmade =>
    rw [List.append_nil] at rejected
    exact absurd rejected first.not_rejected
  | told comes' =>
    cases first with
    | told comes =>
      rcases rejected.of_pair with ⟨-, rfl, -⟩ | ⟨one, rfl, told⟩
      · exact nomatch comes.rejected
      · exact ⟨one, comes'.rejected, _, rfl, told⟩

theorem campaigns_rejects (seeks : List Sought) : c.campaigns.Ensures (Rejects seeks) :=
  Operation.campaigns.answered.imp fun _ _ answered => answered.rejects seeks

end Client

theorem CallHistory.load_rejects (page pageSize : UInt32) :
    (CallHistory.load c page pageSize).Ensures (Rejects [.calls, .calls]) := by
  refine (Client.Operation.calls _ _).answered.bind fun replies answer answered => ?_
  cases answer with
  | error fault =>
    refine .done fun n body rejected => ?_
    rw [List.append_nil] at rejected
    rw [Except.error.inj (answered.rejects _ n body rejected)]
  | ok listing =>
    dsimp only
    split
    · refine (Client.Operation.calls _ _).answered.map fun more answer again n body rejected => ?_
      obtain ⟨-, rfl, -⟩ := answered.rejects_second again rejected
      rfl
    · refine .done fun n body rejected => ?_
      rw [List.append_nil] at rejected
      exact absurd rejected answered.not_rejected

/-- The overview fails with the part that is rejected, whichever was answered first. -/
theorem Overview.load_rejects (limit : UInt32) : (Overview.load c limit).Ensures (Rejects [.summary, .calls]) := by
  rw [Overview.load]
  split
  · refine .both fun race => .done fun n body rejected => ?_
    have summary : race.first.ComesTo _ (Client.summaryOf race.first) := Reply.value_comesTo _ _ _
    have recent : race.second.ComesTo _ (Client.callsOf limit race.second) := (Reply.value_comesTo _ _ _).map _
    rcases rejected.of_pair with
      ⟨-, refused, status, text, told, success, reads⟩ | ⟨-, refused, status, text, told, success, reads⟩
    · rw [refused] at summary
      rw [told] at recent
      obtain ⟨listing, decoded⟩ := Option.isSome_iff_exists.mp reads
      have listed := recent.value success (by rw [decoded, Option.map_some])
      rw [join, refused, summary.rejected, told, listed]
    · rw [refused] at recent
      rw [told] at summary
      obtain ⟨counters, decoded⟩ := Option.isSome_iff_exists.mp reads
      rw [join, refused, recent.rejected, told, summary.value success decoded]
  · exact .done fun n body rejected => absurd rejected Rejected.not_nil
  · exact .done fun n body rejected => absurd rejected Rejected.not_nil

/-- What is loaded of a call when one of its requests is rejected: without the call nothing, and without the
transcript the call. -/
def CallDetail.Rejects (replies : List Reply) (answer : Except Fault CallDetail) : Prop :=
  ∀ n body, Rejected [.call, .transcript] replies n body →
    (n = 0 ∧ answer = .error (.unauthorized (refusal body))) ∨
    (n = 1 ∧ ∃ status text call, replies[0]? = some (.answer status (some text)) ∧
      Json.decode? Call.ofJson? text = some call ∧
      answer = .ok ⟨{ call with transcript := none }, .failed (refusal body)⟩)

theorem CallDetail.load_rejects (id : String) : (CallDetail.load c id).Ensures CallDetail.Rejects := by
  refine (Client.Operation.call _).answered.bind fun replies answer answered => ?_
  cases answer with
  | error fault =>
    refine .done fun n body rejected => .inl ⟨?_, ?_⟩
    · cases answered with
      | unmade => exact absurd rejected Rejected.not_nil
      | told => exact rejected.of_singleton.1
    · rw [List.append_nil] at rejected
      rw [Except.error.inj (answered.rejects _ n body rejected)]
  | ok call =>
    dsimp only
    split
    · refine .done fun n body rejected => ?_
      rw [List.append_nil] at rejected
      exact absurd rejected answered.not_rejected
    · refine (Client.Operation.transcript _).answered.map fun more answer again n body rejected => ?_
      obtain ⟨one, rfl, reply, rfl, status, text, rfl, success, reads⟩ := answered.rejects_second again rejected
      obtain ⟨told, decoded⟩ := Option.isSome_iff_exists.mp reads
      cases answered with
      | told comes =>
        obtain rfl := Except.ok.inj (comes.value success decoded)
        exact .inr ⟨one, status, text, call, rfl, decoded, rfl⟩

namespace Web

open Html

/-! ## Links -/

/-- The targets of the links in a page, as a browser reads them. -/
def linksOf (page : String) : List String := (valuesOf "href" page).map fun v => .ofList (unescape v)

theorem linksOf_render {h : Html} (clean : h.isClean = true) {targets : List String}
    (written : h.writtenValues "href" = targets.map fun target => target.toList.flatMap escapeChar) :
    linksOf h.render = targets := by
  rw [linksOf, valuesOf_render clean, written, List.map_map]
  refine (List.map_congr_left fun target _ => ?_).trans (List.map_id targets)
  rw [Function.comp_apply, unescape_escaped, String.ofList_toList]
  rfl

theorem linksOf_signIn (words : String) : linksOf (Page.banner words (some signInAction)).render = ["/login"] := by
  refine linksOf_render (Page.banner_alike words words rfl).left ?_
  simp +decide [Page.banner, signInAction, Site.signIn, link, plain, element, text, Html.optional, writtenValues,
    Piece.readAttributes, Attribute.read?]

/-- The page of a call without its transcript leads to the calls and to the recording, and nowhere else. -/
theorem linksOf_callDetail (call : Call) (words : String) :
    linksOf (Page.callDetail (.ready ⟨call, .failed words⟩)).render = Site.calls :: call.recordingUrl.toList := by
  have facts : writtenValues "href" (Page.callFacts call) = [] := by
    simp +decide [Page.callFacts, Page.described, Page.callBadge, Page.badge, plain, styled, element, text, newline,
      lines, writtenValues, Piece.readAttributes, Attribute.read?]
  have summary : writtenValues "href" (Html.optional call.summary fun s => Page.card "Summary" (plain "p" s)) = [] := by
    cases call.summary <;>
      simp +decide [Html.optional, Page.card, plain, styled, element, text, writtenValues, Piece.readAttributes,
        Attribute.read?]
  have recording : writtenValues "href"
      (Html.optional call.recordingUrl fun url => Page.card "Recording" (Page.player url)) =
      call.recordingUrl.toList.map fun target => target.toList.flatMap escapeChar := by
    cases call.recordingUrl <;>
      simp +decide [Html.optional, Page.card, Page.player, plain, styled, element, text, newline, lines, writtenValues,
        Piece.readAttributes, Attribute.read?, List.filterMap_cons]
  have transcript : writtenValues "href" (Page.card "Transcript" (Page.transcriptState (.failed words))) = [] := by
    simp +decide [Page.card, Page.transcriptState, Page.banner, plain, styled, element, text, Html.optional,
      writtenValues, Piece.readAttributes, Attribute.read?]
  have back : writtenValues "href" (element "a" [.value "class" "back-link", .value "href" Site.calls]
      (.named "larr" :: text " All calls")) = [Site.calls.toList.flatMap escapeChar] := by decide +kernel
  refine linksOf_render (Page.callDetail_alike rfl).left ?_
  rw [Page.callDetail, writtenValues_lines]
  simp only [List.flatMap_cons, List.flatMap_nil, writtenValues_append, facts, summary, recording, transcript, back,
    List.append_nil, List.nil_append, List.map_cons, List.singleton_append]

/-! ## Fragments -/

variable {s : Settings} {r : Request} {token : String} {route : Route} {σ : Type} {b : Backend σ} {st : σ}
  {n : Nat} {body : Option Bytes}

/-- A part of a page is private. -/
theorem respond_part (get : r.method = "GET") (signed : r.token? = some token) (found : Route.of? r.path = some route)
    (part : route.isFragment = true) : respond s r = privateRoute s (client s (some token)) r route .view := by
  have guarded : route.isPrivate = true := by cases route <;> first | rfl | contradiction
  have wanted : route.purpose? "GET" = some .view := by cases route <;> first | rfl | contradiction
  exact respond_view get signed found wanted guarded

/-- Only for a call a transcript is sought. -/
theorem Route.seeks_transcript (last : route.seeks[n]? = some .transcript) : ∃ id, route = .callFragment id := by
  cases route <;> rcases n with _ | _ | n <;> simp [seeks] at last ⊢

/-- A request for a part of a page whose parameters cannot be read asks for nothing. -/
theorem taken_asked {β : Type} {intake : Except Refusal β} (go : β → Dialog Response) {seeks : List Sought}
    (rejected : Rejected seeks ((taken intake go).replies b st) n body) :
    ∃ a, intake = .ok a := by
  cases intake with
  | ok a => exact ⟨a, rfl⟩
  | error refusal => exact absurd rejected Rejected.not_nil

/-- A load that fails because the token is not accepted is shown as the way to signing in. -/
theorem fragment_rejects {load : Answer α} {seeks : List Sought} (rejects : load.Ensures (Rejects seeks))
    (view : View α → Html) (rejected : Rejected seeks ((load.map (fragment view)).replies b st) n body) :
    ((load.map (fragment view)).run b st).result =
      .page (Page.banner (refusal body) (some signInAction)).render := by
  rw [Dialog.replies_map] at rejected
  rw [Dialog.run_map, rejects.run b st n body rejected]
  rfl

/-- The response of the fragment of a call when one of its requests is rejected. -/
theorem callFragment_rejects {c : Client} {id : String}
    (rejected : Rejected [.call, .transcript] ((callFragment c id).replies b st) n body) :
    (n = 0 ∧ ((callFragment c id).run b st).result =
      .page (Page.banner (refusal body) (some signInAction)).render) ∨
    (n = 1 ∧ ∃ status text call, ((callFragment c id).replies b st)[0]? = some (.answer status (some text)) ∧
      Json.decode? Call.ofJson? text = some call ∧
      ((callFragment c id).run b st).result = .page (Page.callDetail (.ready ⟨{ call with transcript := none },
        .failed (refusal body)⟩)).render) := by
  rw [callFragment, Dialog.replies_map] at *
  rw [Dialog.run_map]
  rcases (CallDetail.load_rejects id).run b st n body rejected with
    ⟨zero, failed⟩ | ⟨one, status, text, call, told, decoded, loaded⟩
  · rw [failed]
    exact .inl ⟨zero, rfl⟩
  · rw [loaded]
    exact .inr ⟨one, status, text, call, told, decoded, rfl⟩

/-- The response of a part of a page when one of its requests is rejected. -/
theorem privateRoute_rejects {c : Client} (part : route.isFragment = true)
    (rejected : Rejected route.seeks ((privateRoute s c r route .view).replies b st) n body) :
    (route.seeks[n]? ≠ some .transcript ∧ ((privateRoute s c r route .view).run b st).result =
      .page (Page.banner (refusal body) (some signInAction)).render) ∨
    (route.seeks[n]? = some .transcript ∧ ∃ status text call,
      ((privateRoute s c r route .view).replies b st)[0]? = some (.answer status (some text)) ∧
      Json.decode? Call.ofJson? text = some call ∧
      ((privateRoute s c r route .view).run b st).result = .page (Page.callDetail (.ready
        ⟨{ call with transcript := none }, .failed (refusal body)⟩)).render) := by
  have other (calls : ∀ id, route ≠ .callFragment id) : route.seeks[n]? ≠ some .transcript := by
    intro last
    obtain ⟨id, same⟩ := Route.seeks_transcript last
    exact calls id same
  cases route with
  | overviewFragment =>
    have shown := fragment_rejects (Overview.load_rejects s.dashboard.recentCallsLimit) Page.overview rejected
    exact .inl ⟨other (by simp), shown⟩
  | campaignsFragment =>
    have shown := fragment_rejects (Client.campaigns_rejects _) Page.campaigns rejected
    exact .inl ⟨other (by simp), shown⟩
  | callsFragment =>
    obtain ⟨page, read⟩ := taken_asked (callsFragment s c) rejected
    have served : privateRoute s c r .callsFragment .view = callsFragment s c page := by
      rw [privateRoute, read, taken]
    rw [served] at rejected ⊢
    have shown := fragment_rejects (CallHistory.load_rejects _ _) Page.callHistory rejected
    exact .inl ⟨other (by simp), shown⟩
  | callFragment segment =>
    obtain ⟨id, read⟩ := taken_asked (callFragment c) rejected
    have served : privateRoute s c r (.callFragment segment) .view = callFragment c id := by
      rw [privateRoute, read, taken]
    rw [served] at rejected ⊢
    rcases callFragment_rejects rejected with ⟨rfl, shown⟩ | ⟨rfl, shown⟩
    · exact .inl ⟨by simp [Route.seeks], shown⟩
    · exact .inr ⟨rfl, shown⟩
  | _ => contradiction

/-- A token that is not accepted leads to signing in, whichever request of a fragment is told so, unless it is the
one for a transcript. The page is then that of the call, with the words of the backend in place of the transcript,
and it leads to signing in only if the recording of the call does. -/
theorem rejected_token_leads_to_signIn (get : r.method = "GET") (signed : r.token? = some token)
    (found : Route.of? r.path = some route) (part : route.isFragment = true)
    (rejected : Rejected route.seeks ((respond s r).replies b st) n body) :
    (route.seeks[n]? ≠ some .transcript →
      ((respond s r).run b st).result =
        .page (Page.banner (refusal body) (some ⟨"/login", "Sign In"⟩)).render ∧
      linksOf ((respond s r).run b st).result.body = ["/login"]) ∧
    (route.seeks[n]? = some .transcript → ∃ status text call,
      ((respond s r).replies b st)[0]? = some (.answer status (some text)) ∧
      Json.decode? Call.ofJson? text = some call ∧
      ((respond s r).run b st).result = .page (Page.callDetail (.ready ⟨{ call with transcript := none },
        .failed (refusal body)⟩)).render ∧
      ("/login" ∈ linksOf ((respond s r).run b st).result.body ↔ call.recordingUrl = some "/login")) := by
  rw [respond_part get signed found part] at rejected ⊢
  rcases privateRoute_rejects part rejected with ⟨other, shown⟩ | ⟨last, status, text, call, told, decoded, shown⟩
  · refine ⟨fun _ => ⟨shown, ?_⟩, fun last => absurd last other⟩
    rw [shown]
    exact linksOf_signIn _
  · refine ⟨fun other => absurd last other, fun _ => ⟨status, text, call, told, decoded, shown, ?_⟩⟩
    have elsewhere : "/login" ≠ Site.calls := by decide
    rw [shown, Response.page, linksOf_callDetail, List.mem_cons, or_iff_right elsewhere, Option.mem_toList]

theorem client_makes {verb : Verb} (path : String) {query : Option String} {payload : Payload} :
    ∃ q, (client {} (some "abc123")).request verb path query payload = .ok q := by
  have legal : ∀ t, some "abc123" = some t → isHeaderText t = true := by
    rintro t ⟨⟩
    decide
  exact (Client.addresses_iff legal).mp (Client.addresses_localhost (some "abc123") path)

theorem rejected_token_leads_to_signIn_campaigns :
    campaignsRequest.token? = some "abc123" ∧
      Rejected Route.campaignsFragment.seeks ((respond {} campaignsRequest).replies .teller [.answer 401 none]) 0
        none ∧
      linksOf ((respond {} campaignsRequest).run .teller [.answer 401 none]).result.body = ["/login"] := by
  have signed : campaignsRequest.token? = some "abc123" := by decide +kernel
  have found : Route.of? campaignsRequest.path = some .campaignsFragment := by decide +kernel
  obtain ⟨q, made⟩ := client_makes "/campaigns"
  have told : (respond {} campaignsRequest).replies .teller [.answer 401 none] = [.answer 401 none] := by
    rw [respond_part rfl signed found rfl, privateRoute, campaignsFragment, Dialog.replies_map]
    exact Client.Operation.campaigns.replies_made made .teller [.answer 401 none]
  have rejected : Rejected [.campaigns] ((respond {} campaignsRequest).replies .teller [.answer 401 none]) 0 none := by
    rw [told]
    refine ⟨rfl, fun m reply sought other at_m => ?_⟩
    obtain ⟨inside, -⟩ := List.getElem?_eq_some_iff.mp at_m
    exact absurd (by simpa using inside) other
  exact ⟨signed, rejected, ((rejected_token_leads_to_signIn rfl signed found rfl rejected).1 (by decide)).2⟩

/-- A request for the fragment of a call. -/
def callRequest : Request := .get [("cookie", "vd_access_token=abc123")] (Site.callFragment "c1")

/-- The body of a refusal of the token. -/
def expiredBody : Bytes := utf8 (Json.object [(some "detail", .text "Token expired")]).render

/-- A call without a transcript, for which the token is refused. -/
def expiredReplies : List Reply :=
  [.answer 200 (some (Json.encode Call.toJson CallDetail.bareCall)), .answer 401 (some expiredBody)]

/-- When the token is refused for a transcript only, the page of the call does not lead to signing in. -/
theorem rejected_transcript_hides_signIn :
    callRequest.method = "GET" ∧ callRequest.token? = some "abc123" ∧
      Route.of? callRequest.path = some (.callFragment "c1") ∧
      Rejected (Route.callFragment "c1").seeks ((respond {} callRequest).replies .teller expiredReplies) 1
        (some expiredBody) ∧
      "/login" ∉ linksOf ((respond {} callRequest).run .teller expiredReplies).result.body := by
  have signed : (Request.get [("cookie", "vd_access_token=abc123")] Site.calls).token? = some "abc123" := by
    decide +kernel
  have served : respond {} callRequest = callFragment (client {} (some "abc123")) "c1" :=
    respond_callFragment signed (by decide)
  obtain ⟨q, made⟩ := client_makes ("/calls/" ++ percentEncode "c1")
  obtain ⟨q', made'⟩ := client_makes ("/calls/" ++ percentEncode "c1" ++ "/transcript")
  have told : (callFragment (client {} (some "abc123")) "c1").replies .teller expiredReplies = expiredReplies := by
    rw [callFragment, Dialog.replies_map, CallDetail.load_replies made made' (CallDetail.call_bareCall made rfl) rfl]
    rfl
  have decoded := Call.codec.roundTrip.back CallDetail.bareCall
  have rejected : Rejected [.call, .transcript]
      ((callFragment (client {} (some "abc123")) "c1").replies .teller expiredReplies) 1 (some expiredBody) := by
    rw [told]
    refine ⟨rfl, fun m reply sought other at_m seeks => ?_⟩
    obtain rfl : m = 0 := by
      have inside : m < 2 := (List.getElem?_eq_some_iff.mp at_m).1
      omega
    obtain rfl := Option.some.inj at_m
    obtain rfl := Option.some.inj seeks
    exact ⟨200, _, rfl, by decide, by rw [Sought.reads, decoded]; rfl⟩
  rw [served]
  refine ⟨rfl, signed, by decide +kernel, rejected, ?_⟩
  rcases callFragment_rejects rejected with ⟨zero, -⟩ | ⟨-, status, text, call, first, decoded', shown⟩
  · exact absurd zero (by decide)
  · have here : expiredReplies[0]? = some (.answer 200 (some (Json.encode Call.toJson CallDetail.bareCall))) := rfl
    rw [told, here] at first
    have same := Reply.answer.inj (Option.some.inj first)
    obtain rfl := Option.some.inj same.2
    obtain rfl := Option.some.inj (decoded.symm.trans decoded')
    rw [shown, Response.page, linksOf_callDetail]
    decide

end Web

end CallDesk
