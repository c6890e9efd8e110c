import CallDesk.Proofs.Backend.Join
import CallDesk.Proofs.Page.Overview
import CallDesk.Proofs.Web.Rejection

/-! # Showing the overview

The fragment of the overview asks for the counters and the recent calls at the same time. What it shows is what the
two requests come to together, which their order decides only when both fail: the data of both, or one fault, and
never some of the data beside a fault.
-/

namespace CallDesk.Web

open Html

variable {c : Client} {limit : UInt32} {σ : Type}

/-- The fragment of the overview shows the overview that was loaded, or the failure. -/
theorem overviewFragment_shows {s : Settings} {r : Request} {token : String} (get : r.method = "GET")
    (signed : r.token? = some token) (path : r.path = "/fragments/dashboard") (b : Backend σ) (st : σ) :
    let load := (Overview.load (client s (some token)) s.dashboard.recentCallsLimit).run b st
    ∃ page, (respond s r).run b st =
        ⟨{ status := 200, headers := [("content-type", "text/html; charset=utf-8")], body := page }, load.requests,
          load.state⟩ ∧ ShowsOverview page (.ofExcept load.result) := by
  dsimp only
  have fetches : r.Fetches s (client s (some token)) _ Page.overview _ := .overview path
  obtain ⟨⟨html, shown, response⟩, -⟩ := fragments_show get signed fetches b st
  refine ⟨html.render, response, ?_⟩
  generalize ((Overview.load (client s (some token)) s.dashboard.recentCallsLimit).run b st).result = answer at shown
  cases shown with
  | ready data => exact Page.ready_shows data
  | signIn told => exact Page.banner_shows _ _
  | failed other blames => exact Page.banner_shows _ _

/-- The overview is what its two requests come to together, whatever the backend answers and whichever request is
done first: it is loaded if both are taken, with the counters of the one and the calls of the other; when one fails
its fault is told, in either order, and one of the two when both fail. The second request is for the first page of
the calls, with as many as are wanted. Waiting for both replies in any order ends just as the two orders do. A user
is shown the data without a fault, or a fault without any of the data. -/
theorem overview_joins (c : Client) (limit : UInt32) (b : Backend σ) (st : σ) :
    Overview.Joins (Overview.parts c limit b st).1 (Overview.parts c limit b st).2
      ((Overview.load c limit).run b st).result ∧
    (∀ order, (∀ fault fault', Overview.parts c limit b st ≠ (.error fault, .error fault')) →
      ((Overview.load c limit).run (b.ordered order) st).result = ((Overview.load c limit).run b st).result) ∧
    (∀ q q', c.summaryRequest = .ok q → c.callsRequest 1 limit = .ok q' →
      ((Overview.load c limit).run b st).requests = [q, q'] ∧ q'.GetsRecent c limit ∧
      ∀ answer, (∃ order, ((Overview.load c limit).run (b.ordered order) st).result = answer) ↔
        ∃ result, Flight.Ends (Overview.parts c limit b st).1 (Overview.parts c limit b st).2 result ∧
          result.map Overview.ofBoth = answer) ∧
    ∀ (s : Settings) (r : Request) (token : String), r.method = "GET" → r.token? = some token →
      r.path = "/fragments/dashboard" → c = client s (some token) → limit = s.dashboard.recentCallsLimit →
      ∃ page, (respond s r).run b st =
          ⟨{ status := 200, headers := [("content-type", "text/html; charset=utf-8")], body := page },
            ((Overview.load c limit).run b st).requests, ((Overview.load c limit).run b st).state⟩ ∧
        ShowsOverview page (.ofExcept ((Overview.load c limit).run b st).result) := by
  have joins := Overview.load_joins c limit b st
  refine ⟨joins, fun order one => ?_, fun q q' summaryMade callsMade => ⟨?_, ?_, fun answer => ?_⟩, ?_⟩
  · have joins' := Overview.load_joins c limit (b.ordered order) st
    rw [Overview.parts_ordered] at joins'
    exact joins.unique joins' fun fault fault' ⟨left, right⟩ => one fault fault' (Prod.ext left right)
  · rw [Overview.load_run summaryMade callsMade]
  · exact Client.callsRequest_getsRecent callsMade
  · exact Overview.load_ends_iff summaryMade callsMade b st
  · rintro s r token get signed path rfl rfl
    exact overviewFragment_shows get signed path b st

/-- A user asks for the overview. -/
def overviewRequest : Request := .get [("cookie", "vd_access_token=abc123")] Site.overviewFragment

/-- A body without any counters, and one that says why there are no calls. -/
def emptyBody : Text.Bytes := Text.utf8 (Json.object []).render

def offlineBody : Text.Bytes := Text.utf8 (Json.object [(some "detail", .text "Calls offline")]).render

def offlineReplies : List Reply := [.answer 200 (some emptyBody), .answer 500 (some offlineBody)]

theorem summaryOf_emptyBody : ∃ s, Client.summaryOf (.answer 200 (some emptyBody)) = .ok s := by
  have taken : (Client.summaryOf (.answer 200 (some emptyBody))).toOption.isSome = true := by decide +kernel
  obtain ⟨s, found⟩ := Option.isSome_iff_exists.mp taken
  exact ⟨s, ok_of_toOption found⟩

theorem callsOf_offlineBody (limit : UInt32) :
    Client.callsOf limit (.answer 500 (some offlineBody)) = .error (.refused 500 "Calls offline") := by
  have words : Backend.failureText 500 offlineBody = "Calls offline" := by decide +kernel
  have failed : (Reply.answer 500 (some offlineBody)).value "list calls" CallsPage.ofJson? =
      .error (.refused 500 "Calls offline") := by
    simp [Reply.value, Reply.accept, words]
  rw [Client.callsOf, failed]
  rfl

/-- The failure of the calls is told in both orders, and no counter beside it. -/
theorem overview_joins_offline :
    overviewRequest.method = "GET" ∧ overviewRequest.token? = some "abc123" ∧
      overviewRequest.path = "/fragments/dashboard" ∧
      (∃ q q', ((Overview.load (client {} (some "abc123")) 5).run .teller offlineReplies).requests = [q, q'] ∧
        q'.GetsRecent (client {} (some "abc123")) 5) ∧
      (∀ order,
        ((Overview.load (client {} (some "abc123")) 5).run (Backend.teller.ordered order) offlineReplies).result =
          .error (.refused 500 "Calls offline")) ∧
      ShowsOverview ((respond {} overviewRequest).run .teller offlineReplies).result.body
        (.failed "Calls offline") := by
  have signed : overviewRequest.token? = some "abc123" := by decide +kernel
  have path : overviewRequest.path = "/fragments/dashboard" := by decide +kernel
  obtain ⟨q, summaryMade⟩ : ∃ q, (client {} (some "abc123")).summaryRequest = .ok q :=
    client_makes "/dashboard/summary"
  obtain ⟨q', callsMade⟩ : ∃ q, (client {} (some "abc123")).callsRequest 1 5 = .ok q := client_makes "/calls"
  obtain ⟨joins, alike, made, shows⟩ := overview_joins (client {} (some "abc123")) 5 .teller offlineReplies
  obtain ⟨requests, recent, -⟩ := made q q' summaryMade callsMade
  obtain ⟨counters, taken⟩ := summaryOf_emptyBody
  have parts : Overview.parts (client {} (some "abc123")) 5 .teller offlineReplies =
      (.ok counters, .error (.refused 500 "Calls offline")) := by
    rw [Overview.parts_made summaryMade callsMade]
    exact Prod.ext taken (callsOf_offlineBody 5)
  have failed : ((Overview.load (client {} (some "abc123")) 5).run .teller offlineReplies).result =
      .error (.refused 500 "Calls offline") := joins.second counters _ (by rw [parts]) (by rw [parts])
  obtain ⟨page, response, shown⟩ := shows {} overviewRequest "abc123" rfl signed path rfl (by decide)
  refine ⟨rfl, signed, path, ⟨q, q', requests, recent⟩, fun order => ?_, ?_⟩
  · rw [alike order (by rw [parts]; rintro fault fault' ⟨⟩), failed]
  · rw [failed] at shown
    rw [response]
    exact shown

end CallDesk.Web
