import CallDesk.Page.Calls
import CallDesk.Summary

/-! # The overview

Usage counters and the most recent calls.
-/

namespace CallDesk

/-- What the overview shows. -/
structure Overview where
  summary : Summary
  recentCalls : List Call

namespace Page

open Html

/-- The counters of the overview, with their labels. -/
def counters (s : Summary) : List (String × String) := [
  ("Total calls", Text.decimal s.totalCalls.toNat),
  ("Answered", Text.decimal s.answeredCalls.toNat),
  ("Failed", Text.decimal s.failedCalls.toNat),
  ("Answer rate", s.answerRate.fixed 0 ++ "%"),
  ("Active campaigns", Text.decimal s.activeCampaigns.toNat),
  ("Minutes used", minutesText s.minutesUsed),
  ("Minutes remaining", minutesText s.minutesRemaining)]

def overview : View Overview → Html
  | .loading => spinner "Loading dashboard..."
  | .failed message => banner message (some ⟨Site.overview, "Retry"⟩)
  | .ready data => lines [
      styled "div" "stats-grid" ((counters data.summary).flatMap fun (label, value) =>
        counter "stat-card" value label),
      styled "section" "card" (newline ++ lines [
        styled "div" "card-header" (plain "h2" "Recent calls" ++
          element "a" [.value "href" Site.calls] (text "View all")),
        callTable data.recentCalls] ++ newline)]

end Page

end CallDesk
