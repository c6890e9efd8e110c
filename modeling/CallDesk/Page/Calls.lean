import CallDesk.Page.Parts
import CallDesk.Pager
import CallDesk.Site

/-! # The call history

A table of calls, in the order given, and the page of the history that shows one page of them.
-/

namespace CallDesk

/-- A page of the call history. -/
structure CallHistory where
  calls : List Call
  pager : Pager

namespace Page

open Html

/-- What is shown in place of an empty table of calls. -/
def noCalls : Html :=
  emptyState "No calls yet" "Calls placed by your campaigns will appear here." []

def callRow (c : Call) : Html :=
  row [
    text c.phoneNumber,
    callBadge c.status,
    text (c.outcome.getD missing),
    text (durationText c.duration),
    text c.createdAt.minuteText,
    element "a" [.value "href" (Site.call c.id)] (text "View")]

def callTable (calls : List Call) : Html :=
  if calls.isEmpty then noCalls
  else table "table call-list" ["Phone", "Status", "Outcome", "Duration", "Date", ""]
    (calls.flatMap callRow)

/-- A link to a page of a listing, or a button without effect where there is no page. -/
def pageLink (base label : String) (page : Option UInt32) : Html :=
  match page with
  | some n => link "pagination-btn" (base ++ "?page=" ++ Text.decimal n.toNat) label
  | none => element "button" [.value "class" "pagination-btn", .flag "disabled"] (text label)

/-- The links to the pages beside the current one. -/
def pagerLinks (p : Pager) (base : String) : Html :=
  element "nav" [.value "class" "pagination", .value "aria-label" "Pagination"]
    (pageLink base "Previous" p.previous? ++
      styled "span" "pagination-info"
        (text ("Page " ++ Text.decimal p.page.toNat ++ " of " ++
          Text.decimal p.pageCount.toNat)) ++
      pageLink base "Next" p.next?)

def callHistory : View CallHistory → Html
  | .loading => spinner "Loading calls..."
  | .failed message => banner message (some ⟨Site.calls, "Retry"⟩)
  | .ready history =>
    if history.calls.isEmpty then noCalls
    else
      styled "p" "muted" (text ("Showing " ++ Text.decimal history.pager.firstItem.toNat ++ "-" ++
        Text.decimal history.pager.lastItem.toNat ++ " of " ++
        Text.decimal history.pager.total.toNat)) ++
      callTable history.calls ++ pagerLinks history.pager Site.calls

end Page

end CallDesk
