import CallDesk.Call
import CallDesk.Campaign
import CallDesk.Html.Basic

/-! # Parts that pages share

The states of a part that waits for data, and the small parts: spinner, banner, badge, heading.
-/

namespace CallDesk

/-- What a part of a page shows. -/
inductive View (α : Type) where
  /-- The data are on their way. -/
  | loading
  /-- The data could not be had; the message is for the reader. -/
  | failed (message : String)
  /-- The data are there. -/
  | ready (data : α)

/-- The view of data that may not have been had. -/
def View.ofExcept {α : Type} : Except Fault α → View α
  | .ok a => .ready a
  | .error fault => .failed fault.userMessage

/-- A link with its label. -/
structure Action where
  target : String
  label : String
deriving DecidableEq

namespace Page

open Html

def spinner (label : String) : Html :=
  element "div" [.value "class" "loading", .value "role" "status"]
    (styled "div" "spinner" [] ++ plain "p" label)

/-- A place that the page script fills with what the address serves. Until then it shows
`placeholder`, which is markup. -/
def deferred (address placeholder : String) : String :=
  render [.start "div" [.value "class" "deferred", .value "data-fragment" address]] ++
    placeholder ++ render [.stop "div"]

/-- A message about a failure, with a link that may help. -/
def banner (message : String) (action : Option Action) : Html :=
  element "div" [.value "class" "alert alert-error", .value "role" "alert"]
    (plain "p" message ++ optional action fun a => link "btn btn-secondary" a.target a.label)

def badge (style label : String) : Html := styled "span" style (text label)

def callBadge (s : CallStatus) : Html := badge s.badgeClass s.label

def campaignBadge (s : CampaignStatus) : Html := badge s.badgeClass s.label

/-- The heading of a page, with a link to what can be done there. -/
def heading (title : String) (action : Option Action) : Html :=
  styled "div" "page-header"
    (plain "h1" title ++ optional action fun a => link "btn btn-primary" a.target a.label)

/-- What is shown in place of an empty listing. -/
def emptyState (title hint : String) (rest : Html) : Html :=
  styled "div" "empty-state" (plain "h3" title ++ plain "p" hint ++ rest)

/-- A table of a style class, with the titles of its columns. -/
def table (style : String) (titles : List String) (rows : Html) : Html :=
  styled "table" style (newline ++
    element "thead" [] (element "tr" [] (titles.flatMap (plain "th"))) ++ newline ++
    element "tbody" [] rows ++ newline)

def row (cells : List Html) : Html := element "tr" [] (cells.flatMap (element "td" []))

def counter (style value label : String) : Html :=
  styled "div" style
    (styled "span" "stat-value" (text value) ++ styled "span" "stat-label" (text label))

def card (title : String) (contents : Html) : Html :=
  styled "section" "card" (plain "h2" title ++ contents)

end Page

end CallDesk
