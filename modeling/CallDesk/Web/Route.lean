import CallDesk.Site
import CallDesk.Text.FormData

/-! # Routes

The addresses of the site, as paths are matched. A path is cut at its slashes and compared segment
by segment, before percent coding is taken away; the segment of a call's id is not empty. Any
other path has no route.
-/

namespace CallDesk.Web

open Text

/-- A route. The id of a call is kept as it stands in the path. -/
inductive Route where
  | landing
  | signIn
  | signOut
  | callback
  | session
  | overview
  | campaigns
  | newCampaign
  | calls
  | call (id : String)
  | contacts
  | integrations
  | overviewFragment
  | campaignsFragment
  | callsFragment
  | callFragment (id : String)
  | style
  | script
  | health
deriving DecidableEq

namespace Route

def fixed : List (String × Route) := [
  (Site.landing, landing),
  (Site.signIn, signIn),
  (Site.signOut, signOut),
  ("/auth/callback", callback),
  (Site.session, session),
  (Site.overview, overview),
  (Site.campaigns, campaigns),
  (Site.newCampaign, newCampaign),
  (Site.calls, calls),
  (Site.contacts, contacts),
  (Site.integrations, integrations),
  (Site.overviewFragment, overviewFragment),
  (Site.campaignsFragment, campaignsFragment),
  ("/fragments/calls", callsFragment),
  ("/static/app.css", style),
  ("/static/app.js", script),
  ("/health", health)]

/-- The id that follows a path and a slash: one segment that is not empty. -/
def idAfter? (start path : String) : Option String :=
  let start := start.toList ++ ['/']
  if start.isPrefixOf path.toList then
    let id := path.toList.drop start.length
    if id.isEmpty || id.contains '/' then none else some (.ofList id)
  else none

def of? (path : String) : Option Route :=
  match fixed.lookup path with
  | some route => some route
  | none => match idAfter? Site.calls path with
    | some id => some (call id)
    | none => (idAfter? "/fragments/calls" path).map callFragment

/-- Whether a route is for users who are signed in. -/
def isPrivate : Route → Bool
  | overview | campaigns | newCampaign | calls | call _ | contacts | integrations => true
  | overviewFragment | campaignsFragment | callsFragment | callFragment _ => true
  | _ => false

def isFragment : Route → Bool
  | overviewFragment | campaignsFragment | callsFragment | callFragment _ => true
  | _ => false

/-- The methods of a route, as a response tells them. -/
def allowed : Route → String
  | session => "POST"
  | newCampaign | contacts => "GET,HEAD,POST"
  | _ => "GET,HEAD"

end Route

/-- What a request wants of a route. -/
inductive Purpose where
  /-- To see it. -/
  | view
  /-- To see it without its body. -/
  | peek
  /-- To send it something. -/
  | submit
deriving DecidableEq

/-- What a method wants of a route, if the route has it. -/
def Route.purpose? (route : Route) (method : String) : Option Purpose :=
  if method == "GET" || method == "HEAD" then
    if route = .session then none else some (if method == "GET" then .view else .peek)
  else if method == "POST" then
    match route with
    | .session | .newCampaign | .contacts => some .submit
    | _ => none
  else none

end CallDesk.Web
