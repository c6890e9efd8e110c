import CallDesk.Html.Basic
import CallDesk.Settings.Basic
import CallDesk.Site

/-! # Documents

What surrounds the body of a page: the head of the document, the navigation and the link to the
assistant. Pages for guests have a bar at the top, pages of the dashboard have its sections.
-/

namespace CallDesk

/-- A section of the dashboard. -/
inductive Section where
  | overview
  | campaigns
  | calls
  | contacts
  | integrations
deriving DecidableEq

namespace Section

/-- Every section, in the order of the navigation. -/
def all : List Section := [overview, campaigns, calls, contacts, integrations]

def target : Section → String
  | overview => Site.overview
  | campaigns => Site.campaigns
  | calls => Site.calls
  | contacts => Site.contacts
  | integrations => Site.integrations

def label : Section → String
  | overview => "Overview"
  | campaigns => "Campaigns"
  | calls => "Calls"
  | contacts => "Contacts"
  | integrations => "Integrations"

end Section

/-- What surrounds the body of a page. -/
structure Shell where
  /-- The title of the page, without the name of the product. -/
  title : String
  /-- The section that the page belongs to; none for guests. -/
  place : Option Section := none
  assistant : AssistantSettings

namespace Shell

open Html

def guestBar : Html :=
  styled "header" "topbar"
    (link "brand" Site.landing "Voxdial" ++ link "btn btn-primary" Site.signIn "Sign In")

/-- The navigation of the dashboard, in which one section is active. -/
def sidebar (active : Section) : Html :=
  styled "nav" "sidebar"
    (link "brand" Site.overview "Voxdial" ++
      Section.all.flatMap (fun s =>
        link (if s = active then "nav-link active" else "nav-link") s.target s.label) ++
      link "nav-link sign-out" Site.signOut "Sign Out")

/-- The link to the assistant, when it is enabled and has an address. -/
def assistantLink (a : AssistantSettings) : Html :=
  optional (if a.enabled then a.url else none) fun url =>
    element "a" [.value "class" "assistant-widget", .value "href" url, .value "target" "_blank",
      .value "rel" "noopener", .value "aria-label" "Open assistant"] (text "?")

def head (title : String) : Html :=
  element "head" [] (newline ++ lines [
    single "meta" [.value "charset" "utf-8"],
    single "meta" [.value "name" "viewport",
      .value "content" "width=device-width, initial-scale=1"],
    plain "title" (title ++ " | Voxdial"),
    single "link" [.value "rel" "stylesheet", .value "href" "/static/app.css"],
    element "script" [.value "src" "/static/app.js", .flag "defer"] []] ++ newline)

def opening (shell : Shell) : Html :=
  lines [
    single "!DOCTYPE" [.flag "html"],
    [.start "html" [.value "lang" "en"]],
    head shell.title,
    [.start "body" []],
    match shell.place with
      | none => guestBar
      | some s => sidebar s,
    [.start "main"
      [.value "class" (if shell.place.isSome then "dashboard-main" else "public-main")]]] ++
  newline

def closing (shell : Shell) : Html :=
  newline ++ lines [
    [.stop "main"],
    assistantLink shell.assistant,
    [.stop "body"],
    [.stop "html"]]

/-- The document around the body of a page, which is markup. -/
def document (shell : Shell) (body : String) : String :=
  shell.opening.render ++ body ++ shell.closing.render

end Shell

end CallDesk
