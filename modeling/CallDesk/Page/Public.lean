import CallDesk.Page.Parts
import CallDesk.Site

/-! # Pages for guests

The front page, the page of an unknown address, and the pages of a sign-in.
-/

namespace CallDesk

/-- What the page of a sign-in shows. -/
inductive SignInView where
  /-- The user is signed in. -/
  | redirecting
  /-- The user confirmed something and can sign in. -/
  | confirmed (message : String)
  /-- The sign-in failed. -/
  | failed (message : String)
deriving DecidableEq

namespace Page

open Html

/-- What the product does, in a few words each. -/
def features : List (String × String) := [
  ("AI voice agents",
    "Natural sounding agents call your leads, follow your script and handle objections."),
  ("Campaigns",
    "Group contacts, choose a voice and describe the goal. Launch when you are ready."),
  ("Transcripts and recordings",
    "Every call is recorded, transcribed and summarized so nothing gets lost."),
  ("Bulk import",
    "Upload a CSV of contacts and start calling within minutes.")]

/-- The front page, whose link leads on to the dashboard or to signing in. -/
def landing (signedIn : Bool) : Html :=
  lines [
    styled "section" "hero" (newline ++ lines [
      plain "h1" "Outbound calling, handled by AI",
      plain "p" ("Voxdial runs your calling campaigns with voice agents that sound human and " ++
        "report every conversation."),
      if signedIn then link "btn btn-primary btn-lg" Site.overview "Go to Dashboard"
      else link "btn btn-primary btn-lg" Site.signIn "Get Started"] ++ newline),
    styled "section" "features" (features.flatMap fun (title, hint) =>
      styled "div" "feature" (plain "h3" title ++ plain "p" hint))]

def notFound : Html :=
  styled "div" "empty-state"
    (plain "h1" "Page not found" ++ plain "p" "The page you are looking for does not exist." ++
      link "btn btn-primary" Site.overview "Go to dashboard")

/-- The page that a sign-in starts with, before its address was looked at. -/
def signInStart : Html :=
  element "div" [.value "class" "auth-callback", .value "data-auth-session" Site.session]
    (spinner "Signing you in...")

def signInEnd : SignInView → Html
  | .redirecting => spinner "Signed in. Redirecting to your dashboard..."
  | .confirmed message =>
    element "div" [.value "class" "alert alert-success", .value "role" "status"]
      (plain "p" message ++ styled "p" "muted" (text "Redirecting to sign in..."))
  | .failed message =>
    plain "h2" "Authentication failed" ++ banner message (some ⟨Site.signIn, "Try Again"⟩)

end Page

end CallDesk
