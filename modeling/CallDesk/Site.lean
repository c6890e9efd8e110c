import CallDesk.Text.Digits
import CallDesk.Text.Percent

/-! # Addresses of the site

The paths that pages link to. A call's page and its fragment are addressed by the percent-encoded
id of the call, so that every id is one path segment.
-/

namespace CallDesk.Site

def landing : String := "/"

def signIn : String := "/login"

def signOut : String := "/logout"

/-- Where the page of a sign-in posts the address it was opened with. -/
def session : String := "/auth/session"

def overview : String := "/dashboard"

def campaigns : String := "/dashboard/campaigns"

def newCampaign : String := "/dashboard/campaigns/new"

def calls : String := "/dashboard/calls"

def contacts : String := "/dashboard/contacts"

def integrations : String := "/dashboard/integrations"

def call (id : String) : String := "/dashboard/calls/" ++ Text.percentEncode id

def overviewFragment : String := "/fragments/dashboard"

def campaignsFragment : String := "/fragments/campaigns"

/-- The fragment with a page of the call history. -/
def callsFragment (page : UInt32) : String :=
  "/fragments/calls?page=" ++ Text.decimal page.toNat

def callFragment (id : String) : String := "/fragments/calls/" ++ Text.percentEncode id

end CallDesk.Site
