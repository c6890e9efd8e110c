import CallDesk.Page.Parts
import CallDesk.Site

/-! # Campaigns

The table of campaigns, and the form that creates one, filled with what was entered before.
-/

namespace CallDesk.Page

open Html

def campaignsHeading : Html := heading "Campaigns" (some ⟨Site.newCampaign, "New Campaign"⟩)

def campaignRow (c : Campaign) : Html :=
  row [
    element "strong" [] (text c.name) ++ single "br" [] ++
      styled "span" "muted" (text (c.description.getD "")),
    campaignBadge c.status,
    text (c.voice.getD missing),
    text (Text.decimal c.totalLeads.toNat),
    text (Text.decimal c.callsMade.toNat)]

/-- What is shown in place of an empty table of campaigns. -/
def noCampaigns : Html :=
  emptyState "No campaigns yet" "Create a campaign to start calling your contacts."
    (link "btn btn-primary" Site.newCampaign "Create Campaign")

def campaigns : View (List Campaign) → Html
  | .loading => spinner "Loading campaigns..."
  | .failed message => banner message (some ⟨Site.campaigns, "Retry"⟩)
  | .ready campaigns =>
    if campaigns.isEmpty then noCampaigns
    else table "table campaigns" ["Name", "Status", "Voice", "Leads", "Calls made"]
      (campaigns.flatMap campaignRow)

def fieldLabel (field label : String) : Html := element "label" [.value "for" field] (text label)

def fieldNamed (field : String) : List Attribute := [.value "id" field, .value "name" field]

def textField (field : String) (rest : List Attribute) (entered : String) : Html :=
  single "input" (fieldNamed field ++ .value "type" "text" :: rest ++ [.value "value" entered])

def voiceChoice (chosen : String) : Html :=
  element "select" (fieldNamed "voice") (voiceOptions.flatMap fun (voice, label) =>
    element "option" (.value "value" voice :: if voice = chosen then [.flag "selected"] else [])
      (text label))

/-- The form that creates a campaign, with an error above it. -/
def campaignForm (form : CampaignForm) (error : Option String) : Html :=
  lines [
    heading "New Campaign" none,
    optional error fun message => banner message none,
    element "form" [.value "class" "card form", .value "method" "post",
        .value "action" Site.newCampaign] (newline ++ lines [
      fieldLabel "name" "Campaign name",
      textField "name" [.flag "required"] form.name,
      fieldLabel "description" "Description",
      textField "description" [] (form.description.getD ""),
      fieldLabel "goal" "Goal",
      textField "goal" [.value "placeholder" "Book a product demo"] (form.goal.getD ""),
      fieldLabel "voice" "Voice",
      voiceChoice (form.voice.getD "alloy"),
      fieldLabel "system_prompt" "System prompt",
      element "textarea" (fieldNamed "system_prompt" ++ [.value "rows" "8", .flag "required"])
        (text form.systemPrompt),
      styled "div" "form-actions" (newline ++ lines [
        link "btn btn-secondary" Site.campaigns "Cancel",
        element "button" [.value "class" "btn btn-primary", .value "type" "submit"]
          (text "Create Campaign")] ++ newline)] ++ newline)]

end CallDesk.Page
