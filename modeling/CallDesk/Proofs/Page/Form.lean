import CallDesk.Proofs.Markup.Fields
import CallDesk.Proofs.Web.Links

/-! # The form of a campaign

The page with the form that creates a campaign, read as a browser reads it: each input has the value that was
entered before, the area has the prompt, and the alert has the message, whatever characters they are made of.
-/

namespace CallDesk

open Html

namespace Html

theorem infix_lines {part : Html} {parts : List Html} (member : part ∈ parts) : part <:+: lines parts := by
  induction parts with
  | nil => contradiction
  | cons first rest ih =>
    cases rest with
    | nil =>
      obtain rfl := List.mem_singleton.mp member
      exact List.infix_refl _
    | cons second rest =>
      have cut : lines (first :: second :: rest) = first ++ newline ++ lines (second :: rest) := rfl
      rw [cut]
      rcases List.mem_cons.mp member with rfl | later
      · rw [List.append_assoc]
        exact (List.prefix_append _ _).isInfix
      · exact (ih later).trans (List.suffix_append _ _).isInfix

end Html

/-- A page shows a form as it was entered, and a message about it. -/
structure ShowsForm (page : String) (form : CampaignForm) (message : String) : Prop where
  name : (inputs "name" page).map unescape = [form.name.toList]
  description : (inputs "description" page).map unescape = [(form.description.getD "").toList]
  goal : (inputs "goal" page).map unescape = [(form.goal.getD "").toList]
  prompt : (areas "system_prompt" page).map unescape = [form.systemPrompt.toList]
  message : (alerts page).map unescape = [message.toList]

namespace Page

/-- The page with the form, as markup. -/
def formDocument (shell : Shell) (form : CampaignForm) (message : String) : Html :=
  shell.opening ++ campaignForm form (some message) ++ shell.closing

variable (shell : Shell) (form : CampaignForm) (message : String)

theorem formDocument_clean : (formDocument shell form message).isClean = true := by
  have opening : shell.opening.isClean = true := (Shell.opening_alike rfl).left
  have closing : shell.closing.isClean = true := (Shell.closing_alike rfl).left
  have body : (campaignForm form (some message)).isClean = true := (campaignForm_alike rfl rfl).left
  simp [formDocument, opening, closing, body]

theorem opening_values :
    shell.opening.writtenValues "name" = ["viewport".toList] ∧ shell.opening.writtenValues "role" = [] := by
  rcases shell with ⟨title, _ | place, assistant⟩ <;>
    simp +decide [Shell.opening, Shell.head, Shell.guestBar, Shell.sidebar, Section.all, styled, element, link, plain,
      single, text, newline, lines, writtenValues, Piece.readAttributes, Attribute.read?]

theorem closing_values {key : String} (known : key = "name" ∨ key = "role") : shell.closing.writtenValues key = [] := by
  rw [Shell.closing, Shell.assistantLink]
  rcases known with rfl | rfl <;>
  cases (if shell.assistant.enabled then shell.assistant.url else Option.none) <;>
    simp +decide [element, text, newline, lines, writtenValues, Piece.readAttributes, Attribute.read?]

/-- The options of the voices have no other attributes than values and a flag. -/
theorem readAttributes_voiceOptions (chosen : String) :
    (voiceOptions.flatMap (voiceOption chosen)).flatMap Piece.readAttributes =
      voiceOptions.map fun option => ("value".toList, option.1.toList) := by
  have flags (c : Prop) [Decidable c] :
      (if c then [Attribute.flag "selected"] else []).filterMap Attribute.read? = [] := by
    split <;> rfl
  have option (voice label : String) : (voiceOption chosen (voice, label)).flatMap Piece.readAttributes =
      [("value".toList, voice.toList.flatMap escapeChar)] := by
    simp +decide [voiceOption, element, text, Piece.readAttributes, Attribute.read?, flags]
  simp +decide [voiceOptions, option]

/-- Which voice is chosen is told by a flag alone. -/
theorem writtenValues_voiceChoice (key chosen : String) :
    (voiceChoice chosen).writtenValues key = (voiceChoice "alloy").writtenValues key := by
  have shape (chosen : String) : voiceChoice chosen =
      .start "select" (fieldNamed "voice") :: voiceOptions.flatMap (voiceOption chosen) ++ [.stop "select"] := rfl
  rw [shape, shape]
  simp only [writtenValues, List.flatMap_append, List.flatMap_cons, readAttributes_voiceOptions]

theorem form_names : (campaignForm form (some message)).writtenValues "name" =
    ["name", "description", "goal", "voice", "system_prompt"].map String.toList := by
  simp only [campaignForm, styled, writtenValues_lines, writtenValues_element, writtenValues_append, List.flatMap_cons,
    List.flatMap_nil, writtenValues_voiceChoice "name"]
  rfl

theorem form_roles : (campaignForm form (some message)).writtenValues "role" = ["alert".toList] := by
  simp only [campaignForm, styled, writtenValues_lines, writtenValues_element, writtenValues_append, List.flatMap_cons,
    List.flatMap_nil, writtenValues_voiceChoice "role"]
  rfl

theorem formDocument_names : (formDocument shell form message).writtenValues "name" =
    ["viewport", "name", "description", "goal", "voice", "system_prompt"].map String.toList := by
  rw [formDocument, writtenValues_append, writtenValues_append, (opening_values shell).1, form_names,
    closing_values shell (.inl rfl)]
  rfl

theorem formDocument_roles : (formDocument shell form message).writtenValues "role" = ["alert".toList] := by
  rw [formDocument, writtenValues_append, writtenValues_append, (opening_values shell).2, form_roles,
    closing_values shell (.inr rfl)]
  rfl

/-- The rows of the form. -/
def formRows (form : CampaignForm) : List Html := [
  fieldLabel "name" "Campaign name",
  textField "name" [.flag "required"] form.name,
  fieldLabel "description" "Description",
  textField "description" [] (form.description.getD ""),
  fieldLabel "goal" "Goal",
  textField "goal" [.value "placeholder" "Book a product demo"] (form.goal.getD ""),
  fieldLabel "voice" "Voice",
  voiceChoice (form.voice.getD "alloy"),
  fieldLabel "system_prompt" "System prompt",
  element "textarea" (fieldNamed "system_prompt" ++ [.value "rows" "8", .flag "required"]) (text form.systemPrompt)]

/-- The end of the form. -/
def formActions : Html :=
  styled "div" "form-actions" (newline ++ lines [
    link "btn btn-secondary" Site.campaigns "Cancel",
    element "button" [.value "class" "btn btn-primary", .value "type" "submit"] (text "Create Campaign")] ++ newline)

theorem infix_form : campaignForm form (some message) <:+: formDocument shell form message :=
  ⟨shell.opening, shell.closing, rfl⟩

/-- A row of the form is a part of its page. -/
theorem infix_row {row : Html} (member : row ∈ formRows form) : row <:+: formDocument shell form message := by
  refine List.IsInfix.trans ?_ (infix_form shell form message)
  have rows : lines (formRows form ++ [formActions]) <:+: campaignForm form (some message) :=
    List.IsInfix.trans ⟨_ :: newline, newline ++ [.stop "form"], rfl⟩
      (infix_lines (List.mem_cons_of_mem _ (List.mem_cons_of_mem _ List.mem_cons_self)))
  exact (infix_lines (List.mem_append_left _ member)).trans rows

theorem infix_banner : banner message none <:+: formDocument shell form message := by
  refine List.IsInfix.trans (infix_lines ?_) (infix_form shell form message)
  exact List.mem_cons_of_mem _ List.mem_cons_self

theorem formDocument_names_once {field : String} (known : field ∈ CampaignForm.fieldNames) :
    ((formDocument shell form message).writtenValues "name").count field.toList = 1 := by
  rw [formDocument_names]
  revert field
  decide

/-- The attributes of an input. -/
def inputAttributes (field : String) (rest : List Attribute) (entered : String) : List Attribute :=
  fieldNamed field ++ .value "type" "text" :: rest ++ [.value "value" entered]

/-- An input of the form has the value that was entered. -/
theorem formDocument_input {field : String} (known : field ∈ CampaignForm.fieldNames) (rest : List Attribute)
    {entered : String} (member : textField field rest entered ∈ formRows form)
    (named : ((inputAttributes field rest entered).filterMap Attribute.read?).lookup "name".toList = some field.toList)
    (valued : ((inputAttributes field rest entered).filterMap Attribute.read?).lookup "value".toList =
      some (entered.toList.flatMap escapeChar)) :
    (inputs field (formDocument shell form message).render).map unescape = [entered.toList] :=
  inputs_of_part (formDocument_clean shell form message) (formDocument_names_once shell form message known)
    (infix_row shell form message member) named valued

/-- The page with the form shows it as it was entered, with the message. -/
theorem formDocument_shows : ShowsForm (formDocument shell form message).render form message where
  name := formDocument_input shell form message (by decide) [.flag "required"] (by simp [formRows]) rfl rfl
  description := formDocument_input shell form message (by decide) [] (by simp [formRows]) rfl rfl
  goal := formDocument_input shell form message (by decide) [.value "placeholder" "Book a product demo"]
    (by simp [formRows]) rfl rfl
  prompt := by
    have row : element "textarea" (fieldNamed "system_prompt" ++ [.value "rows" "8", .flag "required"])
        (text form.systemPrompt) ∈ formRows form := by simp [formRows]
    exact areas_of_part (formDocument_clean shell form message)
      (formDocument_names_once shell form message (by decide)) (infix_row shell form message row) rfl
  message := by
    refine alerts_of_part (formDocument_clean shell form message) ?_ (infix_banner shell form message) rfl
    rw [formDocument_roles]
    decide

end Page

end CallDesk
