import CallDesk.Campaign
import CallDesk.Proofs.Text.Trimmed

/-! # The form of a campaign

A form that is normalised has no white space at the ends of its fields and no optional field that is empty, and
normalising it again changes nothing. The check of a form goes through the errors of its fields, which come in no
order: it tells the first required field that is blank, before normalising as after it, and there always is a field
to tell when there is an error.
-/

namespace CallDesk

open Text

/-! ## Errors of fields -/

namespace FieldErrors

variable {errors listed : FieldErrors}

/-- Entries with names of their own are found in any order. -/
theorem lookup_perm {β : Type} {entries others : List (String × β)} (same : others.Perm entries)
    (distinct : (entries.map (·.1)).Nodup) (name : String) : others.lookup name = entries.lookup name := by
  induction same with
  | nil => rfl
  | cons entry _ ih =>
    rw [List.map_cons, List.nodup_cons] at distinct
    rw [List.lookup_cons, List.lookup_cons, ih distinct.2]
  | swap entry other rest =>
    -- only here does it matter that the names are different
    rw [List.map_cons, List.map_cons, List.nodup_cons, List.mem_cons, not_or] at distinct
    rw [List.lookup_cons, List.lookup_cons, List.lookup_cons, List.lookup_cons]
    by_cases first : name = entry.1
    · have second : name ≠ other.1 := fun both => distinct.1.1 (first.symm.trans both)
      simp [first, beq_false_of_ne (first ▸ second)]
    · simp [beq_false_of_ne first]
  | trans first second ih ih' => rw [ih ((second.map _).nodup_iff.mpr distinct), ih' distinct]

theorem told?_perm (same : listed.Perm errors) (distinct : (errors.map (·.1)).Nodup) : listed.told? = errors.told? := by
  have found (field : String) : listed.message? field = errors.message? field := by
    rw [message?, lookup_perm same distinct, message?]
  simp only [told?, found]

/-- When some field has words, the order of the errors makes no difference. -/
theorem verdict_perm (same : listed.Perm errors) (distinct : (errors.map (·.1)).Nodup)
    (tells : errors ≠ [] → ∃ fault, errors.told? = some fault) : listed.verdict = errors.verdict := by
  by_cases none : errors = []
  · rw [none] at same
    rw [none, same.eq_nil]
  · obtain ⟨fault, told⟩ := tells none
    have more : listed ≠ [] := fun empty => none (same.symm.trans (.of_eq empty)).eq_nil
    rw [verdict, verdict, told?_perm same distinct, told, List.isEmpty_eq_false_iff.mpr more,
      List.isEmpty_eq_false_iff.mpr none]
    rfl

end FieldErrors

namespace CampaignForm

variable {form : CampaignForm}

/-! ## Normal forms -/

theorem trimmed?_trimmed? (o : Option String) : trimmed? (trimmed? o) = trimmed? o := by
  cases kept : trimmed? o with
  | none => rfl
  | some t =>
    obtain ⟨trimmed, filled⟩ := Option.filter_eq_some_iff.mp kept
    obtain ⟨s, -, rfl⟩ := Option.map_eq_some_iff.mp trimmed
    rw [trimmed?, Option.map_some, trim_trim, Option.filter_some, if_pos filled]

/-- A form that is normalised is left as it is. -/
theorem normalized_normalized (form : CampaignForm) : form.normalized.normalized = form.normalized := by
  simp only [normalized, trim_trim, trimmed?_trimmed?]

/-- An optional field that is left has something in it, and no white space at its ends. -/
theorem trimmed?_some {o : Option String} {t : String} (kept : trimmed? o = some t) : t ≠ "" ∧ IsTrimmed t := by
  obtain ⟨trimmed, filled⟩ := Option.filter_eq_some_iff.mp kept
  obtain ⟨s, -, rfl⟩ := Option.map_eq_some_iff.mp trimmed
  refine ⟨?_, isTrimmed_trim s⟩
  rintro empty
  rw [empty] at filled
  contradiction

/-! ## Checks -/

/-- The required fields have something in them besides white space. -/
structure IsFilled (form : CampaignForm) : Prop where
  name : Text.IsFilled form.name
  prompt : Text.IsFilled form.systemPrompt

/-- What a form misses: the first of its required fields that holds white space at most. -/
inductive Misses (form : CampaignForm) : Fault → Prop
  | name (blank : ¬ Text.IsFilled form.name) : Misses form (.invalid "name" "Campaign name is required")
  | prompt (filled : Text.IsFilled form.name) (blank : ¬ Text.IsFilled form.systemPrompt) :
      Misses form (.invalid "system_prompt" "System prompt is required")

theorem Misses.not_filled {fault : Fault} (misses : form.Misses fault) : ¬ form.IsFilled := by
  cases misses with
  | name blank => exact fun filled => blank filled.name
  | prompt _ blank => exact fun filled => blank filled.prompt

theorem required_of_filled {text : String} (filled : Text.IsFilled text) (message : String) :
    required text message = [] := by
  rw [required, trim_isEmpty, isFilled_iff.mp filled]
  rfl

theorem required_of_blank {text : String} (blank : ¬ Text.IsFilled text) (message : String) :
    required text message = [⟨"required", some message⟩] := by
  rw [isFilled_iff, Bool.not_eq_false] at blank
  rw [required, trim_isEmpty, blank]
  rfl

/-- The errors of a form, and what is told of them. -/
theorem errors_cases (form : CampaignForm) :
    (form.IsFilled ∧ form.errors = []) ∨
      form.errors ≠ [] ∧ ∃ fault, form.Misses fault ∧ form.errors.told? = some fault := by
  by_cases named : Text.IsFilled form.name
  · by_cases prompted : Text.IsFilled form.systemPrompt
    · refine .inl ⟨⟨named, prompted⟩, ?_⟩
      rw [errors, required_of_filled named, required_of_filled prompted]
      rfl
    · have found : form.errors = [("system_prompt", [⟨"required", some "System prompt is required"⟩])] := by
        rw [errors, required_of_filled named, required_of_blank prompted]
        rfl
      rw [found]
      exact .inr ⟨List.cons_ne_nil _ _, _, .prompt named prompted, by decide⟩
  · obtain ⟨others, found⟩ : ∃ others,
        form.errors = ("name", [⟨"required", some "Campaign name is required"⟩]) :: others := by
      rw [errors, required_of_blank named]
      exact ⟨_, rfl⟩
    rw [found]
    exact .inr ⟨List.cons_ne_nil _ _, _, .name named, rfl⟩

/-- A form passes its check when it is filled, and otherwise the check tells what it misses. -/
theorem check_cases (form : CampaignForm) :
    (form.IsFilled ∧ form.check = .ok ()) ∨ ∃ fault, form.Misses fault ∧ form.check = .error fault := by
  rw [check, FieldErrors.verdict]
  rcases form.errors_cases with ⟨filled, none⟩ | ⟨some, fault, misses, told⟩
  · exact .inl ⟨filled, by rw [none]; rfl⟩
  · refine .inr ⟨fault, misses, ?_⟩
    rw [told, List.isEmpty_eq_false_iff.mpr some]
    rfl

/-- Normalising a form changes nothing that its check looks at. -/
theorem normalized_check (form : CampaignForm) : form.normalized.check = form.check := by
  have same : form.normalized.errors = form.errors := by simp only [errors, required, normalized, trim_trim]
  rw [check, same, check]

theorem check_normalized (form : CampaignForm) :
    (form.IsFilled ∧ form.normalized.check = .ok ()) ∨
      ∃ fault, form.Misses fault ∧ form.normalized.check = .error fault := by
  rw [normalized_check]
  exact form.check_cases

/-- The names of the fields that have errors are different. -/
theorem errors_distinct (form : CampaignForm) : (form.errors.map (·.1)).Nodup := by
  refine List.Nodup.sublist (List.filter_sublist.map _) ?_
  exact (by decide : ["name", "system_prompt"].Nodup)

/-- Checking and normalising a form fit together. Normalising twice is normalising once; it leaves no white space
at the ends of a field and no optional field that is empty, and does not change what the check says. The check
passes a form whose two required fields both have something besides white space, and of any other it tells the
first one that is blank, in the words for that field; the order in which the errors of the fields come makes no
difference, and no form is told to be wrong as a whole. -/
theorem check_fits_normalized (form : CampaignForm) :
    form.normalized.normalized = form.normalized ∧
    form.normalized.check = form.check ∧
    (form.check = .ok () ↔ Text.IsFilled form.name ∧ Text.IsFilled form.systemPrompt) ∧
    (¬ Text.IsFilled form.name → form.check = .error (.invalid "name" "Campaign name is required")) ∧
    (Text.IsFilled form.name → ¬ Text.IsFilled form.systemPrompt →
      form.check = .error (.invalid "system_prompt" "System prompt is required")) ∧
    (form.errors ≠ [] → ∃ fault, form.errors.told? = some fault) ∧
    (∀ message, form.check ≠ .error (.invalid "campaign" message)) ∧
    (∀ listed : FieldErrors, listed.Perm form.errors → listed.verdict = form.check) ∧
    IsTrimmed form.normalized.name ∧ IsTrimmed form.normalized.systemPrompt ∧
    ∀ field ∈ [form.normalized.description, form.normalized.voice, form.normalized.goal], ∀ text,
      field = some text → text ≠ "" ∧ IsTrimmed text := by
  have tells : form.errors ≠ [] → ∃ fault, form.errors.told? = some fault := by
    intro some
    rcases form.errors_cases with ⟨-, none⟩ | ⟨-, fault, -, told⟩
    · exact absurd none some
    · exact ⟨fault, told⟩
  refine ⟨form.normalized_normalized, form.normalized_check, ?_, ?_, ?_, tells, ?_, ?_, isTrimmed_trim _,
    isTrimmed_trim _, ?_⟩
  · constructor
    · intro passed
      rcases form.check_cases with ⟨filled, -⟩ | ⟨fault, -, failed⟩
      · exact ⟨filled.name, filled.prompt⟩
      · exact nomatch passed.symm.trans failed
    · rintro ⟨named, prompted⟩
      rcases form.check_cases with ⟨-, passed⟩ | ⟨fault, misses, -⟩
      · exact passed
      · exact absurd ⟨named, prompted⟩ misses.not_filled
  · intro blank
    rcases form.check_cases with ⟨filled, -⟩ | ⟨fault, misses, failed⟩
    · exact absurd filled.name blank
    · cases misses with
      | name => exact failed
      | prompt named => exact absurd named blank
  · intro named blank
    rcases form.check_cases with ⟨filled, -⟩ | ⟨fault, misses, failed⟩
    · exact absurd filled.prompt blank
    · cases misses with
      | name unnamed => exact absurd named unnamed
      | prompt => exact failed
  · intro message whole
    rcases form.check_cases with ⟨-, passed⟩ | ⟨fault, misses, failed⟩
    · exact nomatch passed.symm.trans whole
    · have same := Except.error.inj (failed.symm.trans whole)
      cases misses with
      | name => exact absurd (Fault.invalid.inj same).1 (by decide)
      | prompt => exact absurd (Fault.invalid.inj same).1 (by decide)
  · intro listed same
    rw [check, FieldErrors.verdict_perm same form.errors_distinct tells]
  · intro field member text kept
    simp only [List.mem_cons, List.not_mem_nil, or_false] at member
    rcases member with rfl | rfl | rfl <;> exact trimmed?_some kept

/-- A name of one ideographic space, and a prompt of one no-break space and a line break. -/
theorem check_fits_normalized_blank :
    let form : CampaignForm := { name := "\u3000", systemPrompt := "\u00a0\n", goal := some " Renew " }
    ¬ Text.IsFilled form.name ∧ form.check = .error (.invalid "name" "Campaign name is required") ∧
      form.normalized.check = form.check ∧ form.normalized.goal = some "Renew" := by
  intro form
  have blank : ¬ Text.IsFilled form.name := by
    rw [isFilled_iff]
    decide
  exact ⟨blank, form.check_fits_normalized.2.2.2.1 blank, form.check_fits_normalized.2.1, by decide⟩

end CampaignForm

end CallDesk
