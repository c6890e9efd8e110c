import CallDesk.Proofs.Backend.Creation

/-! # Which words of a failure are told

A failure is told in the words of the backend, or else by the reason of its status. Of three members that can
explain it the first one that is a text decides: its words are told unless they are blank, and a blank text hides
the members after it. Whatever the body holds, something is told.
-/

namespace CallDesk.Backend

open Text

variable {members : List (Option String × Json)} {name other s : String} {status : Nat} {body : Bytes}

/-! ## Reasons -/

/-- Every status has a reason, also one that is not listed. -/
theorem isFilled_reason (status : Nat) : IsFilled (reason status) := by
  rw [isFilled_iff, reason]
  cases found : reasons.lookup status with
  | none => decide
  | some words =>
    obtain ⟨before, after, listed, -⟩ := List.lookup_eq_some_iff.mp found
    have member : (status, words) ∈ reasons := listed ▸ List.mem_append_right before List.mem_cons_self
    have filled : ∀ entry ∈ reasons, isBlankText entry.2 = false := by decide +kernel
    exact filled _ member

/-- A failure is always told in words. -/
theorem isFilled_failureText (status : Nat) (body : Bytes) : IsFilled (failureText status body) := by
  rw [failureText]
  cases found : explanation? body with
  | none => exact isFilled_reason status
  | some words =>
    rw [explanation?] at found
    split at found
    · contradiction
    split at found
    · have kept := (Option.filter_eq_some_iff.mp found).2
      exact isFilled_iff.mpr (by simpa using kept)
    · contradiction

/-! ## Members -/

/-- The member with a name is a text. Of several members with a name the last one counts. -/
def HasText (members : List (Option String × Json)) (name s : String) : Prop :=
  ∃ before after, members = before ++ (some name, .text s) :: after ∧ ∀ m ∈ after, m.1 ≠ some name

/-- The member with a name is a text. -/
def IsText (members : List (Option String × Json)) (name : String) : Prop := ∃ s, HasText members name s

/-- The member with a name is a text that is not blank. -/
def IsUseful (members : List (Option String × Json)) (name : String) : Prop :=
  ∃ s, HasText members name s ∧ IsFilled s

/-- Of `detail`, `message` and `error`, in this order, a name is the first one with a property. -/
inductive IsFirst (p : String → Prop) : String → Prop
  | detail (holds : p "detail") : IsFirst p "detail"
  | message (detail : ¬ p "detail") (holds : p "message") : IsFirst p "message"
  | error (detail : ¬ p "detail") (message : ¬ p "message") (holds : p "error") : IsFirst p "error"

theorem hasText_iff : ((Json.object members).member? name).bind Json.text? = some s ↔ HasText members name s := by
  simp only [Json.member?, Option.bind_eq_some_iff, Option.map_eq_some_iff, Json.text?_eq_some_iff]
  constructor
  · rintro ⟨v, ⟨⟨key, v⟩, found, rfl⟩, rfl⟩
    obtain ⟨named, after, before, shape, others⟩ := List.find?_eq_some_iff_append.mp found
    obtain rfl : key = some name := by simpa using named
    refine ⟨before.reverse, after.reverse, ?_, fun m member => ?_⟩
    · rw [← members.reverse_reverse, shape]
      simp
    · simpa using others m (List.mem_reverse.mp member)
  · rintro ⟨before, after, rfl, others⟩
    refine ⟨.text s, ⟨(some name, .text s), ?_, rfl⟩, rfl⟩
    refine List.find?_eq_some_iff_append.mpr ⟨by simp, after.reverse, before.reverse, by simp, fun m member => ?_⟩
    simpa using others m (List.mem_reverse.mp member)

theorem HasText.unique {t : String} (text : HasText members name s) (text' : HasText members name t) : s = t :=
  Option.some.inj ((hasText_iff.mpr text).symm.trans (hasText_iff.mpr text'))

theorem isText_iff : IsText members name ↔ (((Json.object members).member? name).bind Json.text?).isSome = true := by
  simp only [IsText, ← hasText_iff, Option.isSome_iff_exists]

theorem isUseful_iff : IsUseful members name ↔
    (((Json.object members).member? name).bind Json.text?).any (fun s => !isBlankText s) = true := by
  simp only [IsUseful, ← hasText_iff, Option.any_eq_true, isFilled_iff, Bool.not_eq_true']

instance : Decidable (HasText members name s) := decidable_of_iff _ hasText_iff

instance : DecidablePred (IsText members) := fun _ => decidable_of_iff _ isText_iff.symm

instance : DecidablePred (IsUseful members) := fun _ => decidable_of_iff _ isUseful_iff.symm

theorem IsUseful.isText (useful : IsUseful members name) : IsText members name := by
  obtain ⟨s, text, -⟩ := useful
  exact ⟨s, text⟩

namespace IsFirst

variable {p q : String → Prop}

theorem holds (first : IsFirst p name) : p name := by cases first <;> assumption

theorem mem (first : IsFirst p name) : name ∈ ["detail", "message", "error"] := by cases first <;> simp

theorem unique (first : IsFirst p name) (first' : IsFirst p other) : name = other := by
  cases first <;> cases first' <;> first | rfl | contradiction

theorem iff_find [DecidablePred p] : IsFirst p name ↔ ["detail", "message", "error"].find? (p ·) = some name := by
  constructor
  · rintro (detail | ⟨detail, message⟩ | ⟨detail, message, error⟩)
    · simp [detail]
    · simp [detail, message]
    · simp [detail, message, error]
  · intro found
    by_cases detail : p "detail"
    · obtain rfl : "detail" = name := by simpa [detail] using found
      exact .detail detail
    by_cases message : p "message"
    · obtain rfl : "message" = name := by simpa [detail, message] using found
      exact .message detail message
    by_cases error : p "error"
    · obtain rfl : "error" = name := by simpa [detail, message, error] using found
      exact .error detail message error
    · simp [detail, message, error] at found

instance [DecidablePred p] : Decidable (IsFirst p name) := decidable_of_iff _ iff_find.symm

/-- The first name with a property is the first one with a stronger property if it has that. -/
theorem strengthen (first : IsFirst p name) (holds : q name) (weaker : ∀ n, q n → p n) : IsFirst q name := by
  cases first with
  | detail _ => exact .detail holds
  | message detail _ => exact .message (mt (weaker _) detail) holds
  | error detail message _ => exact .error (mt (weaker _) detail) (mt (weaker _) message) holds

end IsFirst

/-- Of the explanations the first one that is found is taken. -/
theorem findSome?_explanations {f : String → Option String} :
    explanations.findSome? f = some s ↔ ∃ name, IsFirst (fun n => ∃ t, f n = some t) name ∧ f name = some s := by
  constructor
  · intro found
    rw [explanations, List.findSome?_cons] at found
    cases detail : f "detail" with
    | some t =>
      rw [detail] at found
      exact ⟨"detail", .detail ⟨t, detail⟩, detail.trans found⟩
    | none =>
      rw [detail] at found
      have undetailed : ¬ ∃ t, f "detail" = some t := by simp [detail]
      cases message : f "message" with
      | some t =>
        rw [List.findSome?_cons, message] at found
        exact ⟨"message", .message undetailed ⟨t, message⟩, message.trans found⟩
      | none =>
        rw [List.findSome?_cons, message] at found
        have unsaid : ¬ ∃ t, f "message" = some t := by simp [message]
        have error : f "error" = some s := by
          rw [List.findSome?_cons, List.findSome?_nil] at found
          cases error : f "error" <;> simp_all
        exact ⟨"error", .error undetailed unsaid ⟨s, error⟩, error⟩
  · rintro ⟨name, first, found⟩
    have absent {n : String} (none : ¬ ∃ t, f n = some t) : f n = Option.none :=
      Option.eq_none_iff_forall_ne_some.mpr fun t same => none ⟨t, same⟩
    cases first with
    | detail _ => simp [explanations, found]
    | message detail _ => simp [explanations, absent detail, found]
    | error detail message _ => simp [explanations, absent detail, absent message, found]

/-! ## Explanations -/

/-- The first text among the explanations of an object, if there is one. -/
theorem firstText_iff :
    explanations.findSome? (fun name => ((Json.object members).member? name).bind Json.text?) = some s ↔
      ∃ name, IsFirst (IsText members) name ∧ HasText members name s := by
  simp only [findSome?_explanations, hasText_iff]
  rfl

/-- What is told of a failure whose body is an object. -/
structure Explained (status : Nat) (members : List (Option String × Json)) (words : String) : Prop where
  /-- The first useful text is told when it is the first text at all. -/
  told : ∀ name s, IsFirst (IsUseful members) name → HasText members name s → IsFirst (IsText members) name → words = s
  /-- A text before it is blank, and hides it. -/
  hidden : ∀ name, IsFirst (IsUseful members) name → ¬ IsFirst (IsText members) name → words = reason status
  /-- Without a useful text the reason of the status is told. -/
  silent : (∀ name ∈ ["detail", "message", "error"], ¬ IsUseful members name) → words = reason status

/-- An object that is written has no mark before it, and is read back. -/
theorem read?_object (writable : (Json.object members).isWritable = true) :
    Json.read? (bodyText (utf8 (Json.object members).render)) = some (.object members) := by
  obtain ⟨rest, opened⟩ : ∃ rest, utf8 (Json.object members).render = 0x7B :: rest := by
    rw [Json.render, utf8_ofList, Json.chars, List.flatMap_cons]
    exact ⟨_, rfl⟩
  have bare : bodyText (utf8 (Json.object members).render) = utf8 (Json.object members).render := by
    rw [bodyText, decodeLossy_utf8]
    intro after marked
    rw [opened] at marked
    exact absurd (List.cons.inj marked).1 (by decide)
  rw [bare, Json.read?_render writable]

theorem explanation?_object (object : Json.read? (bodyText body) = some (.object members))
    (sound : (Json.object members).isSound = true) :
    explanation? body = (explanations.findSome? fun name =>
      ((Json.object members).member? name).bind Json.text?).filter fun s => !isBlankText s := by
  simp only [explanation?, object, sound, if_true]

/-- An object that the decoder takes explains a failure by its first text, unless that is blank. -/
theorem failureText_explained (object : Json.read? (bodyText body) = some (.object members))
    (sound : (Json.object members).isSound = true) : Explained status members (failureText status body) := by
  rw [failureText, explanation?_object object sound]
  cases found : explanations.findSome? fun name => ((Json.object members).member? name).bind Json.text? with
  | none =>
    have textless {name : String} : ¬ IsFirst (IsText members) name := by
      intro first
      obtain ⟨s, text⟩ := first.holds
      have text := firstText_iff.mpr ⟨name, first, text⟩
      rw [found] at text
      contradiction
    exact ⟨fun name s _ _ first => absurd first textless, fun _ _ _ => rfl, fun _ => rfl⟩
  | some t =>
    obtain ⟨name, first, text⟩ := firstText_iff.mp found
    by_cases filled : IsFilled t
    · have useful : IsFirst (IsUseful members) name := first.strengthen ⟨t, text, filled⟩ fun _ => IsUseful.isText
      have kept : (some t).filter (fun s => !isBlankText s) = some t := by
        simp [Option.filter, isFilled_iff.mp filled]
      rw [kept]
      refine ⟨fun name' s _ text' first' => ?_, fun name' useful' later => ?_, fun none => ?_⟩
      · obtain rfl := first.unique first'
        exact text.unique text'
      · obtain rfl := useful.unique useful'
        exact absurd first later
      · exact absurd useful.holds (none name useful.mem)
    · have dropped : (some t).filter (fun s => !isBlankText s) = none := by
        have blank : isBlankText t = true := by simpa [isFilled_iff] using filled
        simp [Option.filter, blank]
      rw [dropped]
      refine ⟨fun name' s useful text' first' => ?_, fun _ _ _ => rfl, fun _ => rfl⟩
      obtain rfl := first.unique first'
      obtain ⟨u, text'', filled'⟩ := useful.holds
      obtain rfl := text.unique text''
      exact absurd filled' filled

/-- An object that the decoder does not take explains nothing. -/
theorem failureText_unsound {v : Json} (read : Json.read? (bodyText body) = some v) (unsound : v.isSound = false) :
    failureText status body = reason status := by
  have none : explanation? body = Option.none := by
    simp only [explanation?, read, unsound, Bool.false_eq_true, if_false]
  rw [failureText, none]
  rfl

end CallDesk.Backend
