import CallDesk.Url.Reader
import CallDesk.Proofs.Text.Split

/-! # Addresses that name no user

A user is named before an `@` in the part of an address that tells its host. A text without an `@`
is therefore the address of no user, whatever else stands in it.
-/

namespace CallDesk.Url

open Text

/-! ## What a reader can give -/

section

variable {ε α β : Type} {p : β → Prop}

/-- Everything that a reader may give has a property. -/
def Gives (p : β → Prop) (x : Except ε β) : Prop := ∀ b, x = .ok b → p b

theorem gives_error (e : ε) : Gives p (.error e) := by
  intro b made
  contradiction

theorem gives_ok {b : β} (h : p b) : Gives p (.ok b : Except ε β) := by
  intro a made
  exact Except.ok.inj made ▸ h

theorem gives_bind (x : Except ε α) {f : α → Except ε β} (rest : ∀ a, Gives p (f a)) : Gives p (x >>= f) := by
  cases x with
  | error e => exact gives_error e
  | ok a => exact rest a

/-- A check that fails gives nothing. -/
theorem gives_check {c : Prop} [Decidable c] {e : ε} {f : PUnit → Except ε β} (rest : Gives p (f ⟨⟩)) :
    Gives p (if c then .error e >>= f else f ⟨⟩) := by
  split
  · exact gives_error e
  · exact rest

theorem gives_either {c : Prop} [Decidable c] (x y : Except ε α) {f : α → Except ε β}
    (rest : ∀ a, Gives p (f a)) : Gives p (if c then x >>= f else y >>= f) := by
  split
  · exact gives_bind x rest
  · exact gives_bind y rest

end

/-! ## Reading without an `@` -/

theorem cutUser_of_not_mem {authority : List Char} (plain : '@' ∉ authority) :
    cutUser authority = (none, authority) := by
  rw [cutUser, cut?_of_not_mem (List.mem_reverse.not.mpr plain)]

/-- The credentials come from before the last `@` of the authority alone. -/
theorem readAuthority_userless (scheme : String) (special : Bool) {cs : List Char}
    (query fragment : Option (List Char)) (plain : '@' ∉ cs) :
    Gives (·.credentials = none) (readAuthority scheme special cs query fragment) := by
  have whole : '@' ∉ (cs.span fun c => !(c == '/' || (special && c == '\\'))).1 := by
    rw [List.span_eq_takeWhile_dropWhile]
    exact fun member => plain ((List.takeWhile_sublist _).subset member)
  simp only [readAuthority, cutUser_of_not_mem whole]
  refine gives_check (gives_check (gives_either _ _ fun host => ?_))
  split
  · exact gives_bind _ fun port => gives_check (gives_ok rfl)
  · exact gives_bind _ fun port => gives_check (gives_ok rfl)

/-- A file has no user. -/
theorem readFile_userless (cs : List Char) (query fragment : Option (List Char)) :
    Gives (·.credentials = none) (readFile cs query fragment) := by
  simp only [readFile]
  split
  · split
    · split
      · exact gives_ok rfl
      · split
        · exact gives_ok rfl
        · exact gives_bind _ fun host => gives_ok rfl
    · exact gives_ok rfl
  · exact gives_ok rfl

/-- Everything that is looked at in an address stands in its text. -/
theorem mem_of_mem_significant {s : String} : ∀ c ∈ significant s, c ∈ s.toList := by
  intro c member
  have inner := List.mem_reverse.mp (List.mem_filter.mp member).1
  have outer := List.mem_reverse.mp ((List.dropWhile_sublist _).subset inner)
  exact (List.dropWhile_sublist _).subset outer

theorem mem_of_schemeOff? {cs rest : List Char} {scheme : String}
    (off : schemeOff? cs = some (scheme, rest)) : ∀ c ∈ rest, c ∈ cs := by
  intro c member
  rw [schemeOff?] at off
  split at off
  · contradiction
  · split at off
    · split at off
      · rename_i after
        obtain ⟨-, rfl⟩ := Prod.mk.inj (Option.some.inj off)
        apply (List.dropWhile_sublist isInScheme).subset
        rw [after]
        exact List.mem_cons_of_mem _ member
      · contradiction
    · contradiction

/-- Cutting a query or a fragment off adds nothing to the rest. -/
theorem not_mem_of_cut (sep : Char) {c : Char} {cs : List Char} (plain : c ∉ cs) :
    c ∉ (match cut? sep cs with
      | some (cs, part) => (cs, some part)
      | none => (cs, none)).1 := by
  split
  · rename_i cut
    rw [eq_append_of_cut? cut] at plain
    exact fun member => plain (List.mem_append_left _ member)
  · exact plain

/-- A text without an `@` is the address of no user. -/
theorem read_userless {s : String} (plain : '@' ∉ s.toList) : Gives (·.credentials = none) (read s) := by
  simp only [read]
  split
  · exact gives_error _
  · rename_i scheme cs off
    have rest : '@' ∉ cs := fun member => plain (mem_of_mem_significant _ (mem_of_schemeOff? off _ member))
    have noFragment := not_mem_of_cut '#' rest
    have noQuery := not_mem_of_cut '?' noFragment
    split
    · exact readFile_userless _ _ _
    · split
      · exact readAuthority_userless _ _ _ _ fun member => noQuery ((List.dropWhile_sublist _).subset member)
      · split
        · rename_i host slashes
          refine readAuthority_userless _ _ _ _ fun member => noQuery ?_
          exact slashes ▸ List.mem_cons_of_mem _ (List.mem_cons_of_mem _ member)
        · exact gives_ok rfl

end CallDesk.Url
