import CallDesk.Proofs.Json.Sound

/-! # Listings of a later backend

What a listing tells is read item by item, of one member of an object or of an array, and what a later listing tells
follows it, item by item. A page leaves out the members that it does not know, whatever they hold. A listing of
campaigns is taken whole, so that a string which is no text ends it wherever it stands.
-/

namespace CallDesk

open Text Json

/-! ## Items -/

/-- What an object gives for a field: what is read of the only member of its name, or what is usual when there is
none. -/
inductive Json.Gives {α : Type} (members : List (Option String × Json)) (name : String) (reads : Json → α → Prop)
    (usual : α) : α → Prop
  | told {v : Json} {a : α} (only : named name members = [v]) (read : reads v a) : Gives members name reads usual a
  | missing (absent : named name members = []) : Gives members name reads usual usual

/-- Records are read of the items of an array, one of each at its place. -/
inductive Json.ReadsEach {α : Type} (read : Json → Option α) : Json → List α → Prop
  | array {items : List Json} {as : List α} (each : Placewise (fun _ v a => read v = some a) items as) :
      ReadsEach read (.array items) as

theorem Json.Gives.imp {α : Type} {members : List (Option String × Json)} {name : String}
    {reads told : Json → α → Prop} {usual a : α} (gives : Gives members name reads usual a)
    (weaker : ∀ v, reads v a → told v a) : Gives members name told usual a := by
  cases gives with
  | told only read => exact .told only (weaker _ read)
  | missing absent => exact .missing absent

/-- A page as its object tells it: the calls are read of the items of one member, and each number of another. -/
inductive CallsPage.Reads : Json → CallsPage → Prop
  | object {members : List (Option String × Json)} {page : CallsPage}
      (calls : Gives members "calls" (ReadsEach Call.ofJson?) [] page.calls)
      (total : Gives members "total" (fun v n => v.uint64? = some n) 0 page.total)
      (number : Gives members "page" (fun v n => v.uint32? = some n) 1 page.page)
      (size : Gives members "page_size" (fun v n => v.uint32? = some n) 0 page.pageSize) :
      Reads (.object members) page

/-- Campaigns as their listing tells them: they are read of the items of an array, which is the listing or the only
member `campaigns` of it. -/
inductive Campaign.Reads : Json → List Campaign → Prop
  | bare {v : Json} {campaigns : List Campaign} (each : ReadsEach ofJson? v campaigns) : Reads v campaigns
  | wrapped {members : List (Option String × Json)} {v : Json} {campaigns : List Campaign}
      (only : named "campaigns" members = [v]) (each : ReadsEach ofJson? v campaigns) :
      Reads (.object members) campaigns

/-- An object is read as the array that its only member `campaigns` is. -/
theorem Campaign.wrapped?_eq_some_iff {members : List (Option String × Json)} {campaigns : List Campaign} :
    wrapped? (.object members) = some campaigns ↔ (∀ m ∈ members, m.1.isSome = true) ∧
      ∃ items, named "campaigns" members = [.array items] ∧ items.mapM ofJson? = some campaigns := by
  simp only [wrapped?, Option.bind_eq_bind, Option.bind_eq_some_iff, named?_singleton_iff]
  constructor
  · rintro ⟨fs, ⟨texts, once, rfl⟩, told⟩
    cases given : named "campaigns" members with
    | nil => simp [given, Fields.required] at told
    | cons v others =>
      rw [given, List.length_cons] at once
      obtain rfl : others = [] := List.eq_nil_of_length_eq_zero (by omega)
      rw [given, Fields.required, List.map_singleton, List.lookup_cons, BEq.rfl, Option.bind_some] at told
      cases v with
      | array items => exact ⟨texts, items, rfl, told⟩
      | null | bool | number | string | object => contradiction
  · rintro ⟨texts, items, given, told⟩
    exact ⟨_, ⟨texts, by rw [given]; rfl, rfl⟩, by rw [given]; exact told⟩

/-- The members of a campaign of this status. -/
def toldCampaign (status : String) : List (Option String × Json) := [
  (some "id", .text "k1"), (some "name", .text "Spring"), (some "status", .text status),
  (some "created_at", .text "2024-05-01T10:00:00Z")]

/-- An object with an empty listing, and a member whose string is half of a surrogate pair. -/
def surrogateBody : Bytes := utf8 "\x7b\"campaigns\":[],\"note\":\"\\ud800\"\x7d"

def surrogateMembers : List (Option String × Json) := [(some "campaigns", .array []), (some "note", .string none)]

theorem read?_surrogateBody : Json.read? surrogateBody = some (.object surrogateMembers) := by
  with_unfolding_all rfl

theorem surrogateMembers_fits : (Json.object surrogateMembers).Fits := by
  -- nothing in the object is deeper than its members, and none of it is a number
  have shallow {depth : Nat} {w : Json} (inside : Inside depth w (.object surrogateMembers)) :
      depth < maxDepth ∧ ∀ n, w ≠ .number n := by
    cases inside with
    | here => exact ⟨by decide, nofun⟩
    | member listed inner =>
      obtain rfl | rfl := by simpa only [surrogateMembers, List.mem_cons, List.not_mem_nil, or_false] using listed
      · cases inner with
        | here => exact ⟨by decide, nofun⟩
        | item listed => contradiction
      · cases inner with
        | here => exact ⟨by decide, nofun⟩
  exact ⟨fun depth w inside _ => (shallow inside).1, fun depth n inside => absurd rfl ((shallow inside).2 n)⟩

end CallDesk
