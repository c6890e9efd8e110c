import CallDesk.Proofs.Backend.Operation
import CallDesk.Proofs.Json.Listings

/-! # Both forms of a listing of campaigns

A backend lists its campaigns as an array, or as an object that has the array as its member `campaigns`. The
object may have other members, of which nothing is read. It is taken whole all the same, so that both forms come to
the same only when nothing in the object is beyond what can be held: as long as the array and the other members
are nested in the limits and have numbers within the doubles and strings that are texts, the other members cannot
be told from none.
-/

namespace CallDesk

open Text

namespace Campaign

/-- An object that is no more than can be held is read as the array that it has. -/
theorem listOfJson?_of_named {members : List (Option String × Json)} {items : List Json}
    (only : Json.named "campaigns" members = [.array items]) (fits : (Json.object members).Fits)
    (text : (Json.object members).IsText) :
    listOfJson? (.object members) = items.mapM ofJson? ∧ listOfJson? (.array items) = items.mapM ofJson? := by
  have sound : (Json.object members).isSound = true := Json.isSound_iff.mpr ⟨fits, text⟩
  have inside : (Json.array items).isSound = true := by
    refine Json.isSound_of_member (m := (some "campaigns", .array items)) (Json.mem_named.mp ?_) sound
    rw [only]
    exact List.mem_singleton_self _
  rw [listOfJson?_object, listOfJson?_array, if_pos sound, if_pos inside]
  refine ⟨Option.ext fun campaigns => wrapped?_eq_some_iff.trans ?_, rfl⟩
  simp only [only, List.cons.injEq, Json.array.injEq, and_true, exists_eq_left']
  exact and_iff_right (text.names 0 members (.here _))

/-- An object that has no array as its only member `campaigns` is never read. -/
theorem listOfJson?_of_other {members : List (Option String × Json)}
    (other : ∀ items, Json.named "campaigns" members ≠ [.array items]) : listOfJson? (.object members) = none := by
  rw [listOfJson?_object]
  split
  · rw [Option.eq_none_iff_forall_ne_some]
    intro campaigns told
    obtain ⟨-, items, only, -⟩ := wrapped?_eq_some_iff.mp told
    exact other items only
  · rfl

end Campaign

/-- A backend answers a request with success, and the body is a value. -/
def Backend.Tells {σ : Type} (b : Backend σ) (st : σ) (q : Request) (v : Json) : Prop :=
  ∃ status body, (200 ≤ status ∧ status < 300) ∧ (b.answer st q).1 = .answer status (some body) ∧
    Json.read? body = some v

namespace Client

variable {c : Client} {q : Request} {σ τ : Type} {b : Backend σ} {b' : Backend τ} {st : σ} {st' : τ}

/-- A value that is told is read as a listing, or else it is not understood. -/
theorem campaigns_told (made : c.request .get "/campaigns" none .none = .ok q) {v : Json} (told : b.Tells st q v) :
    (c.campaigns.run b st).result = match Campaign.listOfJson? v with
      | some campaigns => .ok campaigns
      | none => .error (.undecodable ("unexpected answer to " ++ "list campaigns")) := by
  obtain ⟨status, body, success, answered, read⟩ := told
  rw [campaigns, made, send]
  simp only [Dialog.run, answered, Reply.value, Reply.accept, if_pos success, read, Option.bind_some]
  cases Campaign.listOfJson? v <;> rfl

/-- An object that is within the limits, whose strings are texts and which has an array as its only member
`campaigns`, is listed as the array alone is: each item is read by itself, and all of them are listed at their
places, or the answer is not understood because one of them is not. Any other object is not understood, whatever
its limits. -/
theorem forms_listed_alike (made : c.request .get "/campaigns" none .none = .ok q)
    {members : List (Option String × Json)} (object : b.Tells st q (.object members)) :
    (∀ items, Json.named "campaigns" members = [.array items] → (Json.object members).Fits →
      (Json.object members).IsText → b'.Tells st' q (.array items) →
      (c.campaigns.run b st).result = (c.campaigns.run b' st').result ∧
      (∀ campaigns, (c.campaigns.run b st).result = .ok campaigns ↔
        Placewise (fun _ v campaign => Campaign.ofJson? v = some campaign) items campaigns) ∧
      ((∃ detail, (c.campaigns.run b st).result = .error (.undecodable detail)) ↔
        ∃ v ∈ items, Campaign.ofJson? v = none)) ∧
    ((∀ items, Json.named "campaigns" members ≠ [.array items]) →
      ∃ detail, (c.campaigns.run b st).result = .error (.undecodable detail)) := by
  constructor
  · intro items only fits text array
    obtain ⟨wrapped, bare⟩ := Campaign.listOfJson?_of_named only fits text
    have here := campaigns_told made object
    have there := campaigns_told made array
    rw [wrapped] at here
    rw [bare] at there
    refine ⟨here.trans there.symm, fun campaigns => ?_, ?_⟩
    · rw [here, ← Placewise.mapM_eq_some_iff]
      cases items.mapM Campaign.ofJson? with
      | none => simp
      | some found => simp
    · rw [here, ← Placewise.mapM_eq_none_iff]
      cases items.mapM Campaign.ofJson? with
      | none => simp
      | some found => simp
  · intro other
    have here := campaigns_told made object
    rw [Campaign.listOfJson?_of_other other] at here
    exact ⟨_, here⟩

/-- The items of a listing, and the members of an object that has it, among others. -/
def listedItems : List Json := [.object (toldCampaign "paused")]

def listedMembers : List (Option String × Json) :=
  [(some "total", .nat 1), (some "campaigns", .array listedItems), (some "next", .null)]

/-- A reply whose body is a value. -/
def telling (v : Json) : List Reply := [.answer 200 (some (utf8 v.render))]

theorem teller_tells {v : Json} (writable : v.isWritable = true) (q : Request) :
    Backend.teller.Tells (telling v) q v :=
  ⟨200, utf8 v.render, by decide, rfl, Json.read?_render writable⟩

theorem forms_listed_alike_total :
    Json.named "campaigns" listedMembers = [.array listedItems] ∧ (Json.object listedMembers).Fits ∧
      (Json.object listedMembers).IsText ∧
      (localClient.campaigns.run .teller (telling (.object listedMembers))).result =
        (localClient.campaigns.run .teller (telling (.array listedItems))).result ∧
      (∃ campaigns, (localClient.campaigns.run .teller (telling (.object listedMembers))).result = .ok campaigns) ∧
      ∃ detail, (localClient.campaigns.run .teller (telling (.object []))).result = .error (.undecodable detail) := by
  obtain ⟨q, made⟩ : ∃ q, localClient.request .get "/campaigns" none .none = .ok q := localClient_makes "/campaigns"
  have only : Json.named "campaigns" listedMembers = [.array listedItems] := by
    simp [Json.named, listedMembers]
  obtain ⟨fits, text⟩ := Json.isSound_iff.mp (by decide +kernel : (Json.object listedMembers).isSound = true)
  have object : Backend.teller.Tells (telling (.object listedMembers)) q _ := teller_tells (by decide +kernel) q
  have array : Backend.teller.Tells (telling (.array listedItems)) q _ := teller_tells (by decide +kernel) q
  have empty : Backend.teller.Tells (telling (.object [])) q _ := teller_tells (by decide +kernel) q
  obtain ⟨same, listed, -⟩ := (forms_listed_alike made object).1 listedItems only fits text array
  obtain ⟨-, other⟩ := @forms_listed_alike _ _ _ (List Reply) _ .teller _ [] made _ empty
  refine ⟨only, fits, text, same, ?_, other fun _ given => List.cons_ne_nil _ _ given.symm⟩
  have each : (listedItems.mapM Campaign.ofJson?).isSome = true := by decide +kernel
  obtain ⟨campaigns, found⟩ := Option.isSome_iff_exists.mp each
  exact ⟨campaigns, (listed campaigns).mpr (Placewise.mapM_eq_some_iff.mp found)⟩

/-- A string that is no text keeps an object from being listed that is within all limits, though nothing is read of
the member whose value the string is. -/
theorem surrogate_parts_forms :
    Json.read? surrogateBody = some (.object surrogateMembers) ∧
      Json.named "campaigns" surrogateMembers = [.array []] ∧ (Json.object surrogateMembers).Fits ∧
      (localClient.campaigns.run .teller (telling (.array []))).result = .ok [] ∧
      ∃ detail, (localClient.campaigns.run .teller [.answer 200 (some surrogateBody)]).result =
        .error (.undecodable detail) := by
  obtain ⟨q, made⟩ : ∃ q, localClient.request .get "/campaigns" none .none = .ok q := localClient_makes "/campaigns"
  have array : Backend.teller.Tells (telling (.array [])) q _ := teller_tells rfl q
  have object : Backend.teller.Tells [.answer 200 (some surrogateBody)] q _ :=
    ⟨200, _, by decide, rfl, read?_surrogateBody⟩
  exact ⟨read?_surrogateBody, rfl, surrogateMembers_fits, campaigns_told made array, _, campaigns_told made object⟩

end Client

end CallDesk
