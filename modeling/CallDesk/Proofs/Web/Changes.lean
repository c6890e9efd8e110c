import CallDesk.Proofs.Json.Messages
import CallDesk.Proofs.Web.Tour

/-! # A call history that changes while it is loaded

Calls come and go, also between the two requests of one load. Each answer is then a page of the calls that
there are at its moment. A load shows what its last answer holds. After one request that is the page asked
for. After two it is the page that was the last one at the first answer, which may be past the end of the
calls at the second one: the history is then empty although there are calls, and its pager is at a page that
was not asked for. In all other cases the calls are those of the page that the pager is at.
-/

namespace CallDesk

open Pager Text

/-! ## A backend that holds other calls at other times -/

/-- The calls that a backend holds at some moment, and how many of them make a page. -/
structure Holding where
  calls : List Call
  size : UInt32

/-- The number of pages of what is held. -/
def Holding.pages (held : Holding) : Nat := Pager.pages held.calls.length held.size.toNat

/-- A reply succeeds, and says which calls make a page of what is held. -/
def Reply.Tells (reply : Reply) (held : Holding) (page : UInt32) : Prop :=
  ∃ status body listing, reply = .answer status (some body) ∧ 200 ≤ status ∧ status < 300 ∧
    (Json.read? body).bind CallsPage.ofJson? = some listing ∧ listing.IsPage held.calls page held.size

/-- A backend answers every request for a page of the calls from those that it holds in its state. What it
holds in the state after that may be anything. -/
structure Backend.Keeps {σ : Type} (b : Backend σ) (base : String) (asked : UInt32) (held : σ → Holding) : Prop where
  positive : ∀ st, 0 < (held st).size.toNat
  tells : ∀ st (page : UInt32) q, 1 ≤ page → q.GetsCalls base page.toNat asked.toNat →
    (b.answer st q).1.Tells (held st) page

variable {σ : Type} {b : Backend σ} {c : Client} {u : Url} {held : σ → Holding} {asked page : UInt32}

namespace Client

/-- Asking for a page of the calls is one request, and gives that page of what is held. -/
theorem calls_run_keeps (ready : c.IsReady u) (keeps : b.Keeps c.base asked held) (one : 1 ≤ page) (st : σ) :
    ∃ q listing, q.GetsCalls c.base page.toNat asked.toNat ∧
      listing.IsPage (held st).calls page (held st).size ∧
      (c.calls page asked).run b st = ⟨.ok listing, [q], (b.answer st q).2⟩ := by
  obtain ⟨q, ok, gets⟩ := callsRequest_ok ready page asked
  obtain ⟨status, body, listing, reply, least, most, read, isPage⟩ := keeps.tells st page q one gets
  have sized : listing.pageSize ≠ 0 := by
    intro none
    have positive := keeps.positive st
    rw [← isPage.sized, none] at positive
    exact absurd positive (by decide)
  have taken : callsOf asked (b.answer st q).1 = .ok listing := by
    simp only [reply, callsOf, Reply.value, Reply.accept, least, most, and_self, if_true, read, Except.map, sized,
      if_false]
  refine ⟨q, listing, gets, isPage, ?_⟩
  rw [Client.calls, ok, ← taken]
  rfl

end Client

namespace CallHistory

/-! ## The last answer -/

/-- The requests of a load of a page, the page that is asked for last, and what is held when it is answered. -/
inductive LastAnswer (b : Backend σ) (held : σ → Holding) (base : String) (asked page : Nat) (st : σ) :
    List Request → Nat → Holding → Prop
  /-- The page that is asked for is there, or there are no calls. -/
  | first {q : Request} (gets : q.GetsCalls base page asked)
      (inside : (held st).calls = [] ∨ page ≤ (held st).pages) : LastAnswer b held base asked page st [q] page (held st)
  /-- The page that is asked for is past the end, so that the last page is asked for. -/
  | again {q q' : Request} (gets : q.GetsCalls base page asked) (some : (held st).calls ≠ [])
      (past : (held st).pages < page) (gets' : q'.GetsCalls base (held st).pages asked) :
      LastAnswer b held base asked page st [q, q'] (held st).pages (held (b.answer st q).2)

/-- A history is what an answer told of a page: its calls are those of the page, and its pager is at the page,
or at the last one when the page is past the end. -/
structure IsOf (history : CallHistory) (held : Holding) (page : Nat) : Prop where
  slice : history.calls = Pager.slice held.calls held.size.toNat page
  at_page : held.calls ≠ [] → history.pager.page.toNat = min page held.pages

/-- The pager of an answer counts the pages of what is held. -/
theorem toNat_pageCount_of_isPage {held : Holding} {listing : CallsPage} {some : UInt32}
    (isPage : listing.IsPage held.calls some held.size) (positive : 0 < held.size.toNat) (n : UInt32) :
    (Pager.of n listing.pageSize listing.total).pageCount.toNat = min held.pages (UInt32.size - 1) := by
  have size : max (max held.size.toNat 1) 1 = held.size.toNat := by omega
  rw [toNat_pageCount_min, Pager.of, toNat_max, UInt32.toNat_one, isPage.sized, isPage.total, size, Holding.pages]

/-- A pager of an answer that is moved into the listing is at the page, or at the last one. -/
theorem toNat_clamped_of_isPage {held : Holding} {listing : CallsPage} {some : UInt32}
    (isPage : listing.IsPage held.calls some held.size) (positive : 0 < held.size.toNat) (n : UInt32) :
    (Pager.of n listing.pageSize listing.total).clamped.page.toNat = min (max n.toNat 1) held.pages := by
  have count := toNat_pageCount_of_isPage isPage positive n
  have first : 1 ≤ held.pages := one_le_pages
  have word := n.toNat_lt
  have most : UInt32.size - 1 = 4294967295 := rfl
  rw [clamped, toNat_max, toNat_min, count, UInt32.toNat_one, Pager.of, toNat_max, UInt32.toNat_one]
  omega

/-- A load shows what its last answer told. -/
theorem load_run_keeps (ready : c.IsReady u) (keeps : b.Keeps c.base asked held) (page : UInt32) (st : σ) :
    ∃ history n last, ((load c page asked).run b st).result = .ok history ∧
      LastAnswer b held c.base asked.toNat (max page.toNat 1) st ((load c page asked).run b st).requests n last ∧
      history.IsOf last n := by
  have one : 1 ≤ max page 1 := by
    rw [UInt32.le_iff_toNat_le, toNat_max]
    exact Nat.le_max_right _ _
  have number : (max page 1).toNat = max page.toNat 1 := toNat_max page 1
  obtain ⟨q, listing, gets, isPage, run⟩ := Client.calls_run_keeps ready keeps one st
  rw [number] at gets
  have positive := keeps.positive st
  have some_iff : 0 < listing.total ↔ (held st).calls ≠ [] := by
    rw [UInt64.lt_iff_toNat_lt, isPage.total, UInt64.toNat_zero, List.length_pos_iff]
  have moved := toNat_clamped_of_isPage isPage positive page
  have moves : (Pager.of page listing.pageSize listing.total).clamped.page ≠
      (Pager.of page listing.pageSize listing.total).page ↔ (held st).pages < max page.toNat 1 := by
    have start : (Pager.of page listing.pageSize listing.total).page.toNat = max page.toNat 1 := number
    rw [Ne, ← UInt32.toNat_inj, moved, start]
    omega
  simp only [load, Dialog.run_bind, run, some_iff, moves]
  split
  · next past =>
    rw [Nat.min_eq_right (Nat.le_of_lt past.2)] at moved
    have first : 1 ≤ (held st).pages := one_le_pages
    have one' : 1 ≤ (Pager.of page listing.pageSize listing.total).clamped.page := by
      rw [UInt32.le_iff_toNat_le, moved]
      exact first
    obtain ⟨q', listing', gets', isPage', run'⟩ := Client.calls_run_keeps ready keeps one' (b.answer st q).2
    have shown := toNat_clamped_of_isPage isPage' (keeps.positive _)
      (Pager.of page listing.pageSize listing.total).clamped.page
    rw [moved] at gets' shown
    rw [Nat.max_eq_left first] at shown
    simp only [Dialog.run_map, run']
    refine ⟨_, _, _, rfl, .again gets past.1 past.2 gets', ⟨?_, fun _ => shown⟩⟩
    rw [← moved]
    exact isPage'.slice
  · next stays =>
    have inside : (held st).calls = [] ∨ max page.toNat 1 ≤ (held st).pages := by
      by_cases none : (held st).calls = []
      · exact .inl none
      · exact .inr (Nat.le_of_not_lt fun past => stays ⟨none, past⟩)
    refine ⟨_, _, _, rfl, .first gets inside, ⟨number ▸ isPage.slice, fun some => ?_⟩⟩
    rw [Nat.min_eq_left (inside.resolve_left some)]
    exact number

section

variable {history : CallHistory} {last : Holding} {n : Nat}

/-- The history of an answer has calls when its page is one of those of what is held. -/
theorem IsOf.calls_ne_nil_iff (isOf : history.IsOf last n) (positive : 0 < last.size.toNat) (some : last.calls ≠ []) :
    history.calls ≠ [] ↔ n ≤ last.pages := by
  rw [← List.length_pos_iff] at some
  rw [isOf.slice, ← List.length_pos_iff, length_slice]
  constructor
  · intro shown
    by_contra past
    rw [Holding.pages, Nat.not_le] at past
    have first : 1 ≤ Pager.pages last.calls.length last.size.toNat := one_le_pages
    have room := (pages_le_iff positive (by omega : 1 ≤ n - 1)).mp (Nat.le_pred_of_lt past)
    rw [Nat.mul_comm] at room
    omega
  · intro inside
    have before := lt_of_le_pages positive some inside
    omega

theorem LastAnswer.positive {base : String} {first : Nat} {st : σ} {requests : List Request}
    (answer : LastAnswer b held base asked.toNat first st requests n last) (keeps : b.Keeps base asked held) :
    0 < last.size.toNat := by
  cases answer <;> exact keeps.positive _

/-- The page that was asked for last is there when it was the only one that was asked for. -/
theorem LastAnswer.inside {base : String} {first : Nat} {st : σ} {requests : List Request}
    (answer : LastAnswer b held base asked.toNat first st requests n last) (single : requests.length = 1)
    (some : last.calls ≠ []) : n ≤ last.pages := by
  cases answer with
  | first gets inside => exact inside.resolve_left some
  | again gets _ past gets' => exact absurd single (by simp)

end

end CallHistory

/-! ## What is shown -/

namespace Web

open Html

/-- A history is shown as having no calls when it has none. -/
theorem callHistory_eq_noCalls_iff (history : CallHistory) :
    Page.callHistory (.ready history) = Page.noCalls ↔ history.calls = [] := by
  refine ⟨fun same => ?_, Page.callHistory_none⟩
  have rows := Page.rows_callHistory history
  rw [same] at rows
  exact List.map_eq_nil_iff.mp rows.symm

/-- However the calls change, a load gives a history. It is that of the last answer: its calls are those of the
page that was asked for last, at that moment. While there are calls, it has some and is at that page exactly when
the page is not past the end, as it never is after one request; otherwise the fragment shows that there are no
calls. -/
theorem history_of_last_answer (ready : c.IsReady u) (keeps : b.Keeps c.base asked held) (page : UInt32) (st : σ) :
    ∃ history n last, ((CallHistory.load c page asked).run b st).result = .ok history ∧
      CallHistory.LastAnswer b held c.base asked.toNat (max page.toNat 1) st
        ((CallHistory.load c page asked).run b st).requests n last ∧
      history.calls = slice last.calls last.size.toNat n ∧
      (((CallHistory.load c page asked).run b st).requests.length = 1 → last.calls ≠ [] → n ≤ last.pages) ∧
      (last.calls ≠ [] → (history.calls ≠ [] ↔ n ≤ last.pages) ∧
        history.pager.page.toNat = min n last.pages) ∧
      ∀ s headers token, client s (some token) = c → s.dashboard.callsPageSize = asked →
        (Request.get headers Site.calls).token? = some token → 1 ≤ page →
        ((respond s (.get headers (Site.callsFragment page))).run b st).result =
            .page (Page.callHistory (.ready history)).render ∧
          (last.calls ≠ [] → (Page.callHistory (.ready history) = Page.noCalls ↔ last.pages < n)) := by
  obtain ⟨history, n, last, result, answer, isOf⟩ := CallHistory.load_run_keeps ready keeps page st
  have positive := answer.positive keeps
  refine ⟨history, n, last, result, answer, isOf.slice, answer.inside, fun some => ?_, ?_⟩
  · exact ⟨isOf.calls_ne_nil_iff positive some, isOf.at_page some⟩
  · rintro s headers token rfl rfl signedIn one
    refine ⟨?_, fun some => ?_⟩
    · rw [respond_callsFragment signedIn one, Dialog.run_map, result]
      rfl
    · rw [callHistory_eq_noCalls_iff, ← Nat.not_le, ← isOf.calls_ne_nil_iff positive some, not_not]

/-! ## A call that goes away -/

/-- The page of a holding, as a backend tells it. -/
def pageOf (held : Holding) (page : UInt32) : CallsPage :=
  ⟨slice held.calls held.size.toNat page.toNat, .ofNat held.calls.length, page, held.size⟩

/-- A backend that gives the page that a query asks for, from what it holds, and then goes on to another
state. -/
def keeper (held : σ → Holding) (next : σ → σ) : Backend σ where
  answer st q :=
    let asked := ((formPairs (utf8 (q.url.query.getD ""))).lookup "page").bind (unsigned? 4294967295)
    (.answer 200 (some (Json.encode CallsPage.toJson (pageOf (held st) (.ofNat (asked.getD 0))))), next st)
  secondIsEarlier _ := false

theorem keeper_keeps {base : String} (at_base : Url.IsBase base u) (positive : ∀ st, 0 < (held st).size.toNat)
    (counted : ∀ st, (held st).calls.length < UInt64.size) (next : σ → σ) (asked : UInt32) :
    (keeper held next).Keeps base asked held := by
  refine ⟨positive, fun st page q _ gets => ?_⟩
  obtain ⟨path, at_calls⟩ := at_base.append_path (t := "calls") (by decide) (List.all_iff_forall_prop.mp (by decide))
  have url := gets.url
  rw [Client.callsAddress_eq, at_calls.read_query] at url
  have within : page.toNat ≤ 4294967295 := Nat.le_pred_of_lt page.toNat_lt
  have answer : ((keeper held next).answer st q).1 =
      .answer 200 (some (Json.encode CallsPage.toJson (pageOf (held st) page))) := by
    simp [keeper, ← Except.ok.inj url, formPairs_formLine, unsigned?_decimal within]
  rw [answer]
  exact ⟨200, _, _, rfl, by decide, by decide, CallsPage.codec.roundTrip.back _, rfl,
    UInt64.toNat_ofNat_of_lt' (counted st), rfl⟩

/-- Two calls on pages of their own, of which the second is gone after the first answer. -/
def shrinking (answered : Nat) : Holding :=
  ⟨if answered = 0 then [heldCall "a", heldCall "b"] else [heldCall "a"], 1⟩

/-- The service of a site whose pages of the history have one call. -/
def singleSettings : Settings := { dashboard := { callsPageSize := 1 } }

theorem single_isReady :
    ∃ u, (client singleSettings (some "abc")).IsReady u := by
  have base : Url.IsBase (client singleSettings (some "abc")).base
      { scheme := "http", host := "localhost", port := some 8000, path := .segments ["api", "v1"] } :=
    ⟨⟨by decide +kernel, .inl rfl, Url.visible_end (by decide +kernel)⟩, rfl, rfl⟩
  refine ⟨_, base, by decide +kernel, ?_⟩
  rintro token ⟨⟩
  decide

theorem shrinking_keeps : (keeper shrinking (· + 1)).Keeps (client singleSettings (some "abc")).base 1 shrinking := by
  obtain ⟨u, ready⟩ := single_isReady
  have positive : ∀ st, 0 < (shrinking st).size.toNat := fun _ => Nat.one_pos
  have counted : ∀ st, (shrinking st).calls.length < UInt64.size := by
    intro st
    rw [shrinking]
    split <;> decide
  exact keeper_keeps ready.base positive counted (· + 1) 1

theorem history_of_last_answer_shrinking :
    ∃ u, (client singleSettings (some "abc")).IsReady u ∧
      (keeper shrinking (· + 1)).Keeps (client singleSettings (some "abc")).base 1 shrinking ∧
      ∃ (history : CallHistory) (n : Nat) (last : Holding),
        ((CallHistory.load (client singleSettings (some "abc")) 1 1).run (keeper shrinking (· + 1)) 0).result =
          .ok history ∧
        history.calls = slice last.calls last.size.toNat n := by
  obtain ⟨u, ready⟩ := single_isReady
  obtain ⟨history, n, last, result, -, shown, -⟩ := history_of_last_answer ready shrinking_keeps 1 0
  exact ⟨u, ready, shrinking_keeps, history, n, last, result, shown⟩

/-- The second page of one call each is asked for, as the last one, when the second call is gone: there is a call,
but the history has none, is at the first page, and is shown as having no calls. -/
theorem emptied_history :
    (keeper shrinking (· + 1)).Keeps (client singleSettings (some "abc")).base 1 shrinking ∧
    ∃ history q q',
      ((CallHistory.load (client singleSettings (some "abc")) 3 1).run (keeper shrinking (· + 1)) 0).requests =
        [q, q'] ∧
      q'.GetsCalls (client singleSettings (some "abc")).base 2 1 ∧
      shrinking (((keeper shrinking (· + 1)).answer 0 q).2) = ⟨[heldCall "a"], 1⟩ ∧
      ((CallHistory.load (client singleSettings (some "abc")) 3 1).run (keeper shrinking (· + 1)) 0).result =
        .ok history ∧
      history.calls = [] ∧ history.pager.page = 1 ∧
      ((respond singleSettings (.get [("cookie", "vd_access_token=abc")] (Site.callsFragment 3))).run
        (keeper shrinking (· + 1)) 0).result = .page Page.noCalls.render := by
  obtain ⟨u, ready⟩ := single_isReady
  obtain ⟨history, n, last, result, answer, isOf⟩ := CallHistory.load_run_keeps ready shrinking_keeps 3 0
  have signedIn : (Request.get [("cookie", "vd_access_token=abc")] Site.calls).token? = some "abc" := by decide +kernel
  have three : max (UInt32.toNat 3) 1 = 3 := rfl
  have two : (shrinking 0).pages = 2 := by decide
  generalize sent : ((CallHistory.load (client singleSettings (some "abc")) 3 1).run
    (keeper shrinking (· + 1)) 0).requests = requests at answer
  rw [three] at answer
  cases answer with
  | first gets inside =>
    rw [two] at inside
    exact absurd inside (by decide)
  | @again q q' gets filled past gets' =>
    have later : ((keeper shrinking (· + 1)).answer 0 q).2 = 1 := rfl
    rw [two, later] at isOf
    rw [two] at gets'
    have none : history.calls = [] := isOf.slice
    have moved : history.pager.page.toNat = 1 := isOf.at_page (List.cons_ne_nil _ _)
    have size : singleSettings.dashboard.callsPageSize = 1 := rfl
    refine ⟨shrinking_keeps, history, q, q', rfl, gets', rfl, result, none, UInt32.toNat_inj.mp moved, ?_⟩
    rw [respond_callsFragment signedIn (by decide), Dialog.run_map, size, result, ← Page.callHistory_none none]
    rfl

end Web

end CallDesk
