import CallDesk.Proofs.Backend.Listing
import CallDesk.Proofs.Json.Writer
import CallDesk.Proofs.Page.Rows
import CallDesk.Web.Service

/-! # Going through the call history

A reader opens a page of the call history and follows its links. The page at an address is filled by what a
second address serves, which loads the page of the calls that the first address asks for. From the first page
the links to the next page lead through all the calls, in order and each once, to the last page; the links to
the previous page lead back in the same way.
-/

namespace CallDesk.Web

open Html Pager Text

/-! ## Addresses of pages -/

/-- The request for an address, with the headers of a browser. -/
def Request.get (headers : List (String × String)) (address : String) : Request :=
  { method := "GET", target := address, headers }

section

variable {base : String}

/-- The address of a request is cut where its form data start. -/
theorem get_formLine (headers : List (String × String)) (plain : '?' ∉ base.toList ∧ '#' ∉ base.toList)
    (pairs : List (String × String)) :
    (Request.get headers (base ++ "?" ++ formLine pairs)).path = base ∧
      (Request.get headers (base ++ "?" ++ formLine pairs)).query = formLine pairs := by
  have whole : (base ++ "?" ++ formLine pairs).toList = base.toList ++ '?' :: (formLine pairs).toList := by simp
  have fragmentless : ∀ c ∈ base.toList ++ '?' :: (formLine pairs).toList, (c != '#') = true := by
    intro c member
    apply bne_iff_ne.mpr
    rintro rfl
    rcases List.mem_append.mp member with inside | rest
    · exact plain.2 inside
    rcases List.mem_cons.mp rest with same | form
    · exact absurd same (by decide)
    · rcases mem_formLine form with same | same | same <;> exact absurd same (by decide)
  have queryless : ∀ c ∈ base.toList, (c != '?') = true := by
    intro c member
    apply bne_iff_ne.mpr
    rintro rfl
    exact plain.1 member
  have chars : (Request.get headers (base ++ "?" ++ formLine pairs)).targetChars =
      base.toList ++ '?' :: (formLine pairs).toList := by
    rw [Request.targetChars, Request.get, whole]
    exact List.takeWhile_eq_self_iff.mpr fragmentless
  constructor
  · rw [Request.path, chars, List.takeWhile_append_of_pos queryless, List.takeWhile_cons_of_neg (by simp),
      List.append_nil, String.ofList_toList]
  · rw [Request.query, chars, List.dropWhile_append_of_pos queryless, List.dropWhile_cons_of_neg (by simp),
      List.drop_one, List.tail_cons, String.ofList_toList]

theorem pageAddress_eq (base : String) (n : Nat) :
    Page.pageAddress base n = base ++ "?" ++ formLine [("page", decimal n)] := by
  rw [← String.toList_inj, Page.pageAddress]
  simp only [String.toList_append, toList_formLine, List.map_cons, List.map_nil, List.intercalate_singleton]
  rw [formPart_decimal (List.all_iff_forall_prop.mp (by decide))]
  simp

/-- The address of a page has the path of the listing, and asks for that page. -/
theorem get_pageAddress (headers : List (String × String)) (plain : '?' ∉ base.toList ∧ '#' ∉ base.toList)
    (n : UInt32) :
    (Request.get headers (Page.pageAddress base n.toNat)).path = base ∧
      (Request.get headers (Page.pageAddress base n.toNat)).page = .ok (some n) := by
  obtain ⟨path, query⟩ := get_formLine headers plain [("page", decimal n.toNat)]
  have within : n.toNat ≤ 4294967295 := Nat.le_pred_of_lt n.toNat_lt
  rw [pageAddress_eq]
  refine ⟨path, ?_⟩
  rw [Request.page, query, formPairs_formLine]
  simp [unsigned?_decimal within]

end

/-! ## What is shown at an address -/

/-- The page at an address has a place that a second address fills. -/
def Defers (s : Settings) (headers : List (String × String)) (address filler : String) : Prop :=
  ∃ before placeholder after, respond s (.get headers address) =
    .done (.page (before ++ Page.deferred filler placeholder ++ after))

/-- The page at an address is filled with a page of the call history, once the backend has been asked. -/
def Shows {σ : Type} (s : Settings) (headers : List (String × String)) (b : Backend σ) (st : σ) (address : String)
    (html : Html) (st' : σ) : Prop :=
  ∃ filler history, Defers s headers address filler ∧ html = Page.callHistory (.ready history) ∧
    ((respond s (.get headers filler)).run b st).result = .page html.render ∧
    ((respond s (.get headers filler)).run b st).state = st'

/-- The pages that are shown from an address on when the links with a label are followed until there is none,
and the address of the last one. -/
inductive Tour {σ : Type} (s : Settings) (headers : List (String × String)) (b : Backend σ) (label : String) :
    σ → String → List Html → String → Prop
  | stop {st st' : σ} {address : String} {html : Html} (shown : Shows s headers b st address html st')
      (none : html.linkTo? label = none) : Tour s headers b label st address [html] address
  | go {st st' : σ} {address next last : String} {html : Html} {pages : List Html}
      (shown : Shows s headers b st address html st') (link : html.linkTo? label = some next)
      (rest : Tour s headers b label st' next pages last) : Tour s headers b label st address (html :: pages) last

section

variable {s : Settings} {headers : List (String × String)} {token : String}

/-- A user who is signed in sees a private route. -/
theorem respond_view {r : Request} {route : Route} (get : r.method = "GET") (signedIn : r.token? = some token)
    (found : Route.of? r.path = some route) (wanted : route.purpose? "GET" = some .view)
    (guarded : route.isPrivate = true) : respond s r = privateRoute s (client s (some token)) r route .view := by
  simp only [respond, found, get, wanted, routed, guarded, signedIn, if_true]

theorem respond_private {address : String} {route : Route}
    (signedIn : (Request.get headers Site.calls).token? = some token)
    (found : Route.of? (Request.get headers address).path = some route) (wanted : route.purpose? "GET" = some .view)
    (guarded : route.isPrivate = true) :
    respond s (.get headers address) =
      privateRoute s (client s (some token)) (.get headers address) route .view :=
  respond_view rfl signedIn found wanted guarded

/-- The page of the call history is filled by the fragment for the same page. -/
theorem defers_calls (signedIn : (Request.get headers Site.calls).token? = some token) {n : UInt32} (one : 1 ≤ n) :
    Defers s headers (Page.pageAddress Site.calls n.toNat) (Site.callsFragment n) := by
  have plain : '?' ∉ Site.calls.toList ∧ '#' ∉ Site.calls.toList := by decide
  obtain ⟨path, page⟩ := get_pageAddress headers plain n
  have found : Route.of? (Request.get headers (Page.pageAddress Site.calls n.toNat)).path = some .calls := by
    rw [path]
    decide +kernel
  have asked := requested_some one
  rw [Defers, respond_private signedIn found rfl rfl, privateRoute, page, taken, callsPage, dashboardPage,
    Shell.document, asked, ← String.append_assoc]
  exact ⟨_, _, _, rfl⟩

/-- The fragment of the call history loads the page that its address asks for. -/
theorem respond_callsFragment (signedIn : (Request.get headers Site.calls).token? = some token) {n : UInt32}
    (one : 1 ≤ n) :
    respond s (.get headers (Site.callsFragment n)) =
      (CallHistory.load (client s (some token)) n s.dashboard.callsPageSize).map (fragment Page.callHistory) := by
  have filler : Site.callsFragment n = Page.pageAddress "/fragments/calls" n.toNat := by
    have joined : "/fragments/calls?page=" = "/fragments/calls" ++ "?page=" := by decide +kernel
    rw [Page.pageAddress, ← joined]
    rfl
  have plain : '?' ∉ "/fragments/calls".toList ∧ '#' ∉ "/fragments/calls".toList := by decide
  obtain ⟨path, page⟩ := get_pageAddress headers plain n
  have found : Route.of? (Request.get headers (Page.pageAddress "/fragments/calls" n.toNat)).path =
      some .callsFragment := by
    rw [path]
    decide +kernel
  have asked := requested_some one
  rw [filler, respond_private signedIn found rfl rfl]
  simp only [privateRoute, page, taken, callsFragment, asked]

end

/-! ## Pages of a list of calls -/

/-- What a page of a list of calls shows. -/
def historyPage (calls : List Call) (size : UInt32) (page : Nat) : Html :=
  Page.callHistory (.ready (.ofPage calls size page))

section

variable {σ : Type} {b : Backend σ} {c : Client} {size : UInt32} {calls : List Call} {u : Url} {page : Nat}

theorem rows_historyPage (calls : List Call) (size : UInt32) (page : Nat) :
    (historyPage calls size page).rows = (slice calls size.toNat page).map Page.callRow :=
  Page.rows_callHistory _

/-- Without calls, there is the first page alone, which shows that there are none. -/
theorem historyPage_none (none : calls.length = 0) : historyPage calls size page = Page.noCalls := by
  apply Page.callHistory_none
  rw [CallHistory.ofPage, List.eq_nil_of_length_eq_zero none, slice_nil]

/-- Every page but the last leads to the next one. -/
theorem linkTo?_next_historyPage (reaches : c.Reaches b size calls u) (one : 1 ≤ page)
    (inside : page ≤ pages calls.length size.toNat) :
    (historyPage calls size page).linkTo? "Next" =
      if page < pages calls.length size.toNat then some (Page.pageAddress Site.calls (page + 1)) else none := by
  rcases Nat.eq_zero_or_pos calls.length with none | some
  · rw [none, pages_zero] at inside ⊢
    rw [historyPage_none none, Page.linkTo?_noCalls, if_neg (by omega)]
  · have at_page := CallHistory.ofPage_at reaches one inside
    rw [historyPage, Page.linkTo?_next (at_page.calls_ne_nil some), at_page.counts.next]
    exact apply_ite (Option.map _) _ _ _

/-- Every page but the first leads to the previous one. -/
theorem linkTo?_previous_historyPage (reaches : c.Reaches b size calls u) (one : 1 ≤ page)
    (inside : page ≤ pages calls.length size.toNat) :
    (historyPage calls size page).linkTo? "Previous" =
      if 1 < page then some (Page.pageAddress Site.calls (page - 1)) else none := by
  rcases Nat.eq_zero_or_pos calls.length with none | some
  · rw [none, pages_zero] at inside
    rw [historyPage_none none, Page.linkTo?_noCalls, if_neg (by omega)]
  · have at_page := CallHistory.ofPage_at reaches one inside
    rw [historyPage, Page.linkTo?_previous (at_page.calls_ne_nil some), at_page.counts.previous]
    exact apply_ite (Option.map _) _ _ _

/-- The rows of the pages from one on are those of the calls that are left. -/
theorem flatMap_rows (reaches : c.Reaches b size calls u) (more : Nat) (one : 1 ≤ page)
    (total : page + more = pages calls.length size.toNat + 1) :
    ((List.range' page more).map (historyPage calls size)).flatMap rows =
      (calls.drop ((page - 1) * size.toNat)).map Page.callRow := by
  induction more generalizing page with
  | zero =>
    rw [show page - 1 = pages calls.length size.toNat by omega, drop_pages reaches.positive]
    rfl
  | succ more ih =>
    rw [List.range'_succ, List.map_cons, List.flatMap_cons, ih (by omega) (by omega), rows_historyPage,
      Nat.add_sub_cancel, ← List.map_append, slice_append one]

end

/-! ## Tours -/

section

variable {σ : Type} {b : Backend σ} {s : Settings} {headers : List (String × String)} {token : String}
variable {calls : List Call} {u : Url}

/-- The page at the address of a page of the calls shows that page. -/
theorem shows_page (reaches : (client s (some token)).Reaches b s.dashboard.callsPageSize calls u)
    (signedIn : (Request.get headers Site.calls).token? = some token) {page : Nat} (one : 1 ≤ page)
    (inside : page ≤ pages calls.length s.dashboard.callsPageSize.toNat) (st : σ) :
    ∃ st', Shows s headers b st (Page.pageAddress Site.calls page)
      (historyPage calls s.dashboard.callsPageSize page) st' := by
  obtain ⟨n, rfl⟩ : ∃ n : UInt32, n.toNat = page :=
    ⟨_, (CallHistory.ofPage_at reaches one inside).counts.at_page⟩
  have first : 1 ≤ n := UInt32.le_iff_toNat_le.mpr one
  obtain ⟨history, result, -, empty, filled⟩ := CallHistory.load_run reaches n st
  rw [Nat.max_eq_left one, Nat.min_eq_left inside] at filled
  have shown : Page.callHistory (.ready history) = historyPage calls s.dashboard.callsPageSize n.toNat := by
    -- Without calls the pager is not shown, and nothing is known of the one that was loaded.
    rcases Nat.eq_zero_or_pos calls.length with none | some
    · rw [historyPage_none none, Page.callHistory_none (empty none)]
    · rw [(filled some).eq_ofPage, historyPage]
  refine ⟨_, Site.callsFragment n, _, defers_calls signedIn first, rfl, ?_, rfl⟩
  rw [respond_callsFragment signedIn first, Dialog.run_map, result, ← shown]
  rfl

/-- From any page on, the links to the next page lead through all the pages that are left. -/
theorem tour_next (reaches : (client s (some token)).Reaches b s.dashboard.callsPageSize calls u)
    (signedIn : (Request.get headers Site.calls).token? = some token) (more : Nat) {page : Nat} (one : 1 ≤ page)
    (total : page + more = pages calls.length s.dashboard.callsPageSize.toNat) (st : σ) :
    Tour s headers b "Next" st (Page.pageAddress Site.calls page)
      ((List.range' page (more + 1)).map (historyPage calls s.dashboard.callsPageSize))
      (Page.pageAddress Site.calls (pages calls.length s.dashboard.callsPageSize.toNat)) := by
  -- By the number of pages that are left; the backend may change its state at each of them.
  induction more generalizing page st with
  | zero =>
    obtain ⟨st', shown⟩ := shows_page reaches signedIn one (Nat.le_of_eq total) st
    have link := linkTo?_next_historyPage reaches one (Nat.le_of_eq total)
    rw [if_neg (by omega)] at link
    rw [← total]
    exact .stop shown link
  | succ more ih =>
    obtain ⟨st', shown⟩ := shows_page reaches signedIn one (by omega) st
    have link := linkTo?_next_historyPage reaches one (by omega)
    rw [if_pos (by omega)] at link
    rw [List.range'_succ, List.map_cons]
    exact .go shown link (ih (by omega) (by omega) st')

/-- From any page on, the links to the previous page lead back through the pages before it. -/
theorem tour_previous (reaches : (client s (some token)).Reaches b s.dashboard.callsPageSize calls u)
    (signedIn : (Request.get headers Site.calls).token? = some token) (fewer : Nat)
    (inside : fewer + 1 ≤ pages calls.length s.dashboard.callsPageSize.toNat) (st : σ) :
    Tour s headers b "Previous" st (Page.pageAddress Site.calls (fewer + 1))
      ((List.range' 1 (fewer + 1)).reverse.map (historyPage calls s.dashboard.callsPageSize))
      (Page.pageAddress Site.calls 1) := by
  induction fewer generalizing st with
  | zero =>
    obtain ⟨st', shown⟩ := shows_page reaches signedIn (Nat.le_refl 1) inside st
    have link := linkTo?_previous_historyPage reaches (Nat.le_refl 1) inside
    rw [if_neg (by omega)] at link
    exact .stop shown link
  | succ fewer ih =>
    obtain ⟨st', shown⟩ := shows_page reaches signedIn (Nat.le_add_left 1 _) inside st
    have link := linkTo?_previous_historyPage reaches (Nat.le_add_left 1 _) inside
    rw [if_pos (by omega)] at link
    rw [List.range'_concat, List.reverse_append, List.reverse_singleton, List.singleton_append, List.map_cons,
      Nat.one_mul, Nat.add_comm 1]
    exact .go shown link (ih (by omega) st')

/-- Paging loses no call and repeats none. Loading a page asks for it, and for the last page when it is past the
end, and gives the page asked for or the last one, which says truly which calls it shows. The links to the next
page lead from the first page through the rows of all the calls to the last page, and those to the previous page
lead back. -/
theorem history_complete {c : Client} {size : UInt32} (reaches : c.Reaches b size calls u) :
    (∀ (page : UInt32) (st : σ), ∃ history,
      ((CallHistory.load c page size).run b st).result = .ok history ∧
      List.Forall₂ (fun n q => q.GetsCalls c.base n size.toNat)
        (CallHistory.visited (max page.toNat 1) calls.length size.toNat)
        ((CallHistory.load c page size).run b st).requests ∧
      (0 < calls.length → ∃ shown, shown = min (max page.toNat 1) (pages calls.length size.toNat) ∧
        history.At calls shown size.toNat ∧ history.pager.pageCount.toNat = pages calls.length size.toNat ∧
        Page.Presents (Page.callHistory (.ready history)) calls
          ((shown - 1) * size.toNat + 1) (min (shown * size.toNat) calls.length))) ∧
    (∀ s headers token, client s (some token) = c → s.dashboard.callsPageSize = size →
      (Request.get headers Site.calls).token? = some token → ∀ st : σ, ∃ shown : List Html,
        Tour s headers b "Next" st (Page.pageAddress Site.calls 1) shown
          (Page.pageAddress Site.calls (pages calls.length size.toNat)) ∧
        shown.length = pages calls.length size.toNat ∧
        shown.flatMap rows = calls.map Page.callRow ∧
        ∀ st' : σ, Tour s headers b "Previous" st'
          (Page.pageAddress Site.calls (pages calls.length size.toNat)) shown.reverse
          (Page.pageAddress Site.calls 1)) := by
  constructor
  · intro page st
    obtain ⟨history, result, requests, -, filled⟩ := CallHistory.load_run reaches page st
    refine ⟨history, result, requests, fun some => ⟨_, rfl, filled some, ?_, ?_⟩⟩
    · exact (filled some).counts.toNat_pageCount
    · exact Page.presents_of_at (filled some) some
  · rintro s headers token rfl rfl signedIn st
    obtain ⟨more, count⟩ : ∃ more, pages calls.length s.dashboard.callsPageSize.toNat = more + 1 :=
      Nat.exists_eq_add_of_le' one_le_pages
    refine ⟨(List.range' 1 (more + 1)).map (historyPage calls s.dashboard.callsPageSize), ?_, ?_, ?_, ?_⟩
    · exact tour_next reaches signedIn more (Nat.le_refl 1) (by omega) st
    · rw [List.length_map, List.length_range', count]
    · rw [flatMap_rows reaches (more + 1) (Nat.le_refl 1) (by omega), Nat.sub_self, Nat.zero_mul, List.drop_zero]
    · intro st'
      rw [count, ← List.map_reverse]
      exact tour_previous reaches signedIn more (by omega) st'

end

/-! ## A history of three calls -/

/-- A call of a backend that holds three. -/
def heldCall (id : String) : Call :=
  { id, phoneNumber := "+15550100", status := .busy, duration := some 125
    createdAt := ⟨⟨2024, 5, 1, by decide⟩, 43200, 0, by decide⟩ }

def heldCalls : List Call := [heldCall "a", heldCall "b", heldCall "c"]

/-- A page of at most two of the three calls, of which only the first tells its size. -/
def heldPage (n : Nat) : Json :=
  .record ([("calls", .list Call.toJson (slice heldCalls 2 n)), ("total", .nat 3)] ++
    if n = 1 then [("page_size", .nat 2)] else [])

/-- A backend that gives the page that a query asks for. -/
def holder : Backend Unit where
  answer st q :=
    let asked := ((formPairs (utf8 (q.url.query.getD ""))).lookup "page").bind (unsigned? 4294967295)
    (.answer 200 (some (utf8 (heldPage (asked.getD 0)).render)), st)
  secondIsEarlier _ := false

theorem heldPage_brings {n : UInt32} (one : 1 ≤ n) :
    (Reply.answer 200 (some (utf8 (heldPage n.toNat).render))).Brings heldCalls n 2 := by
  have first : 1 ≤ n.toNat := UInt32.le_iff_toNat_le.mp one
  have cases : n.toNat = 1 ∨ n.toNat = 2 ∨ 3 ≤ n.toNat := by omega
  have read {v : Json} (writable : v.isWritable = true) {page : CallsPage} (told : CallsPage.ofJson? v = some page) :
      (Json.read? (utf8 v.render)).bind CallsPage.ofJson? = some page := by
    rw [Json.read?_render writable, Option.bind_some, told]
  rw [Reply.Brings]
  rcases cases with same | same | more
  · rw [same]
    exact ⟨200, _, ⟨slice heldCalls 2 1, 3, 1, 2⟩, rfl, by decide, by decide,
      read (by decide +kernel) (by decide +kernel), rfl, rfl, .inl rfl⟩
  · rw [same]
    exact ⟨200, _, ⟨slice heldCalls 2 2, 3, 1, 0⟩, rfl, by decide, by decide,
      read (by decide +kernel) (by decide +kernel), rfl, rfl, .inr rfl⟩
  · have none : slice heldCalls 2 n.toNat = [] := by
      have short : heldCalls.length ≤ (n.toNat - 1) * 2 := by
        have three : heldCalls.length = 3 := rfl
        omega
      rw [slice, List.drop_eq_nil_of_le short, List.take_nil]
    rw [heldPage, none, if_neg (by omega)]
    exact ⟨200, _, ⟨[], 3, 1, 0⟩, rfl, by decide, by decide, read (by decide +kernel) (by decide +kernel), none.symm,
      rfl, .inr rfl⟩

/-- The service of a site whose pages of the history have two calls. -/
def pairSettings : Settings := { dashboard := { callsPageSize := 2 } }

theorem holder_reached :
    ∃ u, (client pairSettings (some "abc")).Reaches holder 2 heldCalls u := by
  have base : Url.IsBase (client pairSettings (some "abc")).base
      { scheme := "http", host := "localhost", port := some 8000, path := .segments ["api", "v1"] } :=
    ⟨⟨by decide +kernel, .inl rfl, Url.visible_end (by decide +kernel)⟩, rfl, rfl⟩
  refine ⟨_, base, by decide +kernel, ?_, ?_, by decide, by decide⟩
  · rintro token ⟨⟩
    decide
  · intro st page q one gets
    obtain ⟨path, base⟩ := base.append_path (t := "calls") (by decide) (List.all_iff_forall_prop.mp (by decide))
    have url := gets.url
    rw [Client.callsAddress_eq, base.read_query] at url
    have within : page.toNat ≤ 4294967295 := Nat.le_pred_of_lt page.toNat_lt
    have answer : (holder.answer st q).1 = .answer 200 (some (utf8 (heldPage page.toNat).render)) := by
      simp [holder, ← Except.ok.inj url, formPairs_formLine, unsigned?_decimal within]
    rw [answer]
    exact heldPage_brings one

theorem history_complete_held :
    ∃ u, (client pairSettings (some "abc")).Reaches holder 2 heldCalls u ∧
      ∃ shown, Tour pairSettings [("cookie", "vd_access_token=abc")] holder "Next" () (Page.pageAddress Site.calls 1)
        shown (Page.pageAddress Site.calls 2) ∧ shown.flatMap rows = heldCalls.map Page.callRow := by
  obtain ⟨u, reaches⟩ := holder_reached
  have signedIn : (Request.get [("cookie", "vd_access_token=abc")] Site.calls).token? = some "abc" := by decide +kernel
  obtain ⟨shown, tour, -, all, -⟩ :=
    (history_complete reaches).2 pairSettings [("cookie", "vd_access_token=abc")] "abc" rfl rfl signedIn ()
  have two : pages heldCalls.length (UInt32.toNat 2) = 2 := by decide
  rw [two] at tour
  exact ⟨u, reaches, shown, tour, all⟩

end CallDesk.Web
