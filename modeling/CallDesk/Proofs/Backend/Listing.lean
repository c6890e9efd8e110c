import CallDesk.Backend.Load
import CallDesk.Proofs.Backend.Request
import CallDesk.Proofs.Pager
import CallDesk.Proofs.Text.Digits
import Mathlib.Data.Bool.AllAny

/-! # Loading the call history

A backend that holds a list of calls gives one page of them to each request, and tells how many there are;
it may leave out the size of the page, which is the one asked for. Loading a page of the history then
takes one request. It takes a second one for the last page when the page asked for is past the end.
-/

namespace CallDesk

open Text

/-! ## A backend that holds calls -/

/-- The address of a page of the calls, below the address of the backend. -/
def callsAddress (base : String) (page size : Nat) : String :=
  base ++ "/calls?page=" ++ decimal page ++ "&page_size=" ++ decimal size

/-- A request gets a page of the calls. -/
structure Request.GetsCalls (base : String) (page size : Nat) (q : Request) : Prop where
  verb : q.verb = .get
  url : Url.read (callsAddress base page size) = .ok q.url

/-- A reply succeeds and holds a page of a list of calls, with the size of the page or without. -/
def Reply.Brings (reply : Reply) (calls : List Call) (page size : UInt32) : Prop :=
  ∃ status body listing, reply = .answer status (some body) ∧ 200 ≤ status ∧ status < 300 ∧
    (Json.read? body).bind CallsPage.ofJson? = some listing ∧
    listing.calls = Pager.slice calls size.toNat page.toNat ∧ listing.total.toNat = calls.length ∧
    (listing.pageSize = size ∨ listing.pageSize = 0)

/-- In every state, a backend answers every request for a page of the calls with that page. -/
def Backend.HoldsCalls {σ : Type} (b : Backend σ) (base : String) (size : UInt32) (calls : List Call) : Prop :=
  ∀ st (page : UInt32) q, 1 ≤ page → q.GetsCalls base page.toNat size.toNat →
    (b.answer st q).1.Brings calls page size

/-- A listing is a page of a list of calls, and tells the size of the page. -/
structure CallsPage.IsPage (listing : CallsPage) (calls : List Call) (page size : UInt32) : Prop where
  slice : listing.calls = Pager.slice calls size.toNat page.toNat
  total : listing.total.toNat = calls.length
  sized : listing.pageSize = size

/-- A client whose address is one that requests can be made to, with a token that a header can hold. -/
structure Client.IsReady (c : Client) (u : Url) : Prop where
  base : Url.IsBase c.base u
  host : u.host.toList.all isRequestHostChar = true
  legal : ∀ token, c.token = some token → isHeaderText token = true

/-- A client that can make requests to a backend that holds calls. -/
structure Client.Reaches {σ : Type} (c : Client) (b : Backend σ) (size : UInt32) (calls : List Call) (u : Url) :
    Prop where
  base : Url.IsBase c.base u
  host : u.host.toList.all isRequestHostChar = true
  legal : ∀ token, c.token = some token → isHeaderText token = true
  holds : b.HoldsCalls c.base size calls
  positive : 0 < size.toNat
  fits : calls.length ≤ size.toNat * (UInt32.size - 1)

namespace Client

/-! ## One page -/

/-- The query for a page of the calls, as it is written. -/
theorem formLine_page (page size : Nat) :
    formLine [("page", decimal page), ("page_size", decimal size)] =
      "page=" ++ decimal page ++ "&page_size=" ++ decimal size := by
  rw [← String.toList_inj]
  simp only [String.toList_append, toList_formLine, List.map_cons, List.map_nil, List.intercalate_cons_cons,
    List.intercalate_singleton]
  rw [formPart_decimal (List.all_iff_forall_prop.mp (by decide)),
    formPart_decimal (List.all_iff_forall_prop.mp (by decide))]
  simp

theorem callsAddress_eq (base : String) (page size : Nat) :
    callsAddress base page size =
      base ++ "/" ++ "calls" ++ "?" ++
        formLine [("page", decimal page), ("page_size", decimal size)] := by
  rw [formLine_page, ← String.toList_inj, callsAddress]
  simp

variable {σ : Type} {c : Client} {b : Backend σ} {page size : UInt32} {calls : List Call} {u : Url}

theorem Reaches.isReady (reaches : c.Reaches b size calls u) : c.IsReady u :=
  ⟨reaches.base, reaches.host, reaches.legal⟩

/-- A client can ask for every page of the calls. -/
theorem callsRequest_ok (ready : c.IsReady u) (page size : UInt32) :
    ∃ q, c.callsRequest page size = .ok q ∧ q.GetsCalls c.base page.toNat size.toNat := by
  obtain ⟨path, base⟩ :=
    ready.base.append_path (t := "calls") (by decide) (List.all_iff_forall_prop.mp (by decide))
  have read : Url.read (c.address "/calls") = .ok { u with path } := base.read
  obtain ⟨q, ok⟩ := request_ok read base.web ready.host ready.legal
  refine ⟨q, ok, (request_made ok).verb, ?_⟩
  obtain ⟨url, read', same⟩ := (request_made ok).url
  obtain rfl := Except.ok.inj (read.symm.trans read')
  have alone : u.query = none := base.query
  rw [callsAddress_eq, base.read_query, same]
  simp only [Url.addQuery, alone]

/-- A reply with a page is taken as that page, with the size that was asked for. -/
theorem callsOf_brings {reply : Reply} (brings : reply.Brings calls page size) :
    ∃ listing, callsOf size reply = .ok listing ∧ listing.IsPage calls page size := by
  obtain ⟨status, body, listing, rfl, least, most, read, slice, total, told⟩ := brings
  refine ⟨{ listing with pageSize := size }, ?_, slice, total, rfl⟩
  simp only [callsOf, Reply.value, Reply.accept, least, most, and_self, if_true, read, Except.map]
  rcases told with same | none
  · split
    · rfl
    · rw [← same]
  · rw [none, if_pos rfl]

/-- Asking for a page of the calls is one request, and gives that page. -/
theorem calls_run (reaches : c.Reaches b size calls u) (one : 1 ≤ page) (st : σ) :
    ∃ q listing, q.GetsCalls c.base page.toNat size.toNat ∧ listing.IsPage calls page size ∧
      ((c.calls page size).run b st).requests = [q] ∧ ((c.calls page size).run b st).result = .ok listing := by
  obtain ⟨q, ok, gets⟩ := callsRequest_ok reaches.isReady page size
  obtain ⟨listing, taken, isPage⟩ := callsOf_brings (reaches.holds st page q one gets)
  refine ⟨q, listing, gets, isPage, ?_, ?_⟩
  · rw [Client.calls, ok]
    rfl
  · rw [Client.calls, ok]
    exact taken

end Client

/-! ## The page that is shown -/

namespace CallHistory

open Pager

/-- The pages that are asked for, one after the other, to show a page of a history. -/
def visited (page count size : Nat) : List Nat :=
  if 0 < count ∧ pages count size < page then [page, pages count size] else [page]

/-- A history is at a page of a list of calls. -/
structure At (history : CallHistory) (calls : List Call) (page size : Nat) : Prop where
  slice : history.calls = Pager.slice calls size page
  counts : history.pager.Counts page calls.length size
  inside : page ≤ pages calls.length size

variable {σ : Type} {c : Client} {b : Backend σ} {page size : UInt32} {calls : List Call} {u : Url}

/-- The pager of a page of the calls. -/
theorem counts_of_isPage (reaches : c.Reaches b size calls u) {listing : CallsPage} {some : UInt32}
    (isPage : listing.IsPage calls some size) (page : UInt32) :
    (Pager.of page listing.pageSize listing.total).Counts (max page.toNat 1) calls.length size.toNat := by
  have positive := reaches.positive
  refine ⟨?_, ?_, isPage.total, Nat.le_max_right _ _, positive, reaches.fits⟩
  · rw [Pager.of, toNat_max, UInt32.toNat_one]
  · rw [Pager.of, isPage.sized, toNat_max, UInt32.toNat_one]
    omega

/-- A page of the calls that there is, with its pager, is a history at that page. -/
theorem at_of_isPage (reaches : c.Reaches b size calls u) {listing : CallsPage}
    (isPage : listing.IsPage calls page size) (one : 1 ≤ page.toNat)
    (inside : page.toNat ≤ pages calls.length size.toNat) :
    At ⟨listing.calls, (Pager.of page listing.pageSize listing.total).clamped⟩ calls page.toNat size.toNat := by
  have counts := (counts_of_isPage reaches isPage page).clamped
  rw [Nat.max_eq_left one, Nat.min_eq_left inside] at counts
  exact ⟨isPage.slice, counts, inside⟩

/-- Loading a page asks for it, and for the last page when it is past the end; the history is at the page asked
for or at the last one. -/
theorem load_run (reaches : c.Reaches b size calls u) (page : UInt32) (st : σ) :
    ∃ history, ((load c page size).run b st).result = .ok history ∧
      List.Forall₂ (fun n q => q.GetsCalls c.base n size.toNat)
        (visited (max page.toNat 1) calls.length size.toNat) ((load c page size).run b st).requests ∧
      (calls.length = 0 → history.calls = []) ∧
      (0 < calls.length →
        history.At calls (min (max page.toNat 1) (pages calls.length size.toNat)) size.toNat) := by
  have one : 1 ≤ max page 1 := by
    rw [UInt32.le_iff_toNat_le, toNat_max]
    exact Nat.le_max_right _ _
  have asked : (max page 1).toNat = max page.toNat 1 := toNat_max page 1
  obtain ⟨q, listing, gets, isPage, requests, result⟩ := Client.calls_run reaches one st
  rw [asked] at gets
  have counts := counts_of_isPage reaches isPage page
  have last := counts.clamped
  have some_iff : 0 < listing.total ↔ 0 < calls.length := by
    rw [UInt64.lt_iff_toNat_lt, isPage.total, UInt64.toNat_zero]
  simp only [load, Dialog.run_bind, requests, result, some_iff, counts.clamped_page_ne_iff, visited]
  split
  · next past =>
    -- The last page is there, so the pager of the second answer stays where it is.
    rw [Nat.min_eq_right (Nat.le_of_lt past.2)] at last ⊢
    obtain ⟨q', listing', gets', isPage', requests', result'⟩ :=
      Client.calls_run reaches last.one_le ((c.calls (max page 1) size).run b st).state
    have shown := at_of_isPage reaches isPage' (last.at_page ▸ last.one) (Nat.le_of_eq last.at_page)
    rw [last.at_page] at gets' shown
    simp only [Dialog.run_map, requests', result']
    exact ⟨_, rfl, .cons gets (.cons gets' .nil), fun none => absurd none (Nat.ne_of_gt past.1), fun _ => shown⟩
  · next inside =>
    refine ⟨_, rfl, .cons gets .nil, fun none => ?_, fun some => ?_⟩
    · rw [isPage.slice, List.eq_nil_of_length_eq_zero none, slice_nil]
    · have within : max page.toNat 1 ≤ pages calls.length size.toNat := by omega
      rw [Nat.min_eq_left within]
      exact ⟨asked ▸ isPage.slice, counts, within⟩

/-- The history at a page of a list of calls. -/
def ofPage (calls : List Call) (size : UInt32) (page : Nat) : CallHistory :=
  ⟨Pager.slice calls size.toNat page, ⟨.ofNat page, size, .ofNat calls.length⟩⟩

/-- A history is determined by the page that it is at. -/
theorem At.eq_ofPage {history : CallHistory} {page : Nat} (at_page : history.At calls page size.toNat) :
    history = ofPage calls size page := by
  obtain ⟨shown, p⟩ := history
  obtain ⟨slice, counts, -⟩ := at_page
  obtain ⟨first, pageSize, total⟩ := p
  have first_eq : first = .ofNat page := by rw [← counts.at_page, UInt32.ofNat_toNat]
  have size_eq : pageSize = size := UInt32.toNat_inj.mp counts.sized
  have total_eq : total = .ofNat calls.length := by rw [← counts.counted, UInt64.ofNat_toNat]
  rw [ofPage, ← slice, first_eq, size_eq, total_eq]

/-- Every page of the calls has a history at it. -/
theorem ofPage_at (reaches : c.Reaches b size calls u) {page : Nat} (one : 1 ≤ page)
    (inside : page ≤ pages calls.length size.toNat) : (ofPage calls size page).At calls page size.toNat := by
  have enough : pages calls.length size.toNat ≤ UInt32.size - 1 :=
    (pages_le_iff reaches.positive (by decide)).mpr reaches.fits
  have word : page < UInt32.size := Nat.lt_of_le_of_lt (Nat.le_trans inside enough) (by decide)
  have long : calls.length < UInt64.size := by
    have product : size.toNat * (UInt32.size - 1) < UInt32.size * UInt32.size :=
      Nat.mul_lt_mul_of_lt_of_le size.toNat_lt (by decide) (by decide)
    exact Nat.lt_of_le_of_lt reaches.fits product
  exact ⟨rfl, ⟨UInt32.toNat_ofNat_of_lt' word, rfl, UInt64.toNat_ofNat_of_lt' long, one, reaches.positive,
    reaches.fits⟩, inside⟩

/-- Every page of a list of calls that is not empty has calls. -/
theorem At.calls_ne_nil {history : CallHistory} {page size : Nat} (at_page : history.At calls page size)
    (some : 0 < calls.length) : history.calls ≠ [] := by
  have before := lt_of_le_pages at_page.counts.positive some at_page.inside
  have positive := at_page.counts.positive
  rw [at_page.slice, ← List.length_pos_iff, length_slice]
  omega

end CallHistory

end CallDesk
