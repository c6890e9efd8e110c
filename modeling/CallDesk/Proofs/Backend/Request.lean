import CallDesk.Proofs.Backend.Client
import CallDesk.Proofs.Url.Base

/-! # Requests that can be made

A client whose address is one of the web can ask for every path, whatever the path is, unless no header
can hold its token. The slashes at the end of the address make no difference.
-/

namespace CallDesk.Client

open Text

variable {c : Client} {verb : Verb} {path : String} {query : Option String} {payload : Payload}

/-- A request is made when its address is one of the web with a host that a request can name, and a header
can hold the token. -/
theorem request_ok {url : Url} (read : Url.read (c.address path) = .ok url) (web : Url.IsWeb url.scheme)
    (host : url.host.toList.all isRequestHostChar = true)
    (legal : ∀ token, c.token = some token → isHeaderText token = true) :
    ∃ q, c.request verb path query payload = .ok q := by
  have scheme : (url.scheme != "http" && url.scheme != "https") = false := by
    rcases web with same | same <;> rw [same] <;> decide
  rw [address] at read
  simp only [request, read, scheme, host, Bool.not_true, Bool.false_eq_true, ↓reduceIte]
  cases bound : c.token with
  | none => exact ⟨_, rfl⟩
  | some token =>
    simp only [isHeaderText_bearer, legal token bound, ↓reduceIte]
    exact ⟨_, rfl⟩

/-- No request is made with a token that no header can hold. -/
theorem request_illegal {token : String} (bound : c.token = some token) (illegal : isHeaderText token = false) :
    (c.request verb path query payload).toOption = none := by
  cases made : c.request verb path query payload with
  | error detail => rfl
  | ok q =>
    have legal := ((request_made made).bears token bound).legal
    rw [illegal] at legal
    contradiction

/-- The address of the backend loses the slashes at its end. -/
theorem of_trimmed (address : String) :
    ∃ slashes, address.toList = (of address).base.toList ++ slashes ∧ ∀ c ∈ slashes, c = '/' := by
  refine ⟨(address.toList.reverse.takeWhile (· == '/')).reverse, ?_, ?_⟩
  · rw [of, String.toList_ofList, ← List.reverse_append, List.takeWhile_append_dropWhile, List.reverse_reverse]
  · intro c member
    have slash := List.mem_takeWhile_imp (List.mem_reverse.mp member)
    exact beq_iff_eq.mp slash

/-- Every path has an address in the same place as the address of the backend. -/
theorem read_address {text : String} {u : Url} (address : Url.IsAddress text u) (token : Option String)
    (path : String) :
    ∃ url, Url.read (((of text).bind token).address path) = .ok url ∧ url.scheme = u.scheme ∧ url.host = u.host := by
  obtain ⟨slashes, trimmed, only⟩ := of_trimmed text
  obtain ⟨_, _, _, read⟩ := address.read_slash trimmed only (.ofList (path.toList.dropWhile (· == '/')))
  exact ⟨_, read, rfl, rfl⟩

/-- The address that the backend has unless the settings tell another. -/
theorem isAddress_localhost : Url.IsAddress "http://localhost:8000/api/v1"
    { scheme := "http", host := "localhost", port := some 8000, path := .segments ["api", "v1"] } :=
  ⟨by decide +kernel, .inl rfl, Url.visible_end (by decide +kernel)⟩

end CallDesk.Client
