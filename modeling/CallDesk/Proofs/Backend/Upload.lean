import CallDesk.Proofs.Backend.Creation
import CallDesk.Proofs.Multipart.Sent

/-! # Sending a file of contacts

Of the fields of a form the first one with the name `file` counts. It is sent when its file name is that of a table
of values, and a request can be made at all; it is sent once, with its file name and its bytes. What is told of the
upload is what a successful answer holds, or else what went wrong.
-/

namespace CallDesk

open Text Web

/-- Fields choose a file: the first one with the name `file` has the file name of a table of values. -/
structure Web.Multipart.Chooses (parts : List Multipart.Part) (name : String) (contents : Bytes) : Prop where
  first : ∃ before after, parts = before ++ ⟨some "file", some name, contents⟩ :: after ∧
    ∀ part ∈ before, part.name ≠ some "file"
  csv : FileName.isCsv name = true

/-- A request sends a file to the import of contacts, with a token. In a boundary that does not stand in it the file
is sent as a form with one part, which has its name and its contents. -/
structure Request.Imports (c : Client) (token name : String) (contents : Bytes) (q : Request) : Prop where
  verb : q.verb = .post
  url : Url.read (c.address "/contacts/import") = .ok q.url
  bears : q.Bears token
  payload : q.payload = .file name contents
  form : ∀ boundary, Fits boundary name contents →
    Multipart.IsForm boundary [⟨some "file", some name, contents⟩] (q.payload.bytes boundary)

namespace Upload

/-- Sends the file of some fields. -/
def submit (c : Client) (parts : List Multipart.Part) : Dialog Upload :=
  match parts.find? fun part => part.name == some "file" with
  | none => send c none []
  | some part => send c part.fileName part.contents

/-- What is told of an upload for which the backend was asked. -/
def ofAnswer : Except Fault ImportResult → Upload
  | .ok result => .imported result
  | .error fault => .failed fault.userMessage

/-- How an upload ends, for what is chosen and the replies to what is sent. -/
inductive Ends (c : Client) (parts : List Multipart.Part) : List Reply → Upload → Prop
  | unchosen (unchosen : ∀ name contents, ¬ Multipart.Chooses parts name contents) :
      Ends c parts [] (.failed "Please select a CSV file")
  | unsent {name : String} {contents : Bytes} (chosen : Multipart.Chooses parts name contents)
      (unasked : ¬ c.Addresses "/contacts/import") :
      Ends c parts [] (.failed "Unable to reach the server. Please try again.")
  | declined {name : String} {contents : Bytes} {reply : Reply} {fault : Fault}
      (chosen : Multipart.Chooses parts name contents) (fails : reply.Fails fault) :
      Ends c parts [reply] (.failed fault.userMessage)
  | imported {name : String} {contents body : Bytes} {status : Nat} {result : ImportResult}
      (chosen : Multipart.Chooses parts name contents) (least : 200 ≤ status) (most : status < 300)
      (decoded : Json.decode? ImportResult.ofJson? body = some result) :
      Ends c parts [.answer status (some body)] (.imported result)

/-- What is asked and answered when the file of some fields is sent. -/
structure Sends {σ : Type} (c : Client) (token : String) (parts : List Multipart.Part) (t : Trace σ Upload)
    (replies : List Reply) : Prop where
  /-- The backend is asked once at most. -/
  once : t.requests.length ≤ 1
  /-- It is asked when a file is chosen and its address can be asked. -/
  sent : t.requests.length = 1 ↔ (∃ name contents, Multipart.Chooses parts name contents) ∧
    c.Addresses "/contacts/import"
  request : ∀ q ∈ t.requests, ∃ name contents, Multipart.Chooses parts name contents ∧ q.Imports c token name contents
  /-- The result of an import is told when the backend tells one. -/
  told : (∃ result, t.result = .imported result) ↔ ∃ status body result, replies = [.answer status (some body)] ∧
    200 ≤ status ∧ status < 300 ∧ Json.decode? ImportResult.ofJson? body = some result
  ends : Ends c parts replies t.result

variable {c : Client} {parts : List Multipart.Part} {token name : String} {contents : Bytes} {σ : Type}

/-- Fields choose one file at most. -/
theorem chosen_unique {part : Multipart.Part} {before after : List Multipart.Part}
    (cut : parts = before ++ part :: after) (others : ∀ p ∈ before, p.name ≠ some "file")
    (named : part.name = some "file") (chosen : Multipart.Chooses parts name contents) :
    part.fileName = some name ∧ part.contents = contents := by
  obtain ⟨before', after', cut', others'⟩ := chosen.first
  have found : parts.find? (fun p => p.name == some "file") = some part :=
    List.find?_eq_some_iff_append.mpr ⟨by simp [named], before, after, cut, fun p member => by
      simpa using others p member⟩
  have found' : parts.find? (fun p => p.name == some "file") = some ⟨some "file", some name, contents⟩ :=
    List.find?_eq_some_iff_append.mpr ⟨by simp, before', after', cut', fun p member => by
      simpa using others' p member⟩
  obtain rfl := Option.some.inj (found.symm.trans found')
  exact ⟨rfl, rfl⟩

/-- Either nothing is chosen and nothing is sent, or the file that is chosen is sent. -/
theorem submit_cases (c : Client) (parts : List Multipart.Part) :
    ((∀ name contents, ¬ Multipart.Chooses parts name contents) ∧
        submit c parts = .done (.failed "Please select a CSV file")) ∨
      ∃ name contents, Multipart.Chooses parts name contents ∧
        submit c parts = (c.importContacts name contents).map ofAnswer := by
  rw [submit]
  cases found : parts.find? fun part => part.name == some "file" with
  | none =>
    refine .inl ⟨fun name contents chosen => ?_, rfl⟩
    obtain ⟨before, after, cut, -⟩ := chosen.first
    refine List.find?_eq_none.mp found ⟨some "file", some name, contents⟩ ?_ (by simp)
    rw [cut]
    exact List.mem_append_right _ List.mem_cons_self
  | some part =>
    obtain ⟨named, before, after, cut, others⟩ := List.find?_eq_some_iff_append.mp found
    have others : ∀ p ∈ before, p.name ≠ some "file" := fun p member => by simpa using others p member
    have named : part.name = some "file" := by simpa using named
    dsimp only
    rw [send]
    cases kept : part.fileName.filter FileName.isCsv with
    | none =>
      refine .inl ⟨fun name contents chosen => ?_, rfl⟩
      obtain ⟨file, -⟩ := chosen_unique cut others named chosen
      exact Option.filter_eq_none_iff.mp kept name file chosen.csv
    | some name =>
      obtain ⟨file, csv⟩ := Option.filter_eq_some_iff.mp kept
      have whole : parts = before ++ ⟨some "file", some name, part.contents⟩ :: after := by rw [cut, ← named, ← file]
      exact .inr ⟨name, part.contents, ⟨⟨before, after, whole, others⟩, csv⟩, rfl⟩

theorem imports_of_request (bound : c.token = some token) {q : Request}
    (made : c.request .post "/contacts/import" none (.file name contents) = .ok q) :
    q.Imports c token name contents := by
  have parts := Client.request_made made
  obtain ⟨url, read, same⟩ := parts.url
  refine ⟨parts.verb, same ▸ read, parts.bears token bound, parts.payload, fun boundary fits => ?_⟩
  rw [parts.payload]
  exact Payload.file_isForm fits

/-- Without a request there is nothing to tell but a failure. -/
theorem sends_nothing {message : String} (ends : Ends c parts [] (.failed message))
    (unsent : ¬ ((∃ name contents, Multipart.Chooses parts name contents) ∧ c.Addresses "/contacts/import")) (st : σ) :
    Sends c token parts ⟨.failed message, [], st⟩ [] := by
  refine ⟨Nat.zero_le 1, ⟨fun one => ?_, fun both => absurd both unsent⟩, fun q member => ?_, ?_, ends⟩
  · contradiction
  · contradiction
  · constructor
    · rintro ⟨result, same⟩
      contradiction
    · rintro ⟨status, body, result, same, -⟩
      contradiction

/-- A file that is sent is answered by what the reply holds. -/
theorem sends_file (chosen : Multipart.Chooses parts name contents) (asked : c.Addresses "/contacts/import")
    {q : Request} (imports : q.Imports c token name contents) (operation : String) (reply : Reply) (st : σ) :
    Sends c token parts ⟨ofAnswer (reply.value operation ImportResult.ofJson?), [q], st⟩ [reply] := by
  have sole : ∀ p ∈ [q], ∃ name contents, Multipart.Chooses parts name contents ∧ p.Imports c token name contents :=
    List.forall_mem_singleton.mpr ⟨name, contents, chosen, imports⟩
  have sent : [q].length = 1 ↔ (∃ name contents, Multipart.Chooses parts name contents) ∧
      c.Addresses "/contacts/import" := ⟨fun _ => ⟨⟨name, contents, chosen⟩, asked⟩, fun _ => rfl⟩
  cases told : reply.value operation ImportResult.ofJson? with
  | ok result =>
    obtain ⟨status, body, rfl, least, most, decoded⟩ := Reply.value_ok.mp told
    refine ⟨Nat.le_refl 1, sent, sole, ?_, .imported chosen least most decoded⟩
    exact ⟨fun _ => ⟨status, body, result, rfl, least, most, decoded⟩, fun _ => ⟨result, rfl⟩⟩
  | error fault =>
    refine ⟨Nat.le_refl 1, sent, sole, ⟨?_, ?_⟩, .declined chosen (Reply.value_fails told)⟩
    · rintro ⟨result, same⟩
      contradiction
    · rintro ⟨status, body, result, only, least, most, decoded⟩
      obtain rfl := List.singleton_inj.mp only
      have taken : Reply.value operation ImportResult.ofJson? (.answer status (some body)) = .ok result :=
        Reply.value_ok.mpr ⟨status, body, rfl, least, most, decoded⟩
      cases told.symm.trans taken

/-- What becomes of the file of some fields, whatever the backend does. -/
theorem submit_sends (bound : c.token = some token) (legal : isHeaderText token = true)
    (parts : List Multipart.Part) (b : Backend σ) (st : σ) :
    Sends c token parts ((submit c parts).run b st) ((submit c parts).replies b st) := by
  have legal : ∀ other, c.token = some other → isHeaderText other = true := by
    intro other same
    obtain rfl := Option.some.inj (bound.symm.trans same)
    exact legal
  rcases submit_cases c parts with ⟨unchosen, submitted⟩ | ⟨name, contents, chosen, submitted⟩
  · rw [submitted]
    refine sends_nothing (.unchosen unchosen) ?_ st
    rintro ⟨⟨name, contents, chosen⟩, -⟩
    exact unchosen name contents chosen
  · rw [submitted, Dialog.run_map, Dialog.replies_map, Client.importContacts]
    cases made : c.request .post "/contacts/import" none (.file name contents) with
    | error why =>
      have unasked := Client.not_addresses legal made
      exact sends_nothing (.unsent chosen unasked) (fun both => unasked both.2) st
    | ok q =>
      have asked := (Client.addresses_iff legal).mpr ⟨q, made⟩
      exact sends_file chosen asked (imports_of_request bound made) _ _ _

end Upload

end CallDesk
