import CallDesk.Proofs.Backend.Upload
import CallDesk.Proofs.Page.Upload
import CallDesk.Web.Service

/-! # Uploading contacts

A user posts a form with a file. The first field with the name `file` is sent to the backend when its file name is
that of a table of values, once and as it came. The answer is always the page of the contacts: with the result of
the import when the backend tells one, and else with what went wrong.
-/

namespace CallDesk.Web

open Html Text

variable {s : Settings} {r : Request} {token : String} {parts : List Multipart.Part} {σ : Type}

/-- A user posts a form in parts, with a token that a header can hold. -/
structure Request.PostsUpload (r : Request) (token : String) (parts : List Multipart.Part) : Prop where
  method : r.method = "POST"
  path : r.path = "/dashboard/contacts"
  signed : r.token? = some token
  legal : isHeaderText token = true
  form : ∃ boundary, r.mediaType?.bind MediaType.boundary? = some boundary ∧
    Multipart.IsForm boundary parts r.body
  size : r.body.length ≤ maxUpload

/-- What a user posts to the contacts is read as a form with a file. -/
theorem respond_contacts (method : r.method = "POST") (path : r.path = "/dashboard/contacts")
    (signed : r.token? = some token) :
    respond s r = taken r.uploadedFile (uploadSent s (client s (some token))) := by
  have found : Route.of? "/dashboard/contacts" = some .contacts := by decide +kernel
  have wanted : Route.purpose? .contacts "POST" = some .submit := by decide
  have guarded : Route.isPrivate .contacts = true := rfl
  rw [respond, path, found, method]
  dsimp only
  rw [wanted]
  dsimp only
  rw [routed, if_pos guarded, signed]
  rfl

theorem respond_upload (posts : r.PostsUpload token parts) :
    respond s r = (Upload.submit (client s (some token)) parts).map (contactsPage s) := by
  obtain ⟨boundary, told, form⟩ := posts.form
  have file : r.uploadedFile = .ok (some (parts.find? fun part => part.name == some "file")) := by
    rw [Request.uploadedFile, told]
    dsimp only
    rw [if_pos posts.size, Request.fileField, Multipart.part?_form form]
  rw [respond_contacts posts.method posts.path posts.signed, file, taken, Upload.submit]
  cases parts.find? fun part => part.name == some "file" <;> rfl

/-- The page of the contacts shows what became of an upload. -/
theorem contactsPage_shows (s : Settings) (upload : Upload) :
    (contactsPage s upload).status = 200 ∧ ShowsUpload (contactsPage s upload).body upload := by
  have shown := Page.uploadDocument_shows { title := "Contacts", place := some .contacts, assistant := s.assistant }
    upload
  rw [Page.uploadDocument, render_append, render_append] at shown
  exact ⟨rfl, shown⟩

/-- What becomes of a form that is posted: what is asked of the backend, and what is answered. -/
structure Uploads (c : Client) (token : String) (parts : List Multipart.Part) (t : Trace σ Response)
    (replies : List Reply) : Prop where
  status : t.result.status = 200
  /-- The backend is asked once at most. -/
  once : t.requests.length ≤ 1
  /-- It is asked when a file is chosen and its address can be asked. -/
  sent : t.requests.length = 1 ↔ (∃ name contents, Multipart.Chooses parts name contents) ∧
    c.Addresses "/contacts/import"
  request : ∀ q ∈ t.requests, ∃ name contents, Multipart.Chooses parts name contents ∧ q.Imports c token name contents
  /-- The result of an import is shown when the backend tells one. -/
  summary : importPanels t.result.body ≠ [] ↔ ∃ status body result, replies = [.answer status (some body)] ∧
    200 ≤ status ∧ status < 300 ∧ Json.decode? ImportResult.ofJson? body = some result
  /-- The page shows how the upload ended. -/
  shown : ∃ upload, Upload.Ends c parts replies upload ∧ ShowsUpload t.result.body upload

/-- What is asked and answered when a user posts a form with a file. -/
theorem respond_uploads (s : Settings) (posts : r.PostsUpload token parts) (b : Backend σ) (st : σ) :
    Uploads (client s (some token)) token parts ((respond s r).run b st) ((respond s r).replies b st) := by
  have sends := Upload.submit_sends (c := client s (some token)) rfl posts.legal parts b st
  rw [respond_upload posts, Dialog.run_map, Dialog.replies_map]
  obtain ⟨status, shows⟩ := contactsPage_shows s ((Upload.submit (client s (some token)) parts).run b st).result
  refine ⟨status, sends.once, sends.sent, sends.request, ?_, _, sends.ends, shows⟩
  rw [← sends.told]
  generalize ((Upload.submit (client s (some token)) parts).run b st).result = upload at shows ⊢
  constructor
  · intro panel
    cases shows with
    | idle panels => exact absurd panels panel
    | failed panels => exact absurd panels panel
    | imported panels => exact ⟨_, rfl⟩
  · rintro ⟨result, rfl⟩ none
    cases shows with
    | imported panels =>
      rw [panels] at none
      contradiction

/-- A form with a note and then a file. -/
def leadsForm : String :=
  "--b\r\nContent-Disposition: form-data; name=\"note\"\r\n\r\nspring\r\n" ++
    "--b\r\nContent-Disposition: form-data; name=\"file\"; filename=\"leads.csv\"\r\n" ++
    "Content-Type: text/csv\r\n\r\nphone_number\n+15550001\r\n--b--\r\n"

def leadsPost : Request :=
  { method := "POST", target := "/dashboard/contacts"
    headers := [("Cookie", "vd_access_token=abc123"), ("Content-Type", "multipart/form-data; boundary=b")]
    body := utf8 leadsForm }

/-- The fields of the form. -/
def leadsParts : List Multipart.Part :=
  [⟨some "note", none, utf8 "spring"⟩, ⟨some "file", some "leads.csv", utf8 "phone_number\n+15550001"⟩]

theorem leadsForm_isForm : Multipart.IsForm "b" leadsParts (utf8 leadsForm) := by
  have fits : Fits "b" "leads.csv" (utf8 "phone_number\n+15550001") :=
    ⟨by decide +kernel, by decide +kernel, by decide +kernel, by decide +kernel⟩
  have describes : Multipart.Describes ⟨some "note", none, utf8 "spring"⟩ (utf8 "form-data" ++ (59 :: [32] ++
      (utf8 "name" ++ 61 :: 34 :: ((utf8 "note").flatMap Multipart.quoteByte ++ [34])))) :=
    .name (.mk (List.forall_mem_singleton.mpr rfl) (.quoted (by decide +kernel) (by decide +kernel)))
  have header :=
    Multipart.isHeader_spaced "Content-Disposition" (by decide +kernel) (by decide +kernel) describes.plain
  have titled : lower "Content-Disposition" = "content-disposition" := by decide +kernel
  rw [titled] at header
  have note : Multipart.Writes (utf8 "b") _ _ :=
    .unpadded [] [] (.cons header .nil) describes (by simp) (by decide) (by decide +kernel)
  have form : Multipart.IsForm "b" leadsParts _ :=
    .direct (by decide +kernel) (.cons note (.cons (Payload.file_writes fits) (.nil Multipart.lineEnd)))
  refine Eq.mp (congrArg (Multipart.IsForm "b" leadsParts) ?_) form
  decide +kernel

theorem leadsPost_posts : leadsPost.PostsUpload "abc123" leadsParts :=
  ⟨rfl, by decide +kernel, by decide +kernel, by decide +kernel, ⟨"b", by decide +kernel, leadsForm_isForm⟩,
    by decide +kernel⟩

theorem leadsParts_chooses : Multipart.Chooses leadsParts "leads.csv" (utf8 "phone_number\n+15550001") :=
  ⟨⟨[⟨some "note", none, utf8 "spring"⟩], [], rfl, by simp⟩, by decide +kernel⟩

theorem respond_uploads_leads :
    leadsPost.PostsUpload "abc123" leadsParts ∧
      Uploads (client {} (some "abc123")) "abc123" leadsParts ((respond {} leadsPost).run .lost ())
        ((respond {} leadsPost).replies .lost ()) ∧
      ((respond {} leadsPost).run .lost ()).requests.length = 1 := by
  have uploads := respond_uploads {} leadsPost_posts .lost ()
  have asked : (client {} (some "abc123")).Addresses "/contacts/import" :=
    Client.addresses_localhost (some "abc123") "/contacts/import"
  exact ⟨leadsPost_posts, uploads, uploads.sent.mpr ⟨⟨_, _, leadsParts_chooses⟩, asked⟩⟩

/-- A file that is chosen is not sent to an address that cannot be asked. -/
theorem chosen_file_unsent : ¬ ∀ (s : Settings) (r : Request) (token : String) (parts : List Multipart.Part),
    r.PostsUpload token parts → (((respond s r).run .lost ()).requests.length = 1 ↔
      ∃ name contents, Multipart.Chooses parts name contents) := by
  intro sends
  have sent := (sends { backend := { baseUrl := "not a url" } } leadsPost _ _ leadsPost_posts).mpr
    ⟨_, _, leadsParts_chooses⟩
  have unsent : ((respond { backend := { baseUrl := "not a url" } } leadsPost).run .lost ()).requests = [] := by
    decide +kernel
  rw [unsent] at sent
  exact absurd sent (by decide)

end CallDesk.Web
