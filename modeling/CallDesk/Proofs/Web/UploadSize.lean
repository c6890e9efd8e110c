import CallDesk.Proofs.Web.Upload

/-! # How large a file may be

What is limited is the form that a file is posted in, not the file. The boundaries, the headers and the ends of lines
of the form count as well, so that a file is taken when it fits into the limit together with them. When the boundary
behind it lies beyond the limit, it is not read, the backend is not asked, and the page says so.
-/

namespace CallDesk

open Text

/-! ## The size of a form -/

namespace Web.Multipart

/-- The front of a form: all up to the boundary behind its first part, which ends the contents of the part. -/
inductive IsFront (boundary : String) (part : Part) : Bytes → Prop
  | mk {preamble s : Bytes} (starts : ∀ b ∈ preamble.getLast?, b = 10)
      (absent : ¬ [45, 45] ++ utf8 boundary <:+: preamble) (writes : Writes (utf8 boundary) part s) :
      IsFront boundary part (preamble ++ ([45, 45] ++ utf8 boundary ++ (s ++ delimiter (utf8 boundary))))

variable {boundary : String} {part : Part} {body : Bytes}

/-- A form with one part is its front and the end of the form, which may be long. -/
theorem IsForm.front (form : IsForm boundary [part] body) :
    ∃ front epilogue, IsFront boundary part front ∧ body = front ++ 45 :: 45 :: epilogue := by
  cases form with
  | mk line starts absent follows =>
    cases follows with
    | cons writes follows =>
      cases follows with
      | nil epilogue => exact ⟨_, epilogue, .mk starts absent writes, by simp only [List.append_assoc]⟩

/-- The front of a form is larger than the contents of its part: two boundaries stand around them. -/
theorem IsFront.framed {front : Bytes} (isFront : IsFront boundary part front) :
    part.contents.length + 2 * (utf8 boundary).length + 12 ≤ front.length := by
  cases isFront with
  | mk starts absent writes =>
    cases writes with
    | mk =>
      simp only [List.length_append, List.length_cons, List.length_nil, lineEnd, blockEnd, delimiter]
      omega

/-- A form with one part is larger than the contents of the part. -/
theorem IsForm.framed (form : IsForm boundary [part] body) :
    part.contents.length + 2 * (utf8 boundary).length + 14 ≤ body.length := by
  obtain ⟨front, epilogue, isFront, rfl⟩ := form.front
  have framed := isFront.framed
  simp only [List.length_append, List.length_cons]
  omega

end Web.Multipart

/-! ## What becomes of a file -/

/-- A page shows one upload at most. -/
theorem ShowsUpload.eq_failed {page message : String} {upload : Upload} (failed : ShowsUpload page (.failed message))
    (shown : ShowsUpload page upload) : upload = .failed message := by
  cases failed with
  | failed _ told =>
    cases shown with
    | idle _ silent => simp [silent] at told
    | imported _ _ _ silent => simp [silent] at told
    | failed _ other =>
      have same := List.singleton_inj.mp (other.symm.trans told)
      rw [String.toList_inj.mp same]

namespace Web

variable {s : Settings} {r : Request} {token boundary name : String} {contents : Bytes} {σ : Type}

/-- A user posts a form with one field, which holds a table of values, with a token that a header can hold. -/
structure Request.PostsFile (r : Request) (token boundary name : String) (contents : Bytes) : Prop where
  method : r.method = "POST"
  path : r.path = "/dashboard/contacts"
  signed : r.token? = some token
  legal : isHeaderText token = true
  between : r.mediaType?.bind MediaType.boundary? = some boundary
  form : Multipart.IsForm boundary [⟨some "file", some name, contents⟩] r.body
  csv : FileName.isCsv name = true

theorem Request.PostsFile.chooses (posts : r.PostsFile token boundary name contents) :
    Multipart.Chooses [⟨some "file", some name, contents⟩] name contents :=
  ⟨⟨[], [], rfl, nofun⟩, posts.csv⟩

theorem Request.PostsFile.upload (posts : r.PostsFile token boundary name contents)
    (size : r.body.length ≤ maxUpload) : r.PostsUpload token [⟨some "file", some name, contents⟩] :=
  ⟨posts.method, posts.path, posts.signed, posts.legal, ⟨boundary, posts.between, posts.form⟩, size⟩

/-- A form that is too large is not read. -/
theorem respond_large (posts : r.PostsFile token boundary name contents) (large : maxUpload < r.body.length) :
    respond s r = .done (contactsPage s unreadableUpload) := by
  have file : r.uploadedFile = .ok none := by
    rw [Request.uploadedFile, posts.between]
    exact if_neg (Nat.not_le.mpr large)
  rw [respond_contacts posts.method posts.path posts.signed, file]
  rfl

/-- What becomes of a file that is posted in a form, which is the body of a request. -/
structure DecidedBySize (c : Client) (token boundary name : String) (contents body : Bytes) (t : Trace σ Response)
    (replies : List Reply) : Prop where
  status : t.result.status = 200
  /-- The backend is sent the file when the form fits into the limit and its address can be asked. -/
  sent : body.length ≤ maxUpload → c.Addresses "/contacts/import" →
    ∃ q, t.requests = [q] ∧ q.Imports c token name contents
  /-- Nobody but the backend itself can then say that the file cannot be read. -/
  readable : body.length ≤ maxUpload → ShowsUpload t.result.body (.failed "Failed to read the uploaded file") →
    ∃ reply fault, replies = [reply] ∧ reply.Fails fault ∧ fault.userMessage = "Failed to read the uploaded file"
  /-- A file is not read when the boundary behind it lies beyond the limit. -/
  refused : ∀ front, Multipart.IsFront boundary ⟨some "file", some name, contents⟩ front → front <+: body →
    maxUpload < front.length →
    t.requests = [] ∧ ShowsUpload t.result.body (.failed "Failed to read the uploaded file")
  /-- There is such a boundary, with so many bytes around the file, and the end of the form behind it. -/
  framed : ∃ front, Multipart.IsFront boundary ⟨some "file", some name, contents⟩ front ∧ front <+: body ∧
    contents.length + 2 * (utf8 boundary).length + 12 ≤ front.length ∧ front.length + 2 ≤ body.length

theorem sent_of_fits (posts : r.PostsFile token boundary name contents) (size : r.body.length ≤ maxUpload)
    (asked : (client s (some token)).Addresses "/contacts/import") (b : Backend σ) (st : σ) :
    ∃ q, ((respond s r).run b st).requests = [q] ∧ q.Imports (client s (some token)) token name contents := by
  have sends := Upload.submit_sends (c := client s (some token)) rfl posts.legal
    [⟨some "file", some name, contents⟩] b st
  rw [respond_upload (posts.upload size), Dialog.run_map]
  obtain ⟨q, only⟩ := List.length_eq_one_iff.mp (sends.sent.mpr ⟨⟨name, contents, posts.chooses⟩, asked⟩)
  obtain ⟨name', contents', chosen, imports⟩ := sends.request q (by rw [only]; exact List.mem_singleton_self q)
  have sole : [⟨some "file", some name, contents⟩] =
      [] ++ (⟨some "file", some name, contents⟩ : Multipart.Part) :: [] := rfl
  obtain ⟨sameName, rfl⟩ := Upload.chosen_unique sole nofun rfl chosen
  obtain rfl : name = name' := Option.some.inj sameName
  exact ⟨q, only, imports⟩

theorem told_of_fits (posts : r.PostsFile token boundary name contents) (size : r.body.length ≤ maxUpload)
    (b : Backend σ) (st : σ)
    (shown : ShowsUpload ((respond s r).run b st).result.body (.failed "Failed to read the uploaded file")) :
    ∃ reply fault, (respond s r).replies b st = [reply] ∧ reply.Fails fault ∧
      fault.userMessage = "Failed to read the uploaded file" := by
  have sends := Upload.submit_sends (c := client s (some token)) rfl posts.legal
    [⟨some "file", some name, contents⟩] b st
  rw [respond_upload (posts.upload size), Dialog.run_map] at shown
  rw [respond_upload (posts.upload size), Dialog.replies_map]
  have upload := shown.eq_failed (contactsPage_shows s _).2
  have ends := sends.ends
  rw [upload] at ends
  generalize Dialog.replies b st _ = replies at ends ⊢
  generalize message : "Failed to read the uploaded file" = text at ends
  cases ends with
  | unchosen unchosen => exact absurd posts.chooses (unchosen name contents)
  | unsent => exact absurd message (by decide)
  | declined chosen fails => exact ⟨_, _, rfl, fails, rfl⟩

/-- What becomes of a file is decided by the size of the form that it is posted in. Nothing is said of a form that
goes on beyond the limit behind a file that is over before: whether that one is read depends on the pieces in which
it arrives. -/
theorem respond_by_size (s : Settings) (posts : r.PostsFile token boundary name contents) (b : Backend σ) (st : σ) :
    DecidedBySize (client s (some token)) token boundary name contents r.body
      ((respond s r).run b st) ((respond s r).replies b st) := by
  refine ⟨?_, ?_, ?_, ?_, ?_⟩
  · rcases Nat.lt_or_ge maxUpload r.body.length with large | fits
    · rw [respond_large posts large]
      exact (contactsPage_shows s _).1
    · rw [respond_upload (posts.upload fits), Dialog.run_map]
      exact (contactsPage_shows s _).1
  · intro size asked
    exact sent_of_fits posts size asked b st
  · intro size shown
    exact told_of_fits posts size b st shown
  · intro front _ starts beyond
    rw [respond_large posts (Nat.lt_of_lt_of_le beyond starts.length_le)]
    exact ⟨rfl, (contactsPage_shows s _).2⟩
  · obtain ⟨front, epilogue, isFront, whole⟩ := posts.form.front
    refine ⟨front, isFront, ⟨_, whole.symm⟩, isFront.framed, ?_⟩
    rw [whole, List.length_append, List.length_cons, List.length_cons]
    omega

/-- The head of a request that posts a form. -/
def fileHead : Request :=
  { method := "POST", target := "/dashboard/contacts"
    headers := [("Cookie", "vd_access_token=abc123"), ("Content-Type", "multipart/form-data; boundary=b")] }

/-- A file that is posted in the form in which it is sent on. -/
def filePost (contents : Bytes) : Request := { fileHead with body := (Payload.file "leads.csv" contents).bytes "b" }

theorem filePost_posts (lines : 13 ∉ contents) : (filePost contents).PostsFile "abc123" "b" "leads.csv" contents := by
  have apart : ¬ Multipart.delimiter (utf8 "b") <:+: contents :=
    Multipart.absent_of_not_mem (List.mem_cons_self : (13 : UInt8) ∈ Multipart.delimiter (utf8 "b")) lines
  have fits : Fits "b" "leads.csv" contents := ⟨by decide +kernel, by decide +kernel, by decide +kernel, apart⟩
  have path : fileHead.path = "/dashboard/contacts" := by decide +kernel
  have signed : fileHead.token? = some "abc123" := by decide +kernel
  have between : fileHead.mediaType?.bind MediaType.boundary? = some "b" := by decide +kernel
  exact ⟨rfl, path, signed, by decide +kernel, between, Payload.file_isForm fits, by decide +kernel⟩

/-- A small file is sent on. -/
theorem respond_by_size_small :
    (filePost (utf8 "phone_number\n+15550001")).PostsFile "abc123" "b" "leads.csv" (utf8 "phone_number\n+15550001") ∧
      ∃ q, ((respond {} (filePost (utf8 "phone_number\n+15550001"))).run .lost ()).requests = [q] ∧
        q.Imports (client {} (some "abc123")) "abc123" "leads.csv" (utf8 "phone_number\n+15550001") := by
  have posts : (filePost (utf8 "phone_number\n+15550001")).PostsFile "abc123" "b" "leads.csv" _ :=
    filePost_posts (by decide +kernel)
  have asked : (client {} (some "abc123")).Addresses "/contacts/import" :=
    Client.addresses_localhost (some "abc123") "/contacts/import"
  exact ⟨posts, (respond_by_size {} posts .lost ()).sent (by decide +kernel) asked⟩

theorem filePost_unsent (lines : 13 ∉ contents) (full : maxUpload ≤ contents.length) :
    ((respond s (filePost contents)).run .lost ()).requests = [] := by
  have posts := filePost_posts lines
  have framed := posts.form.framed
  dsimp only at framed
  rw [respond_large posts (by omega)]
  rfl

/-- A file of the largest size is not sent on. -/
theorem largest_file_refused : ¬ ∀ (s : Settings) (r : Request) (token boundary name : String) (contents : Bytes),
    r.PostsFile token boundary name contents → (client s (some token)).Addresses "/contacts/import" →
      contents.length ≤ maxUpload → ((respond s r).run .lost ()).requests.length = 1 := by
  intro claimed
  obtain ⟨contents, size, lines⟩ : ∃ contents : Bytes, contents.length = maxUpload ∧ 13 ∉ contents :=
    ⟨.replicate maxUpload 120, List.length_replicate, by simp [List.mem_replicate]⟩
  have asked : (client {} (some "abc123")).Addresses "/contacts/import" :=
    Client.addresses_localhost (some "abc123") "/contacts/import"
  have sent := claimed {} _ _ _ _ _ (filePost_posts lines) asked (Nat.le_of_eq size)
  rw [filePost_unsent lines (Nat.le_of_eq size.symm)] at sent
  exact absurd sent Nat.zero_ne_one

end Web

end CallDesk
