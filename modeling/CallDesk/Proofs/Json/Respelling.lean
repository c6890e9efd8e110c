import CallDesk.Proofs.Json.Growth
import CallDesk.Proofs.Time.Spelling

/-! # Messages with timestamps that are spelled in another way

A message may tell its timestamps in another spelling: each of them is replaced by one that denotes the same
moment, and nothing else is changed, in records that are objects as in those that are arrays. When both messages
are read, what is read is the same: the spelling of a timestamp is lost in reading it.
-/

namespace CallDesk

open Json

namespace Json

/-! ## Records that were edited -/

/-- Members with the same names in the same order, whose values have changed as `edit` allows. -/
def SameMembers (edit : String → Json → Json → Prop) (members others : List (Option String × Json)) : Prop :=
  Placewise (fun _ m n => ∃ name, m.1 = some name ∧ n.1 = some name ∧ edit name m.2 n.2) members others

/-- Records whose fields have changed as `edit` allows: objects with the same names in the same order, or arrays. -/
inductive Edited (names : List String) (edit : String → Json → Json → Prop) : Json → Json → Prop
  | object {members others : List (Option String × Json)} (each : SameMembers edit members others) :
    Edited names edit (.object members) (.object others)
  | array {items others : List Json}
    (each : Placewise (fun i v w => ∀ name, names[i]? = some name → edit name v w) items others) :
    Edited names edit (.array items) (.array others)

variable {names : List String} {edit : String → Json → Json → Prop}

theorem SameMembers.grown {members others : List (Option String × Json)} (each : SameMembers edit members others) :
    Grown names edit members others := by
  induction members generalizing others with
  | nil =>
    obtain rfl := each.eq_nil
    exact .done
  | cons m members ih =>
    obtain ⟨⟨_, w⟩, rest, rfl, ⟨name, here, rfl, edited⟩, others⟩ := each.uncons
    obtain ⟨_, v⟩ := m
    obtain rfl := here
    exact .kept edited (ih others)

/-- The values at the places of an array are the fields of these places. -/
theorem SameFields.of_zip {items others : List Json}
    (each : Placewise (fun i v w => ∀ name, names[i]? = some name → edit name v w) items others) :
    SameFields edit (names.zip items) (names.zip others) := by
  induction names generalizing items others with
  | nil => exact fun name => .inl ⟨rfl, rfl⟩
  | cons name names ih =>
    cases items with
    | nil =>
      obtain rfl := each.eq_nil
      exact fun name => .inl ⟨rfl, rfl⟩
    | cons v items =>
      obtain ⟨w, rest, rfl, first, others⟩ := each.uncons
      exact (ih others).cons (first name rfl)

/-- The fields of an edited record are those of the record, each edited. -/
theorem Edited.fields? {v w : Json} (edited : Edited names edit v w) {fs gs : Fields Json}
    (fields : v.fields? names = some fs) (fields' : w.fields? names = some gs) : SameFields edit fs gs := by
  cases edited with
  | object each =>
    obtain ⟨_, found, same⟩ := each.grown.named? fields
    obtain rfl := Option.some.inj (found.symm.trans fields')
    exact same
  | array each =>
    rw [Json.fields?] at fields fields'
    split at fields
    · split at fields'
      · obtain rfl := Option.some.inj fields
        obtain rfl := Option.some.inj fields'
        exact .of_zip each
      · contradiction
    · contradiction

/-! ## Values that are read as the same -/

/-- Related values are read as the same, if both are read, and neither or both of them are null. -/
structure ReadAlike {α : Type} (R : Json → Json → Prop) (read : Json → Option α) : Prop where
  null : ∀ {v w}, R v w → (v = .null ↔ w = .null)
  same : ∀ {v w a b}, R v w → read v = some a → read w = some b → b = a

namespace SameFields

variable {α : Type} {read : Json → Option α} {fs gs : Fields Json} {name : String}

/-- A field that is given in both records is read as the same. -/
theorem required_alike (same : SameFields edit fs gs) (alike : ReadAlike (edit name) read) {a b : α}
    (told : fs.required name read = some a) (told' : gs.required name read = some b) : b = a := by
  obtain ⟨v, found, told⟩ := Option.bind_eq_some_iff.mp told
  obtain ⟨w, found', told'⟩ := Option.bind_eq_some_iff.mp told'
  rcases same name with ⟨left, -⟩ | ⟨v', w', left, right, edited⟩
  · rw [left] at found
    contradiction
  · obtain rfl := Option.some.inj (left.symm.trans found)
    obtain rfl := Option.some.inj (right.symm.trans found')
    exact alike.same edited told told'

theorem orElse_alike (same : SameFields edit fs gs) (alike : ReadAlike (edit name) read) {absent a b : α}
    (told : fs.orElse name absent read = some a) (told' : gs.orElse name absent read = some b) : b = a := by
  rw [Fields.orElse] at told told'
  rcases same name with ⟨left, right⟩ | ⟨v, w, left, right, edited⟩
  · rw [left] at told
    rw [right] at told'
    exact Option.some.inj (told'.symm.trans told)
  · rw [left] at told
    rw [right] at told'
    exact alike.same edited told told'

theorem optional_alike (same : SameFields edit fs gs) (alike : ReadAlike (edit name) read) {a b : Option α}
    (told : fs.optional name read = some a) (told' : gs.optional name read = some b) : b = a := by
  rw [optional_eq] at told told'
  rcases same name with ⟨left, right⟩ | ⟨v, w, left, right, edited⟩
  · rw [left] at told
    rw [right] at told'
    exact Option.some.inj (told'.symm.trans told)
  · rw [left] at told
    rw [right] at told'
    by_cases null : v = .null
    · rw [null] at told
      rw [(alike.null edited).mp null] at told'
      exact Option.some.inj (told'.symm.trans told)
    · rw [optionalOf?.eq_3 _ _ null] at told
      rw [optionalOf?.eq_3 _ _ (mt (alike.null edited).mpr null)] at told'
      obtain ⟨x, read, rfl⟩ := Option.map_eq_some_iff.mp told
      obtain ⟨y, read', rfl⟩ := Option.map_eq_some_iff.mp told'
      rw [alike.same edited read read']

end SameFields

/-- The same value, or arrays with related values at their places. -/
def SameItems (R : Json → Json → Prop) (v w : Json) : Prop := w = v ∨ Listed (fun _ => R) v w

/-- Lists of values that are related place by place are read as the same. -/
theorem ReadAlike.mapM {α : Type} {R : Json → Json → Prop} {read : Json → Option α} (alike : ReadAlike R read)
    {items others : List Json} (each : Placewise (fun _ => R) items others) {as bs : List α}
    (told : items.mapM read = some as) (told' : others.mapM read = some bs) : bs = as := by
  induction items generalizing others as bs with
  | nil =>
    obtain rfl := each.eq_nil
    exact Option.some.inj (told'.symm.trans told)
  | cons v items ih =>
    obtain ⟨w, rest, rfl, first, others⟩ := each.uncons
    simp only [List.mapM_cons, Option.bind_eq_bind, Option.bind_eq_some_iff] at told told'
    obtain ⟨a, here, as, there, made⟩ := told
    obtain ⟨b, here', bs, there', made'⟩ := told'
    obtain rfl := Option.some.inj made
    obtain rfl := Option.some.inj made'
    rw [alike.same first here here', ih others there there']

theorem ReadAlike.items {α : Type} {R : Json → Json → Prop} {read : Json → Option α} (alike : ReadAlike R read) :
    ReadAlike (SameItems R) (list? read) where
  null {v w} related := by
    rcases related with rfl | listed
    · exact Iff.rfl
    · cases listed with
      | array => exact ⟨nofun, nofun⟩
  same {v w as bs} related told told' := by
    rcases related with rfl | listed
    · exact Option.some.inj (told'.symm.trans told)
    · cases listed with
      | array each => exact alike.mapM each told told'

/-- A value that is left as it is, is read as it was. -/
theorem ReadAlike.fixed {α : Type} {R : Json → Json → Prop} {read : Json → Option α} (fixed : ∀ v w, R v w → w = v) :
    ReadAlike R read where
  null {v w} related := by rw [fixed v w related]
  same {v w a b} related told told' := by
    obtain rfl := fixed v w related
    exact Option.some.inj (told'.symm.trans told)

/-- An edited record is read as the same when its edited fields are. -/
theorem ReadAlike.record {α : Type} {body : Fields Json → Option α}
    (each : ∀ {fs gs a b}, SameFields edit fs gs → body fs = some a → body gs = some b → b = a) :
    ReadAlike (Edited names edit) fun v => (v.fields? names).bind body where
  null {v w} edited := by
    cases edited with
    | object | array => exact ⟨nofun, nofun⟩
  same {v w a b} edited told told' := by
    obtain ⟨fs, fields, told⟩ := Option.bind_eq_some_iff.mp told
    obtain ⟨gs, fields', told'⟩ := Option.bind_eq_some_iff.mp told'
    exact each (edited.fields? fields fields') told told'

/-- Fields that are left as they are. -/
def unchanged (_ : String) (v w : Json) : Prop := w = v

theorem ReadAlike.unchanged {α : Type} {read : Json → Option α} {name : String} :
    ReadAlike (Json.unchanged name) read :=
  .fixed fun _ _ same => same

/-- Fields that change as `edit` allows, but for one whose items change as `R` allows. -/
def nested (field : String) (R : Json → Json → Prop) (edit : String → Json → Json → Prop) (name : String)
    (v w : Json) : Prop :=
  if name = field then SameItems R v w else edit name v w

theorem ReadAlike.nested {α : Type} {R : Json → Json → Prop} {read : Json → Option α} {field : String}
    {edit : String → Json → Json → Prop} (alike : ReadAlike R read) :
    ReadAlike (Json.nested field R edit field) (list? read) := by
  have here : Json.nested field R edit field = SameItems R := by
    funext v w
    exact if_pos rfl
  rw [here]
  exact alike.items

theorem ReadAlike.beside {α : Type} {R : Json → Json → Prop} {read : Json → Option α} {field name : String}
    {edit : String → Json → Json → Prop} (other : name ≠ field) (alike : ReadAlike (edit name) read) :
    ReadAlike (Json.nested field R edit name) read := by
  have elsewhere : Json.nested field R edit name = edit name := by
    funext v w
    exact if_neg other
  rw [elsewhere]
  exact alike

end Json

/-! ## Timestamps -/

/-- The same value, or texts that denote the same moment. -/
def SameTime (v w : Json) : Prop := w = v ∨ ∃ s t m, v = .text s ∧ w = .text t ∧ Denotes s m ∧ Denotes t m

/-- Texts that denote the same moment are read as the same instant. -/
theorem Instant.readAlike : ReadAlike SameTime ofJson? where
  null {v w} related := by
    rcases related with rfl | ⟨s, t, m, rfl, rfl, -⟩
    · exact Iff.rfl
    · exact ⟨nofun, nofun⟩
  same {v w t u} related told told' := by
    rcases related with rfl | ⟨s, s', m, rfl, rfl, means, means'⟩
    · exact Option.some.inj (told'.symm.trans told)
    · have moment := (denotes_iff told m).mp means
      have moment' := (denotes_iff told' m).mp means'
      obtain ⟨seconds, nano⟩ := Moment.mk.inj (moment'.symm.trans moment)
      exact eq_of_seconds seconds nano

/-- A field that is left as it is, or the timestamp in another spelling. -/
def respelled (timestamp name : String) (v w : Json) : Prop :=
  if name = timestamp then SameTime v w else w = v

theorem respelled_time {timestamp : String} : ReadAlike (respelled timestamp timestamp) Instant.ofJson? := by
  have same : respelled timestamp timestamp = SameTime := by
    funext v w
    exact if_pos rfl
  rw [same]
  exact Instant.readAlike

theorem respelled_other {α : Type} {read : Json → Option α} {timestamp name : String} (other : name ≠ timestamp) :
    ReadAlike (respelled timestamp name) read :=
  .fixed fun v w edited => by rwa [respelled, if_neg other] at edited

/-! ## Messages -/

/-- A turn whose timestamp is spelled in another way. -/
def Turn.Respelled : Json → Json → Prop := Edited fieldNames (respelled "timestamp")

theorem Turn.readAlike : ReadAlike Turn.Respelled ofJson? := by
  refine ReadAlike.record fun same told told' => ?_
  simp only [Option.bind_eq_bind, Option.bind_eq_some_iff] at told told'
  obtain ⟨role, hRole, content, hContent, time, hTime, made⟩ := told
  obtain ⟨role', hRole', content', hContent', time', hTime', made'⟩ := told'
  obtain rfl := same.required_alike (respelled_other (by decide)) hRole hRole'
  obtain rfl := same.required_alike (respelled_other (by decide)) hContent hContent'
  obtain rfl := same.optional_alike respelled_time hTime hTime'
  exact Option.some.inj (made'.symm.trans made)

/-- A call whose timestamps are spelled in another way, its own and those of its turns. -/
def Call.Respelled : Json → Json → Prop :=
  Edited fieldNames (nested "transcript" Turn.Respelled (respelled "created_at"))

theorem Call.readAlike : ReadAlike Call.Respelled ofJson? := by
  refine ReadAlike.record fun same told told' => ?_
  have other {α : Type} {read : Json → Option α} {name : String} (first : name ≠ "transcript")
      (second : name ≠ "created_at") :
      ReadAlike (nested "transcript" Turn.Respelled (respelled "created_at") name) read :=
    .beside first (respelled_other second)
  simp only [Option.bind_eq_bind, Option.bind_eq_some_iff] at told told'
  obtain ⟨id, hId, phone, hPhone, status, hStatus, outcome, hOutcome, duration, hDuration, time, hTime, summary,
    hSummary, recording, hRecording, o, hTurns, made⟩ := told
  obtain ⟨id', hId', phone', hPhone', status', hStatus', outcome', hOutcome', duration', hDuration', time', hTime',
    summary', hSummary', recording', hRecording', o', hTurns', made'⟩ := told'
  obtain rfl := same.required_alike (other (by decide) (by decide)) hId hId'
  obtain rfl := same.required_alike (other (by decide) (by decide)) hPhone hPhone'
  obtain rfl := same.required_alike (other (by decide) (by decide)) hStatus hStatus'
  obtain rfl := same.optional_alike (other (by decide) (by decide)) hOutcome hOutcome'
  obtain rfl := same.orElse_alike (other (by decide) (by decide)) hDuration hDuration'
  obtain rfl := same.required_alike (.beside (by decide) respelled_time) hTime hTime'
  obtain rfl := same.optional_alike (other (by decide) (by decide)) hSummary hSummary'
  obtain rfl := same.optional_alike (other (by decide) (by decide)) hRecording hRecording'
  obtain rfl := same.optional_alike Turn.readAlike.nested hTurns hTurns'
  exact Option.some.inj (made'.symm.trans made)

/-- A page of calls whose timestamps are spelled in another way. -/
def CallsPage.Respelled : Json → Json → Prop :=
  Edited fieldNames (nested "calls" Call.Respelled unchanged)

theorem CallsPage.readAlike : ReadAlike CallsPage.Respelled ofJson? := by
  refine ReadAlike.record fun same told told' => ?_
  have other {α : Type} {read : Json → Option α} {name : String} (other : name ≠ "calls") :
      ReadAlike (nested "calls" Call.Respelled unchanged name) read :=
    .beside other .unchanged
  simp only [Option.bind_eq_bind, Option.bind_eq_some_iff] at told told'
  obtain ⟨list, hList, total, hTotal, number, hNumber, size, hSize, made⟩ := told
  obtain ⟨list', hList', total', hTotal', number', hNumber', size', hSize', made'⟩ := told'
  obtain rfl := same.orElse_alike Call.readAlike.nested hList hList'
  obtain rfl := same.orElse_alike (other (by decide)) hTotal hTotal'
  obtain rfl := same.orElse_alike (other (by decide)) hNumber hNumber'
  obtain rfl := same.orElse_alike (other (by decide)) hSize hSize'
  exact Option.some.inj (made'.symm.trans made)

/-- A transcript whose timestamps are spelled in another way. -/
def Transcript.Respelled : Json → Json → Prop :=
  Edited fieldNames (nested "turns" Turn.Respelled unchanged)

theorem Transcript.readAlike : ReadAlike Transcript.Respelled ofJson? := by
  refine ReadAlike.record fun same told told' => ?_
  simp only [Option.bind_eq_bind, Option.bind_eq_some_iff] at told told'
  obtain ⟨id, hId, list, hList, made⟩ := told
  obtain ⟨id', hId', list', hList', made'⟩ := told'
  obtain rfl := same.orElse_alike (.beside (by decide) .unchanged) hId hId'
  obtain rfl := same.orElse_alike Turn.readAlike.nested hList hList'
  exact Option.some.inj (made'.symm.trans made)

/-- A campaign whose timestamp is spelled in another way. -/
def Campaign.Respelled : Json → Json → Prop := Edited fieldNames (respelled "created_at")

theorem Campaign.readAlike : ReadAlike Campaign.Respelled ofJson? := by
  refine ReadAlike.record fun same told told' => ?_
  simp only [Option.bind_eq_bind, Option.bind_eq_some_iff] at told told'
  obtain ⟨id, hId, name, hName, description, hDescription, prompt, hPrompt, voice, hVoice, goal, hGoal, status,
    hStatus, leads, hLeads, calls, hCalls, time, hTime, made⟩ := told
  obtain ⟨id', hId', name', hName', description', hDescription', prompt', hPrompt', voice', hVoice', goal', hGoal',
    status', hStatus', leads', hLeads', calls', hCalls', time', hTime', made'⟩ := told'
  obtain rfl := same.required_alike (respelled_other (by decide)) hId hId'
  obtain rfl := same.required_alike (respelled_other (by decide)) hName hName'
  obtain rfl := same.optional_alike (respelled_other (by decide)) hDescription hDescription'
  obtain rfl := same.orElse_alike (respelled_other (by decide)) hPrompt hPrompt'
  obtain rfl := same.optional_alike (respelled_other (by decide)) hVoice hVoice'
  obtain rfl := same.optional_alike (respelled_other (by decide)) hGoal hGoal'
  obtain rfl := same.required_alike (respelled_other (by decide)) hStatus hStatus'
  obtain rfl := same.orElse_alike (respelled_other (by decide)) hLeads hLeads'
  obtain rfl := same.orElse_alike (respelled_other (by decide)) hCalls hCalls'
  obtain rfl := same.optional_alike respelled_time hTime hTime'
  exact Option.some.inj (made'.symm.trans made)

/-- A listing of campaigns, in either of its shapes, whose timestamps are spelled in another way. -/
inductive Campaign.ListRespelled : Json → Json → Prop
  | bare {v w : Json} (listed : Listed (fun _ => Campaign.Respelled) v w) : ListRespelled v w
  | wrapped {members others : List (Option String × Json)}
    (each : SameMembers (nested "campaigns" Campaign.Respelled unchanged) members others) :
    ListRespelled (.object members) (.object others)

theorem Campaign.readAlike_list : ReadAlike Campaign.ListRespelled listOfJson? where
  null {v w} related := by
    rcases related with listed | -
    · cases listed with
      | array => exact ⟨nofun, nofun⟩
    · exact ⟨nofun, nofun⟩
  same {v w as bs} related told told' := by
    rcases related with listed | each
    · cases listed with
      | array each =>
        rw [listOfJson?_array] at told told'
        obtain ⟨-, told⟩ := Option.ite_none_right_eq_some.mp told
        obtain ⟨-, told'⟩ := Option.ite_none_right_eq_some.mp told'
        exact Campaign.readAlike.mapM each told told'
    · rw [listOfJson?_object] at told told'
      obtain ⟨-, told⟩ := Option.ite_none_right_eq_some.mp told
      obtain ⟨-, told'⟩ := Option.ite_none_right_eq_some.mp told'
      obtain ⟨fs, fields, told⟩ := Option.bind_eq_some_iff.mp told
      obtain ⟨gs, fields', told'⟩ := Option.bind_eq_some_iff.mp told'
      have same := (Edited.object each).fields? fields fields'
      exact same.required_alike Campaign.readAlike.nested told told'

end CallDesk
