import CallDesk.Call
import CallDesk.Campaign
import CallDesk.Import
import CallDesk.Proofs.Json.Record
import CallDesk.Proofs.Time.Reader
import CallDesk.Settings.Basic

/-! # Reading messages that were written

Everything that is told to the backend or to the browser, and the settings, are read back from the text that
they are written as.
-/

namespace CallDesk

open Json

theorem Instant.codec : Codec Instant.ofJson? Instant.toJson where
  writable _ := rfl
  back t := by rw [ofJson?, toJson, Json.text, Json.text?, Option.bind_some, read?_text]

theorem Role.codec : Codec Role.ofJson? Role.toJson where
  writable _ := rfl
  back r := by cases r <;> rfl

theorem CallStatus.codec : Codec CallStatus.ofJson? CallStatus.toJson where
  writable _ := rfl
  back s := by cases s <;> rfl

theorem CampaignStatus.codec : Codec CampaignStatus.ofJson? CampaignStatus.toJson where
  writable _ := rfl
  back s := by cases s <;> rfl

/-- A duration that was written is a whole number of seconds, which is not rounded. -/
theorem codec_duration : Codec durationOfJson? (Json.option fun n : UInt64 => .nat n.toNat) where
  writable := isWritable_option fun n => isWritable_nat n.toNat
  back o := by
    cases o with
    | none => rfl
    | some n =>
      rw [Json.option, nat, durationOfJson?, Numeral.number?_ofNat n.toNat_lt, Option.map_some]
      dsimp only
      rw [UInt64.ofNat_toNat]

theorem Turn.codec : Codec Turn.ofJson? Turn.toJson := by
  refine Codec.record (fun t => .refl _) (by decide) (fun t => ?_) (fun t => ?_)
  · simp [Role.codec.writable, codec_text.writable, isWritable_option Instant.codec.writable]
  · simp [Fields.required, optional_eq, List.lookup_cons, Role.codec.back, codec_text.back,
      Instant.codec.optional (fun _ => nofun)]

theorem Transcript.codec : Codec Transcript.ofJson? Transcript.toJson := by
  refine Codec.record (fun t => .refl _) (by decide) (fun t => ?_) (fun t => ?_)
  · simp [codec_text.writable, Turn.codec.list.writable]
  · simp [Fields.orElse, List.lookup_cons, codec_text.back, Turn.codec.list.back]

theorem Call.codec : Codec Call.ofJson? Call.toJson := by
  refine Codec.record (fun c => .refl _) (by decide) (fun c => ?_) (fun c => ?_)
  · simp [codec_text.writable, CallStatus.codec.writable, isWritable_option codec_text.writable,
      isWritable_option fun n : UInt64 => isWritable_nat n.toNat, Instant.codec.writable,
      isWritable_option Turn.codec.list.writable]
  · simp [Fields.required, Fields.orElse, optional_eq, List.lookup_cons, codec_text.back, CallStatus.codec.back,
      codec_duration.back, Instant.codec.back, codec_text.optional (fun _ => nofun),
      Turn.codec.list.optional (fun _ => nofun)]

theorem CallsPage.codec : Codec CallsPage.ofJson? CallsPage.toJson := by
  refine Codec.record (fun p => .refl _) (by decide) (fun p => ?_) (fun p => ?_)
  · simp [Call.codec.list.writable, isWritable_nat]
  · simp [Fields.orElse, List.lookup_cons, Call.codec.list.back, codec_uint64.back, codec_uint32.back]

theorem Campaign.codec : Codec Campaign.ofJson? Campaign.toJson := by
  refine Codec.record (fun c => .refl _) (by decide) (fun c => ?_) (fun c => ?_)
  · simp [codec_text.writable, CampaignStatus.codec.writable, isWritable_option codec_text.writable,
      isWritable_nat, isWritable_option Instant.codec.writable]
  · simp [Fields.required, Fields.orElse, optional_eq, List.lookup_cons, codec_text.back, CampaignStatus.codec.back,
      codec_uint64.back, codec_text.optional (fun _ => nofun), Instant.codec.optional (fun _ => nofun)]

namespace CampaignForm

theorem names_member (name : String) (o : Option String) : ((member name o).map (·.1)).Sublist [name] := by
  cases o with
  | none => exact List.nil_sublist _
  | some s => exact .refl _

theorem isWritable_member {name : String} {o : Option String} :
    ∀ m ∈ member name o, m.2.isWritable = true := by
  cases o with
  | none => nofun
  | some s => exact List.forall_mem_singleton.mpr rfl

/-- A form leaves out the fields that say nothing, and they are read as saying nothing. -/
theorem codec : Codec ofJson? toJson := by
  refine Codec.record (fun f => ?_) (by decide) (fun f => ?_) (fun f => ?_)
  · have first := (names_member "description" f.description).cons_cons "name"
    have second := (names_member "voice" f.voice).cons_cons "system_prompt"
    rw [List.map_append, List.map_append]
    exact (first.append second).append (names_member "goal" f.goal)
  · intro m member
    simp only [List.mem_append, List.mem_cons] at member
    rcases member with ((rfl | description) | (rfl | voice)) | goal
    · rfl
    · exact isWritable_member m description
    · rfl
    · exact isWritable_member m voice
    · exact isWritable_member m goal
  · obtain ⟨name, description, systemPrompt, voice, goal⟩ := f
    cases description <;> cases voice <;> cases goal <;>
      simp [member, Fields.required, optional_eq, List.lookup_cons, codec_text.back, optionalOf?_none,
        codec_text.given (fun _ => nofun)]

end CampaignForm

theorem RowError.codec : Codec RowError.ofJson? RowError.toJson := by
  refine Codec.record (fun e => .refl _) (by decide) (fun e => ?_) (fun e => ?_)
  · simp [codec_text.writable, isWritable_nat]
  · simp [Fields.required, Fields.orElse, List.lookup_cons, codec_uint64.back, codec_text.back]

theorem ImportResult.codec : Codec ImportResult.ofJson? ImportResult.toJson := by
  refine Codec.record (fun r => .refl _) (by decide) (fun r => ?_) (fun r => ?_)
  · simp [RowError.codec.list.writable, isWritable_nat]
  · simp [Fields.orElse, List.lookup_cons, RowError.codec.list.back, codec_uint64.back]

/-! ## Settings -/

namespace Settings

theorem codec_messageText : Codec messageSource.text? .text := codec_text

theorem codec_messageBool : Codec messageSource.bool? .bool := codec_bool

theorem codec_messageUInt16 : Codec messageSource.uint16? fun n : UInt16 => .nat n.toNat := codec_uint16

theorem codec_messageUInt32 : Codec messageSource.uint32? fun n : UInt32 => .nat n.toNat := codec_uint32

theorem codec_messageUInt64 : Codec messageSource.uint64? fun n : UInt64 => .nat n.toNat := codec_uint64

theorem codec_messageOptionalText : Codec messageSource.optionalText? (Json.option .text) where
  writable := isWritable_option fun _ => rfl
  back o := by cases o <;> rfl

end Settings

open Settings

theorem ServerSettings.codec (absent : ServerSettings) :
    Codec (ServerSettings.take? messageSource absent) ServerSettings.toJson := by
  refine Codec.record (fun s => .refl _) (by decide) (fun s => ?_) (fun s => ?_)
  · simp [codec_text.writable, isWritable_nat]
  · simp [Fields.orElse, List.lookup_cons, codec_messageText.back, codec_messageUInt16.back]

theorem BackendSettings.codec (absent : BackendSettings) :
    Codec (BackendSettings.take? messageSource absent) BackendSettings.toJson := by
  refine Codec.record (fun s => .refl _) (by decide) (fun s => ?_) (fun s => ?_)
  · simp [codec_text.writable, isWritable_nat]
  · simp [Fields.orElse, List.lookup_cons, codec_messageText.back, codec_messageUInt64.back]

theorem SignInSettings.codec (absent : SignInSettings) :
    Codec (SignInSettings.take? messageSource absent) SignInSettings.toJson := by
  refine Codec.record (fun s => .refl _) (by decide) (fun s => ?_) (fun s => ?_)
  · simp [codec_text.writable, isWritable_nat, codec_bool.writable]
  · simp [Fields.orElse, List.lookup_cons, codec_messageText.back, codec_messageUInt64.back, codec_messageBool.back]

theorem DashboardSettings.codec (absent : DashboardSettings) :
    Codec (DashboardSettings.take? messageSource absent) DashboardSettings.toJson := by
  refine Codec.record (fun s => .refl _) (by decide) (fun s => ?_) (fun s => ?_)
  · simp [codec_text.writable, isWritable_nat]
  · simp [Fields.orElse, List.lookup_cons, codec_messageText.back, codec_messageUInt32.back]

theorem AssistantSettings.codec (absent : AssistantSettings) :
    Codec (AssistantSettings.take? messageSource absent) AssistantSettings.toJson := by
  refine Codec.record (fun s => .refl _) (by decide) (fun s => ?_) (fun s => ?_)
  · simp [codec_bool.writable, codec_messageOptionalText.writable]
  · simp [Fields.orElse, List.lookup_cons, codec_messageBool.back, codec_messageOptionalText.back]

theorem DatabaseSettings.codec (absent : DatabaseSettings) :
    Codec (DatabaseSettings.take? messageSource absent) DatabaseSettings.toJson := by
  refine Codec.record (fun s => .refl _) (by decide) (fun s => ?_) (fun s => ?_)
  · simp [codec_text.writable, isWritable_nat]
  · simp [Fields.orElse, List.lookup_cons, codec_messageText.back, codec_messageUInt32.back, codec_messageUInt64.back]

theorem LogSettings.codec (absent : LogSettings) :
    Codec (LogSettings.take? messageSource absent) LogSettings.toJson := by
  refine Codec.record (fun s => .refl _) (by decide) (fun s => ?_) (fun s => ?_)
  · simp [codec_text.writable]
  · simp [Fields.orElse, List.lookup_cons, codec_messageText.back]

theorem Settings.codec : Codec Settings.ofJson? Settings.toJson := by
  refine Codec.record (fun s => .refl _) (by decide) (fun s => ?_) (fun s => ?_)
  · simp [(ServerSettings.codec {}).writable, (BackendSettings.codec {}).writable, (SignInSettings.codec {}).writable,
      (DashboardSettings.codec {}).writable, (AssistantSettings.codec {}).writable,
      (DatabaseSettings.codec {}).writable, (LogSettings.codec {}).writable]
  · simp [Fields.orElse, List.lookup_cons, (ServerSettings.codec _).back, (BackendSettings.codec _).back,
      (SignInSettings.codec _).back, (DashboardSettings.codec _).back, (AssistantSettings.codec _).back,
      (DatabaseSettings.codec _).back, (LogSettings.codec _).back]

/-! ## All of them -/

/-- Every value of these types is read back from its text, whatever its texts, counters and timestamps are. So
a text that is accepted for one of them says the same after it has been read and written. -/
theorem messages_round_trip :
    RoundTrip Call.ofJson? Call.toJson ∧ RoundTrip CallsPage.ofJson? CallsPage.toJson ∧
    RoundTrip Turn.ofJson? Turn.toJson ∧ RoundTrip Transcript.ofJson? Transcript.toJson ∧
    RoundTrip Campaign.ofJson? Campaign.toJson ∧ RoundTrip CampaignForm.ofJson? CampaignForm.toJson ∧
    RoundTrip RowError.ofJson? RowError.toJson ∧ RoundTrip ImportResult.ofJson? ImportResult.toJson ∧
    RoundTrip Settings.ofJson? Settings.toJson :=
  ⟨Call.codec.roundTrip, CallsPage.codec.roundTrip, Turn.codec.roundTrip, Transcript.codec.roundTrip,
    Campaign.codec.roundTrip, CampaignForm.codec.roundTrip, RowError.codec.roundTrip, ImportResult.codec.roundTrip,
    Settings.codec.roundTrip⟩

end CallDesk
