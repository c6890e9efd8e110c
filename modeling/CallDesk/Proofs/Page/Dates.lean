import CallDesk.Proofs.Json.Respelling
import CallDesk.Proofs.Page.Tables

/-! # The dates that are shown

A page shows the date and the time of day in UTC of what a timestamp denotes. The offset of the timestamp may have
led to another day, month or year, also over a leap day: the date that is shown is that of the day in which the
moment is, counted in UTC. How a timestamp was spelled is not shown.
-/

namespace CallDesk

open Json Text

/-! ## Moments as they are shown -/

namespace Moment

variable (m : Moment)

/-- Hour and minute of the day. -/
def hourMinute : String :=
  padded 2 (m.seconds / 3600 % 24).toNat ++ ":" ++ padded 2 (m.seconds / 60 % 60).toNat

/-- The time of day; the second of the minute is 60 in a leap second. -/
def clock : String := m.hourMinute ++ ":" ++ padded 2 ((m.seconds % 60).toNat + m.nano / 10 ^ 9)

/-- A date, which is that of the day in which the moment is. -/
def InDay (d : Date) : Prop := d.number = m.seconds / 86400

end Moment

namespace Instant

variable (t : Instant)

theorem inDay : t.moment.InDay t.date := number_date t

theorem moment_seconds : t.moment.seconds = t.date.number * 86400 + t.second := rfl

theorem hourMinute_eq : t.hourMinute = t.moment.hourMinute := by
  have hour : (t.moment.seconds / 3600 % 24).toNat = t.second / 3600 := by
    have day := second_lt t
    rw [moment_seconds]
    omega
  have minute : (t.moment.seconds / 60 % 60).toNat = t.second / 60 % 60 := by
    have day := second_lt t
    rw [moment_seconds]
    omega
  rw [hourMinute, Moment.hourMinute, hour, minute]

theorem clock_eq : t.clock = t.moment.clock := by
  have second : (t.moment.seconds % 60).toNat = t.second % 60 := by
    rw [moment_seconds]
    omega
  rw [clock, Moment.clock, hourMinute_eq, shownSecond, second]
  rfl

end Instant

/-! ## Timestamps in records -/

/-- A record has a timestamp, and it denotes this moment. -/
def TellsTime (names : List String) (field : String) (v : Json) (m : Moment) : Prop :=
  ∃ fs s, v.fields? names = some fs ∧ fs.lookup field = some (.text s) ∧ Denotes s m

/-- A text that is read as an instant denotes its moment. -/
theorem Instant.ofJson?_denotes {v : Json} {t : Instant} (read : ofJson? v = some t) :
    ∃ s, v = .text s ∧ Denotes s t.moment := by
  obtain ⟨s, text, read⟩ := Option.bind_eq_some_iff.mp read
  refine ⟨s, ?_, (denotes_iff read _).mpr rfl⟩
  cases v with
  | string found =>
    obtain rfl : found = some s := text
    rfl
  | null | bool | number | array | object => contradiction

/-- The timestamp of a call that was told denotes the moment of the call. -/
theorem Call.tellsTime_iff {v : Json} {c : Call} (read : ofJson? v = some c) (m : Moment) :
    TellsTime fieldNames "created_at" v m ↔ m = c.createdAt.moment := by
  obtain ⟨fs, fields, told⟩ := Option.bind_eq_some_iff.mp read
  simp only [Option.bind_eq_bind, Option.bind_eq_some_iff] at told
  obtain ⟨_, -, _, -, _, -, _, -, _, -, time, hTime, _, -, _, -, _, -, made⟩ := told
  obtain rfl := Option.some.inj made
  obtain ⟨w, found, told⟩ := Option.bind_eq_some_iff.mp hTime
  obtain ⟨s, rfl, denotes⟩ := Instant.ofJson?_denotes told
  constructor
  · rintro ⟨fs', s', fields', found', means⟩
    obtain rfl := Option.some.inj (fields.symm.trans fields')
    obtain rfl := Option.some.inj (Json.string.inj (Option.some.inj (found.symm.trans found')))
    exact (denotes_iff told m).mp means
  · rintro rfl
    exact ⟨fs, s, fields, found, denotes⟩

/-- The timestamp of a turn that was told denotes the moment of the turn, and there is none when the turn has none. -/
theorem Turn.tellsTime_iff {v : Json} {t : Turn} (read : ofJson? v = some t) (m : Moment) :
    TellsTime fieldNames "timestamp" v m ↔ t.time.map Instant.moment = some m := by
  obtain ⟨fs, fields, told⟩ := Option.bind_eq_some_iff.mp read
  simp only [Option.bind_eq_bind, Option.bind_eq_some_iff] at told
  obtain ⟨_, -, _, -, time, hTime, made⟩ := told
  obtain rfl := Option.some.inj made
  dsimp only
  constructor
  · rintro ⟨fs', s, fields', found, means⟩
    obtain rfl := Option.some.inj (fields.symm.trans fields')
    rw [Fields.optional, found] at hTime
    obtain ⟨t, told, rfl⟩ := Option.map_eq_some_iff.mp hTime
    rw [Option.map_some, (denotes_iff told m).mp means]
  · intro timed
    obtain ⟨t, rfl, rfl⟩ := Option.map_eq_some_iff.mp timed
    rw [optional_eq] at hTime
    cases found : fs.lookup "timestamp" with
    | none =>
      rw [found] at hTime
      nomatch Option.some.inj hTime
    | some w =>
      by_cases null : w = .null
      · rw [found, null] at hTime
        nomatch Option.some.inj hTime
      · rw [found, optionalOf?.eq_3 _ _ null] at hTime
        obtain ⟨_, told, same⟩ := Option.map_eq_some_iff.mp hTime
        obtain rfl := Option.some.inj same
        obtain ⟨s, rfl, denotes⟩ := Instant.ofJson?_denotes told
        exact ⟨fs, s, fields, found, denotes⟩

/-! ## Pages -/

/-- A row of a table of calls shows when the call of an item was made: the date and the minute in UTC of what its
timestamp denotes. -/
def RowDates (item : Json) (row : Option ShownCall) : Prop :=
  ∃ shown m d, row = some shown ∧ (∀ m', TellsTime Call.fieldNames "created_at" item m' ↔ m' = m) ∧ m.InDay d ∧
    shown.minute = d.text ++ " " ++ m.hourMinute

/-- The rows of the table of calls show the dates of the items of the page that was told. -/
theorem CallsPage.rows_dated {v : Json} {p : CallsPage} (read : ofJson? v = some p) {fs : Fields Json}
    (fields : v.fields? fieldNames = some fs) {items : List Json} (calls : fs.lookup "calls" = some (.array items)) :
    Placewise (fun _ => RowDates) items (ShownCall.rows (Html.marksOf (Page.callTable p.calls).render)) := by
  obtain ⟨_, fields', told⟩ := Option.bind_eq_some_iff.mp read
  obtain rfl := Option.some.inj (fields.symm.trans fields')
  simp only [Option.bind_eq_bind, Option.bind_eq_some_iff] at told
  obtain ⟨list, hList, _, -, _, -, _, -, made⟩ := told
  obtain rfl := Option.some.inj made
  rw [Fields.orElse, calls] at hList
  rw [(Page.lists_calls list).found, List.map_map]
  refine (Placewise.of_mapM hList).map_right _ fun _ item c read => ?_
  refine ⟨_, _, c.createdAt.date, rfl, Call.tellsTime_iff read, c.createdAt.inDay, ?_⟩
  rw [← Instant.hourMinute_eq]
  rfl

/-- An item of a transcript shows a time of day just when the turn that was told has a timestamp: that in UTC of what
it denotes. -/
def ItemClocks (item : Json) (turn : Option ShownTurn) : Prop :=
  ∃ shown, turn = some shown ∧
    ∀ clock, shown.time = some clock ↔ ∃ m, TellsTime Turn.fieldNames "timestamp" item m ∧ clock = m.clock

theorem Transcript.items_clocked {v : Json} {t : Transcript} (read : ofJson? v = some t) {fs : Fields Json}
    (fields : v.fields? fieldNames = some fs) {items : List Json} (turns : fs.lookup "turns" = some (.array items)) :
    Placewise (fun _ => ItemClocks) items (ShownTurn.items (Html.marksOf (Page.transcript t.turns).render)) := by
  obtain ⟨_, fields', told⟩ := Option.bind_eq_some_iff.mp read
  obtain rfl := Option.some.inj (fields.symm.trans fields')
  simp only [Option.bind_eq_bind, Option.bind_eq_some_iff] at told
  obtain ⟨_, -, list, hList, made⟩ := told
  obtain rfl := Option.some.inj made
  rw [Fields.orElse, turns] at hList
  rw [(Page.lists_turns list).found, List.map_map]
  refine (Placewise.of_mapM hList).map_right _ fun _ item u read => ⟨_, rfl, fun clock => ?_⟩
  have shown : (ShownTurn.ofTurn u).time = u.time.map Instant.clock := rfl
  simp only [shown, Turn.tellsTime_iff read, Option.map_eq_some_iff]
  constructor
  · rintro ⟨time, timed, rfl⟩
    exact ⟨_, ⟨time, timed, rfl⟩, time.clock_eq⟩
  · rintro ⟨_, ⟨time, timed, rfl⟩, rfl⟩
    exact ⟨time, timed, time.clock_eq⟩

/-! ## A single call -/

namespace Page

open Html

/-- What follows the link at the top of the page of a call. -/
def detailBody (d : CallDetail) : Html :=
  newline ++ lines [callFacts d.call,
    Html.optional d.call.summary (fun s => card "Summary" (plain "p" s)) ++
      Html.optional d.call.recordingUrl (fun url => card "Recording" (player url)),
    card "Transcript" (transcriptState d.transcript)]

theorem transcriptState_legible (state : View (List Turn)) : (transcriptState state).isLegible = true := by
  cases state with
  | loading => decide
  | failed message => simp +decide [transcriptState, banner, plain, Html.text, Html.optional]
  | ready turns => exact transcript_legible turns

theorem detailBody_legible (d : CallDetail) : (detailBody d).isLegible = true := by
  have turns := transcriptState_legible d.transcript
  cases summary : d.call.summary <;> cases recording : d.call.recordingUrl <;>
    simp +decide [detailBody, callFacts, described, callBadge, badge, card, player, plain, styled, Html.text, newline,
      lines, Html.optional, summary, recording, turns]

theorem transcriptState_lacks (state : View (List Turn)) : (transcriptState state).lacks "dd" = true := by
  cases state with
  | loading => decide
  | failed message => simp [transcriptState, banner, plain, Html.text, Html.optional]
  | ready turns =>
    rw [transcriptState]
    by_cases none : turns = []
    · rw [none]
      decide
    · have items : lacks "dd" (turns.flatMap fun t => element "li" (turnStyle t) (turnContents t)) = true :=
        lacks_flatMap fun t _ => by simp [turnContents_lacks]
      rw [transcript_eq none]
      simp [items, transcriptHead, styled, Html.text, newline]

/-- What stands after the description of the date. -/
def detailRest (d : CallDetail) : Html :=
  newline ++ [.stop "dl"] ++ newline ++ [.stop "section"] ++ newline ++
    (Html.optional d.call.summary (fun s => card "Summary" (plain "p" s)) ++
      Html.optional d.call.recordingUrl (fun url => card "Recording" (player url))) ++ newline ++
    card "Transcript" (transcriptState d.transcript)

theorem detailRest_lacks (d : CallDetail) : (detailRest d).lacks "dd" = true := by
  have turns := transcriptState_lacks d.transcript
  cases summary : d.call.summary <;> cases recording : d.call.recordingUrl <;>
    simp [detailRest, card, player, plain, styled, Html.text, newline, lines, Html.optional, summary, recording, turns]

/-- What stands before the description of the status. -/
def detailStart (d : CallDetail) : Html :=
  newline ++ [.start "section" [.value "class" "card"]] ++ newline ++ plain "h2" d.call.phoneNumber ++ newline ++
    [.start "dl" [.value "class" "call-meta"]] ++ newline

theorem detailBody_eq (d : CallDetail) : detailBody d =
    detailStart d ++ plain "dt" "Status" ++ (element "dd" [] (callBadge d.call.status) ++
      (newline ++ plain "dt" "Outcome" ++ (element "dd" [] (Html.text (d.call.outcome.getD missing)) ++
        (newline ++ plain "dt" "Duration" ++ (element "dd" [] (Html.text (durationText d.call.duration)) ++
          (newline ++ plain "dt" "Date" ++ (element "dd" [] (Html.text (d.call.createdAt.secondText ++ " UTC")) ++
            detailRest d))))))) := by
  simp [detailBody, detailStart, detailRest, callFacts, described, styled, element, lines]

/-- The link at the top of the page of a call. -/
def backLink : Html :=
  element "a" [.value "class" "back-link", .value "href" Site.calls] (.named "larr" :: Html.text " All calls")

/-- The descriptions on the page of a call are what is known of it, the date with its time of day. -/
theorem descriptions_callDetail (d : CallDetail) :
    (Mark.elements "dd" (marksOf (callDetail (.ready d)).render)).map Mark.words =
      [d.call.status.label, d.call.outcome.getD "--", durationText d.call.duration,
        d.call.createdAt.secondText ++ " UTC"] := by
  have whole : callDetail (.ready d) = backLink ++ detailBody d := rfl
  have clean : (backLink ++ detailBody d).isClean = true := by
    have link : backLink.isClean = true := by decide
    have body := isClean_of_isLegible (detailBody_legible d)
    rw [isClean, List.all_append, Bool.and_eq_true]
    exact ⟨link, body⟩
  have below : Mark.elements "dd" (backLink ++ detailBody d).marks = Mark.elements "dd" (detailBody d).marks := rfl
  have start : lacks "dd" (detailStart d ++ plain "dt" "Status") = true := by
    simp [detailStart, plain, Html.text, newline]
  have between (name : String) : lacks "dd" (newline ++ plain "dt" name) = true := by
    simp [plain, Html.text, newline]
  have status : lacks "dd" (callBadge d.call.status) = true := by
    simp [callBadge, badge, styled, Html.text]
  have shown (s : String) : lacks "dd" (Html.text s) = true := by simp [Html.text]
  rw [whole, marksOf_render clean, below, elements_marks (by decide) (detailBody_legible d), detailBody_eq,
    parts_append start, parts_element _ status, parts_append (between _), parts_element _ (shown _),
    parts_append (between _), parts_element _ (shown _), parts_append (between _), parts_element _ (shown _),
    parts_lacking (detailRest_lacks d)]
  simp only [List.map_cons, List.map_nil, words_text, callBadge, words_badge]
  rfl

end Page

/-- The page of a call that was told shows when the call was made: the date and the time of day in UTC of what its
timestamp denotes. -/
theorem Call.detail_dated {v : Json} {c : Call} (read : ofJson? v = some c) (turns : View (List Turn)) :
    ∃ m d, (∀ m', TellsTime fieldNames "created_at" v m' ↔ m' = m) ∧ m.InDay d ∧
      ((Mark.elements "dd" (Html.marksOf (Page.callDetail (.ready ⟨c, turns⟩)).render)).map Mark.words).getLast? =
        some (d.text ++ " " ++ m.clock ++ " UTC") := by
  refine ⟨_, c.createdAt.date, tellsTime_iff read, c.createdAt.inDay, ?_⟩
  rw [Page.descriptions_callDetail, ← Instant.clock_eq]
  rfl

/-! ## Spellings -/

/-- Texts that are related are read as one value when both are read; so it is written in one way and shown in one. -/
def Normalised {α β : Type} (R : Json → Json → Prop) (read : Json → Option α) (write : α → Json) (shown : α → β) :
    Prop :=
  ∀ s t a b, LaterText R s t → decode? read s = some a → decode? read t = some b →
    b = a ∧ encode write b = encode write a ∧ shown b = shown a

theorem Json.ReadAlike.normalised {α β : Type} {R : Json → Json → Prop} {read : Json → Option α}
    (alike : ReadAlike R read) (write : α → Json) (shown : α → β) : Normalised R read write shown := by
  rintro s t a b ⟨v, w, text, text', related⟩ told told'
  rw [decode?, text, Option.bind_some] at told
  rw [decode?, text', Option.bind_some] at told'
  obtain rfl := alike.same related told told'
  exact ⟨rfl, rfl, rfl⟩

/-- Pages of calls, listings of campaigns, transcripts and calls whose timestamps are spelled in another way are the
same when they are read, and are written and shown as the same. A timestamp that is read denotes one moment, that of
the instant that is read. What is shown of it is its date and its time of day in UTC: on each row of a table of
calls, on the page of a call and at the turns of a transcript. -/
theorem timestamps_normalised :
    Normalised CallsPage.Respelled CallsPage.ofJson? CallsPage.toJson (fun p => (Page.callTable p.calls).render) ∧
    Normalised Campaign.ListRespelled Campaign.listOfJson? (Json.list Campaign.toJson)
      (fun campaigns => (Page.campaigns (.ready campaigns)).render) ∧
    Normalised Transcript.Respelled Transcript.ofJson? Transcript.toJson
      (fun t => (Page.transcript t.turns).render) ∧
    Normalised Call.Respelled Call.ofJson? Call.toJson
      (fun c turns => (Page.callDetail (.ready ⟨c, turns⟩)).render) ∧
    (∀ s t, Instant.read? s = some t → ∀ m, Denotes s m ↔ m = t.moment) ∧
    (∀ v p fs items, CallsPage.ofJson? v = some p → v.fields? CallsPage.fieldNames = some fs →
      fs.lookup "calls" = some (.array items) →
        Placewise (fun _ => RowDates) items (ShownCall.rows (Html.marksOf (Page.callTable p.calls).render))) ∧
    (∀ v c turns, Call.ofJson? v = some c → ∃ m d,
      (∀ m', TellsTime Call.fieldNames "created_at" v m' ↔ m' = m) ∧ m.InDay d ∧
        ((Mark.elements "dd" (Html.marksOf (Page.callDetail (.ready ⟨c, turns⟩)).render)).map Mark.words).getLast? =
          some (d.text ++ " " ++ m.clock ++ " UTC")) ∧
    ∀ v t fs items, Transcript.ofJson? v = some t → v.fields? Transcript.fieldNames = some fs →
      fs.lookup "turns" = some (.array items) →
        Placewise (fun _ => ItemClocks) items (ShownTurn.items (Html.marksOf (Page.transcript t.turns).render)) :=
  ⟨CallsPage.readAlike.normalised _ _, Campaign.readAlike_list.normalised _ _, Transcript.readAlike.normalised _ _,
    Call.readAlike.normalised _ _, fun _ _ => denotes_iff,
    fun _ _ _ _ read fields calls => CallsPage.rows_dated read fields calls,
    fun _ _ turns read => Call.detail_dated read turns,
    fun _ _ _ _ read fields turns => Transcript.items_clocked read fields turns⟩

theorem denotes_of_read {s : String} {m : Moment} (read : (Instant.read? s).map Instant.moment = some m) :
    Denotes s m := by
  obtain ⟨t, found, rfl⟩ := Option.map_eq_some_iff.mp read
  exact (denotes_iff found _).mpr rfl

/-- A page with one call, told in an array, that has one turn. -/
def datedPage (created turn : String) : Json :=
  .object [(some "calls", .array [.array [.text "c1", .text "+14155550100", .text "completed", .null, .null,
    .text created, .null, .null, .array [.object [(some "role", .text "user"), (some "content", .text "Hi"),
      (some "timestamp", .text turn)]]]])]

theorem datedPage_respelled {created created' turn turn' : String} (time : SameTime (.text created) (.text created'))
    (time' : SameTime (.text turn) (.text turn')) :
    CallsPage.Respelled (datedPage created turn) (datedPage created' turn') := by
  have turns : Turn.Respelled
      (.object [(some "role", .text "user"), (some "content", .text "Hi"), (some "timestamp", .text turn)])
      (.object [(some "role", .text "user"), (some "content", .text "Hi"), (some "timestamp", .text turn')]) :=
    .object (.cons ⟨_, rfl, rfl, rfl⟩ (.cons ⟨_, rfl, rfl, rfl⟩ (.cons ⟨_, rfl, rfl, time'⟩ .nil)))
  have list : SameItems Turn.Respelled
      (.array [.object [(some "role", .text "user"), (some "content", .text "Hi"), (some "timestamp", .text turn)]])
      (.array [.object [(some "role", .text "user"), (some "content", .text "Hi"), (some "timestamp", .text turn')]]) :=
    .inr (.array (.cons turns .nil))
  refine .object (.cons ⟨"calls", rfl, rfl, .inr (.array (.cons (.array ?_) .nil))⟩ .nil)
  refine .cons ?_ (.cons ?_ (.cons ?_ (.cons ?_ (.cons ?_ (.cons ?_ (.cons ?_ (.cons ?_ (.cons ?_ .nil))))))))
  case refine_6 =>
    rintro _ ⟨⟩
    exact time
  case refine_9 =>
    rintro _ ⟨⟩
    exact list
  all_goals
    rintro _ ⟨⟩
    exact rfl

/-- A leap second at the end of the leap day, told with an offset that leads to the next day, and told in that day. -/
def leapSecond : String × String :=
  ("2024-02-29T23:59:60.25-00:30", " +002024 - 3 - 1t1:29:60.2500000000 +01: 00 ")

/-- The turn of a year, before it and after it. -/
def newYear : String × String := ("2023-12-31 23:30:00-01:00", "2024-01-01T00:30:00.000z")

/-- The two spellings of the page are read as one page, and its row shows the day of UTC. -/
theorem timestamps_normalised_leap_day :
    ∃ p, decode? CallsPage.ofJson? (utf8 (datedPage leapSecond.1 newYear.1).render) = some p ∧
      decode? CallsPage.ofJson? (utf8 (datedPage leapSecond.2 newYear.2).render) = some p ∧
      ∃ row, ShownCall.rows (Html.marksOf (Page.callTable p.calls).render) = [some row] ∧
        row.minute = "2024-03-01 00:29" := by
  obtain ⟨pages, -, -, -, -, rows, -⟩ := timestamps_normalised
  have first : Denotes leapSecond.1 ⟨63844936199, 1250000000⟩ := denotes_of_read (by decide +kernel)
  have created : SameTime (.text leapSecond.1) (.text leapSecond.2) :=
    .inr ⟨_, _, _, rfl, rfl, first, denotes_of_read (by decide +kernel)⟩
  have spoken : SameTime (.text newYear.1) (.text newYear.2) :=
    .inr ⟨_, _, ⟨63839752200, 0⟩, rfl, rfl, denotes_of_read (by decide +kernel), denotes_of_read (by decide +kernel)⟩
  have writable (created turn : String) : (datedPage created turn).isWritable = true := rfl
  have decoded (created turn : String) :
      Json.decode? CallsPage.ofJson? (utf8 (datedPage created turn).render) =
        CallsPage.ofJson? (datedPage created turn) := by
    rw [Json.decode?, read?_render (writable created turn), Option.bind_some]
  obtain ⟨p, told⟩ := Option.isSome_iff_exists.mp (by decide +kernel :
    (CallsPage.ofJson? (datedPage leapSecond.1 newYear.1)).isSome = true)
  obtain ⟨q, told'⟩ := Option.isSome_iff_exists.mp (by decide +kernel :
    (CallsPage.ofJson? (datedPage leapSecond.2 newYear.2)).isSome = true)
  have related := laterText_render (datedPage_respelled created spoken) (writable _ _) (writable _ _)
  obtain ⟨rfl, -⟩ := pages _ _ p q related ((decoded _ _).trans told) ((decoded _ _).trans told')
  obtain ⟨_, others, shown, ⟨row, m, d, rfl, tells, inDay, minute⟩, none⟩ := (rows _ q _ _ told rfl rfl).uncons
  obtain rfl := (tells _).mp ⟨_, _, rfl, rfl, first⟩
  have day : d = ⟨2024, 3, 1, by decide⟩ := Date.number_injective (inDay.trans (by decide))
  rw [none.eq_nil] at shown
  refine ⟨q, (decoded _ _).trans told, (decoded _ _).trans told', row, shown, ?_⟩
  rw [minute, day]
  decide +kernel

end CallDesk
