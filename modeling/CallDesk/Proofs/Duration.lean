import CallDesk.Call
import CallDesk.Proofs.Json.Growth
import CallDesk.Proofs.Json.Numeral

/-! # Durations from the wire to the page

A call may give its duration as any number. A natural number of at most 64 bits is taken as it is spelled, without
being made a double; any other number is rounded, a half up, and one below zero is no duration. Nothing else in a
call depends on it, and only what is no number, or none that a double can hold, makes the call unreadable. The
text that is shown says the number of seconds, so that different durations are shown differently.
-/

namespace CallDesk

open Text

/-! ## What is told -/

/-- The seconds that a numeral tells. -/
inductive Numeral.Seconds (n : Numeral) : Option UInt64 → Prop
  | natural (whole : n.IsNatural) : Seconds n (some (.ofNat (value n.whole)))
  | rounded {x : Double} (other : ¬ n.IsNatural) (denotes : (Json.number n).double? = some x) (nonneg : 0 ≤ x.value) :
    Seconds n (some (.ofNat (min ⌊x.value + 1 / 2⌋₊ (UInt64.size - 1))))
  | negative {x : Double} (other : ¬ n.IsNatural) (denotes : (Json.number n).double? = some x) (below : x.value < 0) :
    Seconds n none

/-- The duration that the member of a call tells, or the lack of one. -/
inductive TellsDuration : Option Json → Option UInt64 → Prop
  | missing : TellsDuration none none
  | null : TellsDuration (some .null) none
  | number {n : Numeral} {seconds : Option UInt64} (told : n.Seconds seconds) : TellsDuration (some (.number n)) seconds

/-- A finite double is rounded, a half up, if its value is not negative. -/
theorem secondsOfDouble_of_nonneg {x : Double} (finite : x.isFinite = true) (nonneg : 0 ≤ x.value) :
    secondsOfDouble x = some (.ofNat (min ⌊x.value + 1 / 2⌋₊ (UInt64.size - 1))) := by
  have taken : (x.isFinite && (!x.negative || x.units == 0)) = true := by
    rw [finite, (Double.value_nonneg_iff x).mp nonneg, Bool.and_self]
  rw [Double.floor_value nonneg, secondsOfDouble]
  exact if_pos taken

/-- A double below zero is no duration. -/
theorem secondsOfDouble_of_neg {x : Double} (below : x.value < 0) : secondsOfDouble x = none := by
  have refused : (!x.negative || x.units == 0) = false :=
    Bool.eq_false_iff.mpr (mt (Double.value_nonneg_iff x).mpr (not_le_of_gt below))
  rw [secondsOfDouble, refused, Bool.and_false]
  rfl

/-- A numeral is read as the seconds that it tells. -/
theorem durationOfJson?_number (n : Numeral) (d : Option UInt64) :
    durationOfJson? (.number n) = some d ↔ n.Seconds d := by
  by_cases whole : n.IsNatural
  · rw [durationOfJson?, Numeral.number?_of_isNatural whole, Option.map_some, Option.some_inj]
    constructor
    · rintro rfl
      exact .natural whole
    · rintro (_ | other | other)
      · rfl
      · exact absurd whole other
      · exact absurd whole other
  · have read : durationOfJson? (.number n) = (Json.number n).double?.map secondsOfDouble := by
      rw [durationOfJson?, Json.double?]
      cases found : n.number? with
      | none => rfl
      | some m =>
        rw [Option.map_some, Option.map_some, Option.map_some]
        cases m with
        | natural k => exact absurd (Numeral.isNatural_of_number? found) whole
        | negative k => dsimp only
        | double x => dsimp only
    have finite : ∀ x, (Json.number n).double? = some x → x.isFinite = true := by
      intro x denotes
      obtain ⟨m, found, rfl⟩ := Option.map_eq_some_iff.mp denotes
      exact Numeral.isFinite_number? found
    rw [read, Option.map_eq_some_iff]
    constructor
    · rintro ⟨x, denotes, rfl⟩
      rcases le_or_gt 0 x.value with nonneg | below
      · rw [secondsOfDouble_of_nonneg (finite x denotes) nonneg]
        exact .rounded whole denotes nonneg
      · rw [secondsOfDouble_of_neg below]
        exact .negative whole denotes below
    · rintro (natural | ⟨_, denotes, nonneg⟩ | ⟨_, denotes, below⟩)
      · exact absurd natural whole
      · exact ⟨_, denotes, secondsOfDouble_of_nonneg (finite _ denotes) nonneg⟩
      · exact ⟨_, denotes, secondsOfDouble_of_neg below⟩

/-- The field of the duration is read as what it tells, and is refused when it tells nothing. -/
theorem orElse_duration (fs : Fields Json) (d : Option UInt64) :
    fs.orElse "duration_seconds" none durationOfJson? = some d ↔ TellsDuration (fs.lookup "duration_seconds") d := by
  rw [Fields.orElse]
  cases fs.lookup "duration_seconds" with
  | none =>
    constructor
    · rintro ⟨⟩
      exact .missing
    · rintro ⟨⟩
      rfl
  | some v =>
    dsimp only
    cases v with
    | null =>
      constructor
      · rintro ⟨⟩
        exact .null
      · rintro ⟨⟩
        rfl
    | number n =>
      rw [durationOfJson?_number]
      constructor
      · exact .number
      · rintro (_ | _ | told)
        exact told
    | bool | string | array | object =>
      constructor
      · rintro ⟨⟩
      · rintro ⟨⟩

/-! ## Calls -/

/-- Records that give the same fields of a call, but for the duration; `given` is what the second one gives for it. -/
def SameButDuration (v w : Json) (given : Option Json) : Prop :=
  ∃ fs gs, v.fields? Call.fieldNames = some fs ∧ w.fields? Call.fieldNames = some gs ∧
    (∀ name, name ≠ "duration_seconds" → gs.lookup name = fs.lookup name) ∧ gs.lookup "duration_seconds" = given

/-- A call with another duration is the same call but for that, if the duration tells something. -/
theorem Call.ofJson?_sameButDuration {v w : Json} {given : Option Json} (same : SameButDuration v w given) {c : Call}
    (read : ofJson? v = some c) (c' : Call) :
    ofJson? w = some c' ↔ ∃ d, TellsDuration given d ∧ c' = { c with duration := d } := by
  obtain ⟨fs, gs, fields, fields', kept, rfl⟩ := same
  rw [ofJson?, fields, Option.bind_eq_bind, Option.bind_some] at read
  have whole : ofJson? w =
      (gs.orElse "duration_seconds" none durationOfJson?).map fun d => { c with duration := d } := by
    simp only [Option.bind_eq_bind, Option.bind_eq_some_iff] at read
    obtain ⟨id, hId, phone, hPhone, status, hStatus, outcome, hOutcome, old, -, time, hTime, summary, hSummary,
      recording, hRecording, turns, hTurns, made⟩ := read
    obtain rfl := Option.some.inj made
    have others : ∀ name ∈ fieldNames, name ≠ "duration_seconds" → gs.lookup name = fs.lookup name :=
      fun name _ => kept name
    simp only [fieldNames, List.forall_mem_cons] at others
    rw [ofJson?, fields', Option.bind_eq_bind, Option.bind_some]
    simp only [Fields.required, Json.optional_eq] at *
    cases gs.orElse "duration_seconds" none durationOfJson? <;> simp [*]
  rw [whole, Option.map_eq_some_iff]
  exact exists_congr fun d => and_congr (orElse_duration gs d) eq_comm

/-- A call without a duration gets one from a member that comes in anywhere. -/
theorem SameButDuration.inserted {before after : List (Option String × Json)} {fs : Fields Json}
    (fields : (Json.object (before ++ after)).fields? Call.fieldNames = some fs)
    (absent : fs.lookup "duration_seconds" = none) (x : Json) :
    SameButDuration (.object (before ++ after)) (.object (before ++ (some "duration_seconds", x) :: after))
      (some x) := by
  obtain ⟨gs, read, here, others⟩ := Json.named?_inserted (by decide) x fields absent
  exact ⟨fs, gs, fields, read, others, here⟩

/-! ## What is shown -/

/-- A text that says minutes without a leading zero, a colon and two digits of seconds below a minute, and what number
of seconds that is. -/
def ShowsSeconds (s : String) (n : Nat) : Prop :=
  ∃ (first : Digit) (others : List Digit) (tens ones : Digit),
    s.toList = (first :: others).map Digit.char ++ [':', tens.char, ones.char] ∧
    (first.val = 0 → others = []) ∧ value [tens, ones] < 60 ∧ 60 * value (first :: others) + value [tens, ones] = n

/-- No text shows two numbers of seconds. -/
theorem ShowsSeconds.unique {s : String} {m n : Nat} (told : ShowsSeconds s m) (told' : ShowsSeconds s n) : m = n := by
  obtain ⟨first, others, tens, ones, shown, -, -, rfl⟩ := told
  obtain ⟨first', others', tens', ones', shown', -, -, rfl⟩ := told'
  obtain ⟨before, after⟩ := List.append_inj' (shown.symm.trans shown') rfl
  have minutes := List.map_injective_iff.mpr Digit.char_injective before
  obtain ⟨-, after⟩ := List.cons.inj after
  obtain ⟨sameTens, sameOnes⟩ := List.cons.inj after
  rw [minutes, Digit.char_injective sameTens, Digit.char_injective (List.cons.inj sameOnes).1]

theorem durationText_shows (n : UInt64) : ShowsSeconds (durationText (some n)) n.toNat := by
  have below : n.toNat % 60 < 60 := Nat.mod_lt _ (by decide)
  obtain ⟨tens, ones, two⟩ := List.length_eq_two.mp
    (length_paddedDigits (by omega : n.toNat % 60 < 10 ^ 2) (by decide))
  obtain ⟨first, others, minutes⟩ := List.exists_cons_of_ne_nil (digits_ne_nil (n.toNat / 60))
  have seconds : value [tens, ones] = n.toNat % 60 := by rw [← two, value_paddedDigits]
  refine ⟨first, others, tens, ones, ?_, fun zero => ?_, by rwa [seconds], ?_⟩
  · rw [durationText, String.toList_append, String.toList_append, toList_decimal, toList_padded, two, minutes,
      List.append_assoc]
    rfl
  · have leading : (digits (n.toNat / 60)).head? = some 0 := by
      rw [minutes, List.head?_cons]
      exact congrArg some (Fin.ext zero)
    have alone := digits_of_head?_zero leading
    rw [minutes] at alone
    exact (List.cons.inj alone).2
  · rw [← minutes, value_digits, seconds]
    exact Nat.div_add_mod _ _

theorem durationText_injective : Function.Injective durationText := by
  have told : ∀ n : UInt64, durationText (some n) ≠ durationText none := by
    intro n same
    obtain ⟨first, others, tens, ones, shown, -⟩ := durationText_shows n
    rw [same] at shown
    have longer := congrArg List.length shown
    have two : (durationText none).toList.length = 2 := by decide
    simp only [List.length_append, List.length_map, List.length_cons, List.length_nil] at longer
    omega
  intro d e same
  cases d with
  | none =>
    cases e with
    | none => rfl
    | some m => exact absurd same.symm (told m)
  | some n =>
    cases e with
    | none => exact absurd same (told n)
    | some m =>
      have shown := durationText_shows n
      rw [same] at shown
      rw [UInt64.toNat_inj.mp (shown.unique (durationText_shows m))]

/-- The texts of two calls differ at most in the duration. The second one is read as the first one with the duration
that it tells, and not at all if it tells none. Each duration is shown as its minutes and seconds, and no other
duration is shown in that way. -/
theorem durations_told_and_shown :
    (∀ s t given c, LaterText (SameButDuration · · given) s t → Json.decode? Call.ofJson? s = some c →
      ∀ c', Json.decode? Call.ofJson? t = some c' ↔ ∃ d, TellsDuration given d ∧ c' = { c with duration := d }) ∧
    (∀ n : UInt64, ShowsSeconds (durationText (some n)) n.toNat) ∧
    (∀ s m n, ShowsSeconds s m → ShowsSeconds s n → m = n) ∧
    durationText none = "--" ∧ Function.Injective durationText := by
  refine ⟨?_, durationText_shows, fun _ _ _ => ShowsSeconds.unique, rfl, durationText_injective⟩
  rintro s t given c ⟨v, w, text, text', same⟩ told c'
  rw [Json.decode?, text, Option.bind_some] at told
  rw [Json.decode?, text', Option.bind_some]
  exact Call.ofJson?_sameButDuration same told c'

/-- A call without a duration. -/
def toldUntimed : Json :=
  .object [(some "id", .text "c1"), (some "phone_number", .text "+14155550100"), (some "status", .text "completed"),
    (some "created_at", .text "2024-05-01T10:00:00Z")]

/-- The same call with this duration. -/
def toldTimed (whole fraction : List Digit) (exponent : Option (Bool × List Digit)) : Json :=
  .object [(some "id", .text "c1"), (some "phone_number", .text "+14155550100"), (some "status", .text "completed"),
    (some "duration_seconds", .number { whole, fraction, exponent }), (some "created_at", .text "2024-05-01T10:00:00Z")]

theorem laterText_toldTimed {whole fraction : List Digit} {exponent : Option (Bool × List Digit)}
    (writable : (toldTimed whole fraction exponent).isWritable = true) :
    LaterText (SameButDuration · · (some (.number { whole, fraction, exponent }))) (utf8 toldUntimed.render)
      (utf8 (toldTimed whole fraction exponent).render) := by
  let before : List (Option String × Json) :=
    [(some "id", .text "c1"), (some "phone_number", .text "+14155550100"), (some "status", .text "completed")]
  let after : List (Option String × Json) := [(some "created_at", .text "2024-05-01T10:00:00Z")]
  have fields : (Json.object (before ++ after)).fields? Call.fieldNames = some [("id", .text "c1"),
      ("phone_number", .text "+14155550100"), ("status", .text "completed"),
      ("created_at", .text "2024-05-01T10:00:00Z")] := rfl
  exact laterText_render (SameButDuration.inserted fields rfl _) (by decide +kernel) writable

/-- Two and a half, as the double that it is read as. -/
theorem seconds_half : Numeral.Seconds { whole := [2], fraction := [5] } (some 3) := by
  have denotes : (Json.number { whole := [2], fraction := [5] }).double? = some ⟨0x4004000000000000⟩ := by
    decide +kernel
  have amount : Double.value ⟨0x4004000000000000⟩ = 5 / 2 := by
    have sign : Double.negative ⟨0x4004000000000000⟩ = false := by decide
    have exponent : Double.exponentField ⟨0x4004000000000000⟩ = 1024 := by decide
    have fraction : Double.fraction ⟨0x4004000000000000⟩ = 2 ^ 50 := by decide
    rw [Double.value, sign, exponent, fraction]
    norm_num
  have other : ¬ Numeral.IsNatural { whole := [2], fraction := [5] } :=
    fun natural => List.cons_ne_nil _ _ natural.1.2.1
  have seconds := Numeral.Seconds.rounded other denotes (by rw [amount]; norm_num)
  rw [amount] at seconds
  have up : ⌊(5 / 2 + 1 / 2 : ℚ)⌋₊ = 3 := by norm_num
  rw [up] at seconds
  exact seconds

/-- The largest counter is taken exactly, two and a half is rounded up, and a number beyond the doubles makes the
call unreadable. -/
theorem durations_told_and_shown_extreme :
    ∃ c, Json.decode? Call.ofJson? (utf8 toldUntimed.render) = some c ∧
      Json.decode? Call.ofJson? (utf8 (toldTimed (digits 18446744073709551615) [] none).render) =
        some { c with duration := some 18446744073709551615 } ∧
      Json.decode? Call.ofJson? (utf8 (toldTimed [2] [5] none).render) = some { c with duration := some 3 } ∧
      (∀ c', Json.decode? Call.ofJson? (utf8 (toldTimed [1] [] (some (false, [4, 0, 0]))).render) ≠ some c') ∧
      ShowsSeconds (durationText (some 18446744073709551615)) 18446744073709551615 := by
  have readable : (Json.decode? Call.ofJson? (utf8 toldUntimed.render)).isSome = true := by decide +kernel
  obtain ⟨c, told⟩ := Option.isSome_iff_exists.mp readable
  obtain ⟨decoded, shown, -⟩ := durations_told_and_shown
  refine ⟨c, told, ?_, ?_, ?_, shown _⟩
  · have whole : Numeral.IsNatural { whole := digits 18446744073709551615 } :=
      ⟨⟨rfl, rfl, rfl⟩, by rw [value_digits]; decide⟩
    have seconds := Numeral.Seconds.natural whole
    rw [value_digits] at seconds
    exact (decoded _ _ _ c (laterText_toldTimed (by decide +kernel)) told _).mpr ⟨_, .number seconds, rfl⟩
  · exact (decoded _ _ _ c (laterText_toldTimed (by decide +kernel)) told _).mpr ⟨_, .number seconds_half, rfl⟩
  · intro c' taken
    have beyond : (Json.number { whole := [1], exponent := some (false, [4, 0, 0]) }).double? = none := by
      decide +kernel
    obtain ⟨d, tells, -⟩ := (decoded _ _ _ c (laterText_toldTimed (by decide +kernel)) told c').mp taken
    rcases tells with _ | _ | ⟨natural | ⟨-, denotes, -⟩ | ⟨-, denotes, -⟩⟩
    · nomatch natural.1.2.2
    · nomatch beyond.symm.trans denotes
    · nomatch beyond.symm.trans denotes

end CallDesk
