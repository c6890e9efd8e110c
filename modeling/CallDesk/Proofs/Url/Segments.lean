import CallDesk.Proofs.Text.Split
import CallDesk.Proofs.Url.Base

/-! # Paths that go on

The segments of a path are entered one after the other, and those that move lead back or nowhere. So where
a longer path leads depends on what is before it only through the segments entered there. A base leads to
its root, which are the segments of its path without the empty ones that the slashes at its end make, and a
path that it goes on with is entered from there.
-/

namespace CallDesk.Url

open Text

/-! ## Segments -/

/-- A segment that is not entered. -/
def moves (segment : String) : Bool := isDoubleDot segment || isSingleDot segment

/-- The segments that are entered, in reverse, after one that is not the last. -/
def enter (done : List String) (segment : String) : List String :=
  if isDoubleDot segment then done.tail else if isSingleDot segment then done else segment :: done

theorem enter_of_still {segment : String} (still : moves segment = false) (done : List String) :
    enter done segment = segment :: done := by
  obtain ⟨double, single⟩ := Bool.or_eq_false_iff.mp still
  rw [enter, double, single]
  rfl

variable {done segments rest : List String}

/-- Before other segments, a segment only leads where it is entered. -/
theorem resolveOnto_append (more : rest ≠ []) :
    resolveOnto done (segments ++ rest) = resolveOnto (segments.foldl enter done) rest := by
  induction segments generalizing done with
  | nil => rfl
  | cons segment segments ih =>
    have last : (segments ++ rest).isEmpty = false := by simp [more]
    rw [List.cons_append, resolveOnto, List.foldl_cons, enter, last]
    split
    · exact ih
    split
    · exact ih
    · exact ih

/-- At the end, a segment that moves leaves an empty one. -/
theorem resolveOnto_singleton (done : List String) (segment : String) :
    resolveOnto done [segment] =
      (enter done segment).reverse ++ List.replicate (moves segment).toNat "" := by
  rw [resolveOnto, enter, moves]
  cases isDoubleDot segment with
  | true => simp [resolveOnto]
  | false => cases isSingleDot segment <;> simp [resolveOnto]

theorem resolveOnto_of_still (still : ∀ s ∈ segments, moves s = false) :
    resolveOnto done segments = done.reverse ++ segments := by
  induction segments generalizing done with
  | nil => rw [resolveOnto, List.append_nil]
  | cons segment segments ih =>
    obtain ⟨first, others⟩ := List.forall_mem_cons.mp still
    obtain ⟨double, single⟩ := Bool.or_eq_false_iff.mp first
    rw [resolveOnto, double, single]
    exact (ih others).trans (by simp)

theorem resolveOnto_empties (done : List String) (n : Nat) :
    resolveOnto done (List.replicate n "") = done.reverse ++ List.replicate n "" := by
  refine resolveOnto_of_still fun s member => ?_
  rw [List.eq_of_mem_replicate member]
  decide

/-- The number of empty segments after those that are entered, where a path ends in a segment and slashes. -/
def emptied (last : String) (slashes : Nat) : Nat := max slashes (moves last).toNat

/-- A path ends in the segments that are entered, and in empty ones for the slashes at its end. -/
theorem resolveOnto_slashes (done first : List String) (last : String) (slashes : Nat) :
    resolveOnto done (first ++ [last] ++ List.replicate slashes "") =
      ((first ++ [last]).foldl enter done).reverse ++ List.replicate (emptied last slashes) "" := by
  cases slashes with
  | zero =>
    rw [List.replicate_zero, List.append_nil, resolveOnto_append (List.cons_ne_nil _ _), resolveOnto_singleton,
      List.foldl_append, emptied, Nat.zero_max]
    rfl
  | succ n =>
    have one : (moves last).toNat ≤ n + 1 := Nat.le_trans (Bool.toNat_le _) (Nat.le_add_left 1 n)
    rw [resolveOnto_append (by simp), resolveOnto_empties, emptied, Nat.max_eq_left one]

/-! ## The characters of a path -/

/-- Characters with slashes in place of backslashes. -/
def forward (cs : List Char) : List Char := cs.map fun c => if c == '\\' then '/' else c

/-- The segments between the slashes of a path. -/
def segmentsOf (cs : List Char) : List String := (splitAll '/' cs).map (written isPlainInPath)

/-- The segments that are entered, in reverse, where a way leads. -/
def entered (way : List Char) : List String :=
  match forward way with
  | [] => []
  | _ :: rest => (segmentsOf rest).foldl enter []

variable {way cs t : List Char}

theorem forward_of_not_mem (straight : '\\' ∉ cs) : forward cs = cs := by
  have same : ∀ c ∈ cs, (if c == '\\' then '/' else c) = c := by
    intro c member
    have other : (c == '\\') = false := beq_false_of_ne fun same => straight (same ▸ member)
    rw [other]
    rfl
  rw [forward, List.map_congr_left same, List.map_id']

theorem segmentsOf_append (cs t : List Char) : segmentsOf (cs ++ '/' :: t) = segmentsOf cs ++ segmentsOf t := by
  rw [segmentsOf, splitAll_append, List.map_append]
  rfl

theorem written_nil : written isPlainInPath [] = "" := by decide +kernel

theorem segmentsOf_slashes (cs : List Char) (n : Nat) :
    segmentsOf (cs ++ List.replicate n '/') = segmentsOf cs ++ List.replicate n "" := by
  rw [segmentsOf, splitAll_append_replicate, List.map_append, List.map_replicate, written_nil, segmentsOf]

theorem segmentsOf_replicate (n : Nat) : segmentsOf (List.replicate n '/') = List.replicate (n + 1) "" := by
  have none : segmentsOf [] = [""] := congrArg (fun s => [s]) written_nil
  rw [← List.nil_append (List.replicate n '/'), segmentsOf_slashes, none]
  rfl

theorem segmentsOf_ne_nil (cs : List Char) : segmentsOf cs ≠ [] := by
  obtain ⟨first, last, pieces, -⟩ := exists_last_piece '/' cs
  rw [segmentsOf, pieces]
  simp

/-- A way is nothing, or a slash and the characters of a path. -/
theorem forward_of_slash (slash : ∀ c ∈ way.head?, isSlash c = true) :
    forward way = [] ∨ ∃ rest, forward way = '/' :: rest := by
  cases way with
  | nil => exact .inl rfl
  | cons c rest =>
    have first := slash c rfl
    simp only [isSlash, Bool.or_eq_true, beq_iff_eq] at first
    rcases first with rfl | rfl <;> exact .inr ⟨_, rfl⟩

theorem readPath_eq (cs : List Char) : readPath true cs =
    match forward cs with
    | [] => .segments [""]
    | '/' :: rest => .segments (resolve (segmentsOf rest))
    | cs => .segments (resolve (segmentsOf cs)) := rfl

theorem entered_of_slash {rest : List Char} (path : forward way = '/' :: rest) :
    entered way = (segmentsOf rest).foldl enter [] := by
  rw [entered, path]

/-- Where a way goes on, the segments that follow are entered from where it leads. -/
theorem readPath_append (slash : ∀ c ∈ way.head?, isSlash c = true) (straight : '\\' ∉ t) :
    readPath true (way ++ '/' :: t) = .segments (resolveOnto (entered way) (segmentsOf t)) := by
  have on : forward (way ++ '/' :: t) = forward way ++ '/' :: t := by
    rw [forward, List.map_append, List.map_cons, ← forward, ← forward, forward_of_not_mem straight]
    rfl
  rcases forward_of_slash slash with none | ⟨rest, some⟩
  · rw [readPath_eq, on, entered, none]
    rfl
  · rw [readPath_eq, on, some, entered_of_slash some, ← resolveOnto_append (segmentsOf_ne_nil t), ← segmentsOf_append]
    rfl

/-- Where a way ends in slashes, its path has empty segments after those that are entered, one at least if its
last segment moves. -/
theorem readPath_slashes (slash : ∀ c ∈ way.head?, isSlash c = true) (slashes : Nat) :
    ∃ n, readPath true (way ++ List.replicate slashes '/') =
        .segments ((entered way).reverse ++ List.replicate n "") ∧
      ∀ rest, forward way = '/' :: rest → ∀ last ∈ (segmentsOf rest).getLast?, (moves last).toNat ≤ n := by
  have on : forward (way ++ List.replicate slashes '/') = forward way ++ List.replicate slashes '/' := by
    rw [forward, List.map_append, List.map_replicate]
    rfl
  rcases forward_of_slash slash with none | ⟨rest, some⟩
  · have alone : ∃ n, readPath true (way ++ List.replicate slashes '/') = .segments (List.replicate n "") := by
      rw [readPath_eq, on, none, List.nil_append]
      cases slashes with
      | zero => exact ⟨1, rfl⟩
      | succ n =>
        refine ⟨n + 1, congrArg Path.segments ?_⟩
        rw [segmentsOf_replicate, resolve, resolveOnto_empties]
        rfl
    obtain ⟨n, path⟩ := alone
    refine ⟨n, ?_, fun rest path => absurd (none.symm.trans path) (by simp)⟩
    rw [path, entered, none]
    rfl
  · obtain ⟨first, last, whole⟩ := (List.eq_nil_or_concat' (segmentsOf rest)).resolve_left (segmentsOf_ne_nil rest)
    refine ⟨emptied last slashes, ?_, ?_⟩
    · rw [readPath_eq, on, some, entered_of_slash some, whole, ← resolveOnto_slashes, ← whole, ← segmentsOf_slashes]
      rfl
    · intro other same final given
      obtain rfl := (List.cons.inj (some.symm.trans same)).2
      rw [whole, List.getLast?_concat] at given
      obtain rfl := Option.some.inj given
      exact Nat.le_max_right _ _

/-! ## Segments in percent coding -/

theorem text_append (before after : List String) :
    (Path.segments (before ++ after)).text = (Path.segments before).text ++ (Path.segments after).text := by
  rw [Path.text, List.flatMap_append, String.ofList_append]
  rfl

theorem toList_text_cons (segment : String) (rest : List String) :
    (Path.segments (segment :: rest)).text.toList = '/' :: (segment.toList ++ (Path.segments rest).text.toList) := by
  rw [Path.text, Path.text, String.toList_ofList, String.toList_ofList, List.flatMap_cons]
  rfl

theorem isPlainInPath_of_coded {c : Char} (coded : isCoded c = true) : isPlainInPath (asciiByte c) = true :=
  forall_isCoded (p := fun c => isPlainInPath (asciiByte c) = true) (by decide) coded

theorem segmentsOf_coded {segment : String} (coded : ∀ c ∈ segment.toList, isCoded c = true) :
    segmentsOf segment.toList = [segment] := by
  have whole : '/' ∉ segment.toList := fun member => absurd (coded _ member) (by decide)
  have plain : ∀ c ∈ segment.toList, c.toNat < 128 ∧ isPlainInPath (asciiByte c) = true := fun c member =>
    ⟨Nat.lt_succ_of_lt (isCoded_bounds (coded c member)).2, isPlainInPath_of_coded (coded c member)⟩
  rw [segmentsOf, splitAll_of_not_mem whole, List.map_singleton, written_plain plain, String.ofList_toList]

/-- A path is not altered when it is read, if its segments are in percent coding. -/
theorem segmentsOf_text {segment : String} (coded : ∀ s ∈ segment :: rest, ∀ c ∈ s.toList, isCoded c = true) :
    segmentsOf (segment ++ (Path.segments rest).text).toList = segment :: rest := by
  obtain ⟨first, others⟩ := List.forall_mem_cons.mp coded
  rw [String.toList_append]
  induction rest generalizing segment with
  | nil => rw [Path.text, List.flatMap_nil, String.toList_ofList, List.append_nil, segmentsOf_coded first]
  | cons next rest ih =>
    have later := List.forall_mem_cons.mp others
    rw [toList_text_cons, segmentsOf_append, segmentsOf_coded first, ih others later.1 later.2]
    rfl

/-- What a moving segment stands for is one dot or two. -/
theorem decode_of_moves {segment : String} (moving : moves segment = true) :
    percentDecode? segment = some "." ∨ percentDecode? segment = some ".." := by
  simp only [moves, isDoubleDot, isSingleDot, Bool.or_eq_true, beq_iff_eq] at moving
  rcases moving with ((((((((rfl | rfl) | rfl) | rfl) | rfl) | rfl) | rfl) | rfl) | rfl) | ((rfl | rfl) | rfl)
  all_goals decide +kernel

/-- Percent coding makes no segment that moves, other than those that are dots already. -/
theorem moves_percentEncode {s : String} (moving : moves (percentEncode s) = true) : s = "." ∨ s = ".." := by
  have decoded := percentDecode?_percentEncode s
  rcases decode_of_moves moving with single | double
  · exact .inl (Option.some.inj (decoded.symm.trans single))
  · exact .inr (Option.some.inj (decoded.symm.trans double))

/-! ## Where a base leads -/

theorem percentBytes_eq_nil {keep : UInt8 → Bool} {bytes : Bytes} (none : percentBytes keep bytes = []) :
    bytes = [] := by
  cases bytes with
  | nil => rfl
  | cons b rest =>
    rw [percentBytes, List.flatMap_cons] at none
    have first := (List.append_eq_nil_iff.mp none).1
    split at first
    · exact absurd first (List.cons_ne_nil _ _)
    · exact absurd first (List.cons_ne_nil _ _)

/-- Only no characters are written as nothing. -/
theorem written_eq_empty {keep : UInt8 → Bool} (empty : written keep cs = "") : cs = [] := by
  have none : percentBytes keep (utf8 (.ofList cs)) = [] := by
    rw [← String.toList_ofList (l := percentBytes keep (utf8 (.ofList cs))), ← written, empty]
    rfl
  have decoded := decode?_utf8 (.ofList cs)
  rw [percentBytes_eq_nil none] at decoded
  rw [← String.toList_ofList (l := cs), ← Option.some.inj decoded]
  rfl

/-- A text without slashes at its end is tidy when all of its characters are looked at, and it tells slashes
with slashes alone. A segment that moves may be at its end, if its path does not then end in two slashes. -/
structure Tidy (stem : String) (u : Url) : Prop where
  visible : ∀ c ∈ stem.toList, isEdge c = false ∧ c ≠ '\\'
  single : ∀ last ∈ (segmentsOf stem.toList).getLast?, moves last = true →
    ∀ parts, u.path ≠ .segments (parts ++ ["", ""])

/-- The segments that are entered end in an empty one only where the last segment moves. -/
theorem moves_of_entered_empty {rest : List Char} (path : forward way = '/' :: rest)
    (bare : way.getLast? ≠ some '/') (straight : '\\' ∉ way) (empty : (entered way).head? = some "") :
    ∃ last ∈ (segmentsOf rest).getLast?, moves last = true := by
  obtain ⟨first, last, pieces, ends⟩ := exists_last_piece '/' rest
  have segments : segmentsOf rest = first.map (written isPlainInPath) ++ [written isPlainInPath last] := by
    rw [segmentsOf, pieces, List.map_append]
    rfl
  refine ⟨written isPlainInPath last, by rw [segments, List.getLast?_concat]; rfl, ?_⟩
  by_contra still
  rw [entered_of_slash path, segments, List.foldl_append, List.foldl_cons, List.foldl_nil,
    enter_of_still (by simpa using still), List.head?_cons] at empty
  rw [forward_of_not_mem straight] at path
  apply bare
  rw [path]
  rcases ends (written_eq_empty (Option.some.inj empty)) with rfl | slash
  · rfl
  · rw [List.getLast?_cons, slash]
    rfl

variable {u : Url} {text : String}

/-- Where a tidy text leads, the segments that are entered are all that its path has before the slashes at its
end. -/
theorem Tidy.entered_ends {stem : String} {n : Nat} (tidy : Tidy stem u) (bare : stem.toList.getLast? ≠ some '/')
    (suffix : way <:+ front stem.toList) (slash : ∀ c ∈ way.head?, isSlash c = true)
    (path : u.path = .segments ((entered way).reverse ++ List.replicate n ""))
    (least : ∀ rest, forward way = '/' :: rest → ∀ last ∈ (segmentsOf rest).getLast?, (moves last).toNat ≤ n) :
    (entered way).head? ≠ some "" := by
  intro empty
  rcases forward_of_slash slash with none | ⟨rest, some⟩
  · rw [entered, none] at empty
    contradiction
  -- All characters of the text are looked at, so the way ends where the text ends.
  have whole : front stem.toList = stem.toList := by
    have kept : front ([] ++ stem.toList) = front [] ++ stem.toList :=
      front_append fun c member => (tidy.visible c member).1
    exact kept
  rw [whole] at suffix
  obtain ⟨before, split⟩ := suffix
  have straight : '\\' ∉ way := by
    intro member
    exact (tidy.visible _ (split ▸ List.mem_append_right before member)).2 rfl
  have open_end : way.getLast? ≠ Option.some '/' := by
    intro last
    apply bare
    rw [← split, List.getLast?_append, last, Option.some_or]
  obtain ⟨last, final, moving⟩ := moves_of_entered_empty some open_end straight empty
  have shown : last ∈ (segmentsOf stem.toList).getLast? := by
    rw [forward_of_not_mem straight] at some
    rw [← split, some, segmentsOf_append, List.getLast?_append, Option.mem_def.mp final]
    rfl
  have one := least rest some last final
  rw [moving, Bool.toNat_true] at one
  obtain ⟨m, rfl⟩ := Nat.exists_eq_add_of_le' one
  obtain ⟨others, ends⟩ := List.head?_eq_some_iff.mp empty
  apply tidy.single last shown moving (others.reverse ++ List.replicate m "")
  have two : [""] ++ List.replicate (m + 1) "" = List.replicate m "" ++ ["", ""] :=
    (List.replicate_append_replicate (n := m) (m := 2)).symm
  rw [path, ends, List.reverse_cons, List.append_assoc, List.append_assoc, two]

/-- The path of a base is that of its root and slashes, all those at its end if the base is tidy, and the base
goes on with the segments that are entered from its root. -/
theorem IsBase.root (base : IsBase text u) {stem : String} {slashes : List Char}
    (trimmed : text.toList = stem.toList ++ slashes) (only : ∀ c ∈ slashes, c = '/')
    (bare : stem.toList.getLast? ≠ some '/') :
    ∃ root n, u.path = .segments (root ++ List.replicate n "") ∧ (Tidy stem u → root.getLast? ≠ some "") ∧
      ∀ t : String, '?' ∉ t.toList ∧ '#' ∉ t.toList → '\\' ∉ t.toList → (∀ c ∈ t.toList, isEdge c = false) →
        Url.read (stem ++ "/" ++ t) =
          .ok { u with path := .segments (resolveOnto root.reverse (segmentsOf t.toList)) } := by
  obtain ⟨way, suffix, slash, path, read⟩ := base.read_onward trimmed only
  rw [List.eq_replicate_of_mem only] at path
  obtain ⟨n, emptied, least⟩ := readPath_slashes slash slashes.length
  rw [emptied] at path
  refine ⟨(entered way).reverse, n, path, fun tidy => ?_, fun t plain straight visible => ?_⟩
  · rw [List.getLast?_reverse]
    exact tidy.entered_ends bare suffix slash path least
  · rw [read t plain visible, readPath_append slash straight, List.reverse_reverse]

end CallDesk.Url
