import CallDesk.Proofs.Pager
import Mathlib.Data.List.Intervals

/-! # Pagers at the edge of their words

The operations of a pager are computed once more with steps that give no result where a word would wrap around,
a divisor is zero or the bounds of a clamp are the wrong way round. For every pager that can be reached they have
a result, which is the one of the operations themselves. The items of the pages follow one another without a gap
up to the last item, or, where there are more items than a word can count pages for, up to the last page that
can be counted.
-/

namespace CallDesk.Pager

/-! ## Pagers that can be reached -/

/-- What a pager can become: the pager at the next or the previous page, the clamped pager, or another one. -/
inductive Step : Pager → Pager → Prop
  | next {p : Pager} {page : UInt32} (found : p.next? = some page) : Step p { p with page }
  | previous {p : Pager} {page : UInt32} (found : p.previous? = some page) : Step p { p with page }
  | clamped (p : Pager) : Step p p.clamped
  | rebuilt (p : Pager) (page pageSize : UInt32) (total : UInt64) : Step p (of page pageSize total)

/-- The pagers that any number of steps lead to. -/
inductive Reachable : Pager → Prop
  | first (page pageSize : UInt32) (total : UInt64) : Reachable (of page pageSize total)
  | step {p q : Pager} (reachable : Reachable p) (step : Step p q) : Reachable q

/-- A pager at a page, and of pages that have room for an item. -/
structure Proper (p : Pager) : Prop where
  page : 1 ≤ p.page.toNat
  size : 1 ≤ p.pageSize.toNat

theorem proper_of (page pageSize : UInt32) (total : UInt64) : (of page pageSize total).Proper := by
  constructor
  · rw [of, toNat_max]
    exact Nat.le_max_right _ _
  · rw [of, toNat_max]
    exact Nat.le_max_right _ _

theorem one_le_pageCount (p : Pager) : 1 ≤ p.pageCount.toNat := by
  have pages : 1 ≤ pages p.total.toNat (max p.pageSize.toNat 1) := one_le_pages
  have word : 1 ≤ UInt32.size - 1 := by decide
  rw [toNat_pageCount_min]
  omega

/-- There is a next page just when there are more pages. -/
theorem next?_eq_some_iff {p : Pager} {page : UInt32} :
    p.next? = some page ↔ p.page < p.pageCount ∧ page = p.page + 1 := by
  rw [next?, hasNext]
  split
  · next inside => simp [of_decide_eq_true inside, eq_comm]
  · next outside => simpa using fun inside => absurd (decide_eq_true inside) outside

theorem toNat_next {p : Pager} (inside : p.page < p.pageCount) : (p.page + 1).toNat = p.page.toNat + 1 := by
  have word := p.pageCount.toNat_lt
  rw [UInt32.lt_iff_toNat_lt] at inside
  rw [UInt32.toNat_add, UInt32.toNat_one]
  omega

theorem previous?_eq_some_iff {p : Pager} {page : UInt32} :
    p.previous? = some page ↔ 1 < p.page ∧ page = p.page - 1 := by
  rw [previous?, hasPrevious]
  split
  · next inside => simp [of_decide_eq_true inside, eq_comm]
  · next outside => simpa using fun inside => absurd (decide_eq_true inside) outside

theorem toNat_previous {p : Pager} (one : 1 ≤ p.page.toNat) : (p.page - 1).toNat = p.page.toNat - 1 :=
  UInt32.toNat_sub_of_le _ _ (UInt32.le_iff_toNat_le.mpr one)

theorem toNat_clamped (p : Pager) : p.clamped.page.toNat = max 1 (min p.page.toNat p.pageCount.toNat) := by
  rw [clamped, toNat_max, toNat_min, UInt32.toNat_one]

/-- A step leaves a pager at a page. -/
theorem Step.proper {p q : Pager} (step : Step p q) (proper : p.Proper) : q.Proper := by
  cases step with
  | next found =>
    obtain ⟨inside, rfl⟩ := next?_eq_some_iff.mp found
    exact ⟨by rw [toNat_next inside]; exact Nat.le_add_left 1 _, proper.size⟩
  | previous found =>
    obtain ⟨inside, rfl⟩ := previous?_eq_some_iff.mp found
    rw [UInt32.lt_iff_toNat_lt, UInt32.toNat_one] at inside
    exact ⟨by rw [toNat_previous proper.page]; omega, proper.size⟩
  | clamped => exact ⟨by rw [toNat_clamped]; exact Nat.le_max_left _ _, proper.size⟩
  | rebuilt page pageSize total => exact proper_of page pageSize total

theorem Reachable.proper {p : Pager} (reachable : Reachable p) : p.Proper := by
  induction reachable with
  | first page pageSize total => exact proper_of page pageSize total
  | step _ step ih => exact step.proper ih

/-! ## Arithmetic that does not wrap around -/

/-- The sum of two words, if it is a word. -/
def sum? (a b : UInt32) : Option UInt32 := if a.toNat + b.toNat < UInt32.size then some (a + b) else none

/-- The difference of two words, if it is a word. -/
def difference? (a b : UInt32) : Option UInt32 := if b ≤ a then some (a - b) else none

/-- The sum of two long words, if it is a long word. -/
def longSum? (a b : UInt64) : Option UInt64 := if a.toNat + b.toNat < UInt64.size then some (a + b) else none

/-- The product of two long words, if it is a long word. -/
def longProduct? (a b : UInt64) : Option UInt64 := if a.toNat * b.toNat < UInt64.size then some (a * b) else none

/-- The quotient of two long words, rounded up, if the divisor is not zero. -/
def ceiling? (a b : UInt64) : Option UInt64 :=
  if b = 0 then none else if a % b = 0 then some (a / b) else longSum? (a / b) 1

/-- The page count, a quotient beyond words being the largest word. -/
def strictPageCount? (p : Pager) : Option UInt32 := do
  let pages ← ceiling? p.total (max p.pageSize 1).toUInt64
  return max (if pages.toNat < UInt32.size then pages.toUInt32 else UInt32.ofNat (UInt32.size - 1)) 1

def strictNext? (p : Pager) : Option (Option UInt32) := do
  let count ← p.strictPageCount?
  if p.page < count then (sum? p.page 1).map some else return none

def strictPrevious? (p : Pager) : Option (Option UInt32) :=
  if 1 < p.page then (difference? p.page 1).map some else some none

/-- The clamped pager, if the least page is not above the greatest. -/
def strictClamped? (p : Pager) : Option Pager := do
  let count ← p.strictPageCount?
  if 1 ≤ count then return { p with page := max 1 (min p.page count) } else none

def strictFirstItem? (p : Pager) : Option UInt64 :=
  if p.total = 0 then some 0
  else do
    let before ← difference? p.page 1
    let items ← longProduct? before.toUInt64 p.pageSize.toUInt64
    longSum? items 1

def strictLastItem? (p : Pager) : Option UInt64 := do
  let items ← longProduct? p.page.toUInt64 p.pageSize.toUInt64
  return min items p.total

/-- Every operation has a result when none of its steps may wrap around, and it is the same one. -/
structure NeverWraps (p : Pager) : Prop where
  pageCount : p.strictPageCount? = some p.pageCount
  next : p.strictNext? = some p.next?
  previous : p.strictPrevious? = some p.previous?
  clamped : p.strictClamped? = some p.clamped
  firstItem : p.strictFirstItem? = some p.firstItem
  lastItem : p.strictLastItem? = some p.lastItem

theorem ceiling?_of_pos {a b : UInt64} (positive : 0 < b.toNat) :
    ∃ q, ceiling? a b = some q ∧ q.toNat = a.toNat ⌈/⌉ b.toNat := by
  have divisor : b ≠ 0 := by
    rintro rfl
    exact absurd positive (Nat.lt_irrefl 0)
  have whole := Nat.div_add_mod a.toNat b.toNat
  have remainder := Nat.mod_lt a.toNat positive
  have exact : (a % b = 0) ↔ a.toNat % b.toNat = 0 := by
    rw [← UInt64.toNat_inj, UInt64.toNat_mod, UInt64.toNat_zero]
  rw [ceiling?, if_neg divisor, Nat.ceilDiv_eq_add_pred_div, Nat.add_sub_assoc positive]
  split
  · next even =>
    rw [exact] at even
    refine ⟨a / b, rfl, ?_⟩
    rw [UInt64.toNat_div]
    symm
    apply Nat.div_eq_of_lt_le
    · rw [Nat.mul_comm]
      omega
    · rw [Nat.succ_mul, Nat.mul_comm]
      omega
  · next odd =>
    rw [exact] at odd
    -- a divisor that leaves a remainder is at least two, so that the quotient is far from the largest long word
    have fits : (a / b).toNat + (1 : UInt64).toNat < UInt64.size := by
      have long := a.toNat_lt
      have half : a.toNat / b.toNat ≤ a.toNat / 2 := Nat.div_le_div_left (by omega) (by decide)
      rw [UInt64.toNat_div, UInt64.toNat_one, UInt64.size]
      omega
    refine ⟨a / b + 1, if_pos fits, ?_⟩
    rw [UInt64.toNat_add, Nat.mod_eq_of_lt fits, UInt64.toNat_div, UInt64.toNat_one]
    symm
    apply Nat.div_eq_of_lt_le
    · rw [Nat.succ_mul, Nat.mul_comm]
      omega
    · rw [Nat.succ_mul, Nat.succ_mul, Nat.mul_comm]
      omega

theorem longProduct?_eq (a b : UInt32) :
    longProduct? a.toUInt64 b.toUInt64 = some (a.toUInt64 * b.toUInt64) := by
  have product : a.toNat * b.toNat < UInt64.size := Nat.mul_lt_mul'' a.toNat_lt b.toNat_lt
  rw [longProduct?, UInt32.toNat_toUInt64, UInt32.toNat_toUInt64, if_pos product]

theorem strictPageCount?_eq (p : Pager) : p.strictPageCount? = some p.pageCount := by
  have size : (max p.pageSize 1).toUInt64.toNat = max p.pageSize.toNat 1 := by
    rw [UInt32.toNat_toUInt64, toNat_max, UInt32.toNat_one]
  obtain ⟨q, found, quotient⟩ := ceiling?_of_pos (a := p.total) (b := (max p.pageSize 1).toUInt64)
    (by rw [size]; exact Nat.le_max_right _ _)
  rw [strictPageCount?, found, Option.bind_eq_bind, Option.bind_some]
  refine congrArg some ?_
  rw [size] at quotient
  have one : 1 ≤ UInt32.size - 1 := by decide
  rw [← UInt32.toNat_inj, toNat_pageCount_min, toNat_max, pages, ← quotient, UInt32.toNat_one]
  split
  · next small =>
    rw [UInt64.toNat_toUInt32, Nat.mod_eq_of_lt small]
    omega
  · next large =>
    have word : (UInt32.ofNat (UInt32.size - 1)).toNat = UInt32.size - 1 := by decide
    rw [word]
    omega

theorem Proper.neverWraps {p : Pager} (proper : p.Proper) : NeverWraps p where
  pageCount := strictPageCount?_eq p
  next := by
    rw [strictNext?, strictPageCount?_eq, Option.bind_eq_bind, Option.bind_some, next?, hasNext]
    split
    · next inside =>
      have word := p.pageCount.toNat_lt
      rw [UInt32.lt_iff_toNat_lt] at inside
      have fits : p.page.toNat + (1 : UInt32).toNat < UInt32.size := by
        rw [UInt32.toNat_one, UInt32.size]
        omega
      rw [sum?, if_pos fits, Option.map_some, decide_eq_true (UInt32.lt_iff_toNat_lt.mpr inside), if_pos rfl]
    · next outside => rw [decide_eq_false outside, if_neg Bool.false_ne_true]; rfl
  previous := by
    rw [strictPrevious?, previous?, hasPrevious]
    split
    · next inside =>
      have one : 1 ≤ p.page := UInt32.le_iff_toNat_le.mpr proper.page
      rw [difference?, if_pos one, Option.map_some, decide_eq_true inside, if_pos rfl]
    · next outside => rw [decide_eq_false outside, if_neg Bool.false_ne_true]
  clamped := by
    have one : 1 ≤ p.pageCount := UInt32.le_iff_toNat_le.mpr (one_le_pageCount p)
    rw [strictClamped?, strictPageCount?_eq, Option.bind_eq_bind, Option.bind_some, if_pos one]
    rfl
  firstItem := by
    rw [strictFirstItem?, firstItem]
    split
    · rfl
    · have one : 1 ≤ p.page := UInt32.le_iff_toNat_le.mpr proper.page
      have fits : ((p.page - 1).toUInt64 * p.pageSize.toUInt64).toNat + (1 : UInt64).toNat < UInt64.size := by
        rw [toNat_mul_long, toNat_previous proper.page, UInt64.toNat_one]
        exact before_lt p.page p.pageSize
      simp only [difference?, if_pos one, Option.bind_eq_bind, Option.bind_some, longProduct?_eq, longSum?,
        if_pos fits]
  lastItem := by
    rw [strictLastItem?, longProduct?_eq, Option.bind_eq_bind, Option.bind_some]
    rfl

/-! ## The items of the pages -/

/-- A pager at another page of the same listing. -/
def turned (p : Pager) (page : Nat) : Pager := { p with page := .ofNat page }

/-- The items of a page, from its first to its last one. -/
def items (p : Pager) : List Nat := List.Ico p.firstItem.toNat (p.lastItem.toNat + 1)

/-- The pages of a pager hold the items from 1 to `count`, one page after the other: every page but the last is
full, and the last one holds an item. -/
structure Partitions (p : Pager) (count : Nat) : Prop where
  all : (List.range' 1 p.pageCount.toNat).flatMap (fun page => (p.turned page).items) = List.Ico 1 (count + 1)
  full : ∀ page, 1 ≤ page → page < p.pageCount.toNat → (p.turned page).items.length = p.pageSize.toNat
  last : 1 ≤ (p.turned p.pageCount.toNat).items.length ∧
    (p.turned p.pageCount.toNat).items.length ≤ p.pageSize.toNat

section

variable {p : Pager} (proper : p.Proper) (some : 1 ≤ p.total.toNat)

include some in
/-- The items of a page are those past the pages before it, up to the last one. -/
theorem items_turned {page : Nat} (one : 1 ≤ page) (inside : page ≤ p.pageCount.toNat) :
    (p.turned page).items =
      List.Ico ((page - 1) * p.pageSize.toNat + 1) (min (page * p.pageSize.toNat) p.total.toNat + 1) := by
  have word : (UInt32.ofNat page).toNat = page :=
    UInt32.toNat_ofNat_of_lt' (Nat.lt_of_le_of_lt inside p.pageCount.toNat_lt)
  have filled : (p.turned page).total ≠ 0 := by
    intro none
    rw [show p.total = 0 from none] at some
    contradiction
  have first := toNat_firstItem filled (UInt32.le_iff_toNat_le.mpr (word.symm ▸ one))
  have last := toNat_lastItem (p.turned page)
  rw [turned, word] at first last
  rw [items, turned, first, last]

include proper some

/-- Every page begins within the listing. -/
theorem before_lt_total {page : Nat} (inside : page ≤ p.pageCount.toNat) :
    (page - 1) * p.pageSize.toNat < p.total.toNat := by
  have counted := toNat_pageCount_min p
  rw [Nat.max_eq_left proper.size] at counted
  exact lt_of_le_pages proper.size some (by omega)

/-- The pages up to one hold the items up to the last one of that page. -/
theorem flatMap_items {page : Nat} (inside : page ≤ p.pageCount.toNat) :
    (List.range' 1 page).flatMap (fun page => (p.turned page).items) =
      List.Ico 1 (min (page * p.pageSize.toNat) p.total.toNat + 1) := by
  induction page with
  | zero => simp
  | succ page ih =>
    have before := before_lt_total proper some inside
    have here := items_turned some (Nat.le_add_left 1 page) inside
    rw [Nat.add_sub_cancel] at before here
    -- the pages before this one are full
    have earlier : min (page * p.pageSize.toNat) p.total.toNat = page * p.pageSize.toNat :=
      Nat.min_eq_left (Nat.le_of_lt before)
    rw [List.range'_concat, List.flatMap_append, List.flatMap_singleton, ih (Nat.le_of_succ_le inside), earlier,
      Nat.one_mul, Nat.add_comm 1 page, here]
    apply List.Ico.append_consecutive
    · omega
    · rw [Nat.succ_mul]
      omega

/-- A page holds as many items as there is room for, or as are left. -/
theorem length_items {page : Nat} (one : 1 ≤ page) (inside : page ≤ p.pageCount.toNat) :
    (p.turned page).items.length =
      min p.pageSize.toNat (p.total.toNat - (page - 1) * p.pageSize.toNat) := by
  have before := before_lt_total proper some inside
  have whole : page * p.pageSize.toNat = (page - 1) * p.pageSize.toNat + p.pageSize.toNat := by
    rw [← Nat.succ_mul, Nat.succ_eq_add_one, Nat.sub_add_cancel one]
  rw [items_turned some one inside, List.Ico.length]
  omega

/-- The pages that can be counted hold the items up to the last one that they have room for. -/
theorem partitions : p.Partitions (min (p.pageCount.toNat * p.pageSize.toNat) p.total.toNat) where
  all := flatMap_items proper some (Nat.le_refl _)
  full page one inside := by
    have following := before_lt_total proper some (Nat.succ_le_of_lt inside)
    have whole : page * p.pageSize.toNat = (page - 1) * p.pageSize.toNat + p.pageSize.toNat := by
      rw [← Nat.succ_mul, Nat.succ_eq_add_one, Nat.sub_add_cancel one]
    rw [Nat.succ_sub_one] at following
    rw [length_items proper some one (Nat.le_of_lt inside)]
    omega
  last := by
    have before := before_lt_total proper some (Nat.le_refl p.pageCount.toNat)
    have size := proper.size
    rw [length_items proper some (one_le_pageCount p) (Nat.le_refl _)]
    omega

end

/-! ## Pagers that were reached -/

theorem clamped_clamped (p : Pager) : p.clamped.clamped = p.clamped := by
  have same : p.clamped.pageCount = p.pageCount := rfl
  have page : p.clamped.clamped.page = p.clamped.page := by
    have one := one_le_pageCount p
    rw [← UInt32.toNat_inj, toNat_clamped, same, toNat_clamped]
    omega
  calc p.clamped.clamped = { p.clamped with page := p.clamped.clamped.page } := rfl
    _ = p.clamped := by rw [page]

/-- The number of pages is that of the items divided by the page size, rounded up, as far as a word goes. -/
theorem Proper.toNat_pageCount {p : Pager} (proper : p.Proper) :
    p.pageCount.toNat = max 1 (min (p.total.toNat ⌈/⌉ p.pageSize.toNat) (UInt32.size - 1)) := by
  have one : 1 ≤ UInt32.size - 1 := by decide
  rw [toNat_pageCount_min, Nat.max_eq_left proper.size, pages]
  omega

/-- When a word can count the pages, they have room for all items. -/
theorem Proper.covers {p : Pager} (proper : p.Proper)
    (within : p.total.toNat ≤ p.pageSize.toNat * (UInt32.size - 1)) :
    p.total.toNat ≤ p.pageCount.toNat * p.pageSize.toNat := by
  have few : pages p.total.toNat p.pageSize.toNat ≤ UInt32.size - 1 :=
    (pages_le_iff proper.size (by decide)).mpr within
  rw [toNat_pageCount_min, Nat.max_eq_left proper.size, Nat.min_eq_left few, Nat.mul_comm]
  exact le_mul_pages proper.size

/-- When there are more items than that, as many pages are counted as a word can count. -/
theorem Proper.toNat_pageCount_of_beyond {p : Pager} (proper : p.Proper)
    (beyond : p.pageSize.toNat * (UInt32.size - 1) < p.total.toNat) : p.pageCount.toNat = UInt32.size - 1 := by
  have many : ¬ pages p.total.toNat p.pageSize.toNat ≤ UInt32.size - 1 := by
    rw [pages_le_iff proper.size (by decide)]
    exact Nat.not_le.mpr beyond
  rw [toNat_pageCount_min, Nat.max_eq_left proper.size]
  omega

/-- The page before the next one is the page itself. -/
theorem Proper.previous?_next {p : Pager} (proper : p.Proper) {page : UInt32} (found : p.next? = some page) :
    { p with page }.previous? = some p.page := by
  obtain ⟨inside, rfl⟩ := next?_eq_some_iff.mp found
  have one := proper.page
  rw [previous?_eq_some_iff, UInt32.lt_iff_toNat_lt, toNat_next inside, UInt32.toNat_one]
  exact ⟨by omega, (UInt32.add_sub_cancel _ _).symm⟩

/-- Every pager that steps lead to computes without wrapping around. It counts its pages, stays among them when it
is clamped, and goes forth and back; its pages hold the items one after the other, all of them when a word can
count the pages, and otherwise those that the pages of a word have room for, with every page full. -/
theorem reachable_exact {p : Pager} (reachable : Reachable p) :
    p.NeverWraps ∧
    p.pageCount.toNat = max 1 (min (p.total.toNat ⌈/⌉ p.pageSize.toNat) (UInt32.size - 1)) ∧
    (p.clamped.clamped = p.clamped ∧ 1 ≤ p.clamped.page ∧ p.clamped.page ≤ p.pageCount) ∧
    ((∃ page, p.next? = some page) ↔ p.page < p.pageCount) ∧
    (∀ page, p.next? = some page → { p with page }.previous? = some p.page) ∧
    (1 ≤ p.total.toNat → p.total.toNat ≤ p.pageSize.toNat * (UInt32.size - 1) → p.Partitions p.total.toNat) ∧
    (p.pageSize.toNat * (UInt32.size - 1) < p.total.toNat →
      p.pageCount.toNat = UInt32.size - 1 ∧ p.Partitions (p.pageSize.toNat * (UInt32.size - 1)) ∧
        (p.turned p.pageCount.toNat).items.length = p.pageSize.toNat) := by
  have proper := reachable.proper
  have counted := proper.toNat_pageCount
  refine ⟨proper.neverWraps, counted, ⟨clamped_clamped p, ?_, ?_⟩, ?_, fun _ => proper.previous?_next, ?_, ?_⟩
  · rw [UInt32.le_iff_toNat_le, toNat_clamped]
    exact Nat.le_max_left _ _
  · have one := one_le_pageCount p
    rw [UInt32.le_iff_toNat_le, toNat_clamped]
    omega
  · exact ⟨fun ⟨_, found⟩ => (next?_eq_some_iff.mp found).1, fun inside => ⟨_, next?_eq_some_iff.mpr ⟨inside, rfl⟩⟩⟩
  · intro some within
    have whole := partitions proper some
    rwa [Nat.min_eq_right (proper.covers within)] at whole
  · intro beyond
    have some : 1 ≤ p.total.toNat := by omega
    have most := proper.toNat_pageCount_of_beyond beyond
    have whole := partitions proper some
    have last := length_items proper some (one_le_pageCount p) (Nat.le_refl _)
    rw [most, Nat.mul_comm, Nat.min_eq_left (Nat.le_of_lt beyond)] at whole
    refine ⟨most, whole, ?_⟩
    rw [last, most]
    rw [UInt32.size] at beyond ⊢
    omega

/-- A pager at the second of three pages. -/
def middle : Pager := ⟨2, 20, 45⟩

/-- A pager at the last page that a word can count, of the longest listing there is. -/
def farthest : Pager := ⟨4294967295, 1, 18446744073709551615⟩

theorem middle_reachable : Reachable middle := .step (.first 0 20 45) (.next (by decide))

theorem farthest_reachable : Reachable farthest :=
  .step (.step (.first 4294967294 0 18446744073709551615) (.next (by decide))) (.clamped farthest)

/-- Three pages of twenty hold forty-five items, and pages of one item end where words do. -/
theorem reachable_exact_farthest :
    (Reachable middle ∧ { middle with page := 3 }.previous? = some 2 ∧ middle.Partitions 45) ∧
    Reachable farthest ∧ farthest.NeverWraps ∧ farthest.Partitions (farthest.pageSize.toNat * (UInt32.size - 1)) := by
  obtain ⟨-, -, -, -, back, whole, -⟩ := reachable_exact middle_reachable
  obtain ⟨exact, -, -, -, -, -, beyond⟩ := reachable_exact farthest_reachable
  exact ⟨⟨middle_reachable, back 3 (by decide), whole (by decide) (by decide)⟩, farthest_reachable, exact,
    (beyond (by decide)).2.1⟩

end CallDesk.Pager
