import CallDesk.Pager
import Mathlib.Algebra.Order.Floor.Div
import Mathlib.Data.List.Basic

/-! # The pages of a listing

A listing fills as many pages as its items divided by the page size, rounded up, and always one. When
that number is a word, the pager counts these pages exactly, and none of its sums and products wraps
around. Every page but the last is full, and the pages one after the other are the listing.
-/

namespace CallDesk.Pager

/-! ## Pages -/

/-- The number of pages that `count` items fill. -/
def pages (count size : Nat) : Nat := max 1 (count ⌈/⌉ size)

/-- The items of a page, from the first page on. -/
def slice {α : Type} (items : List α) (size page : Nat) : List α := (items.drop ((page - 1) * size)).take size

variable {count size page : Nat}

theorem one_le_pages : 1 ≤ pages count size := Nat.le_max_left _ _

theorem pages_zero : pages 0 size = 1 := by rw [pages, zero_ceilDiv, Nat.max_eq_left (Nat.zero_le 1)]

/-- Pages are enough when they have room for every item, and there is at least one. -/
theorem pages_le_iff (positive : 0 < size) (one : 1 ≤ page) : pages count size ≤ page ↔ count ≤ size * page := by
  rw [pages, Nat.max_le, ceilDiv_le_iff_le_mul positive]
  exact and_iff_right one

example : pages 45 20 = 3 ∧ pages 40 20 = 2 := by decide

theorem le_mul_pages (positive : 0 < size) : count ≤ size * pages count size :=
  (pages_le_iff positive one_le_pages).mp (Nat.le_refl _)

/-- Every page of a listing with items begins within the listing. -/
theorem lt_of_le_pages (positive : 0 < size) (some : 0 < count) (inside : page ≤ pages count size) :
    (page - 1) * size < count := by
  rcases Nat.lt_or_ge 1 page with more | first
  · have short : ¬ pages count size ≤ page - 1 := by omega
    rw [pages_le_iff positive (by omega), Nat.mul_comm] at short
    omega
  · have zero : page - 1 = 0 := by omega
    rw [zero, Nat.zero_mul]
    exact some

section

variable {α : Type} {items : List α}

theorem slice_nil : slice ([] : List α) size page = [] := by rw [slice, List.drop_nil, List.take_nil]

theorem length_slice : (slice items size page).length = min size (items.length - (page - 1) * size) := by
  rw [slice, List.length_take, List.length_drop]

/-- The items from a page on are its own and those of the pages after it. -/
theorem slice_append (one : 1 ≤ page) :
    slice items size page ++ items.drop (page * size) = items.drop ((page - 1) * size) := by
  have next : page * size = (page - 1) * size + size := by
    obtain ⟨k, rfl⟩ := Nat.exists_eq_add_of_le' one
    rw [Nat.add_sub_cancel, Nat.succ_mul]
  rw [slice, next, ← List.drop_drop, List.take_append_drop]

/-- Nothing comes after the last page. -/
theorem drop_pages (positive : 0 < size) : items.drop (pages items.length size * size) = [] := by
  apply List.drop_eq_nil_of_le
  rw [Nat.mul_comm]
  exact le_mul_pages positive

/-- The items of a page are those of the listing at their places. -/
theorem getElem?_slice {i : Nat} (inside : i < (slice items size page).length) :
    (slice items size page)[i]? = items[(page - 1) * size + i]? := by
  rw [length_slice] at inside
  rw [slice, List.getElem?_take_of_lt (by omega), List.getElem?_drop]

end

/-! ## Words -/

theorem toNat_max (a b : UInt32) : (max a b).toNat = max a.toNat b.toNat := by
  rw [show max a b = if a ≤ b then b else a from rfl]
  split
  · next le =>
    rw [UInt32.le_iff_toNat_le] at le
    omega
  · next gt =>
    rw [UInt32.le_iff_toNat_le] at gt
    omega

theorem toNat_min (a b : UInt32) : (min a b).toNat = min a.toNat b.toNat := by
  rw [show min a b = if a ≤ b then a else b from rfl]
  split
  · next le =>
    rw [UInt32.le_iff_toNat_le] at le
    omega
  · next gt =>
    rw [UInt32.le_iff_toNat_le] at gt
    omega

theorem toNat_min_long (a b : UInt64) : (min a b).toNat = min a.toNat b.toNat := by
  rw [show min a b = if a ≤ b then a else b from rfl]
  split
  · next le =>
    rw [UInt64.le_iff_toNat_le] at le
    omega
  · next gt =>
    rw [UInt64.le_iff_toNat_le] at gt
    omega

/-- The product of two words is a long word. -/
theorem toNat_mul_long (a b : UInt32) : (a.toUInt64 * b.toUInt64).toNat = a.toNat * b.toNat := by
  have product : a.toNat * b.toNat < 2 ^ 32 * 2 ^ 32 := Nat.mul_lt_mul'' a.toNat_lt b.toNat_lt
  rw [UInt64.toNat_mul, UInt32.toNat_toUInt64, UInt32.toNat_toUInt64]
  exact Nat.mod_eq_of_lt product

/-- The items before a page leave room for one more in a long word. -/
theorem before_lt (a b : UInt32) : (a.toNat - 1) * b.toNat + 1 < UInt64.size := by
  have first : a.toNat - 1 ≤ 2 ^ 32 - 2 := by
    have word := a.toNat_lt
    omega
  have second : b.toNat ≤ 2 ^ 32 - 1 := Nat.le_sub_one_of_lt b.toNat_lt
  have product := Nat.mul_le_mul first second
  have bound : (2 ^ 32 - 2) * (2 ^ 32 - 1) + 1 < UInt64.size := by decide
  omega

theorem toNat_firstItem {p : Pager} (items : p.total ≠ 0) (one : 1 ≤ p.page) :
    p.firstItem.toNat = (p.page.toNat - 1) * p.pageSize.toNat + 1 := by
  rw [firstItem, if_neg items, UInt64.toNat_add, toNat_mul_long, UInt32.toNat_sub_of_le _ _ one, UInt64.toNat_one,
    UInt32.toNat_one]
  exact Nat.mod_eq_of_lt (before_lt p.page p.pageSize)

theorem toNat_lastItem (p : Pager) : p.lastItem.toNat = min (p.page.toNat * p.pageSize.toNat) p.total.toNat := by
  rw [lastItem, toNat_min_long, toNat_mul_long]

theorem requested_some {n : UInt32} (one : 1 ≤ n) : requested (some n) = n := by
  rw [requested, ← UInt32.toNat_inj, toNat_max]
  exact Nat.max_eq_left (UInt32.le_iff_toNat_le.mp one)

/-- A pager counts the pages of its listing, as far as a word goes. -/
theorem toNat_pageCount_min (p : Pager) :
    p.pageCount.toNat = min (pages p.total.toNat (max p.pageSize.toNat 1)) (UInt32.size - 1) := by
  have positive : 0 < max p.pageSize.toNat 1 := Nat.lt_of_lt_of_le Nat.one_pos (Nat.le_max_right _ _)
  have rounded : p.total.toNat ⌈/⌉ max p.pageSize.toNat 1 =
      (p.total.toNat + (max p.pageSize.toNat 1 - 1)) / max p.pageSize.toNat 1 := by
    rw [Nat.ceilDiv_eq_add_pred_div, Nat.add_sub_assoc positive]
  have word : UInt32.size - 1 < UInt32.size := by decide
  have one : 1 ≤ UInt32.size - 1 := by decide
  simp only [pageCount, toNat_max, UInt32.toNat_one, ← rounded, pages]
  rw [UInt32.toNat_ofNat_of_lt' (by omega)]
  omega

/-- A pager at a page of a listing whose pages a word can count. -/
structure Counts (p : Pager) (page count size : Nat) : Prop where
  at_page : p.page.toNat = page
  sized : p.pageSize.toNat = size
  counted : p.total.toNat = count
  one : 1 ≤ page
  positive : 0 < size
  fits : count ≤ size * (UInt32.size - 1)

namespace Counts

variable {p : Pager}

theorem one_le (counts : p.Counts page count size) : 1 ≤ p.page := by
  rw [UInt32.le_iff_toNat_le, counts.at_page]
  exact counts.one

theorem pages_lt (counts : p.Counts page count size) : pages count size < UInt32.size := by
  have enough : pages count size ≤ UInt32.size - 1 :=
    (pages_le_iff counts.positive (by decide)).mpr counts.fits
  have positive : 0 < UInt32.size := by decide
  omega

theorem toNat_pageCount (counts : p.Counts page count size) : p.pageCount.toNat = pages count size := by
  have within := counts.pages_lt
  rw [toNat_pageCount_min, counts.sized, counts.counted, Nat.max_eq_left counts.positive]
  omega

/-- A pager past the end moves to the last page. -/
theorem clamped (counts : p.Counts page count size) :
    p.clamped.Counts (min page (pages count size)) count size := by
  have pages_pos : 1 ≤ pages count size := one_le_pages
  have page_pos := counts.one
  have moved : (max 1 (min p.page p.pageCount)).toNat = min page (pages count size) := by
    rw [toNat_max, toNat_min, counts.at_page, counts.toNat_pageCount, UInt32.toNat_one]
    omega
  exact ⟨moved, counts.sized, counts.counted, by omega, counts.positive, counts.fits⟩

/-- Only a pager past the end moves. -/
theorem clamped_page_ne_iff (counts : p.Counts page count size) :
    p.clamped.page ≠ p.page ↔ pages count size < page := by
  rw [Ne, ← UInt32.toNat_inj, counts.clamped.at_page, counts.at_page]
  omega

/-- There is a next page on every page before the last. -/
theorem next (counts : p.Counts page count size) :
    p.next?.map UInt32.toNat = if page < pages count size then some (page + 1) else none := by
  have within := counts.pages_lt
  have before : (p.page < p.pageCount) ↔ page < pages count size := by
    rw [UInt32.lt_iff_toNat_lt, counts.at_page, counts.toNat_pageCount]
  simp only [next?, hasNext, before, decide_eq_true_eq]
  split
  · next inside =>
    have following : (p.page + 1).toNat = page + 1 := by
      rw [UInt32.toNat_add, counts.at_page, UInt32.toNat_one]
      exact Nat.mod_eq_of_lt (Nat.lt_of_le_of_lt inside within)
    rw [Option.map_some, following]
  · rfl

/-- There is a previous page on every page after the first. -/
theorem previous (counts : p.Counts page count size) :
    p.previous?.map UInt32.toNat = if 1 < page then some (page - 1) else none := by
  have after : (1 < p.page) ↔ 1 < page := by
    rw [UInt32.lt_iff_toNat_lt, counts.at_page, UInt32.toNat_one]
  simp only [previous?, hasPrevious, after, decide_eq_true_eq]
  split
  · rw [Option.map_some, UInt32.toNat_sub_of_le _ _ counts.one_le, counts.at_page, UInt32.toNat_one]
  · rfl

theorem toNat_firstItem (counts : p.Counts page count size) (some : 0 < count) :
    p.firstItem.toNat = (page - 1) * size + 1 := by
  have items : p.total ≠ 0 := by
    intro none
    have zero := counts.counted
    rw [none] at zero
    exact absurd zero (Nat.ne_of_lt some)
  rw [Pager.toNat_firstItem items counts.one_le, counts.at_page, counts.sized]

theorem toNat_lastItem (counts : p.Counts page count size) : p.lastItem.toNat = min (page * size) count := by
  rw [Pager.toNat_lastItem, counts.at_page, counts.sized, counts.counted]

end Counts

end CallDesk.Pager
