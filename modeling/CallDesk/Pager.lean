/-! # Pages of a listing

A pager knows a page, the page size and the number of items, all as bounded words. Pages are
counted from one; there is always at least one page, and never more than a word can count.
-/

namespace CallDesk

/-- A position in a listing. -/
structure Pager where
  page : UInt32
  pageSize : UInt32
  total : UInt64
deriving DecidableEq

namespace Pager

/-- A pager whose page and page size are at least one. -/
def of (page pageSize : UInt32) (total : UInt64) : Pager := ⟨max page 1, max pageSize 1, total⟩

/-- The number of pages: the items divided by the page size, rounded up, between one and the
largest word. -/
def pageCount (p : Pager) : UInt32 :=
  let size := (max p.pageSize 1).toNat
  let pages := (p.total.toNat + (size - 1)) / size
  UInt32.ofNat (max 1 (min pages (UInt32.size - 1)))

def hasPrevious (p : Pager) : Bool := 1 < p.page

def hasNext (p : Pager) : Bool := p.page < p.pageCount

def previous? (p : Pager) : Option UInt32 := if p.hasPrevious then some (p.page - 1) else none

def next? (p : Pager) : Option UInt32 := if p.hasNext then some (p.page + 1) else none

def clamped (p : Pager) : Pager := { p with page := max 1 (min p.page p.pageCount) }

/-- The number of the first item on the page, zero in an empty listing. -/
def firstItem (p : Pager) : UInt64 :=
  if p.total = 0 then 0 else (p.page - 1).toUInt64 * p.pageSize.toUInt64 + 1

def lastItem (p : Pager) : UInt64 := min (p.page.toUInt64 * p.pageSize.toUInt64) p.total

/-- The page that a query asks for, the first one when it asks for none or for page zero. -/
def requested (page : Option UInt32) : UInt32 := max (page.getD 1) 1

end Pager

end CallDesk
