import ListQuery.Paging.Control
import ListQuery.Paging.Saturating

/-!
Pages. Pages are numbered from one and hold at least one row; all counts stay within 64 bits.
-/
namespace ListQuery

/-- The page that a request asks for. -/
structure PageRequest where
  page : UInt64
  perPage : UInt64
  deriving DecidableEq, Repr

namespace PageRequest

/-- The page that the control parameters ask for, the first one and the default size where they
say nothing. Zero counts as saying nothing. -/
def ofControl (c : Control) (defaultPerPage : UInt64) : PageRequest :=
  { page := (c.page.filter (0 < ·)).getD 1
    perPage := (c.perPage.filter (0 < ·)).getD (max defaultPerPage 1) }

/-- The number of pages before this one. -/
def index (r : PageRequest) : UInt64 := Saturating.sub r.page 1

/-- The number of rows before this page. -/
def offset (r : PageRequest) : UInt64 := Saturating.mul r.index r.perPage

@[simp] theorem toNat_index (r : PageRequest) : r.index.toNat = r.page.toNat - 1 :=
  Saturating.toNat_sub r.page 1

@[simp] theorem toNat_offset (r : PageRequest) :
    r.offset.toNat = min ((r.page.toNat - 1) * r.perPage.toNat) 0xffffffffffffffff := by
  rw [offset, Saturating.toNat_mul, toNat_index]

end PageRequest

/-- The number of the last page of so many rows; there is always a first page. -/
def lastPage (total perPage : UInt64) : UInt64 :=
  let size := max perPage.toNat 1
  .ofNat (max ((total.toNat + size - 1) / size) 1)

/-- A page of rows, with totals. -/
structure Page (α : Type) where
  data : List α
  total : UInt64
  perPage : UInt64
  currentPage : UInt64
  lastPage : UInt64
  deriving DecidableEq, Repr

namespace Page

variable {α β : Type}

def ofRequest (data : List α) (total : UInt64) (r : PageRequest) : Page α :=
  ⟨data, total, r.perPage, r.page, ListQuery.lastPage total r.perPage⟩

/-- The page with each row changed and the numbers kept. -/
def map (f : α → β) (p : Page α) : Page β := { p with data := p.data.map f }

/-- A page as a value. -/
def toValue (row : α → Value) (p : Page α) : Value :=
  .map [("data", .list (p.data.map row)),
    ("total", .number (.ofUInt64 p.total)),
    ("per_page", .number (.ofUInt64 p.perPage)),
    ("current_page", .number (.ofUInt64 p.currentPage)),
    ("last_page", .number (.ofUInt64 p.lastPage))]

end Page

/-- A page of rows without a total. -/
structure SimplePage (α : Type) where
  data : List α
  perPage : UInt64
  currentPage : UInt64
  hasMore : Bool
  deriving DecidableEq, Repr

namespace SimplePage

variable {α : Type}

/-- The page of rows of which one more than a page was asked for. -/
def ofRows (rows : List α) (r : PageRequest) : SimplePage α :=
  ⟨rows.take r.perPage.toNat, r.perPage, r.page, r.perPage.toNat < rows.length⟩

def toValue (row : α → Value) (p : SimplePage α) : Value :=
  .map [("data", .list (p.data.map row)),
    ("per_page", .number (.ofUInt64 p.perPage)),
    ("current_page", .number (.ofUInt64 p.currentPage)),
    ("has_more", .bool p.hasMore)]

end SimplePage
end ListQuery
