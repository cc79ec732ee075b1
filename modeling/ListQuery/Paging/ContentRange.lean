import ListQuery.Paging.Page
import ListQuery.Text.Utf8

/-!
Content ranges: `<name> <first>-<last>/<total>`, which tells which rows of how many a response
holds. The name is cut down to printable ASCII, so that the text can stand in a header.
-/
namespace ListQuery

/-- A resource name without the characters that cannot stand in a header. -/
def headerName (name : String) : List Char :=
  name.toList.filter fun c => 0x20 ≤ c.toNat && c.toNat < 0x7f

/-- The number of the last row of a range. It stays below the total, and beside the first row where
the range is empty or starts behind the last row. -/
def lastRow (offset count total : UInt64) : UInt64 :=
  max (min (Saturating.sub (Saturating.add offset count) 1) (Saturating.sub total 1))
    (min offset total)

def contentRange (offset count total : UInt64) (name : String) : String :=
  .ofList (headerName name ++ ' ' :: Nat.toDigits 10 offset.toNat ++
    '-' :: Nat.toDigits 10 (lastRow offset count total).toNat ++
    '/' :: Nat.toDigits 10 total.toNat)

/-- The header for a range, by a rule that tells which bytes may stand in a header. Where the text of
the range may not, the empty range of some items stands instead. -/
def rangeHeader (accepts : Text.Bytes → Bool) (offset count total : UInt64) (name : String) :
    Text.Bytes :=
  let bytes := Text.encodeUtf8 (contentRange offset count total name).toList
  if accepts bytes then bytes else Text.encodeUtf8 "items 0-0/0".toList

/-- The range that a page holds. -/
def Page.contentRange {α : Type} (p : Page α) (name : String) : String :=
  ListQuery.contentRange (Saturating.mul (Saturating.sub p.currentPage 1) p.perPage)
    (Saturating.ofNat p.data.length) p.total name

end ListQuery
