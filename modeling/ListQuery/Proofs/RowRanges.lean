import ListQuery.Paging.ContentRange
import ListQuery.Proofs.Pages

/-!
The rows that the headers of pages name. A header is read back as a name and a range of rows. Main
statements: the ranges of the pages of one result join without a gap from the first row to the last;
the range of a page is well formed exactly up to the last page, and behind it the total stands in
place of the last row.
-/
namespace ListQuery

/-- Rows `first` to `last` of `total`, counted from zero. -/
@[ext]
structure RowRange where
  first : Nat
  last : Nat
  total : Nat
  deriving DecidableEq, Repr

/-- A range goes forwards and stays below a total that is not zero. -/
def RowRange.WellFormed (r : RowRange) : Prop :=
  r.first ≤ r.last ∧ (0 < r.total → r.last < r.total)

/-! ## Reading a header -/

/-- What stands before and behind the last separator. -/
def splitLast? (sep : Char) : List Char → Option (List Char × List Char)
  | [] => none
  | c :: cs => match splitLast? sep cs with
    | some (before, behind) => some (c :: before, behind)
    | none => if c = sep then some ([], cs) else none

theorem splitLast?_eq_none {sep : Char} {cs : List Char} (h : sep ∉ cs) :
    splitLast? sep cs = none := by
  induction cs with
  | nil => rfl
  | cons c cs ih =>
    simp only [List.mem_cons, not_or] at h
    rw [splitLast?, ih h.2]
    exact if_neg (Ne.symm h.1)

theorem splitLast?_append_cons {sep : Char} {behind : List Char} (h : sep ∉ behind)
    (before : List Char) : splitLast? sep (before ++ sep :: behind) = some (before, behind) := by
  induction before with
  | nil =>
    rw [List.nil_append, splitLast?, splitLast?_eq_none h]
    exact if_pos rfl
  | cons c before ih => rw [List.cons_append, splitLast?, ih]

/-- The range in the text `<first>-<last>/<total>`. -/
def RowRange.read? (cs : List Char) : Option RowRange :=
  (splitLast? '/' cs).bind fun (rows, total) =>
    (splitLast? '-' rows).bind fun (first, last) =>
      (Text.digits? first).bind fun first => (Text.digits? last).bind fun last =>
        (Text.digits? total).map fun total => ⟨first, last, total⟩

/-- The name in a header and the range behind its last space. -/
def readContentRange? (header : String) : Option (String × RowRange) :=
  (splitLast? ' ' header.toList).bind fun (name, range) =>
    (RowRange.read? range).map fun range => (.ofList name, range)

theorem not_mem_toDigits {c : Char} (h : c.isDigit = false) (n : Nat) : c ∉ Nat.toDigits 10 n := by
  intro hc
  rw [Nat.isDigit_of_mem_toDigits (by decide) (by decide) hc] at h
  cases h

theorem RowRange.read?_toDigits (first last total : Nat) :
    read? (Nat.toDigits 10 first ++ '-' :: Nat.toDigits 10 last ++ '/' :: Nat.toDigits 10 total) =
      some ⟨first, last, total⟩ := by
  rw [read?, splitLast?_append_cons (not_mem_toDigits rfl total)]
  simp only [Option.bind_some]
  rw [splitLast?_append_cons (not_mem_toDigits rfl last)]
  simp only [Option.bind_some, Option.map_some, Text.digits?_toDigits]

/-- The text of a range, cut where it is put together. -/
theorem toList_contentRange (offset count total : UInt64) (name : String) :
    (contentRange offset count total name).toList =
      headerName name ++ ' ' :: (Nat.toDigits 10 offset.toNat ++
        '-' :: Nat.toDigits 10 (lastRow offset count total).toNat ++
        '/' :: Nat.toDigits 10 total.toNat) := by
  simp [contentRange]

/-- Behind its last space a header tells the range, and in front the name. -/
theorem splitLast?_contentRange (offset count total : UInt64) (name : String) :
    ∃ rows, splitLast? ' ' (contentRange offset count total name).toList =
        some (headerName name, rows) ∧
      RowRange.read? rows =
        some ⟨offset.toNat, (lastRow offset count total).toNat, total.toNat⟩ := by
  have hspace : ' ' ∉ Nat.toDigits 10 offset.toNat ++
      '-' :: Nat.toDigits 10 (lastRow offset count total).toNat ++
      '/' :: Nat.toDigits 10 total.toNat := by
    simp [not_mem_toDigits]
  rw [toList_contentRange]
  exact ⟨_, splitLast?_append_cons hspace _, RowRange.read?_toDigits _ _ _⟩

/-- A header is read back, whatever the name. -/
theorem readContentRange?_contentRange (offset count total : UInt64) (name : String) :
    readContentRange? (contentRange offset count total name) =
      some (.ofList (headerName name),
        ⟨offset.toNat, (lastRow offset count total).toNat, total.toNat⟩) := by
  obtain ⟨rows, hsplit, hread⟩ := splitLast?_contentRange offset count total name
  rw [readContentRange?, hsplit, Option.bind_some]
  simp only [hread, Option.map_some]

/-! ## The last row of a range -/

theorem toNat_lastRow (offset count total : UInt64) :
    (lastRow offset count total).toNat =
      max (min (min (offset.toNat + count.toNat) 0xffffffffffffffff - 1) (total.toNat - 1))
        (min offset.toNat total.toNat) := by
  simp only [lastRow, UInt64.toNat_max, UInt64.toNat_min, Saturating.toNat_sub,
    Saturating.toNat_add, UInt64.toNat_one]

/-- The last of some rows below the total. -/
theorem toNat_lastRow_of_le {offset count total : UInt64} (hcount : 0 < count.toNat)
    (h : offset.toNat + count.toNat ≤ total.toNat) :
    (lastRow offset count total).toNat = offset.toNat + count.toNat - 1 := by
  have := total.toNat_lt
  rw [toNat_lastRow]
  omega

/-- Where no row is left, the total stands for the last row. -/
theorem toNat_lastRow_of_ge {offset total : UInt64} (count : UInt64)
    (h : total.toNat ≤ offset.toNat) : (lastRow offset count total).toNat = total.toNat := by
  rw [toNat_lastRow]
  omega

/-! ## The ranges of pages -/

/-- How many of so many rows stand on page `k` of pages of `n` rows: those from the offset up to the
offset of the next page or the total. -/
def rowsOnPage (total n k : Nat) : Nat := min ((k - 1) * n + n) total - (k - 1) * n

/-- No number on the way to the range of a page is cut down: sums and products fit 64 bits, and
nothing is taken from zero. -/
structure Page.Unsaturated {α : Type} (p : Page α) : Prop where
  page_pos : 0 < p.currentPage.toNat
  offset_fits : (p.currentPage.toNat - 1) * p.perPage.toNat < 0x10000000000000000
  end_pos : 0 < (p.currentPage.toNat - 1) * p.perPage.toNat + p.data.length
  end_fits : (p.currentPage.toNat - 1) * p.perPage.toNat + p.data.length < 0x10000000000000000
  total_pos : 0 < p.total.toNat

/-- Every page up to the last one begins with a row, if there are rows. -/
theorem offset_lt_of_le_lastPage {total n k : UInt64} (htotal : 0 < total) (hn : 0 < n)
    (hk : k ≤ lastPage total n) : (k.toNat - 1) * n.toNat < total.toNat := by
  rcases (le_lastPage_iff total hn).1 hk with h | h
  · rw [h, Nat.zero_mul]
    exact UInt64.lt_iff_toNat_lt.1 htotal
  · exact h

/-- An offset that fits 64 bits is not cut down. -/
theorem PageRequest.toNat_offset_of_lt {r : PageRequest}
    (h : (r.page.toNat - 1) * r.perPage.toNat < 0x10000000000000000) :
    r.offset.toNat = (r.page.toNat - 1) * r.perPage.toNat := by
  rw [toNat_offset]
  omega

theorem sub_one_mul_add {k : UInt64} (hk : 0 < k) (n : UInt64) :
    (k.toNat - 1) * n.toNat + n.toNat = k.toNat * n.toNat := by
  have hk : 0 < k.toNat := UInt64.lt_iff_toNat_lt.1 hk
  rw [← Nat.succ_mul, Nat.succ_eq_add_one, Nat.sub_add_cancel hk]

variable {α : Type}

/-- The header of a page tells where the page begins, the last row and the total. -/
theorem readContentRange?_page (data : List α) (total : UInt64) (r : PageRequest) (name : String) :
    readContentRange? ((Page.ofRequest data total r).contentRange name) =
      some (.ofList (headerName name), ⟨r.offset.toNat,
        (lastRow r.offset (Saturating.ofNat data.length) total).toNat, total.toNat⟩) :=
  readContentRange?_contentRange r.offset _ total name

/-- The header of a page with some rows below the total tells exactly these rows. -/
theorem readContentRange?_page_of_le {data : List α} {total : UInt64} {r : PageRequest}
    (hdata : 0 < data.length)
    (h : (r.page.toNat - 1) * r.perPage.toNat + data.length ≤ total.toNat) (name : String) :
    readContentRange? ((Page.ofRequest data total r).contentRange name) =
      some (.ofList (headerName name), ⟨(r.page.toNat - 1) * r.perPage.toNat,
        (r.page.toNat - 1) * r.perPage.toNat + data.length - 1, total.toNat⟩) := by
  have htotal := total.toNat_lt
  have hcount : (Saturating.ofNat data.length).toNat = data.length := by
    rw [Saturating.toNat_ofNat]
    omega
  have hoffset : r.offset.toNat = (r.page.toNat - 1) * r.perPage.toNat :=
    PageRequest.toNat_offset_of_lt (by omega)
  have hlast : (lastRow r.offset (Saturating.ofNat data.length) total).toNat = _ :=
    toNat_lastRow_of_le (by rwa [hcount]) (by rwa [hcount, hoffset])
  rw [readContentRange?_page, hlast, hcount, hoffset]

/-- The rows on the pages of a result: every page is full but the last, which holds what is left. -/
structure Fills (total n : UInt64) (data : UInt64 → List α) : Prop where
  full : ∀ k, 0 < k → k < lastPage total n → (data k).length = n.toNat
  rest : (data (lastPage total n)).length =
    total.toNat - ((lastPage total n).toNat - 1) * n.toNat

namespace Fills

variable {total n k : UInt64} {data : UInt64 → List α}

/-- A page before the last one ends where the next one begins. -/
theorem end_of_lt (h : Fills total n data) (hk : 0 < k) (hlt : k < lastPage total n) :
    (k.toNat - 1) * n.toNat + (data k).length = k.toNat * n.toNat := by
  rw [h.full k hk hlt, sub_one_mul_add hk]

/-- The last page ends where the rows end. -/
theorem end_lastPage (h : Fills total n data) (htotal : 0 < total) (hn : 0 < n) :
    ((lastPage total n).toNat - 1) * n.toNat + (data (lastPage total n)).length =
      total.toNat := by
  have hoffset := offset_lt_of_le_lastPage htotal hn (UInt64.le_refl (lastPage total n))
  rw [h.rest]
  omega

/-- Every page holds rows of the result. -/
theorem rows_of_le (h : Fills total n data) (htotal : 0 < total) (hn : 0 < n) (hk : 0 < k)
    (hle : k ≤ lastPage total n) :
    0 < (data k).length ∧ (k.toNat - 1) * n.toNat + (data k).length ≤ total.toNat := by
  have hoffset := offset_lt_of_le_lastPage htotal hn hle
  rcases UInt64.lt_or_eq_of_le hle with hlt | rfl
  · have hend := h.end_of_lt hk hlt
    have hfits := (lt_lastPage_iff total hn hk).1 hlt
    have hfull : 0 < (data k).length := h.full k hk hlt ▸ UInt64.lt_iff_toNat_lt.1 hn
    omega
  · have hend := h.end_lastPage htotal hn
    omega

end Fills

/-- The ranges of the pages of a result join without a gap: the first begins with the first row,
each other one behind the last row of the page before it, and the last one ends with the last row.
Each names as many rows as its page holds, and no number on the way to it is cut down. -/
theorem content_ranges_tile {total n : UInt64} (htotal : 0 < total) (hn : 0 < n)
    {data : UInt64 → List α} (h : Fills total n data) (name : String) :
    ∃ range : UInt64 → RowRange,
      (∀ k, 0 < k → k ≤ lastPage total n →
        let page := Page.ofRequest (data k) total ⟨k, n⟩
        readContentRange? (page.contentRange name) = some (.ofList (headerName name), range k) ∧
        (range k).first = (PageRequest.offset ⟨k, n⟩).toNat ∧ (range k).first ≤ (range k).last ∧
        (range k).last - (range k).first + 1 = page.data.length ∧
        (range k).total = total.toNat ∧ page.Unsaturated) ∧
      (range 1).first = 0 ∧
      (∀ k, 0 < k → k < lastPage total n → (range (k + 1)).first = (range k).last + 1) ∧
      (range (lastPage total n)).last = total.toNat - 1 := by
  let range (k : UInt64) : RowRange :=
    ⟨(k.toNat - 1) * n.toNat, (k.toNat - 1) * n.toNat + (data k).length - 1, total.toNat⟩
  refine ⟨range, fun k hk hle => ?_, ?_, fun k hk hlt => ?_, ?_⟩
  · have hfits := total.toNat_lt
    obtain ⟨hsome, hbelow⟩ := h.rows_of_le htotal hn hk hle
    have hoffset : (k.toNat - 1) * n.toNat < 0x10000000000000000 := by omega
    refine ⟨readContentRange?_page_of_le hsome hbelow name,
      (PageRequest.toNat_offset_of_lt (r := ⟨k, n⟩) hoffset).symm, ?_, ?_, rfl, ?_⟩
    · simp only [range]
      omega
    · simp only [range, Page.ofRequest]
      omega
    · exact {
        page_pos := UInt64.lt_iff_toNat_lt.1 hk
        offset_fits := hoffset
        end_pos := Nat.lt_of_lt_of_le hsome (Nat.le_add_left _ _)
        end_fits := Nat.lt_of_le_of_lt hbelow hfits
        total_pos := UInt64.lt_iff_toNat_lt.1 htotal }
  · simp only [range, UInt64.toNat_one, Nat.sub_self, Nat.zero_mul]
  · have hsome := (h.rows_of_le htotal hn hk (UInt64.le_of_lt hlt)).1
    have hend := h.end_of_lt hk hlt
    simp only [range, toNat_add_one_of_lt hlt, Nat.add_sub_cancel]
    omega
  · simp only [range, h.end_lastPage htotal hn]

/-- The sum of the two page sizes does not fit 64 bits, and no row is lost or named twice. -/
theorem Sample.ranges_of_two_huge_pages :
    let total : UInt64 := 0xffffffffffffffff
    let n : UInt64 := 0x8000000000000000
    let data (k : UInt64) := List.replicate (if k = 1 then n.toNat else n.toNat - 1) "row"
    let header (k : UInt64) := (Page.ofRequest (data k) total ⟨k, n⟩).contentRange "users"
    0 < total ∧ 0 < n ∧ Fills total n data ∧
      readContentRange? (header 1) = some ("users", ⟨0, n.toNat - 1, total.toNat⟩) ∧
      readContentRange? (header 2) = some ("users", ⟨n.toNat, total.toNat - 1, total.toNat⟩) := by
  intro total n data header
  have hlast : lastPage total n = 2 := by decide
  have hdata : ∀ k, (data k).length = if k = 1 then n.toNat else n.toNat - 1 :=
    fun k => List.length_replicate
  have hfills : Fills total n data := by
    constructor
    · intro k hk hlt
      rw [hlast] at hlt
      have hone : k = 1 := by
        rw [UInt64.lt_iff_toNat_lt] at hk hlt
        exact UInt64.toNat_inj.1 (Nat.le_antisymm (Nat.le_of_lt_succ hlt) hk)
      rw [hdata, if_pos hone]
    · rw [hlast, hdata]
      decide
  have hname : String.ofList (headerName "users") = "users" := by decide
  obtain ⟨range, hpages, hfirst, hnext, hend⟩ :=
    content_ranges_tile (by decide) (by decide) hfills "users"
  rw [hlast, hname] at hpages
  rw [hlast] at hnext hend
  obtain ⟨hread, -, -, hlength, htotal, -⟩ := hpages 1 (by decide) (by decide)
  obtain ⟨hread', -, -, -, htotal', -⟩ := hpages 2 (by decide) (by decide)
  have hlength : (range 1).last - (range 1).first + 1 = n.toNat := by
    rw [hlength]
    exact (hdata 1).trans (if_pos rfl)
  have hrange : range 1 = ⟨0, n.toNat - 1, total.toNat⟩ := by
    ext
    · exact hfirst
    · show (range 1).last = n.toNat - 1
      omega
    · exact htotal
  have hrange' : range 2 = ⟨n.toNat, total.toNat - 1, total.toNat⟩ := by
    have hnext : (range 2).first = (range 1).last + 1 := hnext 1 (by decide) (by decide)
    rw [hrange] at hnext
    ext
    · exact hnext
    · exact hend
    · exact htotal'
  exact ⟨by decide, by decide, hfills, hrange ▸ hread, hrange' ▸ hread'⟩

/-- The range of a page is well formed exactly up to the last page. Behind it, where no row is left,
the total stands in place of the last row. -/
theorem content_range_wellFormed_iff {data : List α} {total : UInt64} {r : PageRequest}
    (hsize : 0 < r.perPage)
    (hdata : data.length = rowsOnPage total.toNat r.perPage.toNat r.page.toNat) (name : String) :
    ∃ range, readContentRange? ((Page.ofRequest data total r).contentRange name) =
        some (.ofList (headerName name), range) ∧
      range.first = r.offset.toNat ∧ range.total = total.toNat ∧
      (range.WellFormed ↔ r.page ≤ lastPage total r.perPage) ∧
      (lastPage total r.perPage < r.page → range.last = total.toNat) := by
  have hsize' : 0 < r.perPage.toNat := UInt64.lt_iff_toNat_lt.1 hsize
  have htotal := total.toNat_lt
  let offset := (r.page.toNat - 1) * r.perPage.toNat
  rw [← UInt64.not_le, le_lastPage_iff total hsize]
  by_cases h : offset < total.toNat
  · have hrows : 0 < data.length ∧ offset + data.length ≤ total.toNat := by
      rw [hdata, rowsOnPage]
      omega
    have hoffset : r.offset.toNat = offset := PageRequest.toNat_offset_of_lt (by omega)
    refine ⟨_, readContentRange?_page_of_le hrows.1 hrows.2 name, hoffset.symm, rfl, ?_, ?_⟩
    · refine iff_of_true ⟨?_, fun _ => ?_⟩ (.inr h)
      · show offset ≤ offset + data.length - 1
        omega
      · show offset + data.length - 1 < total.toNat
        omega
    · exact fun hbehind => absurd (.inr h) hbehind
  · have hoffset : total.toNat ≤ r.offset.toNat := by
      rw [PageRequest.toNat_offset]
      omega
    have hlast := toNat_lastRow_of_ge (Saturating.ofNat data.length) hoffset
    refine ⟨_, readContentRange?_page data total r name, rfl, rfl, ?_, fun _ => hlast⟩
    rw [hlast]
    have hfirst : offset = 0 ↔ r.page.toNat - 1 = 0 := by
      rw [Nat.mul_eq_zero]
      omega
    have hcut := PageRequest.toNat_offset r
    constructor
    · rintro ⟨hle, hlt⟩
      refine .inl (hfirst.1 ?_)
      simp only at hle hlt
      omega
    · rintro (hone | hlt)
      · have := hfirst.2 hone
        refine ⟨?_, fun hpos => ?_⟩
        · show r.offset.toNat ≤ total.toNat
          omega
        · simp only at hpos
          omega
      · exact absurd hlt h

namespace Sample

/-- Where the last page is full, the page behind it begins at the total and names no row. -/
theorem range_of_page_at_total :
    let request : PageRequest := ⟨3, 2⟩
    let page : Page String := Page.ofRequest [] 4 request
    0 < request.perPage ∧ page.data.length = rowsOnPage 4 2 3 ∧
      ∃ range, readContentRange? (page.contentRange "users") = some ("users", range) ∧
        range.first = 4 ∧ range.last = 4 ∧ ¬ range.WellFormed := by
  intro request page
  have hdata : page.data.length = rowsOnPage (UInt64.toNat 4) 2 3 := by decide
  obtain ⟨range, hread, hfirst, -, hiff, hlast⟩ :=
    content_range_wellFormed_iff (r := request) (by decide) hdata "users"
  refine ⟨by decide, hdata, range, hread, hfirst, hlast (by decide), fun hw => ?_⟩
  exact absurd (hiff.1 hw) (by decide)

/-- Far behind the last page the range goes backwards. -/
theorem range_goes_backwards_behind_last_page :
    let page : Page String := Page.ofRequest [] 5 ⟨9, 2⟩
    page.data.length = rowsOnPage 5 2 9 ∧ page.contentRange "users" = "users 16-5/5" ∧
      readContentRange? "users 16-5/5" = some ("users", ⟨16, 5, 5⟩) ∧
      ¬ (RowRange.mk 16 5 5).WellFormed := by
  refine ⟨by decide, by decide, by decide, fun hw => ?_⟩
  exact absurd hw.1 (by decide)

end Sample
end ListQuery
