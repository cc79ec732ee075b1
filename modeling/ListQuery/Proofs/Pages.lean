import ListQuery.Proofs.Agreement
import ListQuery.Proofs.Controls
import ListQuery.Proofs.SelectText

/-!
The pages of one listing, asked for one by one. Main statement: the pages with totals hold all rows
in their order, and so do the pages without, taken as long as another is announced; the two kinds
agree on which page is the last.
-/
namespace ListQuery

open Sql

/-! ## The page of a request does not change its listing -/

/-- Whether a parameter says which page to take. -/
def isPaging (name : String) : Bool := ["page", "per_page"].contains name

/-- The parameters without those that say which page to take. -/
def Params.unpaged (p : Params) : Params :=
  ⟨List.filter (fun e => !isPaging e.1) p.entries, p.distinct.filter _⟩

namespace Params

variable (p : Params)

theorem eq_of_isPaging {name : String} (h : isPaging name = true) :
    name = "page" ∨ name = "per_page" := by
  simpa [isPaging] using h

theorem get?_unpaged {name : String} (h : isPaging name = false) :
    p.unpaged.get? name = p.get? name :=
  (p.get?_without isPaging name).trans (by rw [h]; rfl)

theorem columnMatches_unpaged (ranges : Bool) :
    p.unpaged.columnMatches ranges = p.columnMatches ranges := by
  refine p.columnMatches_without fun name h => ?_
  rcases eq_of_isPaging h with rfl | rfl <;> simp [isReserved, controlNames]

end Params

namespace Rules

variable (r : Rules) (p : Params)

theorem ranges_unpaged : r.ranges p.unpaged = r.ranges p := by
  refine r.ranges_without p fun name h => ?_
  rcases Params.eq_of_isPaging h with rfl | rfl <;> rfl

/-- What is found in a request does not depend on the page. -/
theorem findings_unpaged : r.findings p.unpaged = r.findings p := by
  have hsteering : ∀ name ∈ ["search", "search_by", "order", "order_by", "scopes"],
      isPaging name = false := by decide
  have h : r.Agrees p.unpaged p :=
    .of_get? (p.columnMatches_unpaged _) (r.ranges_unpaged p) fun name hname =>
      p.get?_unpaged (hsteering name hname)
  exact h.findings_eq

end Rules

/-- Requests that differ in the page only list the same rows. -/
theorem Config.select_unpaged (c : Config) (r : Resource) (p : Params) :
    c.select r p.unpaged = c.select r p := by
  simp only [select, compile, Rules.findings_unpaged]

/-- The requests `requests k` ask for the pages `k` of the listing of `p`, with `n` rows a page. -/
structure Config.Turns (c : Config) (r : Resource) (p : Params) (n : UInt64)
    (requests : UInt64 → Params) : Prop where
  unpaged : ∀ k, 0 < k → (requests k).unpaged = p.unpaged
  pageRequest : ∀ k, 0 < k → c.pageRequest r (requests k) = ⟨k, n⟩

namespace Config.Turns

variable {c : Config} {r : Resource} {p : Params} {n : UInt64} {requests : UInt64 → Params}

theorem select (h : c.Turns r p n requests) {k : UInt64} (hk : 0 < k) :
    c.select r (requests k) = c.select r p := by
  rw [← c.select_unpaged r (requests k), h.unpaged k hk, c.select_unpaged]

theorem perPage_pos (h : c.Turns r p n requests) : 0 < n := by
  have hpos := PageRequest.perPage_ofControl_pos (requests 1).control (r.pageSize c)
  have hn : (PageRequest.ofControl (requests 1).control (r.pageSize c)).perPage = n :=
    congrArg PageRequest.perPage (h.pageRequest 1 (by decide))
  rwa [hn] at hpos

end Config.Turns

namespace Params

variable (p : Params)

theorem unpaged_insert {name : String} (h : isPaging name = true) (v : Value) :
    (p.insert name v).unpaged = p.unpaged := by
  have hfilter : ∀ es : Entries, List.filter (fun e => !isPaging e.1) (es.insert name v.tidy) =
      List.filter (fun e => !isPaging e.1) es := by
    intro es
    rw [Entries.insert]
    induction es with
    | nil => simp [Entries.alter, h]
    | cons e es ih =>
      by_cases he : e.1 = name
      · simp [Entries.alter, he, h]
      · simp [Entries.alter, he, List.filter_cons, ih]
  simp only [unpaged, insert, hfilter]

/-- The parameters with this page and page size in place of their own. -/
def atPage (n k : UInt64) : Params :=
  (p.insert "per_page" (.number (.ofUInt64 n))).insert "page" (.number (.ofUInt64 k))

theorem unpaged_atPage (n k : UInt64) : (p.atPage n k).unpaged = p.unpaged := by
  rw [atPage, unpaged_insert _ (by decide), unpaged_insert _ (by decide)]

theorem countReading_insert_self (name : String) (n : UInt64) :
    (p.insert name (.number (.ofUInt64 n))).countReading name = .count n := by
  have hget : (p.insert name (.number (.ofUInt64 n))).get? name = some (.number (.ofUInt64 n)) :=
    Entries.get?_alter_self name _ _
  rw [countReading, hget]
  simp [CountReading.ofValue, Number.ofUInt64]

theorem countReading_insert_of_ne {name other : String} (h : other ≠ name) (v : Value) :
    (p.insert name v).countReading other = p.countReading other := by
  have hget : (p.insert name v).get? other = p.get? other := Entries.get?_alter_of_ne h _ _
  simp [countReading, hget]

end Params

/-- Every request has pages of every size. -/
theorem Config.turns_atPage (c : Config) (r : Resource) (p : Params) {n : UInt64} (hn : 0 < n) :
    c.Turns r p n (p.atPage n) where
  unpaged k _ := p.unpaged_atPage n k
  pageRequest k hk := by
    have hpage : (p.atPage n k).countReading "page" = .count k :=
      Params.countReading_insert_self _ _ k
    have hsize : (p.atPage n k).countReading "per_page" = .count n := by
      rw [Params.atPage, Params.countReading_insert_of_ne _ (by decide),
        Params.countReading_insert_self]
    simp [Config.pageRequest, PageRequest.ofControl, Params.control_eq, hpage, hsize,
      CountReading.toOption, Option.filter_some, hn, hk]

/-! ## Numbers of pages -/

theorem toNat_lastPage (total : UInt64) {n : UInt64} (hn : 0 < n) :
    (lastPage total n).toNat = max ((total.toNat + n.toNat - 1) / n.toNat) 1 := by
  have hn : 0 < n.toNat := UInt64.lt_iff_toNat_lt.1 hn
  have hsize : max n.toNat 1 = n.toNat := by omega
  have hle : (total.toNat + n.toNat - 1) / n.toNat ≤ max total.toNat 1 := by
    refine Nat.div_le_of_le_mul ?_
    obtain ⟨m, hm⟩ : ∃ m, n.toNat = m + 1 := ⟨n.toNat - 1, by omega⟩
    obtain ⟨t, ht⟩ : ∃ t, max total.toNat 1 = t + 1 := ⟨max total.toNat 1 - 1, by omega⟩
    rw [hm, ht, Nat.succ_mul, Nat.mul_succ]
    omega
  have ht := total.toNat_lt
  rw [lastPage, hsize, UInt64.toNat_ofNat']
  exact Nat.mod_eq_of_lt (by omega)

/-- Behind `m` pages another one follows where `m` is zero or they leave rows. -/
theorem lt_toNat_lastPage_iff (total : UInt64) {n : UInt64} (hn : 0 < n) (m : Nat) :
    m < (lastPage total n).toNat ↔ m = 0 ∨ m * n.toNat < total.toNat := by
  have hn' : 0 < n.toNat := UInt64.lt_iff_toNat_lt.1 hn
  have hmax : m < max ((total.toNat + n.toNat - 1) / n.toNat) 1 ↔
      m = 0 ∨ m + 1 ≤ (total.toNat + n.toNat - 1) / n.toNat := by omega
  rw [toNat_lastPage total hn, hmax, Nat.le_div_iff_mul_le hn', Nat.succ_mul]
  omega

/-- A page stands before the last one where rows follow it. -/
theorem lt_lastPage_iff (total : UInt64) {n k : UInt64} (hn : 0 < n) (hk : 0 < k) :
    k < lastPage total n ↔ k.toNat * n.toNat < total.toNat := by
  have hk : 0 < k.toNat := UInt64.lt_iff_toNat_lt.1 hk
  rw [UInt64.lt_iff_toNat_lt, lt_toNat_lastPage_iff total hn]
  exact or_iff_right (Nat.ne_of_gt hk)

/-- A page stands up to the last one if it is the first or begins with a row. -/
theorem le_lastPage_iff (total : UInt64) {n k : UInt64} (hn : 0 < n) :
    k ≤ lastPage total n ↔ k.toNat - 1 = 0 ∨ (k.toNat - 1) * n.toNat < total.toNat := by
  have hpos := (lt_toNat_lastPage_iff total hn 0).2 (.inl rfl)
  rw [UInt64.le_iff_toNat_le, ← lt_toNat_lastPage_iff total hn]
  omega

/-- The number of a page before another one has a successor. -/
theorem toNat_add_one_of_lt {k m : UInt64} (h : k < m) : (k + 1).toNat = k.toNat + 1 := by
  have h := UInt64.lt_iff_toNat_lt.1 h
  have hm := m.toNat_lt
  rw [UInt64.toNat_add, UInt64.toNat_one]
  exact Nat.mod_eq_of_lt (by omega)

/-- No row stands behind the last page. -/
theorem toNat_le_lastPage_mul (total : UInt64) {n : UInt64} (hn : 0 < n) :
    total.toNat ≤ (lastPage total n).toNat * n.toNat := by
  have hpos : 0 < lastPage total n :=
    UInt64.lt_iff_toNat_lt.2 ((lt_toNat_lastPage_iff total hn 0).2 (.inl rfl))
  refine Nat.le_of_not_lt fun h => ?_
  exact Nat.lt_irrefl _ (UInt64.lt_iff_toNat_lt.1 ((lt_lastPage_iff total hn hpos).2 h))

/-! ## Slices of rows -/

section

variable {ρ : Type} (rows : List ρ) (n : Nat)

/-- The rows on page `k` of pages of `n` rows. -/
def slice (k : Nat) : List ρ := (rows.drop ((k - 1) * n)).take n

/-- The first pages hold the first rows. -/
theorem flatMap_slice (m : Nat) :
    (List.range' 1 m).flatMap (slice rows n) = rows.take (m * n) := by
  induction m with
  | zero => simp
  | succ m ih =>
    have h : slice rows n (1 + 1 * m) = (rows.drop (m * n)).take n := by simp [slice]
    rw [List.range'_concat, List.flatMap_append, ih, List.flatMap_singleton, h, Nat.succ_mul,
      List.take_add]

/-- A page and the rows behind it. -/
theorem slice_append_drop {k : Nat} (hk : 0 < k) :
    slice rows n k ++ rows.drop (k * n) = rows.drop ((k - 1) * n) := by
  obtain ⟨m, rfl⟩ : ∃ m, k = m + 1 := ⟨k - 1, by omega⟩
  have h := List.take_append_drop n (rows.drop (m * n))
  rw [List.drop_drop, ← Nat.succ_mul] at h
  exact h

end

/-! ## Asking for the pages -/

section

variable {ρ : Type}

/-- A database in which a select has these rows: it counts them, and answers a window with the rows
that lie in it. -/
structure Lists (answer : Statement → Answer ρ) (d : Dialect) (s : Select) (rows : List ρ) :
    Prop where
  count : answer (s.countStatement d) = .total (.ofNat rows.length)
  window : ∀ w : Window, answer ((s.inWindow w).statement d) =
    .rows ((rows.drop w.offset.toNat).take w.limit.toNat)
  fits : rows.length < 0x10000000000000000

theorem Lists.toNat_length {answer : Statement → Answer ρ} {d : Dialect} {s : Select}
    {rows : List ρ} (h : Lists answer d s rows) :
    (UInt64.ofNat rows.length).toNat = rows.length := by
  rw [UInt64.toNat_ofNat']
  exact Nat.mod_eq_of_lt h.fits

/-- Pages without totals are taken from page `k` on as long as another is announced. -/
inductive Crawl (fetch : UInt64 → Except Error (SimplePage ρ)) : UInt64 → List ρ → Prop where
  | last {k : UInt64} (page : SimplePage ρ) (answered : fetch k = .ok page)
      (done : page.hasMore = false) : Crawl fetch k page.data
  | next {k : UInt64} (page : SimplePage ρ) {rows : List ρ} (answered : fetch k = .ok page)
      (more : page.hasMore = true) (rest : Crawl fetch (k + 1) rows) :
      Crawl fetch k (page.data ++ rows)

/-- What is found does not depend on chance. -/
theorem Crawl.unique {fetch : UInt64 → Except Error (SimplePage ρ)} {k : UInt64}
    {rows rows' : List ρ} (h : Crawl fetch k rows) (h' : Crawl fetch k rows') : rows = rows' := by
  induction h generalizing rows' with
  | last page answered done =>
    cases h' with
    | last _ answered' _ => rw [Except.ok.inj (answered.symm.trans answered')]
    | next _ answered' more' _ =>
      rw [Except.ok.inj (answered.symm.trans answered'), more'] at done
      cases done
  | next page answered more rest ih =>
    cases h' with
    | last _ answered' done' =>
      rw [Except.ok.inj (answered.symm.trans answered'), done'] at more
      cases more
    | next _ answered' _ rest' => rw [Except.ok.inj (answered.symm.trans answered'), ih rest']

variable {answer : Statement → Answer ρ} {d : Dialect} {s : Select} {rows : List ρ} {c : Config}
  {r : Resource} {p : Params}

theorem result_paginate (hl : Lists answer d s rows) (hs : c.select r p = .ok s) :
    ((c.paginate r d p).runOn answer).result =
      .ok (.ofRequest
        ((rows.drop ((c.pageRequest r p).perPage * (c.pageRequest r p).index).toNat).take
          (c.pageRequest r p).perPage.toNat)
        (.ofNat rows.length) (c.pageRequest r p)) := by
  simp only [Config.paginate, hs, Plan.withSelect, Plan.runOn, hl.count, Answer.totalOf,
    Plan.orFail, Select.page, hl.window, Answer.rowsOf]

theorem result_paginateSimply (hl : Lists answer d s rows) (hs : c.select r p = .ok s) :
    ((c.paginateSimply r d p).runOn answer).result =
      .ok (.ofRows
        ((rows.drop (c.pageRequest r p).offset.toNat).take
          (Saturating.add (c.pageRequest r p).perPage 1).toNat)
        (c.pageRequest r p)) := by
  simp only [Config.paginateSimply, hs, Plan.withSelect, Plan.runOn, Plan.orFail,
    Select.pageAndOne, hl.window, Answer.rowsOf]

/-- A page without totals holds its slice of the rows, also where its offset is cut down to 64 bits,
and announces another where rows follow. -/
theorem ofRows_window (hl : Lists answer d s rows) {k n : UInt64} (hk : 0 < k) :
    SimplePage.ofRows
        ((rows.drop (PageRequest.offset ⟨k, n⟩).toNat).take (Saturating.add n 1).toNat) ⟨k, n⟩ =
      ⟨slice rows n.toNat k.toNat, n, k, decide (k.toNat * n.toNat < rows.length)⟩ := by
  have hk : 0 < k.toNat := UInt64.lt_iff_toNat_lt.1 hk
  obtain ⟨m, hm⟩ : ∃ m, k.toNat = m + 1 := ⟨k.toNat - 1, by omega⟩
  have hn := n.toNat_lt
  have hfits := hl.fits
  have hlimit : (Saturating.add n 1).toNat = min (n.toNat + 1) 0xffffffffffffffff :=
    Saturating.toNat_add n 1
  have hoffset : (PageRequest.offset ⟨k, n⟩).toNat = min (m * n.toNat) 0xffffffffffffffff := by
    rw [PageRequest.toNat_offset, hm, Nat.add_sub_cancel]
  have hdrop : rows.drop (PageRequest.offset ⟨k, n⟩).toNat = rows.drop (m * n.toNat) := by
    rw [hoffset]
    by_cases h : m * n.toNat ≤ 0xffffffffffffffff
    · rw [Nat.min_eq_left h]
    · rw [List.drop_eq_nil_of_le (by omega), List.drop_eq_nil_of_le (by omega)]
  have hdata : ((rows.drop (m * n.toNat)).take (Saturating.add n 1).toNat).take n.toNat =
      slice rows n.toNat k.toNat := by
    rw [List.take_take, hlimit, slice, hm, Nat.add_sub_cancel]
    congr 1
    omega
  have hmore : (n.toNat < ((rows.drop (m * n.toNat)).take (Saturating.add n 1).toNat).length) ↔
      k.toNat * n.toNat < rows.length := by
    rw [List.length_take, List.length_drop, hlimit, hm, Nat.succ_mul]
    omega
  rw [SimplePage.ofRows, hdrop, hdata]
  simp only [hmore]

/-- The pages with totals up to the last one hold their slices of the rows; no offset among them
leaves 64 bits. -/
theorem window_of_le_lastPage (hl : Lists answer d s rows) {k n : UInt64} (hn : 0 < n) (hk : 0 < k)
    (hlast : k ≤ lastPage (.ofNat rows.length) n) :
    (rows.drop (n * PageRequest.index ⟨k, n⟩).toNat).take n.toNat =
      slice rows n.toNat k.toNat := by
  have hk' : 0 < k.toNat := UInt64.lt_iff_toNat_lt.1 hk
  have hn' : 0 < n.toNat := UInt64.lt_iff_toNat_lt.1 hn
  have hfits := hl.fits
  obtain ⟨m, hm⟩ : ∃ m, k.toNat = m + 1 := ⟨k.toNat - 1, by omega⟩
  have hsmall : m * n.toNat ≤ rows.length := by
    rw [le_lastPage_iff _ hn, hl.toNat_length, hm, Nat.add_sub_cancel] at hlast
    rcases hlast with rfl | hlast
    · omega
    · exact Nat.le_of_lt hlast
  have hoffset : (n * PageRequest.index ⟨k, n⟩).toNat = m * n.toNat := by
    rw [UInt64.toNat_mul, PageRequest.toNat_index, hm, Nat.add_sub_cancel, Nat.mul_comm]
    exact Nat.mod_eq_of_lt (by omega)
  rw [hoffset, slice, hm, Nat.add_sub_cancel]

variable {n : UInt64} {requests : UInt64 → Params}

theorem result_paginateSimply_turn (ht : c.Turns r p n requests) (hs : c.select r p = .ok s)
    (hl : Lists answer d s rows) {k : UInt64} (hk : 0 < k) :
    ((c.paginateSimply r d (requests k)).runOn answer).result =
      .ok ⟨slice rows n.toNat k.toNat, n, k, decide (k.toNat * n.toNat < rows.length)⟩ := by
  rw [result_paginateSimply hl ((ht.select hk).trans hs), ht.pageRequest k hk,
    ofRows_window hl hk]

theorem result_paginate_turn (ht : c.Turns r p n requests) (hs : c.select r p = .ok s)
    (hl : Lists answer d s rows) {k : UInt64} (hk : 0 < k)
    (hlast : k ≤ lastPage (.ofNat rows.length) n) :
    ((c.paginate r d (requests k)).runOn answer).result =
      .ok (.ofRequest (slice rows n.toNat k.toNat) (.ofNat rows.length) ⟨k, n⟩) := by
  rw [result_paginate hl ((ht.select hk).trans hs), ht.pageRequest k hk,
    window_of_le_lastPage hl ht.perPage_pos hk hlast]

/-- From any page on the rows from there are found, and the search ends. -/
theorem crawl_drop (ht : c.Turns r p n requests) (hs : c.select r p = .ok s)
    (hl : Lists answer d s rows) {k : UInt64} (hk : 0 < k) :
    Crawl (fun k => ((c.paginateSimply r d (requests k)).runOn answer).result) k
      (rows.drop ((k.toNat - 1) * n.toNat)) := by
  have hn : 0 < n.toNat := UInt64.lt_iff_toNat_lt.1 ht.perPage_pos
  -- the rows behind the page get fewer from page to page
  induction hgap : rows.length - k.toNat * n.toNat using Nat.strongRecOn generalizing k with
  | _ gap ih =>
    have hanswer := result_paginateSimply_turn ht hs hl hk
    have hk' : 0 < k.toNat := UInt64.lt_iff_toNat_lt.1 hk
    rw [← slice_append_drop rows n.toNat hk']
    by_cases hmore : k.toNat * n.toNat < rows.length
    · have hbefore : k < lastPage (.ofNat rows.length) n := by
        rwa [lt_lastPage_iff _ ht.perPage_pos hk, hl.toNat_length]
      have hsucc := toNat_add_one_of_lt hbefore
      have hpos : 0 < k + 1 := by
        rw [UInt64.lt_iff_toNat_lt, hsucc]
        exact Nat.succ_pos _
      have hrest := ih (rows.length - (k + 1).toNat * n.toNat)
        (by rw [hsucc, Nat.succ_mul]; omega) hpos rfl
      rw [hsucc, Nat.add_sub_cancel] at hrest
      exact .next ⟨_, n, k, _⟩ hanswer (by simpa using hmore) hrest
    · rw [List.drop_eq_nil_of_le (by omega), List.append_nil]
      exact .last ⟨_, n, k, _⟩ hanswer (by simpa using hmore)

/-- The pages with totals, from the first to the last, come about and hold all rows. -/
theorem exists_pages (ht : c.Turns r p n requests) (hs : c.select r p = .ok s)
    (hl : Lists answer d s rows) :
    ∃ pages : List (Page ρ),
      pages.map .ok = (List.range' 1 (lastPage (.ofNat rows.length) n).toNat).map
        (fun k => ((c.paginate r d (requests (.ofNat k))).runOn answer).result) ∧
      (∀ page ∈ pages, page.lastPage = lastPage (.ofNat rows.length) n) ∧
      pages.flatMap Page.data = rows := by
  let last := lastPage (.ofNat rows.length) n
  let page (k : Nat) : Page ρ :=
    .ofRequest (slice rows n.toNat k) (.ofNat rows.length) ⟨.ofNat k, n⟩
  refine ⟨(List.range' 1 last.toNat).map page, ?_, ?_, ?_⟩
  · rw [List.map_map]
    refine List.map_congr_left fun k hk => ?_
    obtain ⟨hk, hk'⟩ : 1 ≤ k ∧ k < 1 + last.toNat := List.mem_range'_1.1 hk
    have hlt := last.toNat_lt
    have hnat : (UInt64.ofNat k).toNat = k := by
      rw [UInt64.toNat_ofNat']
      exact Nat.mod_eq_of_lt (by omega)
    have hpos : 0 < UInt64.ofNat k := by
      rw [UInt64.lt_iff_toNat_lt, hnat]
      exact hk
    have hle : UInt64.ofNat k ≤ last := by
      rw [UInt64.le_iff_toNat_le, hnat]
      omega
    rw [result_paginate_turn ht hs hl hpos hle, hnat]
    rfl
  · intro q hq
    obtain ⟨k, -, rfl⟩ := List.mem_map.1 hq
    rfl
  · have hall := toNat_le_lastPage_mul (.ofNat rows.length) ht.perPage_pos
    rw [hl.toNat_length] at hall
    have hslices := flatMap_slice rows n.toNat last.toNat
    rw [List.take_of_length_le hall] at hslices
    rw [List.flatMap_map]
    exact hslices

/-- The pages of a listing hold its rows. All pages with totals, from the first to the last, come
about and hold all rows in their order; taking pages without totals for as long as another is
announced comes to an end and finds the same rows; and for every page, also far behind the rows,
another is announced exactly where the page stands before the last one. -/
theorem pages_hold_all_rows (ht : c.Turns r p n requests) (hs : c.select r p = .ok s)
    (hl : Lists answer d s rows) :
    (∃ pages : List (Page ρ),
      pages.map .ok = (List.range' 1 (lastPage (.ofNat rows.length) n).toNat).map
        (fun k => ((c.paginate r d (requests (.ofNat k))).runOn answer).result) ∧
      (∀ page ∈ pages, page.lastPage = lastPage (.ofNat rows.length) n) ∧
      pages.flatMap Page.data = rows) ∧
    (∀ found, Crawl (fun k => ((c.paginateSimply r d (requests k)).runOn answer).result) 1 found ↔
      found = rows) ∧
    ∀ k, 0 < k → ∃ page,
      ((c.paginateSimply r d (requests k)).runOn answer).result = .ok page ∧
      page.currentPage = k ∧ (page.hasMore = true ↔ page.currentPage <
        (Page.ofRequest page.data (.ofNat rows.length) (c.pageRequest r (requests k))).lastPage) := by
  refine ⟨exists_pages ht hs hl, fun found => ?_, fun k hk => ?_⟩
  · have hcrawl := crawl_drop ht hs hl (k := 1) (by decide)
    rw [UInt64.toNat_one, Nat.sub_self, Nat.zero_mul, List.drop_zero] at hcrawl
    constructor
    · exact fun h => h.unique hcrawl
    · rintro rfl
      exact hcrawl
  · refine ⟨_, result_paginateSimply_turn ht hs hl hk, rfl, ?_⟩
    rw [ht.pageRequest k hk]
    simp [Page.ofRequest, lt_lastPage_iff _ ht.perPage_pos hk, hl.toNat_length]

end

namespace Sample

/-- A database that holds these rows, whatever the condition. A statement that ends with a window
asks for rows, any other for their number. -/
def holding {ρ : Type} (rows : List ρ) (s : Statement) : Answer ρ :=
  match s.values.reverse with
  | .uint64 offset :: .uint64 limit :: _ => .rows ((rows.drop offset.toNat).take limit.toNat)
  | _ => .total (.ofNat rows.length)

theorem holding_window {ρ : Type} (rows : List ρ) (d : Dialect) (s : Select) (w : Window) :
    holding rows ((s.inWindow w).statement d) =
      .rows ((rows.drop w.offset.toNat).take w.limit.toNat) := by
  obtain ⟨sql, values, h⟩ := statement_inWindow s d
  rw [h, holding, List.reverse_append]
  rfl

theorem pages_of_adults :
    let p := Params.ofPairs [("gte", .map [("age", .text "18")]), ("page", .text "7")]
    let rows := ["Ann", "Bob", "Cid", "Dot", "Eve"]
    let counted k :=
      (Config.extended.paginate compactUsers .sqlite (p.atPage 2 k)).runOn (holding rows)
    let simple k :=
      (Config.extended.paginateSimply compactUsers .sqlite (p.atPage 2 k)).runOn (holding rows)
    (∃ pages : List (Page String),
      pages.map .ok = [(counted 1).result, (counted 2).result, (counted 3).result] ∧
      pages.flatMap Page.data = rows) ∧
    Crawl (fun k => (simple k).result) 1 rows ∧
    ∃ page, (simple 0xffffffffffffffff).result = .ok page ∧ page.hasMore = false := by
  intro p rows counted simple
  let s : Select := { compactUsers.all with
    condition := [.single (.compare ⟨none, "age"⟩ (.range .atLeast) (.int64 18))]
    order := [(⟨none, "created_at"⟩, .ascending)] }
  have hs : Config.extended.select compactUsers p = .ok s := by rfl
  have hl : Lists (holding rows) .sqlite s rows :=
    ⟨rfl, holding_window rows .sqlite s, by simp [rows]⟩
  have ht := Config.extended.turns_atPage compactUsers p (n := 2) (by decide)
  have hlength : rows.length = 5 := rfl
  have hlast : lastPage (.ofNat 5) 2 = 3 := by decide
  obtain ⟨⟨pages, hpages, -, hrows⟩, hcrawl, hmore⟩ := pages_hold_all_rows ht hs hl
  obtain ⟨page, hpage, hk, hiff⟩ := hmore 0xffffffffffffffff (by decide)
  refine ⟨⟨pages, ?_, hrows⟩, (hcrawl rows).2 rfl, page, hpage, Bool.eq_false_iff.2 ?_⟩
  · rw [hpages, hlength, hlast]
    rfl
  · rw [Ne, hiff, hk, ht.pageRequest _ (by decide), Page.ofRequest, hlength, hlast]
    have hfar : ¬ (0xffffffffffffffff : UInt64) < 3 := by decide
    exact hfar

end Sample
end ListQuery
