import ListQuery.Params.QueryString
import ListQuery.Proofs.SelectText
import ListQuery.Sample.Users

/-!
The windows that pages ask for. A page with totals and one without send the same text and the same
values but for the last two, the limit and the offset. Main statement: the offsets agree as long as
the number of rows before the page fits 64 bits; beyond that one wraps around and one stops at the
largest count.
-/
namespace ListQuery

open Sql

section

variable {ρ : Type} {c : Config} {r : Resource} {p : Params} {s : Select} {d : Dialect}
  {answer : Statement → Answer ρ}

/-- A page with totals sends a count and, once the count is known, a page. -/
theorem statements_paginate (hs : c.select r p = .ok s) {total : UInt64}
    (hcount : (answer (s.countStatement d)).totalOf = .ok total) :
    ((c.paginate r d p).runOn answer).statements =
      [s.countStatement d, (s.page (c.pageRequest r p)).statement d] := by
  simp only [Config.paginate, hs, Plan.withSelect, Plan.runOn, hcount, Plan.orFail]
  cases (answer ((s.page (c.pageRequest r p)).statement d)).rowsOf <;> rfl

theorem statements_paginateSimply (hs : c.select r p = .ok s) :
    ((c.paginateSimply r d p).runOn answer).statements =
      [(s.pageAndOne (c.pageRequest r p)).statement d] := by
  simp only [Config.paginateSimply, hs, Plan.withSelect, Plan.runOn, Plan.orFail]
  cases (answer ((s.pageAndOne (c.pageRequest r p)).statement d)).rowsOf <;> rfl

/-- The two offsets of a page are one product, taken within 64 bits in different ways. -/
theorem toNat_offsets (request : PageRequest) :
    (request.perPage * request.index).toNat =
        request.index.toNat * request.perPage.toNat % 0x10000000000000000 ∧
      request.offset.toNat =
        min (request.index.toNat * request.perPage.toNat) 0xffffffffffffffff := by
  constructor
  · rw [UInt64.toNat_mul, Nat.mul_comm]
  · exact Saturating.toNat_mul _ _

/-- A page with totals and one without ask for windows of the same select. Their statements have one
text and the same values before the window; the limit without totals is one more, at most the
largest count; and the offsets are equal while the rows before the page fit 64 bits. -/
theorem page_statements_share_window (hs : c.select r p = .ok s) {total : UInt64}
    (hcount : (answer (s.countStatement d)).totalOf = .ok total) :
    ∃ sql values limit offset simpleLimit simpleOffset,
      ((c.paginate r d p).runOn answer).statements =
        [s.countStatement d, ⟨sql, values ++ [.uint64 limit, .uint64 offset]⟩] ∧
      ((c.paginateSimply r d p).runOn answer).statements =
        [⟨sql, values ++ [.uint64 simpleLimit, .uint64 simpleOffset]⟩] ∧
      limit = (c.pageRequest r p).perPage ∧
      simpleLimit.toNat = min (limit.toNat + 1) 0xffffffffffffffff ∧
      simpleOffset = (c.pageRequest r p).offset ∧
      offset.toNat = (c.pageRequest r p).index.toNat * limit.toNat % 0x10000000000000000 ∧
      ((c.pageRequest r p).index.toNat * limit.toNat < 0x10000000000000000 →
        offset = simpleOffset) := by
  obtain ⟨sql, values, hwindow⟩ := statement_inWindow s d
  obtain ⟨hplain, hsaturated⟩ := toNat_offsets (c.pageRequest r p)
  refine ⟨sql, values, _, _, _, _, ?_, ?_, rfl, Saturating.toNat_add _ 1, rfl, hplain, fun h => ?_⟩
  · rw [statements_paginate hs hcount, Select.page, hwindow]
  · rw [statements_paginateSimply hs, Select.pageAndOne, hwindow]
  · refine UInt64.toNat_inj.1 ?_
    rw [hplain, hsaturated, Nat.mod_eq_of_lt h]
    omega

end

namespace Sample

theorem page_statements_of_third_page :
    let p := Params.ofQuery "page=3&per_page=2"
    let answer : Statement → Answer User := fun _ => .total 5
    let s : Select := { usersResource.all with order := [(⟨none, "created_at"⟩, .ascending)] }
    Config.extended.select usersResource p = .ok s ∧
    ∃ sql values,
      ((Config.extended.paginate usersResource .sqlite p).runOn answer).statements =
        [s.countStatement .sqlite, ⟨sql, values ++ [.uint64 2, .uint64 4]⟩] ∧
      ((Config.extended.paginateSimply usersResource .sqlite p).runOn answer).statements =
        [⟨sql, values ++ [.uint64 3, .uint64 4]⟩] := by
  intro p answer s
  have hs : Config.extended.select usersResource p = .ok s := by rfl
  have hrequest : Config.extended.pageRequest usersResource p = ⟨3, 2⟩ := by rfl
  have hcount : (answer (s.countStatement .sqlite)).totalOf = .ok 5 := rfl
  obtain ⟨sql, values, limit, offset, simpleLimit, simpleOffset, hpage, hsimple, hlimit, hone,
    hoffset, -, hsame⟩ := page_statements_share_window (d := .sqlite) hs hcount
  rw [hrequest] at hlimit hoffset hsame
  have hlimit : limit = 2 := hlimit
  have hoffset : simpleOffset = 4 := hoffset
  rw [hlimit] at hpage hone hsame
  rw [hsame (by decide), hoffset] at hpage
  have hone : simpleLimit = 3 := UInt64.toNat_inj.1 hone
  rw [hone, hoffset] at hsimple
  exact ⟨hs, sql, values, hpage, hsimple⟩

/-- With `2 ^ 64` rows before it, the page with totals begins at the first row again. -/
theorem offsets_part_beyond_64_bits :
    let p := Params.ofQuery "page=4294967297&per_page=4294967296"
    let answer : Statement → Answer User := fun _ => .total 5
    let lastValues (run : List Statement) := run.map fun s => s.values.getLast?
    lastValues ((Config.extended.paginate usersResource .sqlite p).runOn answer).statements =
        [none, some (.uint64 0)] ∧
      lastValues ((Config.extended.paginateSimply usersResource .sqlite p).runOn answer).statements =
        [some (.uint64 0xffffffffffffffff)] := by
  constructor <;> rfl

end Sample
end ListQuery
