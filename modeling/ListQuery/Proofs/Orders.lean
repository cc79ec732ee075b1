import ListQuery.Params.QueryString
import ListQuery.Proofs.Agreement
import ListQuery.Proofs.Comparisons
import ListQuery.Sample.Gadgets

/-!
Orders by an allowed column. A column is asked for under any spelling and meant in lower case. Main
statement: where all columns are checked, a request that names an allowed column is ordered by it in
lower case if that is allowed too, and the order is then no reason to fail; if it is not, strict
compiling fails and lenient compiling takes the default order.
-/
namespace ListQuery

/-- Whether a parameter asks for an order. -/
def isOrdering (name : String) : Bool := ["order_by", "order"].contains name

namespace Params

/-- The parameters without those that ask for an order. -/
def unordered (p : Params) : Params := p.without isOrdering

/-- The direction that a request asks for, if it is one; ascending where it asks for none. -/
def direction? (p : Params) : Option Direction :=
  match p.text? "order" with
  | none => some .ascending
  | some raw => Direction.read? raw

/-- The direction is the one that `order` writes, in any case and with blanks around it. -/
theorem direction?_eq_some_iff {p : Params} {asked : Direction} :
    p.direction? = some asked ↔ (p.text? "order" = none ∧ asked = .ascending) ∨
      ∃ raw, p.text? "order" = some raw ∧ Text.Padded (Text.InAnyCase asked.name) raw := by
  rw [direction?]
  cases p.text? "order" with
  | none => simp [eq_comm]
  | some raw => simp [Direction.read?_eq_some_iff]

/-- A text that is not blank is read as it stands. -/
theorem text?_of_get? {p : Params} {name s : String} (h : p.get? name = some (.text s))
    (hs : Text.allBlank s = false) : p.text? name = some s := by
  rw [text?_eq, h, Option.bind_some, if_pos (by rw [Value.isFilled, hs]; rfl)]
  rfl

section Unordered

variable (p : Params) {name : String}

theorem eq_of_isOrdering (h : isOrdering name = true) : name = "order_by" ∨ name = "order" := by
  simpa [isOrdering] using h

theorem get?_unordered (h : isOrdering name = false) : p.unordered.get? name = p.get? name := by
  rw [unordered, get?_without, h]
  rfl

theorem text?_unordered (h : isOrdering name = false) : p.unordered.text? name = p.text? name :=
  text?_congr (by rw [p.get?_unordered h])

theorem text?_order_by_unordered : p.unordered.text? "order_by" = none := by
  have hdrops : isOrdering "order_by" = true := by decide
  rw [text?, unordered, get?_without, hdrops]
  rfl

theorem columnMatches_unordered (ranges : Bool) :
    p.unordered.columnMatches ranges = p.columnMatches ranges := by
  refine p.columnMatches_without fun name h => ?_
  rcases eq_of_isOrdering h with rfl | rfl <;> simp [isReserved, controlNames]

end Unordered

end Params

/-- The order that a predicate asks for. -/
def Predicate.order? : Predicate → Option (String × Direction)
  | .orderBy column direction => some (column, direction)
  | _ => none

/-- What a description orders by. -/
def Description.orders (d : Description) : List (String × Direction) :=
  d.filterMap Predicate.order?

theorem Parts.orders_description (parts : Parts) : parts.description.orders = [parts.order] := by
  rw [Description.orders, filterMap_description,
    filterMap_group (fun _ _ => rfl) fun _ _ => rfl]
  simp [Predicate.order?]

namespace Rules

variable (r : Rules) {p : Params} {raw : String} {asked : Direction}

theorem direction_of_direction? (h : p.direction? = some asked) : direction p = (asked, []) := by
  rw [Params.direction?] at h
  rw [direction]
  cases ht : p.text? "order" with
  | none =>
    rw [ht] at h
    cases h
    rfl
  | some raw =>
    rw [ht] at h
    simp only at h ⊢
    rw [h]

/-- The order of a request that names a column and a direction, where all columns are checked. -/
theorem orderTerm_of_checked (hcheck : r.config.checkAllColumns = true)
    (hby : p.text? "order_by" = some raw) (hasked : p.direction? = some asked) :
    r.orderTerm p =
      if Text.lower (Text.trim raw) ∈ r.allowed then (Text.lower (Text.trim raw), asked)
      else (r.config.sortColumn, .ascending) := by
  simp only [orderTerm, hby, direction_of_direction? hasked, hcheck, Bool.true_and,
    Bool.not_eq_true', ← Bool.not_eq_true, allows_iff]
  rw [ite_not]

/-- The order of such a request is no reason to refuse it, or the column in lower case is one. -/
theorem orderRefusals_of_checked (hcheck : r.config.checkAllColumns = true)
    (hby : p.text? "order_by" = some raw) (hasked : p.direction? = some asked) :
    r.orderRefusals p =
      if Text.lower (Text.trim raw) ∈ r.allowed then []
      else [.invalidParameter (Text.lower (Text.trim raw))] := by
  have hdirection : refusesDirection p = false := by
    rw [Params.direction?] at hasked
    rw [refusesDirection]
    cases ht : p.text? "order" with
    | none => rfl
    | some word =>
      rw [ht] at hasked
      simp only at hasked
      simp [hasked]
  simp only [orderRefusals, hdirection, Bool.and_false, refusedSortColumn?, hby, hcheck,
    Option.map_some, Bool.true_and, Option.filter_some, ← allows_iff]
  cases r.allows (Text.lower (Text.trim raw)) <;> rfl

/-! Without an order the other stages refuse what they refuse with it. -/

theorem rangeRefusals_unordered (p : Params) : r.rangeRefusals p.unordered = r.rangeRefusals p := by
  have hranges : r.ranges p.unordered = r.ranges p := by
    refine r.ranges_without p fun name h => ?_
    rcases Params.eq_of_isOrdering h with rfl | rfl <;> rfl
  rw [← refusals_ranges, ← refusals_ranges, hranges]

theorem searchRefusals_unordered (p : Params) :
    r.searchRefusals p.unordered = r.searchRefusals p := by
  rw [searchRefusals, searchRefusals, refusedSearchColumn?, refusedSearchColumn?,
    p.text?_unordered (by decide), p.text?_unordered (by decide)]

theorem orderRefusals_unordered (p : Params) : r.orderRefusals p.unordered = [] := by
  rw [orderRefusals, refusedSortColumn?, p.text?_order_by_unordered]
  rfl

theorem scopeRefusals_unordered (p : Params) : r.scopeRefusals p.unordered = r.scopeRefusals p := by
  rw [scopeRefusals, scopeRefusals, Params.getD_map?, Params.getD_map?,
    p.get?_unordered (by decide)]

/-- A request that asks for no order is refused for the rest of it. -/
theorem refusals_unordered (p : Params) :
    r.refusals p.unordered =
      r.matchRefusals (p.columnMatches r.config.ranges) ++ r.rangeRefusals p ++
        r.searchRefusals p ++ r.scopeRefusals p := by
  rw [refusals, p.columnMatches_unordered, r.rangeRefusals_unordered, r.searchRefusals_unordered,
    r.orderRefusals_unordered, r.scopeRefusals_unordered, List.append_nil]

/-- An order that is not refused adds nothing to the refusals. -/
theorem refusals_of_order_kept (h : r.orderRefusals p = []) :
    r.refusals p = r.refusals p.unordered := by
  rw [refusals_unordered, refusals, h, List.append_nil]

theorem refusals_ne_nil_of_order_refused {reason : Rejection} (h : r.orderRefusals p = [reason]) :
    r.refusals p ≠ [] := by
  rw [refusals, h]
  simp

/-- An order that is refused is the only reason to refuse a request that is not refused for the rest
of it. -/
theorem refusals_of_order_refused {reason : Rejection} (h : r.orderRefusals p = [reason])
    (hrest : r.refusals p.unordered = []) : r.refusals p = [reason] := by
  rw [refusals_unordered, List.append_eq_nil_iff] at hrest
  rw [refusals, hrest.1, h, hrest.2]
  rfl

end Rules

namespace Config

variable {c : Config} {schema : Schema} {knowsScope : String → Bool} {p : Params}

theorem compile_strict_of_nil (h : schema.allowed c.source ≠ [])
    (hr : (c.rules schema knowsScope).refusals p = []) :
    compile { c with lenient := false } schema knowsScope p =
      .ok ((c.rules schema knowsScope).findings p).description := by
  rw [c.compile_strict schema knowsScope p h, Rules.refusals_findings, hr]

theorem compile_strict_of_cons (h : schema.allowed c.source ≠ []) {reason : Rejection}
    {reasons : List Rejection} (hr : (c.rules schema knowsScope).refusals p = reason :: reasons) :
    compile { c with lenient := false } schema knowsScope p = .error (.rejected reason) := by
  rw [c.compile_strict schema knowsScope p h, Rules.refusals_findings, hr]

/-- Strict compiling succeeds exactly if there is nothing to refuse. -/
theorem exists_compile_strict_iff (h : schema.allowed c.source ≠ []) :
    (∃ d, compile { c with lenient := false } schema knowsScope p = .ok d) ↔
      (c.rules schema knowsScope).refusals p = [] := by
  cases hr : (c.rules schema knowsScope).refusals p with
  | nil => simp [compile_strict_of_nil h hr]
  | cons reason reasons => simp [compile_strict_of_cons h hr]

end Config

/-- Where all columns are checked, a request that names an allowed column and a direction is ordered
by this column in lower case alone, if that is allowed; strict compiling then fails only where it
fails without the order. If the column in lower case is not allowed, lenient compiling takes the
default order and strict compiling fails, for this column unless for something before it. -/
theorem order_by_allowed_column (c : Config) (schema : Schema) (knowsScope : String → Bool)
    (hcheck : c.checkAllColumns = true) (p : Params) {column : String}
    (hallowed : column ∈ schema.allowed c.source) (hblank : Text.allBlank column = false)
    (htrim : Text.trim column = column) (hby : p.get? "order_by" = some (.text column))
    {asked : Direction} (hasked : p.direction? = some asked) :
    let lowered := Text.lower column
    let strict : Config := { c with lenient := false }
    let lenient : Config := { c with lenient := true }
    ∃ d, lenient.compile schema knowsScope p = .ok d ∧
      (lowered ∈ schema.allowed c.source → d.orders = [(lowered, asked)] ∧
        (strict.compile schema knowsScope p = .ok d ↔
          ∃ d', strict.compile schema knowsScope p.unordered = .ok d')) ∧
      (lowered ∉ schema.allowed c.source → d.orders = [(c.sortColumn, .ascending)] ∧
        (∀ d', strict.compile schema knowsScope p ≠ .ok d') ∧
        ((∃ d', strict.compile schema knowsScope p.unordered = .ok d') →
          strict.compile schema knowsScope p =
            .error (.rejected (.invalidParameter lowered)))) := by
  intro lowered strict lenient
  have hne : schema.allowed c.source ≠ [] := List.ne_nil_of_mem hallowed
  let r := c.rules schema knowsScope
  have htext : p.text? "order_by" = some column := Params.text?_of_get? hby hblank
  have horder : r.orderTerm p = if lowered ∈ schema.allowed c.source then (lowered, asked)
      else (c.sortColumn, .ascending) := by
    have h := r.orderTerm_of_checked hcheck htext hasked
    rwa [htrim] at h
  have hrefused : r.orderRefusals p = if lowered ∈ schema.allowed c.source then []
      else [.invalidParameter lowered] := by
    have h := r.orderRefusals_of_checked hcheck htext hasked
    rwa [htrim] at h
  have horders : ((c.rules schema knowsScope).findings p).description.orders = [r.orderTerm p] := by
    rw [Rules.description_findings, Parts.orders_description]
    rfl
  have hstrict : ∀ q, (∃ d', strict.compile schema knowsScope q = .ok d') ↔ r.refusals q = [] :=
    fun q => Config.exists_compile_strict_iff hne
  refine ⟨_, c.compile_lenient schema knowsScope p hne, fun hin => ⟨?_, ?_⟩,
    fun hout => ⟨?_, fun d' hd' => ?_, fun hrest => ?_⟩⟩
  · rw [horders, horder, if_pos hin]
  · rw [if_pos hin] at hrefused
    rw [hstrict, ← Rules.refusals_of_order_kept r hrefused]
    exact ⟨fun h => (hstrict p).1 ⟨_, h⟩, Config.compile_strict_of_nil hne⟩
  · rw [horders, horder, if_neg hout]
  · rw [if_neg hout] at hrefused
    exact Rules.refusals_ne_nil_of_order_refused r hrefused ((hstrict p).1 ⟨d', hd'⟩)
  · rw [if_neg hout] at hrefused
    exact Config.compile_strict_of_cons hne
      (Rules.refusals_of_order_refused r hrefused ((hstrict _).1 hrest))

namespace Sample

/-- Of two spellings the one in lower case is ordered by, whichever is asked for. -/
theorem orders_by_lower_spelling :
    let c : Config := { Config.extended.strict with checkAllColumns := true }
    let schema := Schema.ofDescriptor gadgetsResource.descriptor ["id", "NAME", "name"]
    let p := Params.ofQuery "order_by=NAME&id=7&order=+Desc"
    "NAME" ∈ schema.allowed c.source ∧ p.get? "order_by" = some (.text "NAME") ∧
      p.direction? = some .descending ∧
      ∃ d, c.compile schema gadgetScopes.contains p = .ok d ∧
        d.orders = [("name", .descending)] := by
  intro c schema p
  have hallowed : "NAME" ∈ schema.allowed c.source := by decide
  have hby : p.get? "order_by" = some (.text "NAME") := by rfl
  have hasked : p.direction? = some .descending := by rfl
  have hrest : ∃ d', c.compile schema gadgetScopes.contains p.unordered = .ok d' := ⟨_, by rfl⟩
  obtain ⟨d, -, hlowered, -⟩ := order_by_allowed_column c schema gadgetScopes.contains rfl p
    hallowed (by decide) (by decide) hby hasked
  have hlower : Text.lower "NAME" = "name" := by decide
  rw [hlower] at hlowered
  obtain ⟨horders, hstrict⟩ := hlowered (by decide)
  exact ⟨hallowed, hby, hasked, d, hstrict.2 hrest, horders⟩

/-- A column with a capital in its name is allowed, but no request is ordered by it. -/
theorem no_order_by_column_with_capital :
    let c : Config := { Config.extended with checkAllColumns := true }
    let schema := Schema.ofDescriptor gadgetsResource.descriptor ["id", "displayLabel"]
    let p := Params.ofQuery "order_by=displayLabel&order=desc"
    "displayLabel" ∈ schema.allowed c.source ∧
      c.strict.compile schema gadgetScopes.contains p =
        .error (.rejected (.invalidParameter "displaylabel")) ∧
      c.compile schema gadgetScopes.contains p = .ok [.orderBy "created_at" .ascending] ∧
      Description.orders [.orderBy "created_at" .ascending] ≠ [("displayLabel", .descending)] := by
  exact ⟨by decide, by rfl, by rfl, by decide⟩

end Sample
end ListQuery
