import ListQuery.Binding
import ListQuery.Params.QueryString
import ListQuery.Proofs.AllowList
import ListQuery.Proofs.Comparisons

/-!
Which values are compared. Main statement: a column is only ever asked to equal a text, a number or
a truth value, while comparisons take every filled bound of a range as it stands, and a list or a
map among them binds as the text that writes it.
-/
namespace ListQuery

namespace Value

/-- A text, a number or a truth value. -/
inductive IsScalar : Value → Prop where
  | text (s : String) : IsScalar (.text s)
  | number (n : Number) : IsScalar (.number n)
  | bool (b : Bool) : IsScalar (.bool b)

theorem isScalar_iff {v : Value} : v.IsScalar ↔ v.scalarText?.isSome = true := by
  constructor
  · rintro (s | n | b) <;> rfl
  · intro h
    cases v with
    | text s => exact .text s
    | number n => exact .number n
    | bool b => exact .bool b
    | null | list _ | map _ => cases h

/-- A filled value of several parts binds as its text, whatever the column. -/
theorem bind_of_not_isScalar {v : Value} (hfilled : v.isFilled = true) (h : ¬ v.IsScalar)
    (e : Entity) (column : String) : e.bind column v = .text (some v.toText) := by
  cases v with
  | list _ | map _ => rfl
  | text s => exact absurd (.text s) h
  | number n => exact absurd (.number n) h
  | bool b => exact absurd (.bool b) h
  | null => cases hfilled

end Value

namespace Rules

/-- A request holds a bound on a column: a filled entry in the map under the name of a range, of a
column that is allowed where all columns are checked. -/
structure HoldsBound (r : Rules) (p : Params) (operator : Operator) (column : String)
    (value : Value) : Prop where
  entry : ∃ name bounds, (name, operator.symbol) ∈ rangeSymbols ∧
    (name, .map bounds) ∈ p.entries ∧ (column, value) ∈ bounds
  filled : value.isFilled = true
  allowed : r.config.checkAllColumns = true → column ∈ r.allowed

variable {r : Rules} {p : Params} {column : String} {operator : Operator} {value : Value}

theorem mem_comparisons_iff : (column, operator, value) ∈ r.comparisons p ↔
    r.config.ranges = true ∧ r.HoldsBound p operator column value := by
  constructor
  · intro h
    obtain ⟨hranges, ⟨name, v⟩, he, ho, hb, hk⟩ := r.mem_comparisons p h
    obtain ⟨hfilled, hallowed⟩ := keepsBound_iff.1 hk
    cases v with
    | map bounds => exact ⟨hranges, ⟨name, bounds, mem_rangeSymbols_iff.2 ho, he, hb⟩, hfilled,
        hallowed⟩
    | null | bool _ | number _ | text _ | list _ => cases hb
  · rintro ⟨hranges, ⟨name, bounds, hname, he, hb⟩, hfilled, hallowed⟩
    rw [comparisons, if_pos hranges]
    refine List.mem_flatMap.2 ⟨_, he, List.mem_flatMap.2 ⟨operator, ?_, ?_⟩⟩
    · exact Option.mem_toList.2 (mem_rangeSymbols_iff.1 hname)
    · exact List.mem_map.2 ⟨(column, value),
        List.mem_filter.2 ⟨hb, keepsBound_iff.2 ⟨hfilled, hallowed⟩⟩, rfl⟩

theorem isScalar_of_emits_equals (h : r.Emits p (.equals column value)) : value.IsScalar := by
  cases h with
  | equals _ _ hscalar _ _ => exact Value.isScalar_iff.2 hscalar
  | equalsInteger _ _ _ _ _ => exact .number _

end Rules

/-- A compiled description compares a column with the bounds that its request holds. -/
theorem Config.mem_compare_iff_of_compile {c : Config} {schema : Schema}
    {knowsScope : String → Bool} {p : Params} {d : Description}
    (h : c.compile schema knowsScope p = .ok d) {column : String} {operator : Operator}
    {value : Value} : .compare column operator value ∈ d ↔
      c.ranges = true ∧ (c.rules schema knowsScope).HoldsBound p operator column value := by
  have hbounds : .compare column operator value ∈ d ↔ (column, operator, value) ∈ d.bounds := by
    rw [Description.bounds, List.mem_filterMap]
    constructor
    · exact fun hq => ⟨_, hq, rfl⟩
    · rintro ⟨q, hq, hcomparison⟩
      cases q with
      | compare _ _ _ => cases hcomparison; exact hq
      | equals _ _ | like _ _ | orLike _ _ | orderBy _ _ | scopeCall _ _ => cases hcomparison
  rw [hbounds, c.eq_description_of_compile schema knowsScope p h, Rules.description_findings,
    Parts.bounds_description]
  exact Rules.mem_comparisons_iff

/-- A compiled description asks columns to equal scalars only. It compares them with scalars only
exactly if every bound that the request holds is one; a bound that is a list or a map is compared
too, and binds as the text that writes it. -/
theorem comparisons_scalar_iff {c : Config} {schema : Schema} {knowsScope : String → Bool}
    {p : Params} {d : Description} (h : c.compile schema knowsScope p = .ok d) :
    (∀ column value, .equals column value ∈ d → value.IsScalar) ∧
    ((∀ column operator value, .compare column operator value ∈ d → value.IsScalar) ↔
      (c.ranges = true → ∀ operator column value,
        (c.rules schema knowsScope).HoldsBound p operator column value → value.IsScalar)) ∧
    ∀ column operator value, .compare column operator value ∈ d → ¬ value.IsScalar →
      ∀ e : Entity, e.bind column value = .text (some value.toText) := by
  have hmem : ∀ column operator value, .compare column operator value ∈ d ↔
      c.ranges = true ∧ (c.rules schema knowsScope).HoldsBound p operator column value :=
    fun _ _ _ => Config.mem_compare_iff_of_compile h
  refine ⟨fun column value hq => ?_, ⟨?_, ?_⟩, fun column operator value hq hscalar e => ?_⟩
  · exact Rules.isScalar_of_emits_equals (Config.emits_of_compile h hq)
  · exact fun hall hranges operator column value hbound =>
      hall column operator value ((hmem _ _ _).2 ⟨hranges, hbound⟩)
  · intro hall column operator value hq
    obtain ⟨hranges, hbound⟩ := (hmem _ _ _).1 hq
    exact hall hranges operator column value hbound
  · exact Value.bind_of_not_isScalar ((hmem _ _ _).1 hq).2.filled hscalar e column

namespace Sample

/-- Lists among the matches are passed over, and all bounds are scalars. -/
theorem scalars_beside_listed_match :
    let schema := Schema.ofDescriptor usersResource.descriptor users.columnNames
    let p := Params.ofQuery "id[]=1&id[]=2&name=Ann&gte[age]=18"
    let d : Description := [.equals "name" (.text "Ann"), .compare "age" .atLeast (.text "18"),
      .orderBy "created_at" .ascending]
    Config.extended.compile schema userScopes.contains p = .ok d ∧
      (∀ column value, .equals column value ∈ d → value.IsScalar) ∧
      ∀ operator column value, (Config.extended.rules schema userScopes.contains).HoldsBound p
        operator column value → value.IsScalar := by
  intro schema p d
  have hcompile : Config.extended.compile schema userScopes.contains p = .ok d := by rfl
  obtain ⟨hequal, hiff, -⟩ := comparisons_scalar_iff hcompile
  refine ⟨hcompile, hequal, hiff.1 (fun column operator value hq => ?_) rfl⟩
  simp only [d, List.mem_cons, Predicate.compare.injEq, reduceCtorEq, List.not_mem_nil, or_false,
    false_or] at hq
  exact hq.2.2 ▸ .text "18"

/-- A list given as a bound is compared with the column and binds as `["1"]`, also where strict
compiling checks every column. -/
theorem listed_bound_binds_as_text :
    let c : Config := { Config.extended.strict with checkAllColumns := true }
    let schema := Schema.ofDescriptor usersResource.descriptor users.columnNames
    let bound := Value.list [.text "1"]
    c.compile schema userScopes.contains (.ofQuery "gte[age][]=1") =
        .ok [.compare "age" .atLeast bound, .orderBy "created_at" .ascending] ∧
      ¬ bound.IsScalar ∧ users.bind "age" bound = .text (some "[\"1\"]") := by
  refine ⟨by rfl, fun h => ?_, by rfl⟩
  cases h

end Sample
end ListQuery
