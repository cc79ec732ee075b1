import ListQuery.Proofs.Emission
import ListQuery.Proofs.VisibleColumns
import ListQuery.Sample.Users

/-!
The allow-list: which columns a compiled description may name. Columns that were checked are
allowed, and no allowed column is hidden.
-/
namespace ListQuery

/-- The column that a predicate names. -/
def Predicate.column? : Predicate → Option String
  | .equals column _ => some column
  | .compare column _ _ => some column
  | .like column _ => some column
  | .orLike column _ => some column
  | .orderBy column _ => some column
  | .scopeCall _ _ => none

namespace Rules

variable {r : Rules} {p : Params}

theorem allowed_of_emits_orLike {column pattern : String}
    (h : r.Emits p (.orLike column pattern)) : column ∈ r.allowed := by
  cases h with
  | searchNext _ _ ha => exact ha

theorem allowed_of_emits_like {column pattern : String} (h : r.Emits p (.like column pattern))
    (hc : p.text? "search_by" = none ∨ r.config.checkAllColumns = true) :
    column ∈ r.allowed := by
  cases h with
  | searchBy _ hb ha =>
    rcases hc with hn | hc
    · rw [hn] at hb
      cases hb
    · exact ha hc
  | searchFirst _ _ ha => exact ha

theorem allowed_of_emits_equals {column : String} {value : Value}
    (h : r.Emits p (.equals column value)) (hc : r.config.checkMatches = true) :
    column ∈ r.allowed := by
  cases h with
  | equals _ _ _ ha _ => exact ha hc
  | equalsInteger _ _ _ ha _ => exact ha hc

theorem allowed_of_emits_compare {column : String} {operator : Operator} {value : Value}
    (h : r.Emits p (.compare column operator value)) (hc : r.config.checkAllColumns = true) :
    column ∈ r.allowed := by
  cases h with
  | compare _ _ _ _ _ ha => exact ha hc

theorem allowed_of_emits_orderBy {column : String} {direction : Direction}
    (h : r.Emits p (.orderBy column direction)) (hc : r.config.checkAllColumns = true) :
    column ∈ r.allowed ∨ column = r.config.sortColumn := by
  cases h with
  | orderBy _ _ ha => exact .inl (ha hc)
  | defaultOrder => exact .inr rfl

/-- With both checks every column that is named is allowed, the default order apart. -/
theorem allowed_of_emits_column {q : Predicate} {column : String} (h : r.Emits p q)
    (hq : q.column? = some column) (hm : r.config.checkMatches = true)
    (hc : r.config.checkAllColumns = true) :
    column ∈ r.allowed ∨ ∃ direction, q = .orderBy r.config.sortColumn direction := by
  cases q with
  | equals d v => cases hq; exact .inl (allowed_of_emits_equals h hm)
  | compare d op v => cases hq; exact .inl (allowed_of_emits_compare h hc)
  | like d pattern => cases hq; exact .inl (allowed_of_emits_like h (.inr hc))
  | orLike d pattern => cases hq; exact .inl (allowed_of_emits_orLike h)
  | orderBy d direction =>
    cases hq
    rcases allowed_of_emits_orderBy h hc with ha | ha
    · exact .inl ha
    · exact .inr ⟨direction, ha ▸ rfl⟩
  | scopeCall s v => cases hq

end Rules

/-- Every predicate of a compiled description was emitted in one of the known places. -/
theorem Config.emits_of_compile {c : Config} {schema : Schema} {knowsScope : String → Bool}
    {p : Params} {d : Description} (h : c.compile schema knowsScope p = .ok d) {q : Predicate}
    (hq : q ∈ d) : (c.rules schema knowsScope).Emits p q := by
  rw [c.eq_description_of_compile schema knowsScope p h] at hq
  exact Rules.emits_of_mem_description hq

/-- The columns that a compiled description names are allowed where they were checked, and where
both checks are on no hidden column is named except by the default order. -/
theorem columns_allowed_of_compile (c : Config) (schema : Schema) (knowsScope : String → Bool)
    (p : Params) (d : Description) (h : c.compile schema knowsScope p = .ok d) :
    let allowed := schema.allowed c.source
    (∀ column pattern, .orLike column pattern ∈ d → column ∈ allowed) ∧
    (p.text? "search_by" = none → ∀ column pattern, .like column pattern ∈ d → column ∈ allowed) ∧
    (c.checkMatches = true → ∀ column value, .equals column value ∈ d → column ∈ allowed) ∧
    (c.checkAllColumns = true →
      (∀ column operator value, .compare column operator value ∈ d → column ∈ allowed) ∧
      (∀ column pattern, .like column pattern ∈ d → column ∈ allowed) ∧
      ∀ column direction, .orderBy column direction ∈ d →
        column ∈ allowed ∨ column = c.sortColumn) ∧
    (c.checkMatches = true → c.checkAllColumns = true →
      ∀ q ∈ d, ∀ column, q.column? = some column → schema.hidden.contains column = true →
        ∃ direction, q = .orderBy c.sortColumn direction) := by
  intro allowed
  have he : ∀ {q}, q ∈ d → (c.rules schema knowsScope).Emits p q := Config.emits_of_compile h
  refine ⟨?_, ?_, ?_, ?_, ?_⟩
  · intro column pattern hq
    exact Rules.allowed_of_emits_orLike (he hq)
  · intro hn column pattern hq
    exact Rules.allowed_of_emits_like (he hq) (.inl hn)
  · intro hm column value hq
    exact Rules.allowed_of_emits_equals (he hq) hm
  · intro hc
    refine ⟨?_, ?_, ?_⟩
    · intro column operator value hq
      exact Rules.allowed_of_emits_compare (he hq) hc
    · intro column pattern hq
      exact Rules.allowed_of_emits_like (he hq) (.inr hc)
    · intro column direction hq
      exact Rules.allowed_of_emits_orderBy (he hq) hc
  · intro hm hc q hq column hcol hh
    rcases Rules.allowed_of_emits_column (he hq) hcol hm hc with ha | ho
    · rw [Schema.not_hidden_of_mem_allowed ha] at hh
      cases hh
    · exact ho

/-- Every family of parameters asks for the hidden column here, and only the default order names
it. -/
theorem hidden_column_only_in_default_order :
    let c : Config := { Config.extended with checkAllColumns := true, sortColumn := "password" }
    let schema := Schema.ofDescriptor Sample.usersResource.descriptor
      ["id", "password", "name"]
    let p := Params.ofPairs [("password", .text "x"), ("lt", .map [("password", .text "a")]),
      ("search", .text "a"), ("order_by", .text " Password ")]
    let d : Description := [.like "id" "%a%", .orLike "name" "%a%", .orderBy "password" .ascending]
    c.compile schema Sample.userScopes.contains p = .ok d ∧
      ∀ q ∈ d, ∀ column, q.column? = some column → schema.hidden.contains column = true →
        ∃ direction, q = .orderBy "password" direction := by
  intro c schema p d
  have h : c.compile schema Sample.userScopes.contains p = .ok d := by cbv
  exact ⟨h, (columns_allowed_of_compile c schema Sample.userScopes.contains p d h).2.2.2.2 rfl rfl⟩

end ListQuery
