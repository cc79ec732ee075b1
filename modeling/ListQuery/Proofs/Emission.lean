import ListQuery.Proofs.Parts

/-!
Where the predicates of a description come from: one case for every place where one is emitted,
with all that has been checked there.
-/
namespace ListQuery.Rules

/-- The predicates that a request may come to. -/
inductive Emits (r : Rules) (p : Params) : Predicate → Prop where
  | equals {name : String} {value : Value}
      (entry : (name, value) ∈ p.columnMatches r.config.ranges) (filled : value.isFilled = true)
      (scalar : value.scalarText?.isSome = true)
      (allowed : r.config.checkMatches = true → name ∈ r.allowed)
      (named : isIntegerName name = false) : Emits r p (.equals name value)
  | equalsInteger {name : String} {value : Value}
      (entry : (name, value) ∈ p.columnMatches r.config.ranges) (filled : value.isFilled = true)
      (scalar : value.scalarText?.isSome = true)
      (allowed : r.config.checkMatches = true → name ∈ r.allowed)
      (named : isIntegerName name = true) :
      Emits r p (.equals name (.number (.ofInt64 value.toInteger)))
  | compare {name column : String} {operator : Operator} {bounds : Entries} {value : Value}
      (ranges : r.config.ranges = true) (operator_eq : Operator.ofName? name = some operator)
      (range : (name, .map bounds) ∈ p.entries) (bound : (column, value) ∈ bounds)
      (filled : value.isFilled = true)
      (allowed : r.config.checkAllColumns = true → column ∈ r.allowed) :
      Emits r p (.compare column operator value)
  | searchBy {term column : String} (search : p.text? "search" = some term)
      (by_eq : p.text? "search_by" = some column)
      (allowed : r.config.checkAllColumns = true → column ∈ r.allowed) :
      Emits r p (.like column (containsPattern term))
  | searchFirst {term column : String} (search : p.text? "search" = some term)
      (by_eq : p.text? "search_by" = none) (allowed : column ∈ r.allowed) :
      Emits r p (.like column (containsPattern term))
  | searchNext {term column : String} (search : p.text? "search" = some term)
      (by_eq : p.text? "search_by" = none) (allowed : column ∈ r.allowed) :
      Emits r p (.orLike column (containsPattern term))
  | orderBy {raw column : String} (by_eq : p.text? "order_by" = some raw)
      (lowered : Text.lower (Text.trim raw) = column)
      (allowed : r.config.checkAllColumns = true → column ∈ r.allowed) :
      Emits r p (.orderBy column (direction p).1)
  | defaultOrder : Emits r p (.orderBy r.config.sortColumn .ascending)
  | scopeCall {name : String} {value : Value}
      (entry : (name, value) ∈ (p.map? "scopes").getD []) (filled : value.isFilled = true)
      (known : r.knowsScope name = true) : Emits r p (.scopeCall name value)

variable {r : Rules} {p : Params} {q : Predicate}

theorem emits_of_mem_matched {e : String × Value}
    (h : e ∈ r.matched (p.columnMatches r.config.ranges)) :
    r.Emits p (.equals (equality e).1 (equality e).2) := by
  have hentry := (r.matched_sublist _).subset h
  obtain ⟨hf, hs, ha⟩ := isMatched_iff.1 (r.isMatched_of_mem_matched h)
  rw [equality]
  cases hn : isIntegerName e.1 with
  | true => exact .equalsInteger hentry hf hs ha hn
  | false => exact .equals hentry hf hs ha hn

theorem emits_of_mem_comparisons {b : String × Operator × Value} (h : b ∈ r.comparisons p) :
    r.Emits p (.compare b.1 b.2.1 b.2.2) := by
  obtain ⟨hranges, e, he, ho, hb, hk⟩ := r.mem_comparisons p h
  obtain ⟨hf, ha⟩ := keepsBound_iff.1 hk
  obtain ⟨name, v⟩ := e
  cases v with
  | map bounds => exact .compare hranges ho he hb hf ha
  | null | bool _ | number _ | text _ | list _ => cases hb

theorem emits_of_mem_group (h : q ∈ Parts.group (r.patterns p)) : r.Emits p q := by
  rw [patterns] at h
  cases ht : p.text? "search" with
  | none => simp [ht, Parts.group] at h
  | some term =>
    simp only [ht] at h
    rw [searched] at h
    cases hb : p.text? "search_by" with
    | some column =>
      simp only [hb] at h
      split at h
      · cases h
      · rename_i hr
        obtain rfl := List.mem_singleton.1 h
        exact .searchBy ht hb (not_refused_iff.1 (by simpa using hr))
    | none =>
      simp only [hb] at h
      cases ha : r.allowed with
      | nil => simp [ha, Parts.group] at h
      | cons column columns =>
        simp only [ha, List.map_cons, Parts.group, List.map_map] at h
        rcases List.mem_cons.1 h with rfl | h
        · exact .searchFirst ht hb (ha ▸ List.mem_cons_self)
        · obtain ⟨next, hn, rfl⟩ := List.mem_map.1 h
          exact .searchNext ht hb (ha ▸ List.mem_cons_of_mem _ hn)

theorem emits_orderTerm : r.Emits p (.orderBy (r.orderTerm p).1 (r.orderTerm p).2) := by
  rw [orderTerm]
  cases hb : p.text? "order_by" with
  | none => exact .defaultOrder
  | some raw =>
    simp only
    split
    · exact .defaultOrder
    · rename_i hr
      exact .orderBy hb rfl (not_refused_iff.1 (by simpa using hr))

theorem emits_of_mem_calls {s : String × Value} (h : s ∈ r.calls p) :
    r.Emits p (.scopeCall s.1 s.2) := by
  obtain ⟨hs, hk⟩ := List.mem_filter.1 h
  simp only [keepsScope, Bool.and_eq_true] at hk
  exact .scopeCall hs hk.1 hk.2

/-- Every predicate found in a request was emitted in one of the known places. -/
theorem emits_of_mem_description (h : q ∈ Findings.description (r.findings p)) : r.Emits p q := by
  simp only [description_findings, Parts.description, parts, List.mem_append, List.mem_cons,
    List.mem_map] at h
  rcases h with ((⟨_, ⟨e, he, rfl⟩, rfl⟩ | ⟨b, hb, rfl⟩) | h) | rfl | ⟨s, hs, rfl⟩
  · exact emits_of_mem_matched he
  · exact emits_of_mem_comparisons hb
  · exact emits_of_mem_group h
  · exact emits_orderTerm
  · exact emits_of_mem_calls hs

end ListQuery.Rules
