import ListQuery.Proofs.Parts

/-!
Requests cleaned of what they would be refused for. Lenient compiling of a request comes to what
strict compiling of the cleaned request comes to.
-/
namespace ListQuery

namespace Rules

/-- Whether an entry of a request is deleted from it. -/
def deletes (r : Rules) (p : Params) (e : String × Value) : Bool :=
  (!isReserved r.config.ranges e.1 && r.refusesMatch e) ||
    (e.1 == "search" && (r.refusedSearchColumn? p).isSome) ||
    (e.1 == "order_by" && (r.refusedSortColumn? p).isSome) ||
    (e.1 == "order" && refusesDirection p)

/-- A parameter without the refused entries of its map, if its name is that of the scopes or of a
range. -/
def pruned (r : Rules) (name : String) : Value → Value
  | .map es =>
    if name = "scopes" then .map (es.filter fun s => !r.refusesScope s)
    else if r.config.ranges && rangeNames.contains name then
      .map (es.filter fun b => !r.refusesBound b)
    else .map es
  | v => v

theorem distinct_pruned (r : Rules) (name : String) {v : Value} (h : v.Distinct) :
    (r.pruned name v).Distinct := by
  cases v with
  | map es =>
    have hes := Value.distinct_map_iff.1 h
    rw [pruned]
    split
    · exact Value.distinct_map_iff.2 (hes.filter _)
    · split
      · exact Value.distinct_map_iff.2 (hes.filter _)
      · exact h
  | null | bool _ | number _ | text _ | list _ => exact h

/-- The request without everything that it is refused for. What is left keeps its order. -/
def cleaned (r : Rules) (p : Params) : Params where
  entries := Entries.mapValues r.pruned (p.entries.filter fun e => !r.deletes p e)
  distinct := (p.distinct.filter _).mapValues fun name _ => r.distinct_pruned name

variable (r : Rules) (p : Params)

theorem entries_cleaned :
    (r.cleaned p).entries =
      (p.entries.filter fun e => !r.deletes p e).map fun e => (e.1, r.pruned e.1 e.2) := rfl

/-- A parameter that is no map keeps its value. -/
theorem filledText_pruned (name : String) (v : Value) :
    (if (r.pruned name v).isFilled then (r.pruned name v).scalarText? else none) =
      if v.isFilled then v.scalarText? else none := by
  cases v with
  | map es =>
    rw [pruned]
    split
    · simp [Value.scalarText?]
    · split <;> simp [Value.scalarText?]
  | null | bool _ | number _ | text _ | list _ => rfl

theorem get?_cleaned (name : String) :
    (r.cleaned p).get? name =
      ((p.get? name).filter fun v => !r.deletes p (name, v)).map (r.pruned name) := by
  rw [Params.get?, cleaned, Entries.get?_mapValues, Entries.get?_filter p.distinct.nodup]
  rfl

/-- A reserved parameter is deleted whatever its value, and otherwise keeps its text. -/
theorem text?_cleaned {name : String} {b : Bool} (h : ∀ v, r.deletes p (name, v) = b) :
    (r.cleaned p).text? name = if b then none else p.text? name := by
  rw [Params.text?_eq, Params.text?_eq, get?_cleaned]
  cases p.get? name with
  | none => simp
  | some v =>
    cases b with
    | true => simp [h]
    | false => simp [h, filledText_pruned, Option.filter_some]

theorem text?_search_cleaned :
    (r.cleaned p).text? "search" =
      if (r.refusedSearchColumn? p).isSome then none else p.text? "search" :=
  r.text?_cleaned p fun v => by simp [deletes, isReserved, controlNames]

theorem text?_searchBy_cleaned : (r.cleaned p).text? "search_by" = p.text? "search_by" :=
  r.text?_cleaned (b := false) p fun v => by simp [deletes, isReserved, controlNames]

theorem text?_orderBy_cleaned :
    (r.cleaned p).text? "order_by" =
      if (r.refusedSortColumn? p).isSome then none else p.text? "order_by" :=
  r.text?_cleaned p fun v => by simp [deletes, isReserved, controlNames]

theorem text?_order_cleaned :
    (r.cleaned p).text? "order" = if refusesDirection p then none else p.text? "order" :=
  r.text?_cleaned p fun v => by simp [deletes, isReserved, controlNames]

/-- The scopes of the cleaned request are those that are known or blank. -/
theorem scopes_cleaned :
    ((r.cleaned p).map? "scopes").getD [] =
      (((p.map? "scopes").getD []).filter fun s => !r.refusesScope s) := by
  have hd : ∀ v, r.deletes p ("scopes", v) = false := fun v => by
    simp [deletes, isReserved, controlNames]
  rw [Params.getD_map?, Params.getD_map?, get?_cleaned]
  cases p.get? "scopes" with
  | none => rfl
  | some v =>
    cases v with
    | map es => simp [hd, pruned, Value.entriesOf, Option.filter_some]
    | null | bool _ | number _ | text _ | list _ =>
      simp [hd, pruned, Value.entriesOf, Option.filter_some]

/-- What has no control name is deleted as a refused match only. -/
theorem deletes_of_not_control {e : String × Value} (h : controlNames.contains e.1 = false) :
    r.deletes p e = (!isReserved r.config.ranges e.1 && r.refusesMatch e) := by
  have hs : e.1 ≠ "search" ∧ e.1 ≠ "order_by" ∧ e.1 ≠ "order" := by
    simp only [controlNames] at h
    simp_all
  rw [deletes, beq_false_of_ne hs.1, beq_false_of_ne hs.2.1, beq_false_of_ne hs.2.2]
  simp

theorem pruned_map_of_not_control {name : String} (h : controlNames.contains name = false)
    (es : Entries) :
    r.pruned name (.map es) =
      .map (if r.config.ranges && rangeNames.contains name then
        es.filter fun b => !r.refusesBound b
      else es) := by
  have hs : name ≠ "scopes" := by
    rintro rfl
    simp [controlNames] at h
  rw [pruned, if_neg hs]
  split <;> rfl

theorem deletes_of_not_reserved {e : String × Value}
    (h : isReserved r.config.ranges e.1 = false) : r.deletes p e = r.refusesMatch e := by
  rw [r.deletes_of_not_control p (Bool.or_eq_false_iff.1 h).1, h]
  rfl

theorem pruned_of_not_reserved {name : String} (h : isReserved r.config.ranges name = false)
    (v : Value) : r.pruned name v = v := by
  have h := Bool.or_eq_false_iff.1 h
  cases v with
  | map es =>
    rw [r.pruned_map_of_not_control h.1, h.2]
    rfl
  | null | bool _ | number _ | text _ | list _ => rfl

/-- No range has a control name. -/
theorem not_control_of_range {name : String} (h : rangeNames.contains name = true) :
    controlNames.contains name = false := by
  have hd : ∀ range ∈ rangeNames, controlNames.contains range = false := by decide
  exact hd name (List.contains_iff_mem.1 h)

/-- A range is pruned of its refused bounds. -/
theorem pruned_range (hr : r.config.ranges = true) {name : String}
    (hn : rangeNames.contains name = true) (bounds : Entries) :
    r.pruned name (.map bounds) = .map (bounds.filter fun b => !r.refusesBound b) := by
  rw [r.pruned_map_of_not_control (not_control_of_range hn), hr, hn]
  rfl

/-- The exact matches of the cleaned request are those that are not refused. -/
theorem columnMatches_cleaned :
    (r.cleaned p).columnMatches r.config.ranges =
      (p.columnMatches r.config.ranges).filter fun e => !r.refusesMatch e := by
  simp only [Params.columnMatches, entries_cleaned]
  generalize p.entries = es
  induction es with
  | nil => rfl
  | cons e es ih =>
    cases hn : isReserved r.config.ranges e.1 with
    | true => cases hd : r.deletes p e <;> simpa [hn, hd] using ih
    | false =>
      have hd := r.deletes_of_not_reserved p hn
      have hv := r.pruned_of_not_reserved hn e.2
      cases hm : r.refusesMatch e <;> simpa [hn, hd, hm, hv] using ih

/-- What is refused is not matched and does not end the matches. -/
theorem matched_filter (es : Entries) :
    r.matched (es.filter fun e => !r.refusesMatch e) = r.matched es := by
  have h : List.filter r.isMatched (es.filter fun e => !r.refusesMatch e) =
      List.filter r.isMatched es := by
    rw [List.filter_filter]
    refine List.filter_congr fun e _ => ?_
    cases hr : r.refusesMatch e <;> simp [isMatched, hr]
  rw [matched, matched, h]

/-- A range without its refused bounds comes to the same comparisons. -/
theorem comparisonsOf_pruned (hr : r.config.ranges = true) (e : String × Value) :
    r.comparisonsOf (e.1, r.pruned e.1 e.2) = r.comparisonsOf e := by
  obtain ⟨name, v⟩ := e
  cases v with
  | map bounds =>
    cases ho : Operator.ofName? name with
    | none => simp [comparisonsOf, ho]
    | some operator =>
      have hn : rangeNames.contains name = true := by rw [← isSome_ofName?_iff, ho]; rfl
      have hkept : (bounds.filter fun b => !r.refusesBound b).filter r.keepsBound =
          List.filter r.keepsBound bounds := by
        rw [List.filter_filter]
        refine List.filter_congr fun b _ => ?_
        cases hb : r.refusesBound b <;> simp [keepsBound, hb]
      simp only [comparisonsOf, r.pruned_range hr hn, Value.entriesOf, hkept]
  | null | bool _ | number _ | text _ | list _ => rfl

/-- A deleted entry is no range. -/
theorem comparisonsOf_of_deleted (hr : r.config.ranges = true) (e : String × Value)
    (h : r.deletes p e = true) : r.comparisonsOf e = [] := by
  cases ho : Operator.ofName? e.1 with
  | none => simp [comparisonsOf, ho]
  | some operator =>
    have hn : rangeNames.contains e.1 = true := by rw [← isSome_ofName?_iff, ho]; rfl
    have hreserved : isReserved r.config.ranges e.1 = true := by rw [isReserved, hr, hn]; simp
    rw [r.deletes_of_not_control p (not_control_of_range hn), hreserved] at h
    cases h

theorem comparisons_cleaned : r.comparisons (r.cleaned p) = r.comparisons p := by
  rw [comparisons, comparisons]
  split
  · rename_i hr
    rw [entries_cleaned, List.flatMap_map]
    simp only [comparisonsOf_pruned r hr]
    exact flatMap_filter_of_nil p.entries fun e _ => r.comparisonsOf_of_deleted p hr e
  · rfl

theorem patterns_cleaned : r.patterns (r.cleaned p) = r.patterns p := by
  rw [patterns, patterns, searched, searched, text?_search_cleaned, text?_searchBy_cleaned,
    refusedSearchColumn?]
  cases p.text? "search" with
  | none => simp
  | some term =>
    cases p.text? "search_by" with
    | none => rfl
    | some column =>
      rw [Option.filter_some]
      cases hc : r.config.checkAllColumns && !r.allows column <;> simp [hc]

/-- The direction of a cleaned request is the one that the request comes to. -/
theorem direction_cleaned : (direction (r.cleaned p)).1 = (direction p).1 := by
  rw [direction, direction, text?_order_cleaned, refusesDirection]
  cases p.text? "order" with
  | none => rfl
  | some raw => cases hd : Direction.read? raw <;> simp [hd]

theorem orderTerm_cleaned : r.orderTerm (r.cleaned p) = r.orderTerm p := by
  rw [orderTerm, orderTerm, text?_orderBy_cleaned, refusedSortColumn?, direction_cleaned]
  cases p.text? "order_by" with
  | none => rfl
  | some raw =>
    rw [Option.map_some, Option.filter_some]
    cases hc : r.config.checkAllColumns && !r.allows (Text.lower (Text.trim raw)) <;> simp [hc]

theorem calls_cleaned : r.calls (r.cleaned p) = r.calls p := by
  rw [calls, calls, scopes_cleaned, List.filter_filter]
  refine List.filter_congr fun s _ => ?_
  rw [keepsScope, refusesScope]
  cases s.2.isFilled <;> cases r.knowsScope s.1 <;> rfl

/-- The cleaned request comes to the description of the request. -/
theorem description_findings_cleaned :
    Findings.description (r.findings (r.cleaned p)) = Findings.description (r.findings p) := by
  rw [description_findings, description_findings, parts, parts, columnMatches_cleaned,
    matched_filter, comparisons_cleaned, patterns_cleaned, orderTerm_cleaned, calls_cleaned]

theorem matchRefusals_cleaned (es : Entries) :
    r.matchRefusals (es.filter fun e => !r.refusesMatch e) = [] := by
  rw [matchRefusals, List.map_eq_nil_iff, List.filter_eq_nil_iff]
  intro e he
  have hm := (List.mem_filter.1 ((List.takeWhile_sublist _).subset he)).2
  simpa using hm

theorem boundRefusals_pruned (hr : r.config.ranges = true) (e : String × Value) :
    r.boundRefusals (e.1, r.pruned e.1 e.2) = [] := by
  rw [boundRefusals]
  split
  · rename_i hn
    cases hv : e.2 with
    | map bounds =>
      rw [r.pruned_range hr hn]
      simp [Value.entriesOf]
    | null | bool _ | number _ | text _ | list _ => rfl
  · rfl

theorem rangeRefusals_cleaned : r.rangeRefusals (r.cleaned p) = [] := by
  rw [rangeRefusals]
  split
  · rename_i hr
    rw [entries_cleaned, List.flatMap_map, List.flatMap_eq_nil_iff]
    exact fun e _ => r.boundRefusals_pruned hr e
  · rfl

theorem searchRefusals_cleaned : r.searchRefusals (r.cleaned p) = [] := by
  have hc : r.refusedSearchColumn? (r.cleaned p) = r.refusedSearchColumn? p := by
    rw [refusedSearchColumn?, refusedSearchColumn?, text?_searchBy_cleaned]
  rw [searchRefusals, hc, text?_search_cleaned]
  cases r.refusedSearchColumn? p <;> simp

theorem orderRefusals_cleaned : r.orderRefusals (r.cleaned p) = [] := by
  have hd : refusesDirection (r.cleaned p) = false := by
    rw [refusesDirection, text?_order_cleaned]
    cases hp : refusesDirection p with
    | true => simp
    | false => simpa [refusesDirection] using hp
  have hc : r.refusedSortColumn? (r.cleaned p) = none := by
    rw [refusedSortColumn?, text?_orderBy_cleaned]
    cases hp : r.refusedSortColumn? p with
    | none => simpa [refusedSortColumn?] using hp
    | some column => simp
  rw [orderRefusals, hd, hc]
  simp

theorem scopeRefusals_cleaned : r.scopeRefusals (r.cleaned p) = [] := by
  rw [scopeRefusals, scopes_cleaned, List.map_eq_nil_iff, List.filter_eq_nil_iff]
  intro s hs
  simpa using (List.mem_filter.1 hs).2

/-- The cleaned request is refused for nothing. -/
theorem refusals_cleaned : r.refusals (r.cleaned p) = [] := by
  simp only [refusals, columnMatches_cleaned, matchRefusals_cleaned, rangeRefusals_cleaned,
    searchRefusals_cleaned, orderRefusals_cleaned, scopeRefusals_cleaned, List.append_nil]

end Rules

/-- Lenient compiling of a request always comes to a description where some column is allowed, and
strict compiling of the cleaned request comes to the same one. -/
theorem lenient_compile_eq_strict_compile_cleaned (c : Config) (schema : Schema)
    (knowsScope : String → Bool) (p : Params) (h : schema.allowed c.source ≠ []) :
    ∃ d, Config.compile { c with lenient := true } schema knowsScope p = .ok d ∧
      Config.compile { c with lenient := false } schema knowsScope
        ((c.rules schema knowsScope).cleaned p) = .ok d := by
  refine ⟨_, c.compile_lenient schema knowsScope p h, ?_⟩
  rw [c.compile_strict schema knowsScope _ h, Rules.refusals_findings, Rules.refusals_cleaned,
    Rules.description_findings_cleaned]

/-- Every stage refuses something here, and the map of the range and that of the scopes come out
empty. -/
theorem strict_compile_cleaned_of_every_refusal :
    let c : Config := { Config.extended with checkAllColumns := true }
    let schema := Schema.ofDescriptor Sample.usersResource.descriptor Sample.users.columnNames
    let p := Params.ofPairs [("password", .text "x"), ("scopes", .map [("ghost", .text "1")]),
      ("gte", .map [("password", .text "a")]), ("search", .text "a"),
      ("search_by", .text "password"), ("order", .text "sideways"), ("order_by", .text "salary"),
      ("name", .text "Ann")]
    schema.allowed c.source ≠ [] ∧
      (c.strict.compile schema Sample.userScopes.contains
        ((c.rules schema Sample.userScopes.contains).cleaned p)) =
          .ok [.equals "name" (.text "Ann"), .orderBy "created_at" .ascending] := by
  intro c schema p
  have h : schema.allowed c.source ≠ [] := by decide
  obtain ⟨d, hl, hs⟩ :=
    lenient_compile_eq_strict_compile_cleaned c schema Sample.userScopes.contains p h
  have hd : Config.compile { c with lenient := true } schema Sample.userScopes.contains p =
      .ok [.equals "name" (.text "Ann"), .orderBy "created_at" .ascending] := by cbv
  exact ⟨h, hs.trans (hl.symm.trans hd)⟩

end ListQuery
