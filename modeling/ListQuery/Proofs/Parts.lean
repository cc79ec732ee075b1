import ListQuery.Proofs.Entries
import ListQuery.Proofs.Refusals
import ListQuery.Sample.Users

/-!
The parts of a compiled description, said of the request itself and stage by stage. Main statement:
a description lists its equalities, its comparisons, at most one group of patterns, one order and
its scope calls, and nothing else.
-/
namespace ListQuery

/-- The parts of a description. Each has its place in it. -/
structure Parts where
  equalities : Entries
  comparisons : List (String × Operator × Value)
  /-- Columns, each with its pattern, in one group. -/
  patterns : List (String × String)
  order : String × Direction
  calls : Entries

namespace Parts

/-- The predicates of a group, which its first pattern opens. -/
def group : List (String × String) → Description
  | [] => []
  | p :: ps => .like p.1 p.2 :: ps.map fun q => .orLike q.1 q.2

/-- The description with these parts. -/
def description (parts : Parts) : Description :=
  parts.equalities.map (fun e => .equals e.1 e.2) ++
    parts.comparisons.map (fun b => .compare b.1 b.2.1 b.2.2) ++ group parts.patterns ++
    .orderBy parts.order.1 parts.order.2 :: parts.calls.map fun e => .scopeCall e.1 e.2

/-- What holds of the parts of every compiled description. -/
structure Sound (parts : Parts) (ranges : Bool) (knowsScope : String → Bool) : Prop where
  equalities_nodup : parts.equalities.keys.Nodup
  equalities_free : ∀ e ∈ parts.equalities, isReserved ranges e.1 = false
  equalities_filled : ∀ e ∈ parts.equalities, e.2.isFilled = true
  comparisons_eq_nil : ranges = false → parts.comparisons = []
  comparisons_filled : ∀ b ∈ parts.comparisons, b.2.2.isFilled = true
  calls_nodup : parts.calls.keys.Nodup
  calls_known : ∀ e ∈ parts.calls, knowsScope e.1 = true
  calls_filled : ∀ e ∈ parts.calls, e.2.isFilled = true

end Parts

namespace Rules

/-! ## What each stage comes to -/

section

variable (r : Rules) (p : Params)

/-- Whether a parameter is matched: it is filled, not refused, and neither a list nor a map. -/
def isMatched (e : String × Value) : Bool :=
  e.2.isFilled && !r.refusesMatch e && e.2.scalarText?.isSome

/-- The parameters that are matched, of which an integer name ends the list. -/
def matched (es : Entries) : Entries :=
  let candidates := List.filter r.isMatched es
  candidates.takeWhile (fun e => !isIntegerName e.1) ++
    (candidates.dropWhile fun e => !isIntegerName e.1).take 1

/-- What a matched parameter asks its column to equal. -/
def equality (e : String × Value) : String × Value :=
  (e.1, if isIntegerName e.1 then .number (.ofInt64 e.2.toInteger) else e.2)

/-- Whether a bound of a range counts. -/
def keepsBound (b : String × Value) : Bool := b.2.isFilled && !r.refusesBound b

/-- The comparisons of one parameter, which is a map under the name of a range or has none. -/
def comparisonsOf (e : String × Value) : List (String × Operator × Value) :=
  (Operator.ofName? e.1).toList.flatMap fun operator =>
    ((Value.entriesOf (some e.2)).filter r.keepsBound).map fun b => (b.1, operator, b.2)

def comparisons : List (String × Operator × Value) :=
  if r.config.ranges then p.entries.flatMap r.comparisonsOf else []

/-- The columns that are searched: the one that `search_by` names, unless it is refused, or all that
are allowed. -/
def searched : List String :=
  match p.text? "search_by" with
  | some column => if r.config.checkAllColumns && !r.allows column then [] else [column]
  | none => r.allowed

def patterns : List (String × String) :=
  match p.text? "search" with
  | some term => (r.searched p).map fun column => (column, containsPattern term)
  | none => []

/-- The one order of a request. -/
def orderTerm : String × Direction :=
  match p.text? "order_by" with
  | none => (r.config.sortColumn, .ascending)
  | some raw =>
    let column := Text.lower (Text.trim raw)
    if r.config.checkAllColumns && !r.allows column then (r.config.sortColumn, .ascending)
    else (column, (direction p).1)

/-- Whether a requested scope is called. -/
def keepsScope (s : String × Value) : Bool := s.2.isFilled && r.knowsScope s.1

def calls : Entries := ((p.map? "scopes").getD []).filter r.keepsScope

/-- The parts of the description of a request. -/
def parts : Parts where
  equalities := (r.matched (p.columnMatches r.config.ranges)).map equality
  comparisons := r.comparisons p
  patterns := r.patterns p
  order := r.orderTerm p
  calls := r.calls p

end

section

variable {r : Rules}

theorem allows_iff {column : String} : r.allows column = true ↔ column ∈ r.allowed := by
  simp [allows]

/-- A column is not refused where it is allowed or need not be. -/
theorem not_refused_iff {check : Bool} {column : String} :
    (check && !r.allows column) = false ↔ (check = true → column ∈ r.allowed) := by
  cases check <;> simp [allows_iff]

theorem isMatched_iff {e : String × Value} :
    r.isMatched e = true ↔ e.2.isFilled = true ∧ e.2.scalarText?.isSome = true ∧
      (r.config.checkMatches = true → e.1 ∈ r.allowed) := by
  rw [← not_refused_iff, isMatched, refusesMatch]
  cases e.2.isFilled <;> cases r.config.checkMatches <;> cases r.allows e.1 <;> simp

theorem keepsBound_iff {b : String × Value} :
    r.keepsBound b = true ↔
      b.2.isFilled = true ∧ (r.config.checkAllColumns = true → b.1 ∈ r.allowed) := by
  rw [← not_refused_iff, keepsBound, refusesBound]
  cases b.2.isFilled <;> cases r.config.checkAllColumns <;> cases r.allows b.1 <;> simp

end

section

variable (r : Rules)

theorem description_exactMatches (es : Entries) :
    Findings.description (r.exactMatches es) =
      ((r.matched es).map equality).map fun e => .equals e.1 e.2 := by
  induction es with
  | nil => rfl
  | cons e es ih =>
    obtain ⟨name, value⟩ := e
    cases hm : r.isMatched (name, value) with
    | false =>
      have hskip : r.matched ((name, value) :: es) = r.matched es := by simp [matched, hm]
      rw [hskip, ← ih, exactMatches]
      repeat' split
      all_goals simp_all [isMatched, refusesMatch]
    | true =>
      obtain ⟨⟨hf, hr⟩, hs⟩ : (value.isFilled = true ∧ r.refusesMatch (name, value) = false) ∧
          value.scalarText?.isSome = true := by simpa [isMatched] using hm
      have ha : (r.config.checkMatches && !r.allows name) = false := by
        simpa [refusesMatch, hf] using hr
      have hs : value.scalarText?.isNone = false := by simpa using hs
      rw [exactMatches, hf, ha, hs]
      cases hn : isIntegerName name with
      | true => simp [matched, equality, hm, hn]
      | false =>
        have hcons : r.matched ((name, value) :: es) = (name, value) :: r.matched es := by
          simp [matched, hm, hn]
        simp [hcons, equality, hn, ih]

theorem description_bound (operator : Operator) (b : String × Value) :
    Findings.description (r.bound operator b.1 b.2) =
      if r.keepsBound b then [.compare b.1 operator b.2] else [] := by
  rw [bound, keepsBound, refusesBound]
  cases hf : b.2.isFilled with
  | false => rfl
  | true =>
    rw [if_pos rfl, description_guarded]
    cases hc : r.config.checkAllColumns && !r.allows b.1 <;> simp_all

theorem description_range (e : String × Value) :
    Findings.description (r.range e.1 e.2) =
      (r.comparisonsOf e).map fun b => .compare b.1 b.2.1 b.2.2 := by
  rw [comparisonsOf]
  cases ho : Operator.ofName? e.1 with
  | none => simp [range, ho]
  | some operator =>
    cases hv : e.2 with
    | map bounds =>
      have h := flatMap_of_ite (r.description_bound operator) bounds
      simpa [range, ho, Value.entriesOf, Findings.description_flatMap, Function.comp_def] using h
    | null | bool _ | number _ | text _ | list _ =>
      simp only [range, ho, Value.entriesOf]
      split <;> simp

variable (p : Params)

theorem description_ranges :
    Findings.description (r.ranges p) =
      (r.comparisons p).map fun b => .compare b.1 b.2.1 b.2.2 := by
  rw [ranges, comparisons]
  split
  · rw [Findings.description_flatMap, List.map_flatMap]
    simp only [description_range]
  · rfl

theorem description_searchGroup (pattern : String) (columns : List String) :
    Findings.description (searchGroup pattern columns) =
      Parts.group (columns.map fun column => (column, pattern)) := by
  cases columns with
  | nil => rfl
  | cons column columns =>
    rw [searchGroup, Findings.description_emit]
    simp [Parts.group, Findings.description, List.filterMap_map, Function.comp_def,
      Finding.emitted?]

theorem description_search :
    Findings.description (r.search p) = Parts.group (r.patterns p) := by
  rw [search, patterns, searched]
  cases p.text? "search" with
  | none => simp only; split <;> rfl
  | some term =>
    cases p.text? "search_by" with
    | none => exact description_searchGroup _ _
    | some column =>
      simp only [description_guarded]
      split <;> rfl

/-- Every way through the order comes to one. -/
theorem description_order :
    Findings.description (r.order p) = [.orderBy (r.orderTerm p).1 (r.orderTerm p).2] := by
  rw [order, orderTerm]
  cases p.text? "order_by" with
  | none => rfl
  | some raw =>
    simp only [Findings.description_append, description_direction, description_guarded]
    split <;> rfl

theorem description_scopeCall (s : String × Value) :
    Findings.description (r.scopeCall s.1 s.2) =
      if r.keepsScope s then [.scopeCall s.1 s.2] else [] := by
  rw [scopeCall, keepsScope]
  cases s.2.isFilled <;> cases r.knowsScope s.1 <;> rfl

theorem description_scopeCalls :
    Findings.description (r.scopeCalls p) = (r.calls p).map fun e => .scopeCall e.1 e.2 := by
  rw [scopeCalls, Findings.description_flatMap]
  exact flatMap_of_ite r.description_scopeCall _

/-- The description of a request has the parts that its stages come to. -/
theorem description_findings :
    Findings.description (r.findings p) = (r.parts p).description := by
  simp only [findings, Findings.description_append, description_exactMatches, description_ranges,
    description_search, description_order, description_scopeCalls, Parts.description, parts,
    List.append_assoc, List.singleton_append]

/-! ## What holds of the parts -/

theorem matched_sublist (es : Entries) : (r.matched es).Sublist es := by
  have htake : (r.matched es).Sublist (List.filter r.isMatched es) := by
    have h := List.takeWhile_append_dropWhile (p := fun e => !isIntegerName e.1)
      (l := List.filter r.isMatched es)
    conv_rhs => rw [← h]
    exact (List.take_sublist 1 _).append_left _
  exact htake.trans List.filter_sublist

theorem isFilled_equality {e : String × Value} (h : e.2.isFilled = true) :
    (equality e).2.isFilled = true := by
  rw [equality]
  split
  · rfl
  · exact h

theorem isMatched_of_mem_matched {es : Entries} {e : String × Value} (h : e ∈ r.matched es) :
    r.isMatched e = true := by
  have h : e ∈ List.filter r.isMatched es := by
    rcases List.mem_append.1 h with h | h
    · exact (List.takeWhile_sublist _).subset h
    · exact (List.dropWhile_sublist _).subset (List.mem_of_mem_take h)
  exact (List.mem_filter.1 h).2

/-- A comparison comes from a bound in the map under the name of a range. -/
theorem mem_comparisons {b : String × Operator × Value} (h : b ∈ r.comparisons p) :
    r.config.ranges = true ∧ ∃ e ∈ p.entries, Operator.ofName? e.1 = some b.2.1 ∧
      (b.1, b.2.2) ∈ Value.entriesOf (some e.2) ∧ r.keepsBound (b.1, b.2.2) = true := by
  rw [comparisons] at h
  split at h
  · rename_i hr
    obtain ⟨e, he, h⟩ := List.mem_flatMap.1 h
    obtain ⟨operator, ho, h⟩ := List.mem_flatMap.1 h
    obtain ⟨d, hd, rfl⟩ := List.mem_map.1 h
    obtain ⟨hd, hk⟩ := List.mem_filter.1 hd
    exact ⟨hr, e, he, Option.mem_toList.1 ho, hd, hk⟩
  · cases h

theorem sound_parts : (r.parts p).Sound r.config.ranges r.knowsScope where
  equalities_nodup := by
    have hkeys : ∀ es : Entries, Entries.keys (es.map equality) = es.keys := fun es => by
      simp [Entries.keys, equality]
    have hmatches : (p.columnMatches r.config.ranges).keys.Nodup :=
      (p.distinct.filter _).nodup
    rw [parts, hkeys]
    exact hmatches.sublist ((r.matched_sublist _).map _)
  equalities_free := by
    intro e he
    obtain ⟨d, hd, rfl⟩ := List.mem_map.1 he
    have hd := (List.mem_filter.1 ((r.matched_sublist _).subset hd)).2
    simpa [equality] using hd
  equalities_filled := by
    intro e he
    obtain ⟨d, hd, rfl⟩ := List.mem_map.1 he
    exact isFilled_equality (isMatched_iff.1 (r.isMatched_of_mem_matched hd)).1
  comparisons_eq_nil := by
    intro hr
    simp [parts, comparisons, hr]
  comparisons_filled := by
    intro b hb
    obtain ⟨-, e, -, -, -, hk⟩ := r.mem_comparisons p hb
    exact (keepsBound_iff.1 hk).1
  calls_nodup := by
    have hscopes := p.distinct_map? "scopes"
    exact (hscopes.filter r.keepsScope).nodup
  calls_known := by
    intro s hs
    have hk := (List.mem_filter.1 hs).2
    simp only [keepsScope, Bool.and_eq_true] at hk
    exact hk.2
  calls_filled := by
    intro s hs
    have hk := (List.mem_filter.1 hs).2
    simp only [keepsScope, Bool.and_eq_true] at hk
    exact hk.1

end

end Rules

/-- A compiled description lists its equalities, its comparisons, a group of patterns if there is
one, one order and its scope calls. No column is matched twice and no scope called twice; no match
has a reserved name and every scope called is known; nothing is compared without ranges; and every
value is filled. -/
theorem exists_parts_of_compile (c : Config) (schema : Schema) (knowsScope : String → Bool)
    (p : Params) (d : Description) (h : c.compile schema knowsScope p = .ok d) :
    ∃ parts : Parts, d = parts.description ∧ parts.Sound c.ranges knowsScope := by
  have hd := c.eq_description_of_compile schema knowsScope p h
  rw [Rules.description_findings] at hd
  exact ⟨_, hd, Rules.sound_parts _ p⟩

/-- Every stage emits something here, the families stand in the opposite order in the request, and
the integer name ends the matches. -/
theorem parts_of_backward_request :
    let schema := Schema.ofDescriptor Sample.usersResource.descriptor ["id", "name", "7", "email"]
    let p := Params.ofPairs [("scopes", .map [("active", .text "1"), ("older_than", .text " ")]),
      ("order_by", .text "name"), ("search", .text "a"),
      ("lt", .map [("id", .text "9"), ("age", .null)]), ("email", .text "b"), ("7", .text "7up"),
      ("min", .map [("id", .text "1")]), ("name", .text "c")]
    let d : Description := [.equals "email" (.text "b"), .equals "7" (.number (.ofInt64 7)),
      .compare "id" .less (.text "9"), .compare "id" .atLeast (.text "1"), .like "id" "%a%",
      .orLike "name" "%a%", .orLike "7" "%a%", .orLike "email" "%a%", .orderBy "name" .ascending,
      .scopeCall "active" (.text "1")]
    Config.extended.compile schema Sample.userScopes.contains p = .ok d ∧
      ∃ parts : Parts, d = parts.description ∧ parts.Sound true Sample.userScopes.contains := by
  intro schema p d
  have h : Config.extended.compile schema Sample.userScopes.contains p = .ok d := by cbv
  exact ⟨h, exists_parts_of_compile Config.extended schema Sample.userScopes.contains p d h⟩

end ListQuery
