import Mathlib
import ListQuery.Params.Key
import ListQuery.Proofs.Findings
import ListQuery.Proofs.Words
import ListQuery.Sample.Users

/-!
What a request is refused for, said of the request itself and stage by stage. Lenient compiling
passes over exactly these refusals and notes them in this order; strict compiling fails with the
first of them, and without one both come to the same description.
-/
namespace ListQuery

namespace Rules

/-- Whether a parameter is refused as an exact match. -/
def refusesMatch (r : Rules) (e : String × Value) : Bool :=
  r.config.checkMatches && e.2.isFilled && !r.allows e.1

/-- Whether a parameter is matched under an integer name, so that none after it is matched. -/
def endsMatches (r : Rules) (e : String × Value) : Bool :=
  e.2.isFilled && !r.refusesMatch e && e.2.scalarText?.isSome && isIntegerName e.1

/-- Whether a bound of a range is refused. -/
def refusesBound (r : Rules) (b : String × Value) : Bool :=
  r.config.checkAllColumns && b.2.isFilled && !r.allows b.1

/-- Whether a requested scope is refused. -/
def refusesScope (r : Rules) (s : String × Value) : Bool := s.2.isFilled && !r.knowsScope s.1

/-- The column that `search_by` names, if it has to be allowed and is not. -/
def refusedSearchColumn? (r : Rules) (p : Params) : Option String :=
  (p.text? "search_by").filter fun column => r.config.checkAllColumns && !r.allows column

/-- The column that `order_by` names, if it has to be allowed and is not. -/
def refusedSortColumn? (r : Rules) (p : Params) : Option String :=
  ((p.text? "order_by").map fun raw => Text.lower (Text.trim raw)).filter fun column =>
    r.config.checkAllColumns && !r.allows column

/-- Whether `order` says something that is no direction. -/
def refusesDirection (p : Params) : Bool :=
  (p.text? "order").any fun raw => (Direction.read? raw).isNone

/-- The names refused as exact matches, up to the parameter that ends the matches. -/
def matchRefusals (r : Rules) (es : Entries) : List Rejection :=
  ((es.takeWhile fun e => !r.endsMatches e).filter r.refusesMatch).map fun e =>
    .invalidParameter e.1

/-- The columns refused in the map under the name of a range. -/
def boundRefusals (r : Rules) (e : String × Value) : List Rejection :=
  if rangeNames.contains e.1 then
    ((Value.entriesOf (some e.2)).filter r.refusesBound).map fun b => .invalidParameter b.1
  else []

def rangeRefusals (r : Rules) (p : Params) : List Rejection :=
  if r.config.ranges then p.entries.flatMap r.boundRefusals else []

/-- A column to search is looked at only where there is something to search for. -/
def searchRefusals (r : Rules) (p : Params) : List Rejection :=
  if (p.text? "search").isSome then
    (r.refusedSearchColumn? p).toList.map .invalidParameter
  else []

/-- A direction is looked at only where there is a column to order by, and before it. -/
def orderRefusals (r : Rules) (p : Params) : List Rejection :=
  (if (p.text? "order_by").isSome && refusesDirection p then [.invalidParameter "order"] else []) ++
    (r.refusedSortColumn? p).toList.map .invalidParameter

def scopeRefusals (r : Rules) (p : Params) : List Rejection :=
  (((p.map? "scopes").getD []).filter r.refusesScope).map fun s => .unknownScope s.1 r.table

/-- All that a request is refused for, in the order of the stages. -/
def refusals (r : Rules) (p : Params) : List Rejection :=
  r.matchRefusals (p.columnMatches r.config.ranges) ++ r.rangeRefusals p ++ r.searchRefusals p ++
    r.orderRefusals p ++ r.scopeRefusals p

theorem refusals_exactMatches (r : Rules) (es : Entries) :
    Findings.refusals (r.exactMatches es) = r.matchRefusals es := by
  induction es with
  | nil => rfl
  | cons e es ih =>
    rw [exactMatches]
    repeat' split
    all_goals simp_all [matchRefusals, endsMatches, refusesMatch]

theorem refusals_bound (r : Rules) (operator : Operator) (b : String × Value) :
    Findings.refusals (r.bound operator b.1 b.2) =
      if r.refusesBound b then [.invalidParameter b.1] else [] := by
  rw [bound]
  split
  · rename_i hf
    simp [refusals_guarded, refusesBound, hf]
  · rename_i hf
    simp [refusesBound, hf]

theorem refusals_range (r : Rules) (e : String × Value) :
    Findings.refusals (r.range e.1 e.2) = r.boundRefusals e := by
  rw [boundRefusals, ← isSome_ofName?_iff]
  cases ho : Operator.ofName? e.1 with
  | none => simp [range, ho]
  | some operator =>
    cases hv : e.2 with
    | map bounds =>
      simpa [range, ho, Value.entriesOf] using
        Findings.refusals_flatMap_of_ite (r.refusals_bound operator) bounds
    | null | bool _ | number _ | text _ | list _ =>
      simp only [range, ho, Value.entriesOf]
      split <;> rfl

theorem refusals_ranges (r : Rules) (p : Params) :
    Findings.refusals (r.ranges p) = r.rangeRefusals p := by
  rw [ranges, rangeRefusals]
  split
  · simp only [Findings.refusals_flatMap, refusals_range]
  · rfl

/-- A guard around findings without a refusal refuses its column or nothing. -/
theorem refusals_guarded_of_nil (r : Rules) (check : Bool) (column : String)
    {found instead : List Finding} (hf : Findings.refusals found = [])
    (hi : Findings.refusals instead = []) :
    Findings.refusals (r.guarded check column found instead) =
      ((some column).filter fun c => check && !r.allows c).toList.map .invalidParameter := by
  rw [refusals_guarded, hf, hi, Option.filter_some]
  split <;> rfl

theorem refusals_searchGroup (pattern : String) (columns : List String) :
    Findings.refusals (searchGroup pattern columns) = [] := by
  cases columns with
  | nil => rfl
  | cons column columns =>
    rw [searchGroup, Findings.refusals_emit]
    simp [Findings.refusals, List.filterMap_map, Finding.refused?, Function.comp_def]

theorem refusals_search (r : Rules) (p : Params) :
    Findings.refusals (r.search p) = r.searchRefusals p := by
  rw [search, searchRefusals, refusedSearchColumn?]
  cases p.text? "search" with
  | none => simp only [Option.isSome_none]; split <;> rfl
  | some term =>
    cases p.text? "search_by" with
    | none => simp [refusals_searchGroup]
    | some column => exact r.refusals_guarded_of_nil _ column rfl rfl

theorem refusals_direction (p : Params) :
    Findings.refusals (direction p).2 =
      if refusesDirection p then [.invalidParameter "order"] else [] := by
  rw [direction, refusesDirection]
  cases p.text? "order" with
  | none => rfl
  | some raw => cases hd : Direction.read? raw <;> simp [hd]

/-- A direction is refused where something other than blanks is asked for that is neither `asc` nor
`desc`, in whatever case and with blanks around it. -/
theorem refusesDirection_iff {p : Params} :
    refusesDirection p = true ↔ ∃ raw, p.text? "order" = some raw ∧
      ¬ Text.Padded (Text.InAnyCase "asc") raw ∧ ¬ Text.Padded (Text.InAnyCase "desc") raw := by
  rw [refusesDirection]
  cases p.text? "order" with
  | none => simp
  | some raw =>
    have hasc : Direction.read? raw = some .ascending ↔ Text.Padded (Text.InAnyCase "asc") raw :=
      Direction.read?_eq_some_iff
    have hdesc : Direction.read? raw = some .descending ↔
        Text.Padded (Text.InAnyCase "desc") raw := Direction.read?_eq_some_iff
    simp only [Option.any_some, Option.some.injEq, exists_eq_left', ← hasc, ← hdesc]
    rcases Direction.read? raw with _ | _ | _ <;> simp

theorem refusals_order (r : Rules) (p : Params) :
    Findings.refusals (r.order p) = r.orderRefusals p := by
  rw [order, orderRefusals, refusedSortColumn?]
  cases p.text? "order_by" with
  | none => rfl
  | some raw =>
    simp only [Findings.refusals_append, refusals_direction, Option.isSome_some, Bool.true_and]
    rw [r.refusals_guarded_of_nil _ _ rfl rfl, Option.map_some]

theorem refusals_scopeCall (r : Rules) (s : String × Value) :
    Findings.refusals (r.scopeCall s.1 s.2) =
      if r.refusesScope s then [.unknownScope s.1 r.table] else [] := by
  rw [scopeCall, refusesScope]
  repeat' split
  all_goals simp_all

theorem refusals_scopeCalls (r : Rules) (p : Params) :
    Findings.refusals (r.scopeCalls p) = r.scopeRefusals p :=
  Findings.refusals_flatMap_of_ite r.refusals_scopeCall _

/-- What is refused among the findings is what the request is refused for, stage by stage. -/
theorem refusals_findings (r : Rules) (p : Params) :
    Findings.refusals (r.findings p) = r.refusals p := by
  simp only [findings, Findings.refusals_append, refusals_exactMatches, refusals_ranges,
    refusals_search, refusals_order, refusals_scopeCalls, refusals]

end Rules

/-- Compiling fails in both modes alike where no column is allowed. Elsewhere lenient compiling
always comes to a description and notes every refusal of the request, and strict compiling comes to
the same description if there is none and fails with the first one otherwise. -/
theorem strict_compile_iff_lenient (c : Config) (schema : Schema) (knowsScope : String → Bool)
    (p : Params) :
    let strict : Config := { c with lenient := false }
    let lenient : Config := { c with lenient := true }
    let refused := (c.rules schema knowsScope).refusals p
    (schema.allowed c.source = [] →
      strict.compile schema knowsScope p = .error (.schema (.noColumn schema.table)) ∧
      lenient.compile schema knowsScope p = .error (.schema (.noColumn schema.table))) ∧
    (schema.allowed c.source ≠ [] →
      ∃ d, lenient.compile schema knowsScope p = .ok d ∧
        (lenient.compileEvents schema knowsScope p).filterMap Event.suppressed? = refused ∧
        (∀ d', strict.compile schema knowsScope p = .ok d' ↔ refused = [] ∧ d' = d) ∧
        ∀ e, strict.compile schema knowsScope p = .error e ↔
          ∃ r, refused.head? = some r ∧ e = .rejected r) := by
  intro strict lenient refused
  constructor
  · intro h
    exact ⟨strict.compile_of_allowed_nil schema knowsScope p h,
      lenient.compile_of_allowed_nil schema knowsScope p h⟩
  · intro h
    have hr : refused = Findings.refusals ((c.rules schema knowsScope).findings p) :=
      (Rules.refusals_findings _ p).symm
    have hs := c.compile_strict schema knowsScope p h
    rw [← hr] at hs
    refine ⟨_, c.compile_lenient schema knowsScope p h, ?_, ?_, ?_⟩
    · rw [hr]
      exact c.suppressed_compileEvents schema knowsScope p h
    · intro d'
      simp only [strict, hs]
      cases refused with
      | nil => simp [eq_comm]
      | cons r rs => simp
    · intro e
      simp only [strict, hs]
      cases refused with
      | nil => simp
      | cons r rs => simp [eq_comm]

/-- A wrong direction counts before a wrong column and an unknown scope. -/
theorem strict_compile_fails_at_direction :
    let c : Config := { Config.extended with checkAllColumns := true }
    let schema := Schema.ofDescriptor Sample.usersResource.descriptor Sample.users.columnNames
    let p := Params.ofPairs [("scopes", .map [("ghost", .text "1")]), ("order", .text "sideways"),
      ("order_by", .text "salary"), ("name", .text "Ann")]
    schema.allowed c.source ≠ [] ∧
      c.strict.compile schema Sample.userScopes.contains p =
        .error (.rejected (.invalidParameter "order")) := by
  intro c schema p
  have h : schema.allowed c.source ≠ [] := by decide
  obtain ⟨d, -, -, -, he⟩ :=
    (strict_compile_iff_lenient c schema Sample.userScopes.contains p).2 h
  exact ⟨h, (he _).2 ⟨_, by cbv, rfl⟩⟩

end ListQuery
