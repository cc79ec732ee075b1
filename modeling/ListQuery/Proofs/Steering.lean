import ListQuery.Proofs.AllowList
import ListQuery.Proofs.Conditions

/-!
Applying a description, step by step: orders are added and scopes run, each on the select that the
steps before it have come to. Main statement: a description that was compiled with the scopes of a
resource always applies, and runs every scope that it calls once and in its order; so a request
fails for the schema or in compiling, and in no other place.
-/
namespace ListQuery

open Sql

/-! ## Steps -/

/-- The scope that a predicate calls, and the value that it hands over. -/
def Predicate.call? : Predicate → Option (String × Value)
  | .scopeCall name v => some (name, v)
  | _ => none

/-- The scope calls of a description, in order. -/
def Description.calls (d : Description) : List (String × Value) := d.filterMap Predicate.call?

/-- One run of a scope: what it was called with, the select that it was given and the select that it
made. -/
structure ScopeRun where
  name : String
  value : Value
  given : Select
  made : Select

/-- A description leads from one select to another; `runs` are the runs of scopes on the way. What a
predicate asks of the rows is no step: it waits for the end. -/
inductive Steers (scopes : Scopes Select) :
    Select → Description → List ScopeRun → Select → Prop where
  | done (s : Select) : Steers scopes s [] [] s
  | wait {s t : Select} {p : Predicate} {d : Description} {runs : List ScopeRun}
      (asks : (p.standsAlone || p.isPattern) = true) (rest : Steers scopes s d runs t) :
      Steers scopes s (p :: d) runs t
  | order {s t : Select} {column : String} {direction : Direction} {d : Description}
      {runs : List ScopeRun} (rest : Steers scopes (s.orderBy ⟨none, column⟩ direction) d runs t) :
      Steers scopes s (.orderBy column direction :: d) runs t
  /-- The scope that is registered under the name makes the next select. -/
  | call {s t : Select} {name : String} {v : Value} {scope : Select → Value → Select}
      {d : Description} {runs : List ScopeRun} (known : scopes.get? name = some scope)
      (rest : Steers scopes (scope s v) d runs t) :
      Steers scopes s (.scopeCall name v :: d) (⟨name, v, s, scope s v⟩ :: runs) t

namespace Steers

variable {scopes : Scopes Select} {s t u : Select} {d : Description}
  {runs otherRuns : List ScopeRun}

/-- A description leads to one select only, by the same runs of scopes. -/
theorem unique (h : Steers scopes s d runs t) (other : Steers scopes s d otherRuns u) :
    runs = otherRuns ∧ t = u := by
  induction h generalizing otherRuns with
  | done s =>
    cases other
    exact ⟨rfl, rfl⟩
  | wait asks rest ih =>
    cases other with
    | wait _ other => exact ih other
    | order _ | call _ _ => cases asks
  | order rest ih =>
    cases other with
    | wait asks _ => cases asks
    | order other => exact ih other
  | call known rest ih =>
    cases other with
    | wait asks _ => cases asks
    | call otherKnown other =>
      obtain rfl := Option.some.inj (known.symm.trans otherKnown)
      obtain ⟨rfl, rfl⟩ := ih other
      exact ⟨rfl, rfl⟩

/-- Scopes run as they are called: each call is one run, in the order of the calls. -/
theorem calls_eq (h : Steers scopes s d runs t) :
    runs.map (fun run => (run.name, run.value)) = d.calls := by
  induction h with
  | done s => rfl
  | @wait s t p d runs asks rest ih =>
    have hp : p.call? = none := by
      cases p with
      | equals _ _ | compare _ _ _ | like _ _ | orLike _ _ => rfl
      | orderBy _ _ | scopeCall _ _ => cases asks
    rw [ih, Description.calls, Description.calls, List.filterMap_cons_none hp]
  | order rest ih => exact ih
  | call known rest ih =>
    rw [List.map_cons, ih]
    rfl

/-- Steering comes to the select to which the description leads. -/
theorem steer_eq (h : Steers scopes s d runs t) (table : String) :
    d.steer scopes table s = .ok t := by
  induction h with
  | done s => rfl
  | @wait s t p d runs asks rest ih =>
    cases p with
    | equals _ _ | compare _ _ _ | like _ _ | orLike _ _ => exact ih
    | orderBy _ _ | scopeCall _ _ => cases asks
  | order rest ih => exact ih
  | call known rest ih =>
    rw [Description.steer, Scopes.run?, known]
    exact ih

/-- What a description asks of the rows is added to the select to which it leads. -/
theorem apply_eq (h : Steers scopes s d runs t) (e : Entity) :
    d.apply e scopes s = .ok (t.filterAll (d.condition e)) := by
  rw [Description.apply, h.steer_eq]
  rfl

end Steers

/-- A description leads somewhere from every select if the scopes that it calls are registered. -/
theorem Description.CallsKnown.exists_steers {scopes : Scopes Select} {d : Description}
    (h : d.CallsKnown scopes) (s : Select) : ∃ runs t, Steers scopes s d runs t := by
  induction d generalizing s with
  | nil => exact ⟨[], s, .done s⟩
  | cons p d ih =>
    cases p with
    | equals _ _ | compare _ _ _ | like _ _ | orLike _ _ =>
      obtain ⟨runs, t, hrest⟩ := ih h.tail s
      exact ⟨runs, t, .wait rfl hrest⟩
    | orderBy column direction =>
      obtain ⟨runs, t, hrest⟩ := ih h.tail (s.orderBy ⟨none, column⟩ direction)
      exact ⟨runs, t, .order hrest⟩
    | scopeCall name v =>
      have hknown : (scopes.get? name).isSome = true := by
        rw [← SortedTable.contains_eq_isSome]
        exact h name v List.mem_cons_self
      obtain ⟨scope, hscope⟩ := Option.isSome_iff_exists.1 hknown
      obtain ⟨runs, t, hrest⟩ := ih h.tail (scope s v)
      exact ⟨_, t, .call hscope hrest⟩

/-- Compiling checks every scope that it lets a description call. -/
theorem Config.callsKnown_of_compile {c : Config} {schema : Schema} {scopes : Scopes Select}
    {p : Params} {d : Description} (h : c.compile schema scopes.contains p = .ok d) :
    d.CallsKnown scopes := by
  intro name v hcall
  cases Config.emits_of_compile h hcall with
  | scopeCall _ _ known => exact known

/-! ## Failing -/

/-- A resource has no schema exactly where it asks its entity for another table. -/
theorem Resource.schema_eq (r : Resource) :
    r.schema =
      if r.entity.table = r.table then .ok (.ofDescriptor r.descriptor r.entity.columnNames)
      else .error (.schema (.otherTable r.table r.entity.table)) := by
  rw [schema, Descriptor.schema, Entity.listing]
  by_cases h : r.entity.table = r.table <;> simp [h, descriptor]

namespace Config

variable {c : Config} {schema : Schema} {knowsScope : String → Bool} {p : Params} {e : Error}

/-- The one way in which lenient compiling fails. -/
theorem compile_eq_error_iff_of_lenient (hc : c.lenient = true) :
    c.compile schema knowsScope p = .error e ↔
      schema.allowed c.source = [] ∧ e = .schema (.noColumn schema.table) := by
  by_cases ha : schema.allowed c.source = []
  · rw [c.compile_of_allowed_nil schema knowsScope p ha]
    simp [ha, eq_comm]
  · have hlenient : { c with lenient := true } = c := by rw [← hc]
    have hok := c.compile_lenient schema knowsScope p ha
    rw [hlenient] at hok
    simp [hok, ha]

variable {r : Resource}

/-- Making a select fails where the schema or compiling does: a compiled description applies. -/
theorem select_eq_error_iff :
    c.select r p = .error e ↔ r.schema = .error e ∨
      ∃ schema, r.schema = .ok schema ∧ c.compile schema r.scopes.contains p = .error e := by
  rw [select]
  cases hschema : r.schema with
  | error f => simp [bind, Except.bind]
  | ok schema =>
    cases hcompile : c.compile schema r.scopes.contains p with
    | error f => simp [bind, Except.bind, hcompile]
    | ok d =>
      obtain ⟨runs, t, hsteers⟩ := (callsKnown_of_compile hcompile).exists_steers r.all
      simp [bind, Except.bind, hcompile, hsteers.apply_eq, Except.mapError]

/-- The two ways in which a lenient request fails, which do not depend on its parameters. -/
theorem select_eq_error_iff_of_lenient (hc : c.lenient = true) :
    c.select r p = .error e ↔
      (r.table ≠ r.entity.table ∧ e = .schema (.otherTable r.table r.entity.table)) ∨
      (r.table = r.entity.table ∧
        (Schema.ofDescriptor r.descriptor r.entity.columnNames).allowed c.source = [] ∧
        e = .schema (.noColumn r.table)) := by
  have htable : (Schema.ofDescriptor r.descriptor r.entity.columnNames).table = r.table := rfl
  rw [select_eq_error_iff, r.schema_eq]
  by_cases ht : r.table = r.entity.table
  · simp [ht.symm, compile_eq_error_iff_of_lenient hc, htable]
  · rw [if_neg (Ne.symm ht)]
    simp [ht, eq_comm (a := e)]

end Config

/-- Applying a compiled description does not fail. Making the select of a request fails exactly
where the schema of the resource or compiling does, and for the same reason. Whatever was compiled
with the scopes of the resource applies with them to every select: each scope that it calls makes
the next select once, in the order of the calls, and the conditions of the description come last. A
lenient request
fails exactly where the resource asks for another table than its entity's or allows no column,
whatever the parameters. -/
theorem compiled_description_applies (c : Config) (r : Resource) (p : Params) :
    (∀ e, c.select r p = .error e ↔ r.schema = .error e ∨
      ∃ schema, r.schema = .ok schema ∧ c.compile schema r.scopes.contains p = .error e) ∧
    (∀ schema d, c.compile schema r.scopes.contains p = .ok d → ∀ (e : Entity) (s : Select),
      ∃ runs t, Steers r.scopes s d runs t ∧
        runs.map (fun run => (run.name, run.value)) = d.calls ∧
        d.apply e r.scopes s = .ok (t.filterAll (d.condition e))) ∧
    (c.lenient = true → ∀ e, c.select r p = .error e ↔
      (r.table ≠ r.entity.table ∧ e = .schema (.otherTable r.table r.entity.table)) ∨
      (r.table = r.entity.table ∧
        (Schema.ofDescriptor r.descriptor r.entity.columnNames).allowed c.source = [] ∧
        e = .schema (.noColumn r.table))) := by
  refine ⟨fun e => Config.select_eq_error_iff, fun schema d h e s => ?_,
    fun hc e => Config.select_eq_error_iff_of_lenient hc⟩
  obtain ⟨runs, t, hsteers⟩ := (Config.callsKnown_of_compile h).exists_steers s
  exact ⟨runs, t, hsteers, hsteers.calls_eq, hsteers.apply_eq e⟩

namespace Sample

/-- A scope that is not registered is passed over; the filters of the others stand in the order of the
request, which is not that of their names, and before what the request asks of the name. -/
theorem applies_with_two_scopes :
    let c := Config.extended
    let schema := Schema.ofDescriptor usersResource.descriptor users.columnNames
    let p := Params.ofPairs [("scopes", .map [("older_than", .text "30"), ("ghost", .text "1"),
      ("active", .text "0")]), ("name", .text "Ann")]
    let d : Description := [.equals "name" (.text "Ann"), .orderBy "created_at" .ascending,
      .scopeCall "older_than" (.text "30"), .scopeCall "active" (.text "0")]
    let older : Restriction :=
      .single (.compare ⟨some "users", "age"⟩ (.range .greater) (.int32 30))
    let idle : Restriction :=
      .single (.compare ⟨some "users", "active"⟩ .equal (.bool false))
    let named : Restriction := .single (.compare ⟨none, "name"⟩ .equal (.text (some "Ann")))
    let ordered := users.rows.orderBy ⟨none, "created_at"⟩ .ascending
    c.compile schema userScopes.contains p = .ok d ∧
      Steers userScopes users.rows d
        [⟨"older_than", .text "30", ordered, ordered.filter older⟩,
         ⟨"active", .text "0", ordered.filter older, (ordered.filter older).filter idle⟩]
        ((ordered.filter older).filter idle) ∧
      d.apply users userScopes users.rows =
        .ok { ordered with condition := [older, idle, named] } ∧
      c.lenient = true ∧
      c.select ghostUsers p = .error (.schema (.otherTable "ghosts" "users")) ∧
      c.select sealedUsers p = .error (.schema (.noColumn "users")) := by
  intro c schema p d older idle named ordered
  have hcompile : c.compile schema userScopes.contains p = .ok d := by rfl
  have holder : userScopes.get? "older_than" = some olderThanScope := rfl
  have hactive : userScopes.get? "active" = some activeScope := rfl
  have hsteers : Steers userScopes users.rows d
      [⟨"older_than", .text "30", ordered, ordered.filter older⟩,
       ⟨"active", .text "0", ordered.filter older, (ordered.filter older).filter idle⟩]
      ((ordered.filter older).filter idle) :=
    .wait rfl (.order (.call holder (.call hactive (.done _))))
  obtain ⟨runs, t, hled, -, happly⟩ :=
    (compiled_description_applies c usersResource p).2.1 schema d hcompile users users.rows
  obtain ⟨rfl, rfl⟩ := hled.unique hsteers
  have hghost := (compiled_description_applies c ghostUsers p).2.2 rfl
    (.schema (.otherTable "ghosts" "users"))
  have hsealed := (compiled_description_applies c sealedUsers p).2.2 rfl
    (.schema (.noColumn "users"))
  have hhidden : (Schema.ofDescriptor sealedUsers.descriptor users.columnNames).allowed c.source =
      [] := by decide
  exact ⟨hcompile, hsteers, happly, rfl, hghost.2 (.inl ⟨by decide, rfl⟩),
    hsealed.2 (.inr ⟨rfl, hhidden, rfl⟩)⟩

end Sample
end ListQuery
