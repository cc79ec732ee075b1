import Mathlib.Data.List.Perm.Basic
import Mathlib.Data.List.SplitBy
import ListQuery.Proofs.Formula
import ListQuery.Resource

/-!
What a description makes of a select. Its comparisons and its groups of patterns are the clauses of
the condition, each once and in some order; scopes that only filter add their conditions in front.
-/
namespace ListQuery

open Sql

namespace Predicate

/-- The comparison that a predicate asks for; orders and scope calls ask for none. -/
def atom? (e : Entity) : Predicate → Option Atom
  | .equals c v => some (e.atom c .equal v)
  | .compare c op v => some (e.atom c (.range op) v)
  | .like c p => some (likeAtom c p)
  | .orLike c p => some (likeAtom c p)
  | .orderBy _ _ => none
  | .scopeCall _ _ => none

def isPattern : Predicate → Bool
  | .like _ _ => true
  | .orLike _ _ => true
  | _ => false

def opensGroup : Predicate → Bool
  | .like _ _ => true
  | _ => false

/-- Whether a pattern stays in the group of the one before it. -/
def staysWith (_ p : Predicate) : Bool := !p.opensGroup

end Predicate

namespace Description

variable (d : Description) (e : Entity)

/-- The comparisons that have to hold on their own. -/
def comparisons : List Atom := (d.filter (!·.isPattern)).filterMap (·.atom? e)

/-- The patterns in groups: each `like` begins one, whatever stands between the patterns. -/
def patternGroups : List Description := (d.filter Predicate.isPattern).splitBy Predicate.staysWith

/-- The comparisons of a group. -/
def alternatives (e : Entity) (group : Description) : List Atom := group.filterMap (·.atom? e)

/-- What a description asks of the comparisons that hold: each on its own, and one of each
group. -/
def Holds (v : Atom → Prop) : Prop :=
  (∀ a ∈ d.comparisons e, v a) ∧ ∀ group ∈ d.patternGroups, ∃ a ∈ alternatives e group, v a

end Description

namespace Description

variable (d : Description) (e : Entity)

end Description

/-! ## The order of comparisons -/

/-- Whether a predicate asks for a comparison that has to hold on its own. -/
def Predicate.standsAlone : Predicate → Bool
  | .equals _ _ => true
  | .compare _ _ _ => true
  | _ => false

theorem Predicate.isSome_atom? (e : Entity) (p : Predicate) :
    (p.atom? e).isSome = (p.standsAlone || p.isPattern) := by
  cases p <;> rfl

namespace Description

/-- The predicates that ask for comparisons, in the order in which these are made. Each `like`
finishes the group before it, so a description is cut in front of every `like`, and in each run the
comparisons that stand alone come first and the patterns behind them. -/
def emission (d : Description) : Description :=
  (d.splitBy Predicate.staysWith).flatMap fun run =>
    run.filter Predicate.standsAlone ++ run.filter Predicate.isPattern

/-- Every predicate that asks for a comparison is there once. -/
theorem perm_emission (d : Description) (e : Entity) :
    d.emission.Perm (d.filter fun p => (p.atom? e).isSome) := by
  have hrun : ∀ run : Description,
      (run.filter Predicate.standsAlone ++ run.filter Predicate.isPattern).Perm
        (run.filter fun p => (p.atom? e).isSome) := by
    intro run
    simp only [Predicate.isSome_atom?]
    induction run with
    | nil => exact .nil
    | cons p run ih =>
      cases p with
      | equals c v => exact ih.cons _
      | compare c op v => exact ih.cons _
      | like c pattern => exact List.perm_middle.trans (ih.cons _)
      | orLike c pattern => exact List.perm_middle.trans (ih.cons _)
      | orderBy c dir => exact ih
      | scopeCall s v => exact ih
  have hd := d.flatten_splitBy Predicate.staysWith
  conv_rhs => rw [← hd, List.filter_flatten, ← List.flatMap_def]
  exact List.Perm.flatMap_left _ fun run _ => hrun run

/-- In a run without a `like` behind its first predicate, nothing is finished before its end. -/
theorem emission_of_isChain {run : Description}
    (h : run.IsChain fun p q => p.staysWith q = true) :
    run.emission = run.filter Predicate.standsAlone ++ run.filter Predicate.isPattern := by
  by_cases hr : run = []
  · rw [hr]
    rfl
  · rw [emission, List.splitBy_of_isChain hr h, List.flatMap_singleton]

theorem emission_append_like (run d : Description) (c pattern : String) :
    (run ++ .like c pattern :: d).emission = run.emission ++ emission (.like c pattern :: d) := by
  have h : (run ++ .like c pattern :: d).splitBy Predicate.staysWith =
      run.splitBy Predicate.staysWith ++ (.like c pattern :: d).splitBy Predicate.staysWith :=
    List.splitBy_append_cons _ fun _ _ => rfl
  rw [emission, h, List.flatMap_append]
  rfl

/-- A predicate that opens no group goes on with a run. -/
theorem isChain_concat {run : Description} (h : run.IsChain fun p q => p.staysWith q = true)
    {p : Predicate} (hp : p.opensGroup = false) :
    (run ++ [p]).IsChain fun p q => p.staysWith q = true :=
  List.isChain_append.2 ⟨h, .singleton p, by simp [Predicate.staysWith, hp]⟩

theorem alternatives_append (e : Entity) (d d' : Description) :
    alternatives e (d ++ d') = alternatives e d ++ alternatives e d' := List.filterMap_append

/-- Comparisons are made in the order of their predicates. `run` is what has been read of a run,
and its patterns are the group that is open. -/
theorem flatMap_atoms_clausesFrom (e : Entity) (d run : Description)
    (hchain : run.IsChain fun p q => p.staysWith q = true) (group : Option Clause)
    (hgroup : group.toList.flatMap Clause.atoms = alternatives e (run.filter Predicate.isPattern)) :
    alternatives e (run.filter Predicate.standsAlone) ++
        (clausesFrom e group d).flatMap Clause.atoms =
      alternatives e (run ++ d).emission := by
  induction d generalizing run group with
  | nil =>
    rw [List.append_nil, emission_of_isChain hchain, alternatives_append, clausesFrom, hgroup]
  | cons p d ih =>
    have hcons : run ++ p :: d = (run ++ [p]) ++ d := by simp
    have hfilter : (run ++ [p]).filter Predicate.isPattern =
        run.filter Predicate.isPattern ++ [p].filter Predicate.isPattern := List.filter_append ..
    cases p with
    | equals _ _ | compare _ _ _ | orderBy _ _ | scopeCall _ _ =>
      have hsame := congrArg (alternatives e) (hfilter.trans (List.append_nil _))
      rw [hcons, ← ih _ (isChain_concat hchain rfl) group (hgroup.trans hsame.symm),
        List.filter_append, alternatives_append, List.append_assoc]
      rfl
    | like c pattern =>
      have ih : (clausesFrom e (some (.single (likeAtom c pattern))) d).flatMap Clause.atoms =
          alternatives e (emission (.like c pattern :: d)) :=
        ih [.like c pattern] (.singleton _) (some (.single (likeAtom c pattern))) rfl
      rw [emission_append_like, alternatives_append, emission_of_isChain hchain,
        alternatives_append, ← hgroup, ← ih, clausesFrom, List.flatMap_append, List.append_assoc]
    | orLike c pattern =>
      obtain ⟨g, hg, hatoms⟩ : ∃ g, clausesFrom e group (.orLike c pattern :: d) =
            clausesFrom e (some g) d ∧
          g.atoms = group.toList.flatMap Clause.atoms ++ [likeAtom c pattern] := by
        cases group with
        | none => exact ⟨_, rfl, rfl⟩
        | some g => exact ⟨_, rfl, by simp [Clause.atoms, Clause.add]⟩
      have hgroup : (some g).toList.flatMap Clause.atoms =
          alternatives e ((run ++ [Predicate.orLike c pattern]).filter Predicate.isPattern) := by
        rw [hfilter, alternatives_append, ← hgroup, Option.toList_some, List.flatMap_singleton]
        exact hatoms
      rw [hcons, ← ih _ (isChain_concat hchain rfl) (some g) hgroup, List.filter_append,
        alternatives_append, List.append_assoc, hg]
      rfl

/-- The comparisons of a condition stand in the order of their predicates. -/
theorem flatMap_atoms_condition (d : Description) (e : Entity) :
    (d.condition e).flatMap Restriction.atoms = d.emission.filterMap (Predicate.atom? e) := by
  have hclauses : (d.clauses e).flatMap Clause.atoms = d.emission.filterMap (Predicate.atom? e) :=
    flatMap_atoms_clausesFrom e d [] .nil none rfl
  rw [← hclauses, condition, Condition.flatMap_atoms_ofFormulas, List.flatMap_map]
  simp only [Clause.atoms_formula]

/-- No comparison is lost or made twice. -/
theorem perm_flatMap_atoms_condition (d : Description) (e : Entity) :
    ((d.condition e).flatMap Restriction.atoms).Perm (d.filterMap (Predicate.atom? e)) := by
  have hasks : (d.filter fun p => (p.atom? e).isSome).filterMap (Predicate.atom? e) =
      d.filterMap (Predicate.atom? e) := by
    rw [List.filterMap_filter]
    refine List.filterMap_congr fun p _ => ?_
    cases p.atom? e <;> rfl
  rw [flatMap_atoms_condition, ← hasks]
  exact (d.perm_emission e).filterMap _

end Description

/-! ## Scopes that filter -/

/-- All rows of an entity. -/
def Entity.rows (e : Entity) : Select := .all e.table e.columnNames

/-- Scopes that change a query by what has to hold too, and by nothing else. -/
def Scopes.OnlyFilter (scopes : Scopes Select) : Prop :=
  ∀ name s v t, scopes.run? name s v = some t → ∃ cs, t = s.filterAll cs

namespace Description

/-- Whether every scope that is called is registered. -/
def CallsKnown (d : Description) (scopes : Scopes Select) : Prop :=
  ∀ name v, Predicate.scopeCall name v ∈ d → scopes.contains name = true

/-- What the orders of a description ask for. -/
def orderTerms (d : Description) : List (ColumnRef × Direction) :=
  d.filterMap fun p => match p with
    | .orderBy c dir => some (⟨none, c⟩, dir)
    | _ => none

/-- What the scope calls of a description add to the condition of a select, call by call. -/
def scopeConditions (scopes : Scopes Select) (s : Select) : Description → Condition
  | [] => []
  | .orderBy c dir :: ps => scopeConditions scopes (s.orderBy ⟨none, c⟩ dir) ps
  | .scopeCall name v :: ps =>
    match scopes.run? name s v with
    | some t => t.condition.drop s.condition.length ++ scopeConditions scopes t ps
    | none => scopeConditions scopes s ps
  | _ :: ps => scopeConditions scopes s ps

variable {d : Description} {scopes : Scopes Select}

theorem CallsKnown.tail {p : Predicate} {ps : Description}
    (h : CallsKnown (p :: ps) scopes) : CallsKnown ps scopes :=
  fun name v hp => h name v (List.mem_cons_of_mem _ hp)

/-- Steering through scopes that only filter comes to a select with what they ask for and the orders
of the description added. -/
theorem steer_of_onlyFilter (hs : scopes.OnlyFilter) (hd : d.CallsKnown scopes) (table : String)
    (s : Select) :
    d.steer scopes table s =
      .ok { s with
        condition := s.condition ++ d.scopeConditions scopes s
        order := s.order ++ d.orderTerms } := by
  induction d generalizing s with
  | nil => simp [steer, scopeConditions, orderTerms]
  | cons p ps ih =>
    have ih := ih hd.tail
    cases p with
    | equals c v => exact ih s
    | compare c op v => exact ih s
    | like c pattern => exact ih s
    | orLike c pattern => exact ih s
    | orderBy c dir =>
      rw [steer, ih]
      simp [scopeConditions, orderTerms, Select.orderBy]
    | scopeCall name v =>
      have hk := hd name v List.mem_cons_self
      obtain ⟨t, ht⟩ : ∃ t, scopes.run? name s v = some t := by
        rw [SortedTable.contains_eq_isSome, Option.isSome_iff_exists] at hk
        obtain ⟨scope, hscope⟩ := hk
        exact ⟨scope s v, by rw [Scopes.run?, hscope]; rfl⟩
      obtain ⟨cs, rfl⟩ := hs name s v t ht
      rw [steer, ht]
      simp [ih, scopeConditions, ht, orderTerms, Select.filterAll]

/-- Steering comes to a select only where every scope that is called is registered. -/
theorem CallsKnown.of_steer {table : String} {s t : Select}
    (h : d.steer scopes table s = .ok t) : d.CallsKnown scopes := by
  induction d generalizing s with
  | nil =>
    intro name v hp
    cases hp
  | cons p ps ih =>
    cases p with
    | equals _ _ | compare _ _ _ | like _ _ | orLike _ _ | orderBy _ _ =>
      intro name v hp
      exact ih h name v (by simpa using hp)
    | scopeCall name v =>
      rw [steer] at h
      cases hr : scopes.run? name s v with
      | none => simp [hr] at h
      | some u =>
        rw [hr] at h
        intro name' v' hp
        rcases List.mem_cons.1 hp with hp | hp
        · cases hp
          obtain ⟨scope, hscope, -⟩ := Option.map_eq_some_iff.1 hr
          rw [SortedTable.contains_eq_isSome, hscope, Option.isSome_some]
        · exact ih h name' v' hp

theorem CallsKnown.of_apply {e : Entity} {s t : Select} (h : d.apply e scopes s = .ok t) :
    d.CallsKnown scopes := by
  rw [apply] at h
  cases hsteer : d.steer scopes e.table s with
  | ok u => exact .of_steer hsteer
  | error r => simp [hsteer, Except.map] at h

/-- A description with scopes that only filter comes to a select: what the scopes ask for, then the
condition of the description, and its orders. -/
theorem apply_of_onlyFilter (hs : scopes.OnlyFilter) (hd : d.CallsKnown scopes) (e : Entity)
    (s : Select) :
    d.apply e scopes s =
      .ok { s with
        condition := s.condition ++ d.scopeConditions scopes s ++ d.condition e
        order := s.order ++ d.orderTerms } := by
  rw [apply, steer_of_onlyFilter hs hd]
  rfl

end Description
end ListQuery
