import ListQuery.Binding
import ListQuery.Scope
import ListQuery.Sql.Select

/-!
Applying a description to a select. Equalities and comparisons have to hold together; a `like` and
the `orLike`s after it form one clause of alternatives, whatever stands between them.
-/
namespace ListQuery

open Sql

namespace Entity

/-- The comparison of a column of a request, which belongs to no named table. -/
def atom (e : Entity) (column : String) (relation : Relation) (value : Value) : Atom :=
  .compare ⟨none, column⟩ relation (e.bind column value)

end Entity

/-- The comparison of a column with a pattern. -/
def likeAtom (column pattern : String) : Atom :=
  .compare ⟨none, column⟩ .like (.text (some pattern))

/-- The clauses of a description, in the order in which they are finished. `group` is the clause of
alternatives that is still open; the next `like` or the end finishes it. -/
def clausesFrom (e : Entity) (group : Option Clause) : Description → List Clause
  | [] => group.toList
  | .equals c v :: ps => .single (e.atom c .equal v) :: clausesFrom e group ps
  | .compare c op v :: ps => .single (e.atom c (.range op) v) :: clausesFrom e group ps
  | .like c p :: ps => group.toList ++ clausesFrom e (some (.single (likeAtom c p))) ps
  | .orLike c p :: ps =>
    let a := likeAtom c p
    clausesFrom e (some (match group with | some g => g.add a | none => .single a)) ps
  | .orderBy _ _ :: ps => clausesFrom e group ps
  | .scopeCall _ _ :: ps => clausesFrom e group ps

def Description.clauses (d : Description) (e : Entity) : List Clause := clausesFrom e none d

/-- What a description adds to the condition of a select: all its clauses, in one step. -/
def Description.condition (d : Description) (e : Entity) : Condition :=
  .ofFormulas ((d.clauses e).map Clause.formula)

/-- The select after the orders and scope calls of a description, in their order. Scopes see the
select without the conditions of the description. -/
def Description.steer (scopes : Scopes Select) (table : String) (s : Select) :
    Description → Except Rejection Select
  | [] => .ok s
  | .orderBy c dir :: ps => steer scopes table (s.orderBy ⟨none, c⟩ dir) ps
  | .scopeCall name v :: ps =>
    match scopes.run? name s v with
    | some t => steer scopes table t ps
    | none => .error (.unknownScope name table)
  | _ :: ps => steer scopes table s ps

/-- The select that a description makes of a select of an entity. -/
def Description.apply (d : Description) (e : Entity) (scopes : Scopes Select) (s : Select) :
    Except Rejection Select :=
  (d.steer scopes e.table s).map fun t => t.filterAll (d.condition e)

end ListQuery
