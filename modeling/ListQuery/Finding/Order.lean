import ListQuery.Finding.Basic
import ListQuery.Params.Basic

/-!
Orders: every request comes to exactly one. Without `order_by` it is the default column, ascending;
a direction that is none is refused and counts as ascending.
-/
namespace ListQuery.Rules

/-- The order of a request that names no allowed column. -/
def defaultOrder (r : Rules) : Finding := .emit (.orderBy r.config.sortColumn .ascending)

/-- The direction that a request asks for, and what is found wrong with it. -/
def direction (params : Params) : Direction × Findings :=
  match params.text? "order" with
  | none => (.ascending, [])
  | some raw => match Direction.read? raw with
    | some d => (d, [])
    | none => (.ascending, [.refuse (.invalidParameter "order")])

def order (r : Rules) (params : Params) : Findings :=
  match params.text? "order_by" with
  | none => [r.defaultOrder]
  | some raw =>
    let column := Text.lower (Text.trim raw)
    let (direction, faults) := direction params
    faults ++ r.guarded r.config.checkAllColumns column [.emit (.orderBy column direction)]
      [r.defaultOrder]

end ListQuery.Rules
