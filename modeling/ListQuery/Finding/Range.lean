import ListQuery.Finding.Basic
import ListQuery.Params.Basic

/-!
Ranges: one comparison for every filled bound in the maps under `lt`, `gt`, `lte`, `gte`, `min` and
`max`, in the order of the request.
-/
namespace ListQuery.Rules

/-- What one bound comes to. -/
def bound (r : Rules) (operator : Operator) (column : String) (value : Value) : Findings :=
  if value.isFilled then
    r.guarded r.config.checkAllColumns column [.emit (.compare column operator value)] []
  else []

/-- What one parameter comes to: its bounds if it is a map under the name of a range. -/
def range (r : Rules) (name : String) (value : Value) : Findings :=
  match Operator.ofName? name, value with
  | none, _ => []
  | some operator, .map bounds => bounds.flatMap fun b => r.bound operator b.1 b.2
  | some _, v => if v.isFilled then [.omit (.nonMapRange name)] else []

def ranges (r : Rules) (params : Params) : Findings :=
  if r.config.ranges then params.entries.flatMap fun e => r.range e.1 e.2 else []

end ListQuery.Rules
