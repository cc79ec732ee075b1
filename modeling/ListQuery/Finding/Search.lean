import ListQuery.Finding.Basic
import ListQuery.Params.Basic

/-!
Searches: the term of `search` matched anywhere in the column that `search_by` names, or in any of
the allowed columns.
-/
namespace ListQuery.Rules

/-- One pattern for several columns, as a group of alternatives. -/
def searchGroup (pattern : String) : List String → Findings
  | [] => []
  | column :: columns =>
    .emit (.like column pattern) :: columns.map fun c => .emit (.orLike c pattern)

def search (r : Rules) (params : Params) : Findings :=
  match params.text? "search" with
  | none => if params.filled "search" then [.omit .nonScalarSearch] else []
  | some term =>
    let pattern := containsPattern term
    match params.text? "search_by" with
    | some column =>
      r.guarded r.config.checkAllColumns column [.emit (.like column pattern)] []
    | none => searchGroup pattern r.allowed

end ListQuery.Rules
