import ListQuery.Finding.Basic
import ListQuery.Params.Basic

/-!
Scope calls: one for every filled entry of `scopes` that names a known scope.
-/
namespace ListQuery.Rules

/-- What one requested scope comes to. -/
def scopeCall (r : Rules) (name : String) (value : Value) : Findings :=
  if !value.isFilled then []
  else if r.knowsScope name then [.emit (.scopeCall name value)]
  else [.refuse (.unknownScope name r.table)]

def scopeCalls (r : Rules) (params : Params) : Findings :=
  ((params.map? "scopes").getD []).flatMap fun e => r.scopeCall e.1 e.2

end ListQuery.Rules
