import ListQuery.SortedTable
import ListQuery.Value.Basic
import ListQuery.Text.Quoted

/-!
Scopes: named changes of a query that a request may call for with a value.
-/
namespace ListQuery

/-- Scopes by name, over queries of any kind. -/
abbrev Scopes (Q : Type) := SortedTable (Q → Value → Q)

namespace Scopes

variable {Q : Type}

/-- Registers a scope, instead of one of the same name. -/
def register (s : Scopes Q) (name : String) (scope : Q → Value → Q) : Scopes Q :=
  s.insert name scope

/-- The query that a scope makes of a query; none for a scope that is not registered. -/
def run? (s : Scopes Q) (name : String) (query : Q) (value : Value) : Option Q :=
  (s.get? name).map fun scope => scope query value

/-- The registered names, quoted, between braces. -/
def shownNames (s : Scopes Q) : String :=
  "\x7b" ++ ", ".intercalate (s.names.map Text.quoted) ++ "\x7d"

end Scopes
end ListQuery
