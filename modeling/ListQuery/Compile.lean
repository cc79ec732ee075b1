import ListQuery.Schema
import ListQuery.Finding.ExactMatch
import ListQuery.Finding.Range
import ListQuery.Finding.Search
import ListQuery.Finding.Order
import ListQuery.Finding.ScopeCall

/-!
Compiling: the parameters of a request become a description of the query, or an error. Exact
matches come first, then ranges, the search, the order and the scopes, each in the order of the
request. Nothing of a description is kept when it fails.
-/
namespace ListQuery

/-- All that is found in a request. -/
def Rules.findings (r : Rules) (params : Params) : Findings :=
  r.exactMatches (params.columnMatches r.config.ranges) ++ r.ranges params ++ r.search params ++
    r.order params ++ r.scopeCalls params

namespace Config

/-- What a configuration holds requests for a schema against. -/
def rules (c : Config) (schema : Schema) (knowsScope : String → Bool) : Rules :=
  ⟨c, schema.table, schema.allowed c.source, knowsScope⟩

/-- The description of a request, or why there is none. -/
def compile (c : Config) (schema : Schema) (knowsScope : String → Bool) (params : Params) :
    Except Error Description :=
  let rules := c.rules schema knowsScope
  if rules.allowed.isEmpty then .error (.schema (.noColumn schema.table))
  else (rules.findings params).collect c.lenient

/-- What compiling notes in the log. -/
def compileEvents (c : Config) (schema : Schema) (knowsScope : String → Bool) (params : Params) :
    List Event :=
  let rules := c.rules schema knowsScope
  if rules.allowed.isEmpty then []
  else
    let findings := rules.findings params
    findings.events c.lenient schema.table ++
      match findings.collect c.lenient with
      | .ok d => [.compiled schema.table d.length]
      | .error _ => []

end Config
end ListQuery
