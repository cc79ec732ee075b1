import ListQuery.Value.Distinct
import ListQuery.Text.Integer
import ListQuery.Text.Split
import ListQuery.Params.Reserved

/-!
The parameters of a request: an ordered map from names to values. The order is that of the request,
because predicates follow it; a name given again keeps its first place.
-/
namespace ListQuery

/-- Parameters of a request. No map among them names a key twice. -/
structure Params where
  entries : Entries
  distinct : entries.Distinct

namespace Params

def empty : Params := ⟨[], Entries.distinct_nil⟩

/-- Inserts or replaces a parameter; one that is replaced keeps its place. -/
def insert (p : Params) (name : String) (value : Value) : Params :=
  ⟨p.entries.insert name value.tidy, p.distinct.insert name value.distinct_tidy⟩

/-- The parameters that come from inserting the pairs in turn. -/
def ofPairs (pairs : List (String × Value)) : Params :=
  pairs.foldl (fun p e => p.insert e.1 e.2) empty

/-- The entries of a map as parameters. Any other value has none. -/
def ofValue : Value → Params
  | .map entries => ofPairs entries
  | _ => empty

def get? (p : Params) (name : String) : Option Value := p.entries.get? name

def keys (p : Params) : List String := p.entries.keys

def size (p : Params) : Nat := p.entries.length

def isEmpty (p : Params) : Bool := p.entries.isEmpty

end Params

/-- What stands in a value under one segment of a dotted path: the entry of a map, or the element
of a list at a written position. -/
def Value.child? (v : Value) (segment : String) : Option Value :=
  match v with
  | .map entries => Entries.get? entries segment
  | .list items => (Text.readUInt64? segment).bind fun i => items[i.toNat]?
  | _ => none

namespace Params

/-- The segments of a dotted path. -/
def pathSegments (path : String) : List String :=
  (Text.splitOn '.' path.toList).map String.ofList

/-- The value at a dotted path such as `scopes.active`. -/
def getPath? (p : Params) (path : String) : Option Value :=
  match pathSegments path with
  | [] => none
  | name :: segments => (p.get? name).bind fun v => segments.foldlM Value.child? v

/-- Whether something filled stands at a dotted path. -/
def filled (p : Params) (path : String) : Bool := (p.getPath? path).any Value.isFilled

/-- The text of a filled scalar parameter. -/
def text? (p : Params) (name : String) : Option String :=
  ((p.get? name).filter Value.isFilled).bind Value.scalarText?

/-- The entries of a parameter that is a map with at least one. -/
def map? (p : Params) (name : String) : Option Entries :=
  match p.get? name with
  | some (.map (e :: es)) => some (e :: es)
  | _ => none

/-- The entries whose names are not reserved, in the order of the request. -/
def columnMatches (p : Params) (ranges : Bool) : Entries :=
  List.filter (fun e => !isReserved ranges e.1) p.entries

end Params
end ListQuery
