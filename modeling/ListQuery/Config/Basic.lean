import ListQuery.Value.Basic

/-!
How requests are compiled: which names are checked, which columns count as allowed, and what is
taken where a request says nothing.
-/
namespace ListQuery

/-- The columns that form the allow-list. -/
inductive ColumnSource where
  /-- Every column of the table that is not hidden. -/
  | queryable
  /-- The id column and the fillable columns that are not hidden. -/
  | searchable
  deriving DecidableEq, Repr

namespace ColumnSource

def name : ColumnSource → String
  | .queryable => "queryable"
  | .searchable => "searchable"

def ofName? : String → Option ColumnSource
  | "queryable" => some .queryable
  | "searchable" => some .searchable
  | _ => none

end ColumnSource

structure Config where
  /-- Pass over parameters and scopes that are not allowed instead of failing. -/
  lenient : Bool
  /-- Read `lt`, `gt`, `lte`, `gte`, `min` and `max` as ranges. -/
  ranges : Bool
  /-- Hold the names of exact matches against the allow-list. -/
  checkMatches : Bool
  /-- Hold the columns of ranges, searches and orders against it too. -/
  checkAllColumns : Bool
  source : ColumnSource
  /-- The order of a listing whose request names none. -/
  sortColumn : String
  /-- The page size of a listing whose request names none. -/
  perPage : UInt64
  deriving DecidableEq, Repr

namespace Config

/-- Ranges, and checks on exact matches. -/
def extended : Config := ⟨true, true, true, false, .queryable, "created_at", 15⟩

/-- No ranges and no checks, searching the id column and the fillable ones. -/
def basic : Config :=
  { extended with ranges := false, checkMatches := false, source := .searchable }

/-- Fail on the first parameter or scope that is not allowed. -/
def strict (c : Config) : Config := { c with lenient := false }

/-- A configuration as a value, its settings under their outer names. -/
def toValue (c : Config) : Value :=
  .map [("ignore_invalid_parameters", .bool c.lenient),
    ("range_operators", .bool c.ranges),
    ("validate_parameters", .bool c.checkMatches),
    ("validate_all_columns", .bool c.checkAllColumns),
    ("column_source", .text c.source.name),
    ("default_sort_column", .text c.sortColumn),
    ("default_per_page", .number (.ofUInt64 c.perPage))]

end Config
end ListQuery
