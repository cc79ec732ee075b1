import ListQuery.Config.Basic
import ListQuery.SortedTable

/-!
Schemas: what a resource declares about its columns, joined with what its table has. A schema
yields the allow-list, the columns that a request may name.
-/
namespace ListQuery

/-- What a resource declares about itself. -/
structure Descriptor where
  table : String
  idColumn : String := "id"
  fillable : List String := []
  /-- Columns that may never be matched, searched or shown. -/
  hidden : List String := []
  deriving DecidableEq, Repr

structure Schema where
  table : String
  idColumn : String
  columns : List String
  fillable : List String
  hidden : NameSet

namespace Schema

/-- The schema of a resource whose table has these columns. -/
def ofDescriptor (d : Descriptor) (columns : List String) : Schema :=
  ⟨d.table, d.idColumn, columns, d.fillable, .ofList d.hidden⟩

/-- The columns of the table that are not hidden, in table order. -/
def queryable (s : Schema) : List String := s.columns.filter fun c => !s.hidden.contains c

/-- Appends the columns that are neither hidden nor listed already. -/
def addVisible (hidden : NameSet) (listed : List String) : List String → List String
  | [] => listed
  | c :: cs =>
    if hidden.contains c || listed.contains c then addVisible hidden listed cs
    else addVisible hidden (listed ++ [c]) cs

/-- The id column and the fillable ones that are not hidden, each once, where it comes first. -/
def searchable (s : Schema) : List String := addVisible s.hidden [] (s.idColumn :: s.fillable)

/-- The allow-list. -/
def allowed (s : Schema) : ColumnSource → List String
  | .queryable => s.queryable
  | .searchable => s.searchable

end Schema
end ListQuery
