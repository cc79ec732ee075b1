import ListQuery.Compile
import ListQuery.Application
import ListQuery.Paging.Page

/-!
Resources: entities as requests see them, with the columns that may be filled or are hidden, the
scopes, and the page size.
-/
namespace ListQuery

open Sql

structure Resource where
  entity : Entity
  /-- The name of the table that the resource asks its entity for. -/
  table : String := entity.table
  idColumn : String := "id"
  /-- The page size; the configuration gives it where the resource does not. -/
  perPage : Option UInt64 := none
  fillable : List String := []
  hidden : List String := []
  scopes : Scopes Select := .empty

/-- The schema of a descriptor, from a listing of the columns of each table. -/
def Descriptor.schema (d : Descriptor)
    (listing : String → Except SchemaFault (List String)) : Except Error Schema :=
  match listing d.table with
  | .ok columns => .ok (.ofDescriptor d columns)
  | .error f => .error (.schema f)

namespace Resource

def descriptor (r : Resource) : Descriptor := ⟨r.table, r.idColumn, r.fillable, r.hidden⟩

def schema (r : Resource) : Except Error Schema := r.descriptor.schema r.entity.listing

/-- The page size of a request that gives none; never zero. -/
def pageSize (r : Resource) (c : Config) : UInt64 := max (r.perPage.getD c.perPage) 1

/-- All rows of the entity. -/
def all (r : Resource) : Select := .all r.entity.table r.entity.columnNames

end Resource

namespace Config

/-- The select of a request for a resource, not yet run. -/
def select (c : Config) (r : Resource) (params : Params) : Except Error Select := do
  let schema ← r.schema
  let description ← c.compile schema r.scopes.contains params
  (description.apply r.entity r.scopes r.all).mapError .rejected

/-- What making the select of a request notes in the log. -/
def selectEvents (c : Config) (r : Resource) (params : Params) : List Event :=
  match r.schema with
  | .ok schema => c.compileEvents schema r.scopes.contains params
  | .error _ => []

/-- The page that a request for a resource asks for. -/
def pageRequest (c : Config) (r : Resource) (params : Params) : PageRequest :=
  .ofControl params.control (r.pageSize c)

end Config
end ListQuery
