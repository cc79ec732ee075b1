import ListQuery.Error

/-!
Entities: the tables of a database with their columns, and the spellings under which a request may
name a column.
-/
namespace ListQuery

inductive ColumnType where
  | tinyInteger
  | smallInteger
  | integer
  | bigInteger
  | tinyUnsigned
  | smallUnsigned
  | unsigned
  | bigUnsigned
  | float
  | double
  | decimal
  | boolean
  | uuid
  | string
  | text
  | char
  | json
  | binary
  | dateTime
  deriving DecidableEq, Repr

namespace ColumnType

/-- Whether the type holds whole numbers. -/
def isInteger : ColumnType → Bool
  | .tinyInteger | .smallInteger | .integer | .bigInteger => true
  | .tinyUnsigned | .smallUnsigned | .unsigned | .bigUnsigned => true
  | _ => false

def isFractional : ColumnType → Bool
  | .float | .double | .decimal => true
  | _ => false

def isTextual : ColumnType → Bool
  | .string | .text | .char => true
  | _ => false

end ColumnType

/-- A column: the name of its field, with words joined by underscores, and its name in the
table. -/
structure Column where
  field : String
  name : String := field
  type : ColumnType
  deriving DecidableEq, Repr

/-- Words joined by capitals instead of underscores. `raise` says that the next letter begins a
word. -/
def camelFrom (raise : Bool) : List Char → List Char
  | [] => []
  | c :: cs =>
    if c = '_' then camelFrom true cs
    else (if raise then c.toUpper else c) :: camelFrom false cs

def lowerCamel (field : String) : String := .ofList (camelFrom false field.toList)

/-- Whether a request may call the column by this name: its field, the field in camel case, or its
name in the table. -/
def Column.answersTo (c : Column) (name : String) : Bool :=
  name = c.field || name = lowerCamel c.field || name = c.name

structure Entity where
  table : String
  columns : List Column
  deriving DecidableEq, Repr

namespace Entity

def columnNames (e : Entity) : List String := e.columns.map Column.name

/-- The type of the column that a name calls. -/
def columnType? (e : Entity) (name : String) : Option ColumnType :=
  (e.columns.find? (·.answersTo name)).map Column.type

/-- The columns of the table of the entity, asked for by the name of the table. -/
def listing (e : Entity) (table : String) : Except SchemaFault (List String) :=
  if e.table = table then .ok e.columnNames else .error (.otherTable table e.table)

end Entity

/-- Tables known by name only, each with its columns. A table given again replaces the first. -/
abbrev Catalog := List (String × List String)

/-- The columns of a table of the catalog. -/
def Catalog.listing (c : Catalog) (table : String) : Except SchemaFault (List String) :=
  match c.reverse.find? (·.1 = table) with
  | some t => .ok t.2
  | none => .error (.unknownTable table)

end ListQuery
