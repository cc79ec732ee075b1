import ListQuery.Entity
import ListQuery.Value.Text
import ListQuery.Sql.Datum
import ListQuery.Text.Casing

/-!
Binding: the values of a request become data of a statement. A text is read by the type of its
column where the column is known and the text fits, so that `"18"` binds as an integer for an
integer column; anything else binds as what it is.
-/
namespace ListQuery

open Sql

/-- A text as data of a column type, blanks around it dropped. Types not listed take no text. -/
def ColumnType.readText? (type : ColumnType) (trimmed : String) : Option Datum :=
  if type.isInteger then (Text.readInt64? trimmed).map .int64
  else if type.isFractional then (Decimal.readBinary64? trimmed).map .double
  else if type.isTextual then some (.text (some trimmed))
  else match type with
    | .boolean =>
      let word := Text.lower trimmed
      if ["1", "true"].contains word then some (.bool true)
      else if ["0", "false"].contains word then some (.bool false)
      else none
    | .uuid => (Uuid.read? trimmed).map .uuid
    | _ => none

/-- A number as data: signed where it fits, unsigned or double otherwise. -/
def Number.datum : Number → Datum
  | .integer n _ => if n < 0x8000000000000000 then .int64 (.ofInt n) else .uint64 (.ofNat n.toNat)
  | .double x _ => .double x

/-- A value as data of no known type. A text that is a unique identifier binds as one, and lists
and maps bind as text. -/
def Value.datum : Value → Datum
  | .text s => match Uuid.read? (Text.trim s) with
    | some u => .uuid u
    | none => .text (some s)
  | .number n => n.datum
  | .bool b => .bool b
  | .null => .text none
  | .list items => .text (some (Value.list items).toText)
  | .map entries => .text (some (Value.map entries).toText)

/-- A value as data for a column of an entity. -/
def Entity.bind (e : Entity) (column : String) (value : Value) : Datum :=
  match value with
  | .text s =>
    ((e.columnType? column).bind fun type => type.readText? (Text.trim s)).getD value.datum
  | _ => value.datum

end ListQuery
