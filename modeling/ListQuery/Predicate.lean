import ListQuery.Value.Text
import ListQuery.Text.Blank
import ListQuery.Text.Casing

/-!
Predicates: what a request asks of a listing, one unit at a time, and the descriptions that list
them in order.
-/
namespace ListQuery

/-- The comparison of a range. -/
inductive Operator where
  | less
  | greater
  | atMost
  | atLeast
  deriving DecidableEq, Repr

namespace Operator

/-- The comparison that a range name stands for; `min` and `max` are second names. -/
def ofName? : String → Option Operator
  | "lt" => some .less
  | "gt" => some .greater
  | "lte" => some .atMost
  | "max" => some .atMost
  | "gte" => some .atLeast
  | "min" => some .atLeast
  | _ => none

def symbol : Operator → String
  | .less => "<"
  | .greater => ">"
  | .atMost => "<="
  | .atLeast => ">="

end Operator

/-- The direction of an order. -/
inductive Direction where
  | ascending
  | descending
  deriving DecidableEq, Repr

namespace Direction

/-- The direction that a text names, in any case and with blanks around it. -/
def read? (raw : String) : Option Direction :=
  match Text.lower (Text.trim raw) with
  | "asc" => some .ascending
  | "desc" => some .descending
  | _ => none

def name : Direction → String
  | .ascending => "asc"
  | .descending => "desc"

end Direction

/-- One unit of a query. A `like` opens a group of alternatives, and the `orLike`s after it join
the group. -/
inductive Predicate where
  | equals (column : String) (value : Value)
  | compare (column : String) (operator : Operator) (value : Value)
  | like (column pattern : String)
  | orLike (column pattern : String)
  | orderBy (column : String) (direction : Direction)
  | scopeCall (scope : String) (value : Value)

/-- What one request asks, in order. -/
abbrev Description := List Predicate

/-- The pattern that finds a term anywhere in a text. -/
def containsPattern (term : String) : String := "%" ++ term ++ "%"

def Predicate.toText : Predicate → String
  | .equals c v => "where " ++ c ++ " = " ++ v.toText
  | .compare c op v => "where " ++ c ++ " " ++ op.symbol ++ " " ++ v.toText
  | .like c p => "where " ++ c ++ " like '" ++ p ++ "'"
  | .orLike c p => "or where " ++ c ++ " like '" ++ p ++ "'"
  | .orderBy c d => "order by " ++ c ++ " " ++ d.name
  | .scopeCall s v => "scope " ++ s ++ "(" ++ v.toText ++ ")"

/-- A predicate as a value: its kind, then its fields. -/
def Predicate.toValue : Predicate → Value
  | .equals c v => .map [("kind", .text "equals"), ("column", .text c), ("value", v)]
  | .compare c op v =>
    .map [("kind", .text "compare"), ("column", .text c), ("operator", .text op.symbol),
      ("value", v)]
  | .like c p => .map [("kind", .text "like"), ("column", .text c), ("pattern", .text p)]
  | .orLike c p => .map [("kind", .text "or_like"), ("column", .text c), ("pattern", .text p)]
  | .orderBy c d =>
    .map [("kind", .text "order_by"), ("column", .text c), ("direction", .text d.name)]
  | .scopeCall s v => .map [("kind", .text "scope_call"), ("scope", .text s), ("value", v)]

def Description.toText (d : Description) : String :=
  "; ".intercalate (d.map Predicate.toText)

def Description.toValue (d : Description) : Value := .list (d.map Predicate.toValue)

end ListQuery
