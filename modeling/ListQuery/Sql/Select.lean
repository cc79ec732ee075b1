import ListQuery.Sql.Condition

/-!
Selects: the rows of a table that meet a condition, in an order, all or a window of them.
-/
namespace ListQuery.Sql

/-- The rows to take: so many, after so many. -/
structure Window where
  limit : UInt64
  offset : UInt64
  deriving DecidableEq, Repr

structure Select where
  table : String
  columns : List String
  condition : Condition
  order : List (ColumnRef × Direction)
  window : Option Window
  deriving DecidableEq

namespace Select

/-- All rows of a table. -/
def all (table : String) (columns : List String) : Select := ⟨table, columns, [], [], none⟩

/-- Adds what has to hold too. -/
def filter (s : Select) (r : Restriction) : Select := { s with condition := s.condition ++ [r] }

def filterAll (s : Select) (cs : Condition) : Select := { s with condition := s.condition ++ cs }

def orderBy (s : Select) (column : ColumnRef) (direction : Direction) : Select :=
  { s with order := s.order ++ [(column, direction)] }

def inWindow (s : Select) (w : Window) : Select := { s with window := some w }

end Select

def directionWord : Direction → String
  | .ascending => " ASC"
  | .descending => " DESC"

def orderTokens (terms : List (ColumnRef × Direction)) : List Token :=
  if terms.isEmpty then []
  else .word " ORDER BY " ::
    joinTokens ", " (terms.map fun t => t.1.tokens ++ [.word (directionWord t.2)])

def windowTokens : Option Window → List Token
  | none => []
  | some w =>
    [.word " LIMIT ", .value (.uint64 w.limit), .word " OFFSET ", .value (.uint64 w.offset)]

namespace Select

/-- From the first word to the name of the table. -/
def headTokens (s : Select) : List Token :=
  .word "SELECT " ::
    joinTokens ", " (s.columns.map fun c => ColumnRef.tokens ⟨some s.table, c⟩) ++
    [.word " FROM ", .name s.table]

def tokens (s : Select) : List Token :=
  s.headTokens ++ whereTokens s.condition ++ orderTokens s.order ++ windowTokens s.window

/-- The rows of a select without regard to order and window. -/
def unordered (s : Select) : Select := { s with order := [], window := none }

/-- Counts the rows of a select. -/
def countTokens (s : Select) : List Token :=
  .word "SELECT COUNT(*) AS num_items FROM (" :: s.unordered.tokens ++
    [.word ") AS ", .name "sub_query"]

def statement (s : Select) (d : Dialect) : Statement := .ofTokens d s.tokens

def countStatement (s : Select) (d : Dialect) : Statement := .ofTokens d s.countTokens

end Select
end ListQuery.Sql
