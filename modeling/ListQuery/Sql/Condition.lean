import ListQuery.Predicate
import ListQuery.Sql.Token

/-!
Conditions: tests of columns, joined by `AND`, `OR` and `NOT`. Operands are put in parentheses
unless it is known that they bind tighter. The condition of a select grows step by step: what is
added to formulas that all have to hold joins them one by one, and what is added to alternatives is
one formula beside them.
-/
namespace ListQuery.Sql

/-- A column, of a named table or of the only one. -/
structure ColumnRef where
  table : Option String
  column : String
  deriving DecidableEq

/-- What a comparison asks of a column and a value. -/
inductive Relation where
  | equal
  | range (operator : Operator)
  | like
  deriving DecidableEq

def Relation.symbol : Relation → String
  | .equal => "="
  | .range op => op.symbol
  | .like => "LIKE"

/-- What is asked of a column. -/
inductive Test where
  | compare (relation : Relation) (value : Datum)
  | null (negated : Bool)
  /-- The column is one of these values, or none of them. -/
  | among (negated : Bool) (first : Datum) (others : List Datum)
  | between (negated : Bool) (low high : Datum)
  deriving DecidableEq

namespace Test

/-- The bound values, in the order of the text. -/
def values : Test → List Datum
  | .compare _ v => [v]
  | .null _ => []
  | .among _ first others => first :: others
  | .between _ low high => [low, high]

/-- Whether a test is put in parentheses beside others. -/
def isWide : Test → Bool
  | .between _ _ _ => true
  | _ => false

end Test

/-- A test of a column. -/
structure Atom where
  column : ColumnRef
  test : Test
  deriving DecidableEq

namespace Atom

/-- The comparison of a column with a bound value. -/
def compare (column : ColumnRef) (relation : Relation) (value : Datum) : Atom :=
  ⟨column, .compare relation value⟩

def values (a : Atom) : List Datum := a.test.values

end Atom

/-! ## Formulas -/

/-- What has to hold of a row. -/
inductive Formula where
  | atom (a : Atom)
  | not (f : Formula)
  | and (f g : Formula)
  | or (f g : Formula)
  deriving DecidableEq

namespace Formula

/-- Whether a formula needs no parentheses as an operand. -/
def isNarrow : Formula → Bool
  | .atom a => !a.test.isWide
  | _ => false

/-- Whether a formula needs no parentheses in front of `AND`. -/
def leadsAnd : Formula → Bool
  | .and _ _ => true
  | f => f.isNarrow

/-- Whether a formula needs no parentheses in front of `OR`. -/
def leadsOr : Formula → Bool
  | .or _ _ => true
  | f => f.isNarrow

end Formula

/-- Alternatives, of which there is at least one. -/
structure Clause where
  first : Atom
  others : List Atom
  deriving DecidableEq

namespace Clause

def single (a : Atom) : Clause := ⟨a, []⟩

def atoms (c : Clause) : List Atom := c.first :: c.others

def add (c : Clause) (a : Atom) : Clause := ⟨c.first, c.others ++ [a]⟩

/-- One of the alternatives has to hold. -/
def formula (c : Clause) : Formula :=
  c.others.foldl (fun f a => .or f (.atom a)) (.atom c.first)

end Clause

/-! ## Conditions -/

/-- What is added to a condition in one step: formulas that all have to hold, or a formula that is
kept apart from what is added later, as alternatives are. -/
inductive Restriction where
  | all (first : Formula) (others : List Formula)
  | apart (f : Formula)
  deriving DecidableEq

namespace Restriction

def single (a : Atom) : Restriction := .all (.atom a) []

def formula : Restriction → Formula
  | .all first others => others.foldl .and first
  | .apart f => f

/-- Adds to formulas that all have to hold. -/
def joinTo (before : Formula) : Restriction → Formula
  | .all first others => (first :: others).foldl .and before
  | .apart f => .and before f

end Restriction

/-- A condition: what was added to it, step by step. -/
abbrev Condition := List Restriction

namespace Condition

/-- The condition of formulas that are added in one step and all have to hold. -/
def ofFormulas : List Formula → Condition
  | [] => []
  | f :: fs => [.all f fs]

/-- The formula of a condition; none if nothing was added. If what was added first stays apart, what
was added next is one formula beside it; from then on all has to hold. -/
def formula? : Condition → Option Formula
  | [] => none
  | .apart f :: c :: cs => some (cs.foldl Restriction.joinTo (.and f c.formula))
  | c :: cs => some (cs.foldl Restriction.joinTo c.formula)

end Condition

/-! ## Tokens -/

def ColumnRef.tokens (c : ColumnRef) : List Token :=
  match c.table with
  | some t => [.name t, .word ".", .name c.column]
  | none => [.name c.column]

def Test.tokens : Test → List Token
  | .compare relation v => [.word (" " ++ relation.symbol ++ " "), .value v]
  | .null negated => [.word (if negated then " IS NOT NULL" else " IS NULL")]
  | .among negated first others =>
    .word (if negated then " NOT IN (" else " IN (") ::
      joinTokens ", " ((first :: others).map fun v => [.value v]) ++ [.word ")"]
  | .between negated low high =>
    [.word (if negated then " NOT BETWEEN " else " BETWEEN "), .value low, .word " AND ",
      .value high]

def Atom.tokens (a : Atom) : List Token := a.column.tokens ++ a.test.tokens

/-- An operand, in parentheses unless it stands bare. -/
def operandTokens (bare : Bool) (ts : List Token) : List Token :=
  if bare then ts else .word "(" :: ts ++ [.word ")"]

def Formula.tokens : Formula → List Token
  | .atom a => a.tokens
  | .not f => .word "NOT " :: operandTokens f.isNarrow f.tokens
  | .and f g =>
    operandTokens f.leadsAnd f.tokens ++ .word " AND " :: operandTokens g.isNarrow g.tokens
  | .or f g =>
    operandTokens f.leadsOr f.tokens ++ .word " OR " :: operandTokens g.isNarrow g.tokens

def whereTokens (cs : Condition) : List Token :=
  match cs.formula? with
  | some f => .word " WHERE " :: f.tokens
  | none => []

end ListQuery.Sql
