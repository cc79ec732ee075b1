import ListQuery.Sql.Datum

/-!
Statements as tokens. A statement is fixed words, quoted names and placeholders; its text and its
bound values are read off the same tokens, so that each placeholder has its value.
-/
namespace ListQuery.Sql

/-- How a database quotes names and writes placeholders. -/
inductive Dialect where
  | sqlite
  | postgres
  | mysql
  deriving DecidableEq, Repr

namespace Dialect

def quote : Dialect → Char
  | .mysql => '\x60'
  | .sqlite => '"'
  | .postgres => '"'

/-- The placeholder of the value in place `n`, counted from one. -/
def placeholder (d : Dialect) (n : Nat) : List Char :=
  match d with
  | .postgres => '$' :: Nat.toDigits 10 n
  | .sqlite => ['?']
  | .mysql => ['?']

/-- A name between quotes, the quotes in it doubled. -/
def quoteName (d : Dialect) (name : String) : List Char :=
  d.quote :: name.toList.flatMap (fun c => if c = d.quote then [c, c] else [c]) ++ [d.quote]

end Dialect

inductive Token where
  /-- Fixed text of the language, with its spaces. -/
  | word (text : String)
  | name (name : String)
  | value (datum : Datum)
  deriving DecidableEq

/-- A statement as it is sent: its text, and the values of its placeholders in order. -/
structure Statement where
  sql : String
  values : List Datum
  deriving DecidableEq

namespace Token

def datum? : Token → Option Datum
  | .value d => some d
  | .word _ => none
  | .name _ => none

end Token

/-- The characters of tokens before which `n` placeholders stand. -/
def renderAfter (d : Dialect) (n : Nat) : List Token → List Char
  | [] => []
  | .word w :: ts => w.toList ++ renderAfter d n ts
  | .name s :: ts => d.quoteName s ++ renderAfter d n ts
  | .value _ :: ts => d.placeholder (n + 1) ++ renderAfter d (n + 1) ts

/-- The statement that tokens make. -/
def Statement.ofTokens (d : Dialect) (ts : List Token) : Statement :=
  ⟨.ofList (renderAfter d 0 ts), ts.filterMap Token.datum?⟩

/-- Runs of tokens with a separator between each two. -/
def joinTokens (separator : String) : List (List Token) → List Token
  | [] => []
  | [ts] => ts
  | ts :: rest => ts ++ .word separator :: joinTokens separator rest

end ListQuery.Sql
