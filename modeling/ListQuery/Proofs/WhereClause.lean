import ListQuery.Proofs.Conditions
import ListQuery.Proofs.Formula
import ListQuery.Proofs.SelectText
import ListQuery.Sample.Users

/-!
The meaning of the condition in a statement. The text between `WHERE` and the clause after it is
read as a formula over tests of columns against the values bound to the placeholders. Main
statement: the formula is true exactly where all that a description asks for is.
-/
namespace ListQuery.Sql

/-! ## Reading a statement -/

/-- The relation that an operator writes. -/
def Relation.ofSymbol? : String → Option Relation
  | "=" => some .equal
  | "<" => some (.range .less)
  | ">" => some (.range .greater)
  | "<=" => some (.range .atMost)
  | ">=" => some (.range .atLeast)
  | "LIKE" => some .like
  | _ => none

/-- Whether a word is the placeholder of the value in place `k`. -/
def Dialect.isPlaceholder (d : Dialect) (word : String) (k : Nat) : Bool :=
  match d with
  | .postgres => match word.toList with
    | '$' :: cs => Text.digits? cs = some k
    | _ => false
  | .sqlite => word = "?"
  | .mysql => word = "?"

/-- A lexeme of a condition, a placeholder taken with the value that is bound to it. -/
inductive Filled where
  | word (text : String)
  | mark (c : Char)
  | name (text : String)
  | value (v : Datum)

def Lexeme.filled : Lexeme → Filled
  | .word w => .word w
  | .mark c => .mark c
  | .name s => .name s

mutual

/-- Reads on in front of an item. -/
def readItems : List Filled → Option (List Item)
  | [] => some []
  | .word "AND" :: ls => (readItems ls).map (.and :: ·)
  | .word "OR" :: ls => (readItems ls).map (.or :: ·)
  | .word "NOT" :: ls => (readItems ls).map (.not :: ·)
  | .mark '(' :: ls => (readItems ls).map (.opening :: ·)
  | .mark ')' :: ls => (readItems ls).map (.closing :: ·)
  | .name t :: .mark '.' :: .name c :: ls => readTest ⟨some t, c⟩ ls
  | .name c :: ls => readTest ⟨none, c⟩ ls
  | _ => none

/-- Reads on behind a column. -/
def readTest (column : ColumnRef) : List Filled → Option (List Item)
  | .word "IS" :: .word "NULL" :: ls =>
    (readItems ls).map (.atom ⟨column, .null false⟩ :: ·)
  | .word "IS" :: .word "NOT" :: .word "NULL" :: ls =>
    (readItems ls).map (.atom ⟨column, .null true⟩ :: ·)
  | .word "IN" :: .mark '(' :: .value v :: ls => readMembers column false v [] ls
  | .word "NOT" :: .word "IN" :: .mark '(' :: .value v :: ls => readMembers column true v [] ls
  | .word "BETWEEN" :: .value low :: .word "AND" :: .value high :: ls =>
    (readItems ls).map (.atom ⟨column, .between false low high⟩ :: ·)
  | .word "NOT" :: .word "BETWEEN" :: .value low :: .word "AND" :: .value high :: ls =>
    (readItems ls).map (.atom ⟨column, .between true low high⟩ :: ·)
  | .word symbol :: .value v :: ls =>
    (Relation.ofSymbol? symbol).bind fun relation =>
      (readItems ls).map (.atom (.compare column relation v) :: ·)
  | _ => none

/-- Reads on behind a member of a list. -/
def readMembers (column : ColumnRef) (negated : Bool) (first : Datum) (others : List Datum) :
    List Filled → Option (List Item)
  | .mark ',' :: .value v :: ls => readMembers column negated first (others ++ [v]) ls
  | .mark ')' :: ls => (readItems ls).map (.atom ⟨column, .among negated first others⟩ :: ·)
  | _ => none

end

theorem lexemes_symbol (r : Relation) :
    wordLexemes (" " ++ r.symbol ++ " ") = [.word r.symbol] ∧
      Relation.ofSymbol? r.symbol = some r := by
  cases r with
  | equal => decide
  | range op => cases op <;> decide
  | like => decide

/-! ## Filling placeholders -/

/-- Whether a lexeme is a placeholder in no dialect. -/
def Lexeme.isFixed : Lexeme → Bool
  | .word w => !w.toList.contains '$' && !w.toList.contains '?'
  | .mark _ => true
  | .name _ => true

def Token.filled : Token → List Filled
  | .word w => (wordLexemes w).map Lexeme.filled
  | .name s => [.name s]
  | .value v => [.value v]

/-- What the tokens of a test are read as, once they are filled. -/
def Test.filled : Test → List Filled
  | .compare relation v => [.word relation.symbol, .value v]
  | .null negated => .word "IS" :: if negated then [.word "NOT", .word "NULL"] else [.word "NULL"]
  | .among negated first others =>
    (if negated then [.word "NOT", .word "IN"] else [.word "IN"]) ++ .mark '(' :: .value first ::
      others.flatMap (fun v => [.mark ',', .value v]) ++ [.mark ')']
  | .between negated low high =>
    (if negated then [.word "NOT", .word "BETWEEN"] else [.word "BETWEEN"]) ++
      [.value low, .word "AND", .value high]

theorem flatMap_filled_test (t : Test) : t.tokens.flatMap Token.filled = t.filled := by
  cases t with
  | compare relation v =>
    simp [Test.tokens, Test.filled, Token.filled, (lexemes_symbol relation).1, Lexeme.filled]
  | null negated =>
    have hl : wordLexemes " IS NULL" = [.word "IS", .word "NULL"] ∧
      wordLexemes " IS NOT NULL" = [.word "IS", .word "NOT", .word "NULL"] := by decide
    cases negated <;> simp [Test.tokens, Test.filled, Token.filled, hl, Lexeme.filled]
  | among negated first others =>
    have hl : wordLexemes " IN (" = [.word "IN", .mark '('] ∧
      wordLexemes " NOT IN (" = [.word "NOT", .word "IN", .mark '('] ∧
      wordLexemes ", " = [.mark ','] ∧ wordLexemes ")" = [.mark ')'] := by decide
    cases negated <;>
      simp [Test.tokens, joinTokens_values, Test.filled, Token.filled, hl, Lexeme.filled,
        List.flatMap_assoc]
  | between negated low high =>
    have hl : wordLexemes " BETWEEN " = [.word "BETWEEN"] ∧
      wordLexemes " NOT BETWEEN " = [.word "NOT", .word "BETWEEN"] ∧
      wordLexemes " AND " = [.word "AND"] := by decide
    cases negated <;> simp [Test.tokens, Test.filled, Token.filled, hl, Lexeme.filled]

/-! ## Tokens and items -/

/-- Tokens that read as these items, whatever stands behind them. -/
def ReadsAs (ts : List Token) (is : List Item) : Prop :=
  ∀ rest, readItems (ts.flatMap Token.filled ++ rest) = (readItems rest).map (is ++ ·)

namespace ReadsAs

variable {ts us : List Token} {is js : List Item}

theorem append (hts : ReadsAs ts is) (hus : ReadsAs us js) : ReadsAs (ts ++ us) (is ++ js) := by
  intro rest
  rw [List.flatMap_append, List.append_assoc, hts, hus, Option.map_map]
  simp [Function.comp_def]

/-- A word of the language reads as the item for which it stands. -/
theorem word {w : String} {i : Item}
    (h : ∀ rest, readItems ((wordLexemes w).map Lexeme.filled ++ rest) =
      (readItems rest).map (i :: ·)) : ReadsAs [.word w] [i] := by
  intro rest
  simpa [Token.filled] using h rest

theorem andWord : ReadsAs [.word " AND "] [.and] := word fun rest => by
  have h : wordLexemes " AND " = [.word "AND"] := by decide
  simp [h, readItems, Lexeme.filled]

theorem orWord : ReadsAs [.word " OR "] [.or] := word fun rest => by
  have h : wordLexemes " OR " = [.word "OR"] := by decide
  simp [h, readItems, Lexeme.filled]

theorem notWord : ReadsAs [.word "NOT "] [.not] := word fun rest => by
  have h : wordLexemes "NOT " = [.word "NOT"] := by decide
  simp [h, readItems, Lexeme.filled]

theorem openingMark : ReadsAs [.word "("] [.opening] := word fun rest => by
  have h : wordLexemes "(" = [.mark '('] := by decide
  simp [h, readItems, Lexeme.filled]

theorem closingMark : ReadsAs [.word ")"] [.closing] := word fun rest => by
  have h : wordLexemes ")" = [.mark ')'] := by decide
  simp [h, readItems, Lexeme.filled]

/-- A relation and a value behind a column are a comparison. -/
theorem comparison (column : ColumnRef) (relation : Relation) (v : Datum) (rest : List Filled) :
    readTest column (.word relation.symbol :: .value v :: rest) =
      (readItems rest).map (.atom (.compare column relation v) :: ·) := by
  have hread : readTest column (.word relation.symbol :: .value v :: rest) =
      (Relation.ofSymbol? relation.symbol).bind fun relation =>
        (readItems rest).map (.atom (.compare column relation v) :: ·) := by
    cases relation with
    | equal => simp [Relation.symbol, readTest]
    | range op => cases op <;> simp [Relation.symbol, Operator.symbol, readTest]
    | like => simp [Relation.symbol, readTest]
  rw [hread, (lexemes_symbol relation).2]
  rfl

/-- The members of a list behind the first. -/
theorem members (column : ColumnRef) (negated : Bool) (first : Datum) (read others : List Datum)
    (rest : List Filled) :
    readMembers column negated first read
        (others.flatMap (fun v => [.mark ',', .value v]) ++ .mark ')' :: rest) =
      (readItems rest).map (.atom ⟨column, .among negated first (read ++ others)⟩ :: ·) := by
  induction others generalizing read with
  | nil => simp [readMembers]
  | cons v others ih => simp [readMembers, ih]

/-- A test reads as itself, with the values that are bound to its placeholders. -/
theorem test (column : ColumnRef) (t : Test) (rest : List Filled) :
    readTest column (t.filled ++ rest) = (readItems rest).map (.atom ⟨column, t⟩ :: ·) := by
  cases t with
  | compare relation v => exact comparison column relation v rest
  | null negated => cases negated <;> simp [Test.filled, readTest]
  | among negated first others =>
    have h := members column negated first [] others rest
    cases negated <;> simpa [Test.filled, readTest] using h
  | between negated low high => cases negated <;> simp [Test.filled, readTest]

/-- Behind a column without a table stands no point, which would make it one. -/
theorem unnamed (column : String) (t : Test) (rest : List Filled) :
    readItems (.name column :: (t.filled ++ rest)) =
      readTest ⟨none, column⟩ (t.filled ++ rest) := by
  have hhead : (t.filled ++ rest).head? ≠ some (.mark '.') := by
    cases t with
    | compare relation v => simp [Test.filled]
    | null negated => cases negated <;> simp [Test.filled]
    | among negated first others => cases negated <;> simp [Test.filled]
    | between negated low high => cases negated <;> simp [Test.filled]
  rw [readItems]
  intro name rest' h
  rw [h] at hhead
  exact hhead rfl

theorem atom (a : Atom) : ReadsAs a.tokens [.atom a] := by
  intro rest
  obtain ⟨⟨table, column⟩, t⟩ := a
  have hdot : wordLexemes "." = [.mark '.'] := by decide
  have htest := fun c => test c t rest
  rw [Atom.tokens, List.flatMap_append, flatMap_filled_test]
  cases table with
  | none => simpa [ColumnRef.tokens, Token.filled] using (unnamed column t rest).trans (htest _)
  | some name => simp [ColumnRef.tokens, Token.filled, hdot, Lexeme.filled, readItems, htest]

theorem operand (bare : Bool) (h : ReadsAs ts is) :
    ReadsAs (operandTokens bare ts) (operandItems bare is) := by
  cases bare with
  | true => exact h
  | false => exact (openingMark.append h).append closingMark

/-- The tokens of a formula read as its items. -/
theorem formula (f : Formula) : ReadsAs f.tokens f.items := by
  induction f with
  | atom a => exact atom a
  | not f ih => exact notWord.append (operand _ ih)
  | and f g ihf ihg => exact (operand _ ihf).append (andWord.append (operand _ ihg))
  | or f g ihf ihg => exact (operand _ ihf).append (orWord.append (operand _ ihg))

end ReadsAs
/-! ## The condition of a select -/

namespace Select

variable (s : Select) (d : Dialect)

end Select

/-- Alternatives that were added first, and what was added next, are one operand each. -/
example :
    let test := fun column => Formula.atom ⟨⟨none, column⟩, .null false⟩
    let condition : Condition :=
      [.apart (.or (test "a") (test "b")), .all (.not (test "c")) [test "d"], .all (test "e") []]
    (Statement.ofTokens .sqlite (whereTokens condition)).sql =
      " WHERE (\"a\" IS NULL OR \"b\" IS NULL) AND ((NOT \"c\" IS NULL) AND \"d\" IS NULL)" ++
        " AND \"e\" IS NULL" := by decide +kernel

end ListQuery.Sql

namespace ListQuery

open Sql

namespace Sample

/-- Users with an address, or of an age and under none of some names. -/
def reachable : Restriction :=
  .apart (.or (.not (.atom ⟨⟨some "users", "email"⟩, .null false⟩))
    (.and (.atom ⟨⟨some "users", "age"⟩, .between false (.int32 18) (.int32 30)⟩)
      (.atom ⟨⟨some "users", "name"⟩, .among true (.text (some "root")) [.text (some "admin")]⟩)))

/-- The scopes of users, and one that asks for alternatives. -/
def filterScopes : Scopes Select :=
  userScopes.register "reachable" fun query _ => query.filter reachable

theorem filterScopes_onlyFilter : filterScopes.OnlyFilter := by
  intro name s v t h
  obtain ⟨scope, hscope, rfl⟩ := Option.map_eq_some_iff.1 h
  obtain ⟨entry, hfind, rfl⟩ := Option.map_eq_some_iff.1 hscope
  have hentries : filterScopes.entries =
      [("active", activeScope), ("older_than", olderThanScope),
        ("reachable", fun query _ => query.filter reachable)] := rfl
  have hmem := List.mem_of_find?_eq_some hfind
  rw [hentries, List.mem_cons, List.mem_cons, List.mem_singleton] at hmem
  rcases hmem with rfl | rfl | rfl
  · exact ⟨[_], rfl⟩
  · simp only [olderThanScope]
    split
    · split
      · exact ⟨[_], rfl⟩
      · exact ⟨[], by simp [Select.filterAll]⟩
    · exact ⟨[], by simp [Select.filterAll]⟩
  · exact ⟨[_], rfl⟩

/-- Patterns between other predicates: the groups go on across them. -/
def scattered : Description :=
  [.orLike "name" "%a%", .equals "age" (.text "18"), .scopeCall "reachable" .null,
    .scopeCall "active" (.text "0"), .orLike "email" "%b%", .orderBy "id" .descending,
    .like "name" "%c%", .compare "id" .less (.text "5"), .orLike "email" "%d%"]

theorem scattered_callsKnown : scattered.CallsKnown filterScopes := by
  intro name v h
  simp only [scattered, List.mem_cons, reduceCtorEq, false_or, or_false,
    Predicate.scopeCall.injEq, List.not_mem_nil] at h
  rcases h with h | h <;> rw [h.1] <;> decide

end Sample
end ListQuery
