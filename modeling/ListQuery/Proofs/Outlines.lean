import ListQuery.Proofs.Conditions
import ListQuery.Proofs.Lexeme

/-!
Outlines: what is left of tests, conditions and descriptions without their values. Main statement:
the text of a statement is that of the outline, so that no value and no pattern shows in it.
-/
namespace ListQuery.Sql

/-- A token without its value. -/
def Token.blank : Token → Token
  | .value _ => .value (.text none)
  | .word w => .word w
  | .name s => .name s

def Test.blank : Test → Test
  | .compare relation _ => .compare relation (.text none)
  | .null negated => .null negated
  | .among negated _ others => .among negated (.text none) (others.map fun _ => .text none)
  | .between negated _ _ => .between negated (.text none) (.text none)

def Atom.blank (a : Atom) : Atom := ⟨a.column, a.test.blank⟩

def Formula.blank : Formula → Formula
  | .atom a => .atom a.blank
  | .not f => .not f.blank
  | .and f g => .and f.blank g.blank
  | .or f g => .or f.blank g.blank

def Clause.blank (c : Clause) : Clause := ⟨c.first.blank, c.others.map Atom.blank⟩

def Restriction.blank : Restriction → Restriction
  | .all first others => .all first.blank (others.map Formula.blank)
  | .apart f => .apart f.blank

/-- A select without the values of its condition. -/
def Select.blank (s : Select) : Select := { s with condition := s.condition.map Restriction.blank }

/-- The text of a token does not show its value. -/
theorem renderAfter_map_blank (d : Dialect) (n : Nat) (ts : List Token) :
    renderAfter d n (ts.map Token.blank) = renderAfter d n ts := by
  induction ts generalizing n with
  | nil => rfl
  | cons t ts ih => cases t <;> simp [Token.blank, renderAfter, ih]

theorem Test.tokens_blank (t : Test) : t.blank.tokens = t.tokens.map Token.blank := by
  cases t with
  | compare relation v => rfl
  | null negated => rfl
  | among negated first others =>
    rw [blank, tokens, tokens, List.map_cons, List.map_cons, joinTokens_values, joinTokens_values]
    simp [List.flatMap_map, List.map_flatMap, Token.blank, -List.map_const']
  | between negated low high => rfl

theorem Atom.tokens_blank (a : Atom) : a.blank.tokens = a.tokens.map Token.blank := by
  obtain ⟨⟨table, column⟩, t⟩ := a
  cases table <;> simp [tokens, blank, ColumnRef.tokens, t.tokens_blank, Token.blank]

theorem map_operandTokens (bare : Bool) (ts : List Token) :
    (operandTokens bare ts).map Token.blank = operandTokens bare (ts.map Token.blank) := by
  cases bare <;> simp [operandTokens, Token.blank]

namespace Formula

variable (f : Formula)

/-- Parentheses do not depend on values. -/
theorem isNarrow_blank : f.blank.isNarrow = f.isNarrow := by
  cases f with
  | atom a =>
    obtain ⟨column, t⟩ := a
    cases t <;> rfl
  | _ => rfl

theorem leadsAnd_blank : f.blank.leadsAnd = f.leadsAnd := by
  cases f with
  | atom a => exact isNarrow_blank (.atom a)
  | _ => rfl

theorem leadsOr_blank : f.blank.leadsOr = f.leadsOr := by
  cases f with
  | atom a => exact isNarrow_blank (.atom a)
  | _ => rfl

theorem tokens_blank : f.blank.tokens = f.tokens.map Token.blank := by
  induction f with
  | atom a => exact a.tokens_blank
  | not f ih => simp [blank, tokens, isNarrow_blank, ih, map_operandTokens, Token.blank]
  | and f g ihf ihg =>
    simp [blank, tokens, isNarrow_blank, leadsAnd_blank, ihf, ihg, map_operandTokens, Token.blank]
  | or f g ihf ihg =>
    simp [blank, tokens, isNarrow_blank, leadsOr_blank, ihf, ihg, map_operandTokens, Token.blank]

theorem blank_foldl_and (fs : List Formula) (f : Formula) :
    (fs.foldl .and f).blank = (fs.map blank).foldl .and f.blank := by
  induction fs generalizing f with
  | nil => rfl
  | cons g fs ih => exact ih (.and f g)

end Formula

theorem Clause.formula_blank (c : Clause) : c.blank.formula = c.formula.blank := by
  have key : ∀ (others : List Atom) (f : Formula),
      (others.map Atom.blank).foldl (fun f a => .or f (.atom a)) f.blank =
        (others.foldl (fun f a => .or f (.atom a)) f).blank := by
    intro others
    induction others with
    | nil => exact fun _ => rfl
    | cons a others ih => exact fun f => ih (.or f (.atom a))
  exact key c.others (.atom c.first)

namespace Restriction

variable (r : Restriction)

theorem formula_blank : r.blank.formula = r.formula.blank := by
  cases r with
  | all first others => exact (Formula.blank_foldl_and others first).symm
  | apart f => rfl

theorem joinTo_blank (before : Formula) :
    r.blank.joinTo before.blank = (r.joinTo before).blank := by
  cases r with
  | all first others => exact (Formula.blank_foldl_and (first :: others) before).symm
  | apart f => rfl

end Restriction

namespace Condition

theorem foldl_joinTo_blank (cs : Condition) (f : Formula) :
    (cs.map Restriction.blank).foldl Restriction.joinTo f.blank =
      (cs.foldl Restriction.joinTo f).blank := by
  induction cs generalizing f with
  | nil => rfl
  | cons r cs ih =>
    rw [List.map_cons, List.foldl_cons, List.foldl_cons, r.joinTo_blank, ih]

theorem formula?_blank (cs : Condition) :
    formula? (cs.map Restriction.blank) = (formula? cs).map Formula.blank := by
  match cs with
  | [] => rfl
  | [.apart f] => rfl
  | .all first others :: cs =>
    have h := foldl_joinTo_blank cs (Restriction.all first others).formula
    rw [← Restriction.formula_blank] at h
    exact congrArg some h
  | .apart f :: r :: cs =>
    have h := foldl_joinTo_blank cs (.and f r.formula)
    rw [Formula.blank, ← Restriction.formula_blank] at h
    exact congrArg some h

end Condition

theorem whereTokens_blank (cs : Condition) :
    whereTokens (cs.map Restriction.blank) = (whereTokens cs).map Token.blank := by
  rw [whereTokens, whereTokens, Condition.formula?_blank]
  cases cs.formula? with
  | none => rfl
  | some f => exact congrArg (_ :: ·) f.tokens_blank

/-- The text of a select does not show the values of its condition. -/
theorem Select.sql_statement_blank (s : Select) (d : Dialect) :
    (s.blank.statement d).sql = (s.statement d).sql := by
  have h : s.blank.tokens.map Token.blank = s.tokens.map Token.blank := by
    have hb : Token.blank ∘ Token.blank = Token.blank := by
      funext t
      cases t <;> rfl
    simp only [tokens, List.map_append, blank, whereTokens_blank, List.map_map, hb]
    rfl
  rw [statement, statement, Statement.ofTokens, Statement.ofTokens, ← renderAfter_map_blank, h,
    renderAfter_map_blank]

end ListQuery.Sql

namespace ListQuery

open Sql

namespace Predicate

/-- A predicate without the value or the pattern with which it compares. -/
def outline : Predicate → Predicate
  | .equals c _ => .equals c .null
  | .compare c op _ => .compare c op .null
  | .like c _ => .like c ""
  | .orLike c _ => .orLike c ""
  | .orderBy c dir => .orderBy c dir
  | .scopeCall name v => .scopeCall name v

end Predicate

namespace Description

/-- Scopes and orders see a description without its values. -/
theorem steer_outline (d : Description) (scopes : Scopes Select) (table : String) (s : Select) :
    steer scopes table s (d.map Predicate.outline) = d.steer scopes table s := by
  induction d generalizing s with
  | nil => rfl
  | cons p d ih =>
    cases p with
    | orderBy c dir => exact ih _
    | scopeCall name v =>
      simp only [List.map_cons, Predicate.outline, steer]
      cases scopes.run? name s v with
      | none => rfl
      | some t => exact ih t
    | _ => exact ih s

/-- The clauses of a description without its values differ from its own in values only. -/
theorem blank_clausesFrom (e : Entity) (d : Description) {opened opened' : Option Clause}
    (h : opened.map Clause.blank = opened'.map Clause.blank) :
    (clausesFrom e opened (d.map Predicate.outline)).map Clause.blank =
      (clausesFrom e opened' d).map Clause.blank := by
  have hlist : opened.toList.map Clause.blank = opened'.toList.map Clause.blank := by
    rw [← Option.toList_map, h, Option.toList_map]
  induction d generalizing opened opened' with
  | nil => exact hlist
  | cons p d ih =>
    cases p with
    | equals c v => exact congrArg (_ :: ·) (ih h hlist)
    | compare c op v => exact congrArg (_ :: ·) (ih h hlist)
    | like c pattern =>
      have ih : (clausesFrom e (some (.single (likeAtom c ""))) (d.map Predicate.outline)).map
            Clause.blank =
          (clausesFrom e (some (.single (likeAtom c pattern))) d).map Clause.blank := ih rfl rfl
      simp only [List.map_cons, Predicate.outline, clausesFrom, List.map_append, hlist, ih]
    | orLike c pattern =>
      cases opened with
      | none =>
        cases opened' with
        | none => exact ih rfl rfl
        | some g => cases h
      | some f =>
        cases opened' with
        | none => cases h
        | some g =>
          have hfg : f.blank = g.blank := Option.some.inj h
          have hadd : (f.add (likeAtom c "")).blank = (g.add (likeAtom c pattern)).blank := by
            simp_all [Clause.blank, Clause.add, likeAtom, Atom.compare, Atom.blank, Test.blank]
          exact ih (congrArg some hadd) (congrArg ([·]) hadd)
    | orderBy c dir => exact ih h hlist
    | scopeCall name v => exact ih h hlist

theorem blank_condition (d : Description) (e : Entity) :
    (Description.condition (d.map Predicate.outline) e).map Restriction.blank =
      (d.condition e).map Restriction.blank := by
  have hmap : ∀ cs : List Clause,
      (Condition.ofFormulas (cs.map Clause.formula)).map Restriction.blank =
        Condition.ofFormulas ((cs.map Clause.blank).map Clause.formula) := by
    intro cs
    cases cs with
    | nil => rfl
    | cons c cs =>
      simp [Condition.ofFormulas, Restriction.blank, Clause.formula_blank, Function.comp_def]
  have hclauses : (clauses (d.map Predicate.outline) e).map Clause.blank =
      (d.clauses e).map Clause.blank := blank_clausesFrom e d rfl
  rw [condition, condition, hmap, hmap, hclauses]

/-- The text of a description is that of its outline. -/
theorem sql_apply_outline (d : Description) (e : Entity) (scopes : Scopes Select) (s : Select)
    (b : Dialect) :
    (Description.apply (d.map Predicate.outline) e scopes s).map (fun t => (t.statement b).sql) =
      (d.apply e scopes s).map fun t => (t.statement b).sql := by
  rw [apply, apply, steer_outline]
  cases d.steer scopes e.table s with
  | error r => rfl
  | ok t =>
    have h : (t.filterAll (Description.condition (d.map Predicate.outline) e)).blank =
        (t.filterAll (d.condition e)).blank := by
      simp [Select.filterAll, Select.blank, blank_condition]
    refine congrArg Except.ok ?_
    show ((t.filterAll (Description.condition (d.map Predicate.outline) e)).statement b).sql =
      ((t.filterAll (d.condition e)).statement b).sql
    rw [← Select.sql_statement_blank, h, Select.sql_statement_blank]

end Description
end ListQuery
