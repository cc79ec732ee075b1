import ListQuery.Proofs.AllowList
import ListQuery.Proofs.Outlines
import ListQuery.Proofs.SelectText

/-!
What of a description can be seen in the text of a statement. Its columns stand between quotes,
whatever characters they hold, and its values and patterns do not show. Main statement: the text
behind the name of the table is read back as these columns and a fixed vocabulary.
-/
namespace ListQuery

open Sql

namespace Description

/-- The columns of the conditions, in the order in which their clauses are finished. `opened` holds
those of the group of patterns that the next `like` or the end finishes. -/
def conditionColumns (opened : List String) : Description → List String
  | [] => opened
  | .equals c _ :: ps => c :: conditionColumns opened ps
  | .compare c _ _ :: ps => c :: conditionColumns opened ps
  | .like c _ :: ps => opened ++ conditionColumns [c] ps
  | .orLike c _ :: ps => conditionColumns (opened ++ [c]) ps
  | .orderBy _ _ :: ps => conditionColumns opened ps
  | .scopeCall _ _ :: ps => conditionColumns opened ps

def orderColumns (d : Description) : List String :=
  d.filterMap fun p => match p with
    | .orderBy c _ => some c
    | _ => none

/-- The columns of a description are those of its conditions and of its orders. -/
theorem perm_columns (d : Description) (opened : List String) :
    (d.conditionColumns opened ++ d.orderColumns).Perm
      (opened ++ d.filterMap Predicate.column?) := by
  induction d generalizing opened with
  | nil => simp [conditionColumns, orderColumns]
  | cons p d ih =>
    cases p with
    | equals c v => exact ((ih opened).cons c).trans List.perm_middle.symm
    | compare c op v => exact ((ih opened).cons c).trans List.perm_middle.symm
    | like c pattern =>
      rw [conditionColumns, List.append_assoc]
      exact (ih [c]).append_left opened
    | orLike c pattern =>
      have h := ih (opened ++ [c])
      rw [List.append_assoc] at h
      exact h
    | orderBy c dir =>
      exact (List.perm_middle.trans ((ih opened).cons c)).trans List.perm_middle.symm
    | scopeCall name v => exact ih opened

end Description

/-! ## The names of a text -/

namespace Sql

def ColumnRef.names (c : ColumnRef) : List String := c.table.toList ++ [c.column]

/-- A comparison of a column of no named table. -/
def Atom.IsPlain (a : Atom) : Prop := ∃ column relation v, a = .compare ⟨none, column⟩ relation v

/-- The names in a test, which are those of its column. -/
def Atom.names (a : Atom) : List String := a.column.names

theorem filterMap_name?_joinTokens (separator : String) (tss : List (List Token)) :
    (joinTokens separator tss).filterMap Token.name? =
      tss.flatMap fun ts => ts.filterMap Token.name? := by
  induction tss with
  | nil => rfl
  | cons ts tss ih =>
    cases tss with
    | nil => simp [joinTokens]
    | cons us tss =>
      rw [joinTokens_cons_cons, List.filterMap_append, Token.filterMap_name?_word, ih]
      rfl

theorem filterMap_name?_columnRef (c : ColumnRef) : c.tokens.filterMap Token.name? = c.names := by
  obtain ⟨table, column⟩ := c
  cases table <;> rfl

theorem filterMap_name?_test (t : Test) : t.tokens.filterMap Token.name? = [] := by
  cases t with
  | compare relation v => rfl
  | null negated => rfl
  | among negated first others =>
    simp [Test.tokens, filterMap_name?_joinTokens, List.flatMap_map]
  | between negated low high => rfl

theorem filterMap_name?_atom (a : Atom) : a.tokens.filterMap Token.name? = a.names := by
  rw [Atom.tokens, List.filterMap_append, filterMap_name?_columnRef, filterMap_name?_test,
    List.append_nil]
  rfl

theorem filterMap_name?_operand (bare : Bool) (ts : List Token) :
    (operandTokens bare ts).filterMap Token.name? = ts.filterMap Token.name? := by
  cases bare <;> simp [operandTokens]

theorem filterMap_name?_formula (f : Formula) :
    f.tokens.filterMap Token.name? = f.atoms.flatMap Atom.names := by
  induction f with
  | atom a => simp [Formula.tokens, Formula.atoms, filterMap_name?_atom]
  | not f ih => simp [Formula.tokens, Formula.atoms, filterMap_name?_operand, ih]
  | and f g ihf ihg => simp [Formula.tokens, Formula.atoms, filterMap_name?_operand, ihf, ihg]
  | or f g ihf ihg => simp [Formula.tokens, Formula.atoms, filterMap_name?_operand, ihf, ihg]

theorem filterMap_name?_where (cs : Condition) :
    (whereTokens cs).filterMap Token.name? =
      (cs.flatMap Restriction.atoms).flatMap Atom.names := by
  rw [whereTokens]
  cases hf : cs.formula? with
  | none => simp [Condition.formula?_eq_none_iff.1 hf]
  | some f => simp [filterMap_name?_formula, Condition.atoms_of_formula? hf]

theorem filterMap_name?_order (terms : List (ColumnRef × Direction)) :
    (orderTokens terms).filterMap Token.name? = terms.flatMap fun t => t.1.names := by
  rw [orderTokens]
  split
  · simp_all
  · simp [filterMap_name?_joinTokens, filterMap_name?_columnRef, List.flatMap_map]

end Sql

namespace Description

theorem names_clausesFrom (e : Entity) (d : Description) (group : Option Clause) :
    ((clausesFrom e group d).flatMap Clause.atoms).flatMap Atom.names =
      d.conditionColumns ((group.toList.flatMap Clause.atoms).flatMap Atom.names) := by
  induction d generalizing group with
  | nil => rfl
  | cons p d ih =>
    cases p with
    | equals c v => exact congrArg (c :: ·) (ih group)
    | compare c op v => exact congrArg (c :: ·) (ih group)
    | like c pattern =>
      rw [clausesFrom, List.flatMap_append, List.flatMap_append, ih]
      rfl
    | orLike c pattern =>
      refine (ih _).trans ?_
      rw [conditionColumns]
      cases group with
      | none => rfl
      | some g =>
        have hc : (likeAtom c pattern).names = [c] := rfl
        simp [Clause.atoms, Clause.add, hc]
    | orderBy c dir => exact ih group
    | scopeCall name v => exact ih group

theorem names_condition (d : Description) (e : Entity) :
    ((d.condition e).flatMap Restriction.atoms).flatMap Atom.names = d.conditionColumns [] := by
  have h : (d.condition e).flatMap Restriction.atoms = (d.clauses e).flatMap Clause.atoms := by
    simp [condition, Condition.flatMap_atoms_ofFormulas, List.flatMap_map, Clause.atoms_formula]
  rw [h]
  exact names_clausesFrom e d none

theorem names_orderTerms (d : Description) :
    (d.orderTerms.flatMap fun t => t.1.names) = d.orderColumns := by
  induction d with
  | nil => rfl
  | cons p d ih =>
    cases p with
    | orderBy c dir => exact congrArg (c :: ·) ih
    | _ => exact ih

/-- A description compares columns of no named table. -/
theorem isPlain_of_mem_condition {d : Description} {e : Entity} {a : Atom}
    (h : a ∈ (d.condition e).flatMap Restriction.atoms) : a.IsPlain := by
  obtain ⟨p, -, hp⟩ := List.mem_filterMap.1 ((d.perm_flatMap_atoms_condition e).mem_iff.1 h)
  cases p <;> cases hp <;> exact ⟨_, _, _, rfl⟩

/-- A description negates nothing. -/
theorem isPositive_condition {d : Description} {e : Entity} {f : Formula}
    (h : (d.condition e).formula? = some f) : f.isPositive = true := by
  refine Condition.isPositive_of_formula?_ofFormulas (fun g hg => ?_) h
  obtain ⟨c, -, rfl⟩ := List.mem_map.1 hg
  exact c.isPositive_formula

theorem table_eq_none_of_mem_orderTerms {d : Description} {t : ColumnRef × Direction}
    (h : t ∈ d.orderTerms) : t.1.table = none := by
  obtain ⟨p, -, hp⟩ := List.mem_filterMap.1 h
  cases p <;> cases hp
  rfl

end Description

/-! ## The words of a text -/

namespace Sql

/-- The words and marks with which conditions and orders of unnamed tables are written. -/
def fixedLexemes : List Lexeme :=
  ["WHERE", "AND", "OR", "LIKE", "=", "<", ">", "<=", ">="].map .word ++
    ["ORDER", "BY", "ASC", "DESC"].map .word ++ ['(', ')', ','].map .mark

theorem mem_fixedLexemes :
    ∀ w ∈ " WHERE " :: joiningWords ++ relationWords ++ orderingWords,
      ∀ l ∈ wordLexemes w, l ∈ fixedLexemes := by decide

/-- A positive formula of plain comparisons is joined by fixed words. -/
theorem word_mem_of_isPlain {f : Formula} (hf : f.isPositive = true) (ha : ∀ a ∈ f.atoms, a.IsPlain)
    {w : String} (h : Token.word w ∈ f.tokens) : w ∈ joiningWords ++ relationWords := by
  rcases uses_of_mem_tokens h with ⟨w', hw, h⟩ | ⟨-, hn⟩ | ⟨a, hmem, h⟩
  · cases h
    exact List.mem_append_left _ hw
  · rw [hf] at hn
    cases hn
  · obtain ⟨column, relation, v, rfl⟩ := ha a hmem
    rcases word_mem_atom h with ⟨ht, -⟩ | h
    · exact absurd rfl ht
    · exact List.mem_append_right _ (word_mem_compare h)

/-- Without a named table and a window, fixed words alone follow the name of the table. -/
theorem word_mem_tailTokens {s : Select}
    (hf : ∀ f, s.condition.formula? = some f → f.isPositive = true)
    (hc : ∀ a ∈ s.condition.flatMap Restriction.atoms, a.IsPlain)
    (ho : ∀ t ∈ s.order, t.1.table = none) (hw : s.window = none) {w : String}
    (h : Token.word w ∈ s.tailTokens) :
    w ∈ " WHERE " :: joiningWords ++ relationWords ++ orderingWords := by
  rw [Select.tailTokens, hw, windowTokens, List.append_nil, List.mem_append] at h
  rcases h with h | h
  · rw [whereTokens] at h
    cases hcond : s.condition.formula? with
    | none =>
      rw [hcond] at h
      cases h
    | some f =>
      rw [hcond] at h
      rcases List.mem_cons.1 h with h | h
      · cases h
        decide
      · have ha : ∀ a ∈ f.atoms, a.IsPlain := by rwa [Condition.atoms_of_formula? hcond]
        have hw := word_mem_of_isPlain (hf f hcond) ha h
        exact List.mem_append_left _ (List.mem_cons_of_mem _ hw)
  · rcases mem_orderTokens h with ⟨w', hw', h⟩ | ⟨t, ht, h⟩
    · cases h
      simp [hw']
    · exact absurd (ho t ht) (eq_of_word_mem_columnRef h).1

namespace Select

variable (s : Select) (d : Dialect)

theorem sql_statement :
    (s.statement d).sql =
      .ofList (renderAfter d 0 s.headTokens) ++ .ofList (renderAfter d 0 s.tailTokens) := by
  rw [statement, Statement.ofTokens, tokens_eq, renderAfter_append, arity_headTokens,
    String.ofList_append]

theorem length_values_statement : (s.statement d).values.length = arity s.tailTokens := by
  rw [statement, Statement.ofTokens, tokens_eq, List.filterMap_append,
    filterMap_datum?_headTokens, List.nil_append]
  rfl

end Select
end Sql

namespace Description

/-- A description without scope calls comes to a select of its own clauses and orders. -/
theorem apply_empty {d : Description} (hd : d.CallsKnown .empty) (e : Entity) :
    d.apply e .empty e.rows =
      .ok { e.rows with condition := d.condition e, order := d.orderTerms } := by
  have hs : Scopes.OnlyFilter .empty := fun _ _ _ _ h => by cases h
  have hc : ∀ (d : Description) (s : Select), d.scopeConditions .empty s = [] := by
    intro d
    induction d with
    | nil => exact fun _ => rfl
    | cons p d ih => intro s; cases p <;> exact ih _
  rw [d.apply_of_onlyFilter hs hd, hc]
  rfl

end Description

/-- No data of a request leaves its place in the text. Behind the rows of an entity, the text is
read back as the columns of the description, clause by clause and then order by order, each between
quotes, and besides them as fixed words and marks and the placeholders of bound values; and
descriptions that differ in values and patterns only have the same text. -/
theorem request_data_keeps_its_place (e : Entity) (b : Dialect) :
    (∀ d : Description, d.CallsKnown .empty →
      ∃ s tail ls, d.apply e .empty e.rows = .ok s ∧
        (s.statement b).sql = (e.rows.statement b).sql ++ tail ∧
        b.lexemes? tail = some ls ∧
        ls.filterMap Lexeme.name? = d.conditionColumns [] ++ d.orderColumns ∧
        (d.conditionColumns [] ++ d.orderColumns).Perm (d.filterMap Predicate.column?) ∧
        ∀ l ∈ ls, l.name? = none → l ∈ fixedLexemes ∨
          ∃ k, 0 < k ∧ k ≤ (s.statement b).values.length ∧ l = .word (.ofList (b.placeholder k))) ∧
    ∀ d d' : Description, d.map Predicate.outline = d'.map Predicate.outline →
      (d.apply e .empty e.rows).map (fun s => (s.statement b).sql) =
        (d'.apply e .empty e.rows).map fun s => (s.statement b).sql := by
  constructor
  · intro d hd
    let s : Select := { e.rows with condition := d.condition e, order := d.orderTerms }
    have hrows : (e.rows.statement b).sql = .ofList (renderAfter b 0 s.headTokens) := by
      have ht : e.rows.tailTokens = [] := rfl
      rw [Select.sql_statement, ht]
      exact String.append_empty
    have hnames : s.tailTokens.filterMap Token.name? = d.conditionColumns [] ++ d.orderColumns := by
      have hc : s.condition = d.condition e := rfl
      have ho : s.order = d.orderTerms := rfl
      have hw : windowTokens s.window = [] := rfl
      rw [Select.tailTokens, hw, List.append_nil, List.filterMap_append, filterMap_name?_where,
        filterMap_name?_order, hc, ho, d.names_condition, d.names_orderTerms]
    refine ⟨s, .ofList (renderAfter b 0 s.tailTokens), lexemesAfter b 0 s.tailTokens,
      Description.apply_empty hd e, ?_, lexemes?_renderAfter (.selectTail s) b 0, ?_,
      d.perm_columns [], fun l hl hn => ?_⟩
    · rw [hrows, Select.sql_statement]
    · rw [filterMap_name?_lexemesAfter, hnames]
    · rcases mem_lexemesAfter hl with ⟨name, rfl⟩ | ⟨w, hw, hl⟩ | ⟨k, hk, hk', rfl⟩
      · cases hn
      · have hw := word_mem_tailTokens (s := s) (fun f => Description.isPositive_condition)
          (fun a => Description.isPlain_of_mem_condition)
          (fun t => Description.table_eq_none_of_mem_orderTerms) rfl hw
        exact .inl (mem_fixedLexemes w hw l hl)
      · rw [Nat.zero_add] at hk'
        exact .inr ⟨k, hk, (s.length_values_statement b).symm ▸ hk', rfl⟩
  · intro d d' h
    rw [← d.sql_apply_outline, h, d'.sql_apply_outline]

namespace Sample

/-- Columns and values that would end a name or a text if they were written as they are. -/
def hostile : Description :=
  [.orLike "name\" OR \"1" "' OR '1", .equals "id\"" (.text "\"; --"), .like "na\"\"me" "?",
    .compare "$1" .less (.text ")"), .orderBy "\" DESC" .ascending]

theorem hostile_columns_read_back :
    (∃ s tail ls, hostile.apply users .empty users.rows = .ok s ∧
      (s.statement .postgres).sql = (users.rows.statement .postgres).sql ++ tail ∧
      Dialect.postgres.lexemes? tail = some ls ∧
      ls.filterMap Lexeme.name? =
        ["id\"", "name\" OR \"1", "$1", "na\"\"me", "\" DESC"]) ∧
    (hostile.apply users .empty users.rows).map (fun s => (s.statement .postgres).sql) =
      (Description.apply (hostile.map Predicate.outline) users .empty users.rows).map
        fun s => (s.statement .postgres).sql := by
  obtain ⟨hcolumns, hvalues⟩ := request_data_keeps_its_place users .postgres
  have hd : hostile.CallsKnown .empty := by
    intro name v h
    simp [hostile] at h
  obtain ⟨s, tail, ls, hs, hsql, hls, hnames, -⟩ := hcolumns hostile hd
  exact ⟨⟨s, tail, ls, hs, hsql, hls, hnames⟩, hvalues _ _ rfl⟩

end Sample
end ListQuery
