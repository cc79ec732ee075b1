import ListQuery.Proofs.WhereClause

/-!
The placeholders of a statement and the values bound to them. A placeholder is looked for in the
text outside of names, and the words before it say what it stands for: a part of the test of a
column, or a bound of the window. Main statement: in every statement made of a description,
placeholders and values stand in the same order, each value under the test or the bound that it
belongs to.
-/
namespace ListQuery.Sql

/-! ## Reading placeholders -/

/-- What a placeholder stands for. -/
inductive Slot where
  | comparison (column : ColumnRef) (relation : Relation)
  /-- A member of a list in which the column is, or is not. -/
  | member (column : ColumnRef) (negated : Bool)
  /-- The bounds between which the column is, or is not. -/
  | low (column : ColumnRef) (negated : Bool)
  | high (column : ColumnRef) (negated : Bool)
  | limit
  | offset
  deriving DecidableEq

/-- The column that ends there, from the lexemes before a place, the nearest first. -/
def ColumnRef.before? : List Lexeme → Option ColumnRef
  | .name c :: .mark '.' :: .name t :: _ => some ⟨some t, c⟩
  | .name c :: _ => some ⟨none, c⟩
  | _ => none

/-- The column that ends there or in front of a `NOT`, and whether there is one. -/
def ColumnRef.tested? : List Lexeme → Option (ColumnRef × Bool)
  | .word "NOT" :: ls => (ColumnRef.before? ls).map (·, true)
  | ls => (ColumnRef.before? ls).map (·, false)

/-- What a placeholder stands for, from the lexemes before it, the nearest first. Behind a comma, it
stands for what the placeholder before the comma does. -/
def Slot.before? : List Lexeme → Option Slot
  | .word "LIMIT" :: _ => some .limit
  | .word "OFFSET" :: _ => some .offset
  | .word "BETWEEN" :: ls => (ColumnRef.tested? ls).map fun (c, negated) => .low c negated
  | .word "AND" :: .word _ :: .word "BETWEEN" :: ls =>
    (ColumnRef.tested? ls).map fun (c, negated) => .high c negated
  | .mark '(' :: .word "IN" :: ls =>
    (ColumnRef.tested? ls).map fun (c, negated) => .member c negated
  | .mark ',' :: .word _ :: ls => Slot.before? ls
  | .word w :: ls =>
    (ColumnRef.before? ls).bind fun c => (Relation.ofSymbol? w).map (.comparison c)
  | _ => none

/-- The character by which a placeholder is known. -/
def Dialect.sign : Dialect → Char
  | .postgres => '$'
  | .sqlite => '?'
  | .mysql => '?'

/-- Whether a lexeme is a placeholder. Names never are, whatever characters they hold. -/
def Lexeme.isPlaceholder (d : Dialect) : Lexeme → Bool
  | .word w => w.toList.contains d.sign
  | .mark _ => false
  | .name _ => false

/-- The placeholders of a text in order, each with what it stands for. `before` is what stands in
front of the text, the nearest first. -/
def placeholders (d : Dialect) (before : List Lexeme) :
    List Lexeme → List (Lexeme × Option Slot)
  | [] => []
  | l :: ls =>
    if l.isPlaceholder d then (l, Slot.before? before) :: placeholders d (l :: before) ls
    else placeholders d (l :: before) ls

/-- A value and what the placeholder to which it is bound has to stand for. -/
structure Binding where
  slot : Slot
  value : Datum
  deriving DecidableEq

/-- The placeholders that bindings need, behind `n` others. -/
def numbered (d : Dialect) (n : Nat) (bs : List Binding) : List (Lexeme × Option Slot) :=
  bs.mapIdx fun i b => (.word (.ofList (d.placeholder (n + i + 1))), some b.slot)

/-- A statement binds these values in order, and its placeholders are as many, numbered from one in
the order of the text, and stand for what the values are bound to. -/
structure Statement.Binds (d : Dialect) (st : Statement) (bs : List Binding) : Prop where
  values : st.values = bs.map Binding.value
  read : (d.lexemes? st.sql).map (placeholders d []) = some (numbered d 0 bs)

/-- The bindings of a test, in the order of its text. -/
def Atom.bindings (a : Atom) : List Binding :=
  match a.test with
  | .compare relation v => [⟨.comparison a.column relation, v⟩]
  | .null _ => []
  | .among negated first others =>
    (first :: others).map fun v => ⟨.member a.column negated, v⟩
  | .between negated low high => [⟨.low a.column negated, low⟩, ⟨.high a.column negated, high⟩]

theorem Atom.map_value_bindings (a : Atom) : a.bindings.map Binding.value = a.values := by
  obtain ⟨column, t⟩ := a
  cases t <;> simp [bindings, values, Test.values, Function.comp_def]

def Restriction.bindings (r : Restriction) : List Binding := r.atoms.flatMap Atom.bindings

def Window.bindings (w : Window) : List Binding :=
  [⟨.limit, .uint64 w.limit⟩, ⟨.offset, .uint64 w.offset⟩]

/-- The bindings of a select, in the order of its text. -/
def Select.bindings (s : Select) : List Binding :=
  s.condition.flatMap Restriction.bindings ++ s.window.toList.flatMap Window.bindings

theorem placeholders_append (d : Dialect) (before ls ms : List Lexeme) :
    placeholders d before (ls ++ ms) =
      placeholders d before ls ++ placeholders d (ls.reverse ++ before) ms := by
  induction ls generalizing before with
  | nil => rfl
  | cons l ls ih =>
    simp only [List.cons_append, placeholders, ih, List.reverse_cons, List.append_assoc]
    split <;> rfl

theorem numbered_append (d : Dialect) (n : Nat) (bs cs : List Binding) :
    numbered d n (bs ++ cs) = numbered d n bs ++ numbered d (n + bs.length) cs := by
  have h : ∀ i, n + (i + bs.length) + 1 = n + bs.length + i + 1 := fun i => by omega
  simp [numbered, List.mapIdx_append, h]

theorem isPlaceholder_word_placeholder (d : Dialect) (n : Nat) :
    (Lexeme.word (.ofList (d.placeholder n))).isPlaceholder d = true := by
  cases d <;> simp [Lexeme.isPlaceholder, Dialect.sign, Dialect.placeholder]

/-- There are as many placeholders as values. -/
theorem Statement.Binds.length_values {d : Dialect} {st : Statement} {bs : List Binding}
    (h : st.Binds d bs) :
    ((d.lexemes? st.sql).map (placeholders d [])).map List.length = some st.values.length := by
  rw [h.read, h.values]
  simp [numbered]

/-- A name that looks like a placeholder is a name. -/
example : (Dialect.postgres.lexemes? "\"$2\" > $1 LIMIT $2").map (placeholders .postgres []) =
    some [(.word "$1", some (.comparison ⟨none, "$2"⟩ (.range .greater))),
      (.word "$2", some .limit)] := by decide

/-! ## Tokens and bindings -/

/-- Whether a lexeme is neither a placeholder, in any dialect, nor a point. -/
def Lexeme.isInert (l : Lexeme) : Bool := l.isFixed && l != .mark '.'

theorem Lexeme.isPlaceholder_of_isInert {l : Lexeme} (h : l.isInert = true) (d : Dialect) :
    l.isPlaceholder d = false := by
  have h : l.isFixed = true := (Bool.and_eq_true_iff.1 h).1
  cases l with
  | name s => rfl
  | mark c => rfl
  | word w =>
    rw [isFixed, Bool.and_eq_true, Bool.not_eq_true', Bool.not_eq_true'] at h
    cases d with
    | postgres => exact h.1
    | sqlite => exact h.2
    | mysql => exact h.2

/-- A name may begin there: no point stands before it, which would make it the second part of a
column. -/
def Fresh (before : List Lexeme) : Prop := before.head? ≠ some (.mark '.')

/-- Tokens with these bindings, whatever stands before and behind them. -/
structure Carries (d : Dialect) (ts : List Token) (bs : List Binding) : Prop where
  values : ts.filterMap Token.datum? = bs.map Binding.value
  read : ∀ n before, Fresh before →
    placeholders d before (lexemesAfter d n ts) = numbered d n bs
  fresh : ∀ n before, Fresh before → Fresh ((lexemesAfter d n ts).reverse ++ before)

/-- Behind tokens, a placeholder after this word stands for a slot. -/
def Announces (d : Dialect) (ts : List Token) (w : String) (slot : Slot) : Prop :=
  ∀ n before, Fresh before →
    Slot.before? ((wordLexemes w).reverse ++ ((lexemesAfter d n ts).reverse ++ before)) = some slot

/-- The last of these tokens is a placeholder and stands for a slot. -/
def EndsFor (d : Dialect) (ts : List Token) (slot : Slot) : Prop :=
  ∀ n before, Fresh before → ∃ p ls,
    (lexemesAfter d n ts).reverse ++ before = .word p :: ls ∧ Slot.before? ls = some slot

theorem Announces.endsFor {d : Dialect} {ts : List Token} {w : String} {slot : Slot}
    (h : Announces d ts w slot) (v : Datum) : EndsFor d (ts ++ [.word w, .value v]) slot :=
  fun n before hb => ⟨.ofList (d.placeholder (n + arity ts + 1)), _,
    by simp [lexemesAfter_append], h n before hb⟩

/-- Behind a comma, a placeholder stands for what the one before the comma does. -/
theorem EndsFor.announces {d : Dialect} {ts : List Token} {slot : Slot} (h : EndsFor d ts slot) :
    Announces d ts ", " slot := by
  have hl : wordLexemes ", " = [.mark ','] := by decide
  intro n before hb
  obtain ⟨p, ls, hls, hs⟩ := h n before hb
  rw [hls, hl]
  exact hs

namespace Carries

variable {d : Dialect} {ts us : List Token} {bs cs : List Binding}

theorem nil : Carries d [] [] := ⟨rfl, fun _ _ _ => rfl, fun _ _ h => h⟩

theorem append (hts : Carries d ts bs) (hus : Carries d us cs) :
    Carries d (ts ++ us) (bs ++ cs) where
  values := by rw [List.filterMap_append, hts.values, hus.values, List.map_append]
  read := by
    intro n before h
    have ha : arity ts = bs.length := by rw [arity, hts.values, List.length_map]
    rw [lexemesAfter_append, placeholders_append, hts.read n before h,
      hus.read _ _ (hts.fresh n before h), numbered_append, ha]
  fresh := by
    intro n before h
    rw [lexemesAfter_append, List.reverse_append, List.append_assoc]
    exact hus.fresh _ _ (hts.fresh n before h)

/-- Inert lexemes need no values. -/
theorem inert (hv : ts.filterMap Token.datum? = [])
    (h : ∀ n, ∀ l ∈ lexemesAfter d n ts, l.isInert = true) : Carries d ts [] where
  values := hv
  read := by
    intro n before _
    have hnone : ∀ ls : List Lexeme, (∀ l ∈ ls, l.isInert = true) → ∀ before,
        placeholders d before ls = [] := by
      intro ls
      induction ls with
      | nil => exact fun _ _ => rfl
      | cons l ls ih =>
        intro hls before
        rw [placeholders, Lexeme.isPlaceholder_of_isInert (hls l List.mem_cons_self)]
        exact ih (fun m hm => hls m (List.mem_cons_of_mem _ hm)) _
    exact hnone _ (h n) before
  fresh := by
    intro n before hb
    rw [Fresh, List.head?_append, List.head?_reverse]
    cases hl : (lexemesAfter d n ts).getLast? with
    | none => exact hb
    | some l =>
      have hi := h n l (List.mem_of_getLast? hl)
      rintro ⟨⟩
      cases hi

theorem word (w : String) (h : ∀ l ∈ wordLexemes w, l.isInert = true) : Carries d [.word w] [] :=
  inert rfl fun n l hl => h l (by simpa using hl)

theorem name (s : String) : Carries d [.name s] [] :=
  inert rfl fun n l hl => by
    rw [List.mem_singleton.1 hl]
    rfl

/-- Joined tokens need no values if none of them does. -/
theorem join (separator : String) (hs : ∀ l ∈ wordLexemes separator, l.isInert = true)
    {α : Type} (tokens : α → List Token) (h : ∀ x, Carries d (tokens x) []) (xs : List α) :
    Carries d (joinTokens separator (xs.map tokens)) [] := by
  induction xs with
  | nil => exact nil
  | cons x xs ih =>
    cases xs with
    | nil => exact h x
    | cons y xs => exact (h x).append ((word separator hs).append ih)

/-- A placeholder behind a word, for which the lexemes before it say what it stands for. -/
theorem bound (hts : Carries d ts bs) {w : String} (hi : ∀ l ∈ wordLexemes w, l.isInert = true)
    {slot : Slot} (hslot : Announces d ts w slot) (v : Datum) :
    Carries d (ts ++ [.word w, .value v]) (bs ++ [⟨slot, v⟩]) := by
  have ha : arity ts = bs.length := by rw [arity, hts.values, List.length_map]
  refine ⟨by simp [hts.values], fun n before h => ?_, fun n before h => ?_⟩
  · have hp := isPlaceholder_word_placeholder d (n + arity ts + 1)
    have hw := (word (d := d) w hi).read (n + arity ts) _ (hts.fresh n before h)
    rw [lexemesAfter_word, lexemesAfter_nil, List.append_nil] at hw
    rw [lexemesAfter_append, placeholders_append, hts.read n before h, numbered_append,
      lexemesAfter_word, placeholders_append, hw, lexemesAfter_value, lexemesAfter_nil,
      placeholders, if_pos hp, hslot n before h]
    simp [placeholders, numbered, ha]
  · simp [lexemesAfter_append, Fresh]

theorem columnRef (c : ColumnRef) : Carries d c.tokens [] := by
  obtain ⟨table, column⟩ := c
  cases table with
  | none => exact name column
  | some t =>
    have hdot : wordLexemes "." = [.mark '.'] := by decide
    refine ⟨rfl, fun n before _ => ?_, fun n before _ => ?_⟩
    · simp [ColumnRef.tokens, hdot, placeholders, Lexeme.isPlaceholder, numbered]
    · simp [ColumnRef.tokens, hdot, Fresh]

/-- A column is found in front of an operator. -/
theorem before?_columnRef (c : ColumnRef) (n : Nat) {before : List Lexeme} (h : Fresh before) :
    ColumnRef.before? ((lexemesAfter d n c.tokens).reverse ++ before) = some c := by
  obtain ⟨table, column⟩ := c
  cases table with
  | some t =>
    have hdot : wordLexemes "." = [.mark '.'] := by decide
    simp [ColumnRef.tokens, hdot, ColumnRef.before?]
  | none =>
    have hname : (lexemesAfter d n (ColumnRef.tokens ⟨none, column⟩)).reverse ++ before =
        .name column :: before := rfl
    rw [hname, ColumnRef.before?]
    rintro t ls rfl
    exact h rfl

/-- Where a `NOT` may stand between a column and a keyword, both are found. -/
theorem tested?_columnRef (c : ColumnRef) (n : Nat) {before : List Lexeme} (h : Fresh before)
    (negated : Bool) :
    ColumnRef.tested? ((if negated then [Lexeme.word "NOT"] else []) ++
      ((lexemesAfter d n c.tokens).reverse ++ before)) = some (c, negated) := by
  have hc := before?_columnRef (d := d) c n h
  cases negated with
  | true => simp [ColumnRef.tested?, hc]
  | false =>
    obtain ⟨ls, hls⟩ : ∃ ls,
        (lexemesAfter d n c.tokens).reverse ++ before = .name c.column :: ls := by
      obtain ⟨table, column⟩ := c
      cases table with
      | none => exact ⟨before, rfl⟩
      | some t => exact ⟨_, by simp [ColumnRef.tokens]; rfl⟩
    rw [hls] at hc ⊢
    simp [ColumnRef.tested?, hc]

/-- All members of a list stand for what its first does. -/
theorem members (hts : Carries d ts bs) {slot : Slot} (hslot : EndsFor d ts slot)
    (others : List Datum) :
    Carries d (ts ++ others.flatMap fun v => [.word ", ", .value v])
      (bs ++ others.map fun v => ⟨slot, v⟩) := by
  induction others generalizing ts bs with
  | nil => simpa using hts
  | cons v others ih =>
    have h := ih (hts.bound (by decide) hslot.announces v) (hslot.announces.endsFor v)
    simpa using h

/-! ### Tests -/

section

variable (column : ColumnRef)

theorem announces_relation (relation : Relation) :
    Announces d column.tokens (" " ++ relation.symbol ++ " ") (.comparison column relation) := by
  intro n before h
  obtain ⟨hw, hr⟩ := lexemes_symbol relation
  have hb := before?_columnRef (d := d) column n h
  have hread : ∀ ls, ColumnRef.before? ls = some column →
      Slot.before? (.word relation.symbol :: ls) =
        (Relation.ofSymbol? relation.symbol).map (.comparison column) := by
    intro ls hls
    cases relation with
    | equal => simp [Relation.symbol, Slot.before?, hls]
    | range op => cases op <;> simp [Relation.symbol, Operator.symbol, Slot.before?, hls]
    | like => simp [Relation.symbol, Slot.before?, hls]
  rw [hw]
  exact (hread _ hb).trans (by rw [hr]; rfl)

theorem announces_in (negated : Bool) :
    Announces d column.tokens (if negated then " NOT IN (" else " IN (")
      (.member column negated) := by
  have hl : wordLexemes " IN (" = [.word "IN", .mark '('] ∧
    wordLexemes " NOT IN (" = [.word "NOT", .word "IN", .mark '('] := by decide
  intro n before h
  have hc := tested?_columnRef (d := d) column n h negated
  cases negated <;> simpa [hl, Slot.before?] using hc

theorem announces_between (negated : Bool) :
    Announces d column.tokens (if negated then " NOT BETWEEN " else " BETWEEN ")
      (.low column negated) := by
  have hl : wordLexemes " BETWEEN " = [.word "BETWEEN"] ∧
    wordLexemes " NOT BETWEEN " = [.word "NOT", .word "BETWEEN"] := by decide
  intro n before h
  have hc := tested?_columnRef (d := d) column n h negated
  cases negated <;> simpa [hl, Slot.before?] using hc

theorem announces_and (negated : Bool) (low : Datum) :
    Announces d (column.tokens ++
        [.word (if negated then " NOT BETWEEN " else " BETWEEN "), .value low])
      " AND " (.high column negated) := by
  have hl : wordLexemes " BETWEEN " = [.word "BETWEEN"] ∧
    wordLexemes " NOT BETWEEN " = [.word "NOT", .word "BETWEEN"] ∧
    wordLexemes " AND " = [.word "AND"] := by decide
  intro n before h
  have hc := tested?_columnRef (d := d) column n h negated
  cases negated <;> simpa [hl, lexemesAfter_append, Slot.before?] using hc

end

theorem atom (a : Atom) : Carries d a.tokens a.bindings := by
  obtain ⟨column, t⟩ := a
  have hc : Carries d column.tokens [] := columnRef column
  cases t with
  | compare relation v =>
    have hi : ∀ l ∈ wordLexemes (" " ++ relation.symbol ++ " "), l.isInert = true := by
      have h : ∀ w ∈ relationWords, ∀ l ∈ wordLexemes w, l.isInert = true := by decide
      exact h _ (relationWord_mem relation)
    exact bound hc hi (announces_relation column relation) v
  | null negated =>
    cases negated <;> exact hc.append (word _ (by decide))
  | among negated first others =>
    have hi : ∀ l ∈ wordLexemes (if negated then " NOT IN (" else " IN ("), l.isInert = true := by
      cases negated <;> decide
    have hin := announces_in (d := d) column negated
    have h := (members (bound hc hi hin first) (hin.endsFor first) others).append
      (word ")" (by decide))
    simpa [Atom.tokens, Test.tokens, joinTokens_values, Atom.bindings] using h
  | between negated low high =>
    have hi : ∀ l ∈ wordLexemes (if negated then " NOT BETWEEN " else " BETWEEN "),
        l.isInert = true := by cases negated <;> decide
    have h := (bound hc hi (announces_between column negated) low).bound (by decide)
      (announces_and column negated low) high
    simpa [Atom.tokens, Test.tokens, Atom.bindings] using h

theorem operand (bare : Bool) (h : Carries d ts bs) : Carries d (operandTokens bare ts) bs := by
  cases bare with
  | true => exact h
  | false =>
    have h : Carries d (.word "(" :: ts ++ [.word ")"]) (bs ++ []) :=
      ((word "(" (by decide)).append h).append (word ")" (by decide))
    rwa [List.append_nil] at h

theorem formula (f : Formula) : Carries d f.tokens (f.atoms.flatMap Atom.bindings) := by
  induction f with
  | atom a =>
    have h := atom (d := d) a
    rwa [← List.flatMap_singleton Atom.bindings a] at h
  | not f ih => exact (word "NOT " (by decide)).append (operand _ ih)
  | and f g ihf ihg =>
    rw [Formula.atoms, List.flatMap_append]
    exact (operand _ ihf).append ((word " AND " (by decide)).append (operand _ ihg))
  | or f g ihf ihg =>
    rw [Formula.atoms, List.flatMap_append]
    exact (operand _ ihf).append ((word " OR " (by decide)).append (operand _ ihg))

theorem whereClause (cs : Condition) :
    Carries d (whereTokens cs) (cs.flatMap Restriction.bindings) := by
  rw [whereTokens]
  cases hf : cs.formula? with
  | none =>
    rw [Condition.formula?_eq_none_iff.1 hf]
    exact nil
  | some f =>
    have hb : cs.flatMap Restriction.bindings = f.atoms.flatMap Atom.bindings := by
      rw [Condition.atoms_of_formula? hf, List.flatMap_assoc]
      rfl
    rw [hb]
    exact (word " WHERE " (by decide)).append (formula f)

theorem orderClause (terms : List (ColumnRef × Direction)) : Carries d (orderTokens terms) [] := by
  have hterm : ∀ t : ColumnRef × Direction,
      Carries d (t.1.tokens ++ [.word (directionWord t.2)]) [] := fun t =>
    (columnRef t.1).append (word _ (by cases t.2 <;> decide))
  cases terms with
  | nil => exact nil
  | cons t ts =>
    exact (word " ORDER BY " (by decide)).append (join ", " (by decide) _ hterm (t :: ts))

theorem windowClause (w : Option Window) :
    Carries d (windowTokens w) (w.toList.flatMap Window.bindings) := by
  cases w with
  | none => exact nil
  | some w =>
    have hl : wordLexemes " LIMIT " = [.word "LIMIT"] ∧
      wordLexemes " OFFSET " = [.word "OFFSET"] := by decide
    have hlimit : Announces d [] " LIMIT " .limit := fun _ _ _ => by simp [hl, Slot.before?]
    have hoffset : Announces d [] " OFFSET " .offset := fun _ _ _ => by simp [hl, Slot.before?]
    exact (bound nil (by decide) hlimit (.uint64 w.limit)).append
      (bound nil (by decide) hoffset (.uint64 w.offset))

theorem selectHead (s : Select) : Carries d s.headTokens [] :=
  ((word "SELECT " (by decide)).append
    (join ", " (by decide) _ (fun c => columnRef ⟨some s.table, c⟩) s.columns)).append
    ((word " FROM " (by decide)).append (name s.table))

theorem select (s : Select) : Carries d s.tokens s.bindings := by
  have h : Carries d s.tokens _ :=
    (((selectHead s).append (whereClause s.condition)).append (orderClause s.order)).append
      (windowClause s.window)
  simpa [Select.bindings] using h

theorem count (s : Select) : Carries d s.countTokens s.unordered.bindings := by
  have h : Carries d s.countTokens _ :=
    ((word "SELECT COUNT(*) AS num_items FROM (" (by decide)).append (select s.unordered)).append
      ((word ") AS " (by decide)).append (name "sub_query"))
  simpa using h

end Carries

/-- Well-spaced tokens make a statement with their bindings. -/
theorem Carries.binds {d : Dialect} {ts : List Token} {bs : List Binding} (h : Carries d ts bs)
    (hts : WellSpaced ts) : (Statement.ofTokens d ts).Binds d bs where
  values := h.values
  read := by
    rw [Statement.ofTokens, lexemes?_renderAfter hts, Option.map_some,
      h.read 0 [] (by simp [Fresh])]

namespace Select

variable (s : Select) (d : Dialect)

theorem binds_statement : (s.statement d).Binds d s.bindings := (Carries.select s).binds (.select s)

/-- A count binds what its select does but for the window. -/
theorem binds_countStatement :
    (s.countStatement d).Binds d (s.condition.flatMap Restriction.bindings) := by
  have h : (s.countStatement d).Binds d s.unordered.bindings := (Carries.count s).binds (.count s)
  simpa [bindings, unordered] using h

/-- The window of a select is bound behind its condition. -/
theorem binds_inWindow (w : Window) :
    ((s.inWindow w).statement d).Binds d
      (s.condition.flatMap Restriction.bindings ++ w.bindings) := by
  simpa [bindings, inWindow] using (s.inWindow w).binds_statement d

end Select
end ListQuery.Sql

namespace ListQuery

open Sql

/-- The bindings of a description: those of its scopes, call by call, and behind them those of its
comparisons, in the order in which these are made. -/
def Description.bindings (d : Description) (scopes : Scopes Select) (e : Entity) : List Binding :=
  (d.scopeConditions scopes e.rows).flatMap Restriction.bindings ++
    (d.emission.filterMap (Predicate.atom? e)).flatMap Atom.bindings

theorem Description.bindings_of_apply {scopes : Scopes Select} (hs : scopes.OnlyFilter)
    {d : Description} {e : Entity} {s : Select} (h : d.apply e scopes e.rows = .ok s) :
    s.condition.flatMap Restriction.bindings = d.bindings scopes e ∧ s.window = none := by
  rw [apply_of_onlyFilter hs (.of_apply h)] at h
  cases h
  have hd : (d.condition e).flatMap Restriction.bindings =
      (d.emission.filterMap (Predicate.atom? e)).flatMap Atom.bindings := by
    rw [← flatMap_atoms_condition, List.flatMap_assoc]
    rfl
  refine ⟨?_, rfl⟩
  rw [bindings, ← hd, ← List.flatMap_append]
  rfl

/-- Placeholders and bound values correspond. In the statement of a description, in its count and in
its pages, the placeholders outside of names are as many as the values, numbered from one in the
order of the text, and each stands for the test or the bound of the window to which the value
in its place belongs: first the scopes, then every predicate that asks for a comparison, once and
where its clause is finished, and last the window. -/
theorem placeholders_stand_for_values {scopes : Scopes Select} (hs : scopes.OnlyFilter)
    (d : Description) (e : Entity) (b : Dialect) (request : PageRequest) :
    d.emission.Perm (d.filter fun p => (p.atom? e).isSome) ∧
    (d.CallsKnown scopes → ∃ s, d.apply e scopes e.rows = .ok s) ∧
    ∀ s, d.apply e scopes e.rows = .ok s →
      (s.statement b).Binds b (d.bindings scopes e) ∧
      (s.countStatement b).Binds b (d.bindings scopes e) ∧
      ((s.page request).statement b).Binds b (d.bindings scopes e ++
        [⟨.limit, .uint64 request.perPage⟩,
          ⟨.offset, .uint64 (request.perPage * request.index)⟩]) ∧
      ((s.pageAndOne request).statement b).Binds b (d.bindings scopes e ++
        [⟨.limit, .uint64 (Saturating.add request.perPage 1)⟩,
          ⟨.offset, .uint64 request.offset⟩]) := by
  refine ⟨d.perm_emission e, fun hd => ⟨_, d.apply_of_onlyFilter hs hd e e.rows⟩, fun s h => ?_⟩
  obtain ⟨hb, hw⟩ := Description.bindings_of_apply hs h
  have hall : s.bindings = d.bindings scopes e := by simp [Select.bindings, hw, hb]
  exact ⟨hall ▸ s.binds_statement b, hb ▸ s.binds_countStatement b,
    hb ▸ s.binds_inWindow b ⟨_, _⟩, hb ▸ s.binds_inWindow b ⟨_, _⟩⟩

namespace Sample

/-- Scopes and groups of patterns change their places, and the values with them. -/
theorem placeholders_of_scattered :
    let found : List Binding :=
      [⟨.low ⟨some "users", "age"⟩ false, .int32 18⟩,
        ⟨.high ⟨some "users", "age"⟩ false, .int32 30⟩,
        ⟨.member ⟨some "users", "name"⟩ true, .text (some "root")⟩,
        ⟨.member ⟨some "users", "name"⟩ true, .text (some "admin")⟩,
        ⟨.comparison ⟨some "users", "active"⟩ .equal, .bool false⟩,
        ⟨.comparison ⟨none, "age"⟩ .equal, .int64 18⟩,
        ⟨.comparison ⟨none, "name"⟩ .like, .text (some "%a%")⟩,
        ⟨.comparison ⟨none, "email"⟩ .like, .text (some "%b%")⟩,
        ⟨.comparison ⟨none, "id"⟩ (.range .less), .int64 5⟩,
        ⟨.comparison ⟨none, "name"⟩ .like, .text (some "%c%")⟩,
        ⟨.comparison ⟨none, "email"⟩ .like, .text (some "%d%")⟩]
    ∃ s, scattered.apply users filterScopes users.rows = .ok s ∧
      (s.countStatement .postgres).Binds .postgres found ∧
      ((s.page ⟨3, 2⟩).statement .postgres).Binds .postgres
        (found ++ [⟨.limit, .uint64 2⟩, ⟨.offset, .uint64 4⟩]) := by
  intro found
  have hfound : scattered.bindings filterScopes users = found := by rfl
  obtain ⟨-, hs, hbinds⟩ :=
    placeholders_stand_for_values filterScopes_onlyFilter scattered users .postgres ⟨3, 2⟩
  obtain ⟨s, hs⟩ := hs scattered_callsKnown
  obtain ⟨-, hcount, hpage, -⟩ := hbinds s hs
  rw [hfound] at hcount hpage
  exact ⟨s, hs, hcount, hpage⟩

end Sample
end ListQuery
