import ListQuery.Proofs.Formula
import ListQuery.Proofs.Lexeme

/-!
The text of selects as lexemes. Every part of a select is well spaced, so its text is read back; the
names in the text are those of its tokens, and everything else is a word of the language, a mark or
a placeholder.
-/
namespace ListQuery.Sql

/-! ## The words of the language -/

def headWords : List String := ["SELECT ", ", ", ".", " FROM "]

/-- What joins tests to a condition. -/
def joiningWords : List String := [" AND ", " OR ", "(", ")"]

def relationWords : List String := [" = ", " < ", " > ", " <= ", " >= ", " LIKE "]

/-- What joins columns to an order. -/
def orderingWords : List String := [" ORDER BY ", ", ", " ASC", " DESC"]

theorem relationWord_mem (r : Relation) : " " ++ r.symbol ++ " " ∈ relationWords := by
  cases r with
  | equal => decide
  | range op => cases op <;> decide
  | like => decide

theorem isClosed_symbol (r : Relation) :
    (Token.word (" " ++ r.symbol ++ " ")).isClosed = true := by
  have h : ∀ w ∈ relationWords, (Token.word w).isClosed = true := by decide
  exact h _ (relationWord_mem r)

/-! ## Spacing -/

namespace WellSpaced

variable {ts us : List Token}

theorem singleton {t : Token} (h : t.isPlain = true) : WellSpaced [t] :=
  ⟨by simpa using h, .singleton t⟩

/-- A closed word between two runs of tokens. -/
theorem around {w : String} (hw : (Token.word w).isClosed = true) (hts : WellSpaced ts)
    (hus : WellSpaced us) : WellSpaced (ts ++ .word w :: us) :=
  hts.append (.cons hw hus) (by simpa using hw)

/-- A last word needs to be closed at its beginning only. -/
theorem last {w : String} (hts : WellSpaced ts) (hw : (Token.word w).isPlain = true)
    (hs : (Token.word w).startsInWord = false) : WellSpaced (ts ++ [.word w]) := by
  constructor
  · intro t ht
    rcases List.mem_append.1 ht with ht | ht
    · exact hts.plain t ht
    · rw [List.mem_singleton.1 ht]
      exact hw
  · refine List.isChain_append.2 ⟨hts.apart, .singleton _, fun a _ b hb => ?_⟩
    have hb : Token.word w = b := by simpa using hb
    subst hb
    simp [Token.apart, Token.isName, hs]

/-- A first word needs to be closed at its end only. -/
theorem first {w : String} (hw : (Token.word w).isPlain = true)
    (he : (Token.word w).endsInWord = false) (hts : WellSpaced ts) :
    WellSpaced (.word w :: ts) := by
  constructor
  · intro t h
    rcases List.mem_cons.1 h with h | h
    · exact h ▸ hw
    · exact hts.plain t h
  · refine List.isChain_cons.2 ⟨fun t _ => ?_, hts.apart⟩
    simp [Token.apart, Token.isName, he]

theorem columnRef (c : ColumnRef) : WellSpaced c.tokens := by
  obtain ⟨table, column⟩ := c
  cases table with
  | none => exact singleton rfl
  | some t =>
    have h : WellSpaced ([.name t] ++ .word "." :: [.name column]) :=
      around (by decide) (singleton rfl) (singleton rfl)
    exact h

theorem atom (a : Atom) : WellSpaced a.tokens := by
  obtain ⟨column, test⟩ := a
  have hc := columnRef column
  cases test with
  | compare relation v => exact around (isClosed_symbol relation) hc (singleton rfl)
  | null negated => cases negated <;> exact last hc (by decide) (by decide)
  | among negated first others =>
    have hmembers : WellSpaced (joinTokens ", " ((first :: others).map fun v => [.value v])) :=
      join (by decide) (by simpa using ⟨singleton rfl, fun _ _ => singleton rfl⟩)
    cases negated <;> exact around (by decide) hc (around (by decide) hmembers nil)
  | between negated low high =>
    have hbounds : WellSpaced ([.value low] ++ .word " AND " :: [.value high]) :=
      around (by decide) (singleton rfl) (singleton rfl)
    cases negated <;> exact around (by decide) hc hbounds

theorem operand (bare : Bool) (h : WellSpaced ts) : WellSpaced (operandTokens bare ts) := by
  cases bare with
  | true => exact h
  | false => exact cons (by decide) (around (by decide) h nil)

theorem formula (f : Formula) : WellSpaced f.tokens := by
  induction f with
  | atom a => exact atom a
  | not f ih => exact first (by decide) (by decide) (operand _ ih)
  | and f g ihf ihg => exact around (by decide) (operand _ ihf) (operand _ ihg)
  | or f g ihf ihg => exact around (by decide) (operand _ ihf) (operand _ ihg)

theorem whereClause (cs : Condition) : WellSpaced (whereTokens cs) := by
  rw [whereTokens]
  split
  · exact cons (by decide) (formula _)
  · exact nil

theorem orderTerm (t : ColumnRef × Direction) :
    WellSpaced (t.1.tokens ++ [.word (directionWord t.2)]) := by
  cases t.2 <;> exact last (columnRef t.1) (by decide) (by decide)

theorem orderClause (terms : List (ColumnRef × Direction)) : WellSpaced (orderTokens terms) := by
  rw [orderTokens]
  split
  · exact nil
  · refine cons (by decide) (join (by decide) fun ts hts => ?_)
    obtain ⟨t, -, rfl⟩ := List.mem_map.1 hts
    exact orderTerm t

theorem windowClause (w : Option Window) : WellSpaced (windowTokens w) := by
  cases w with
  | none => exact nil
  | some w =>
    have h : WellSpaced ([.value (.uint64 w.limit)] ++
        .word " OFFSET " :: [.value (.uint64 w.offset)]) :=
      around (by decide) (singleton rfl) (singleton rfl)
    exact cons (by decide) h

end WellSpaced

theorem isClosed_of_mem_head?_whereTokens (cs : Condition) :
    ∀ t ∈ (whereTokens cs).head?, t.isClosed = true := by
  rw [whereTokens]
  split
  · simp only [List.head?_cons, Option.mem_some_iff]
    rintro t rfl
    decide
  · simp

theorem isClosed_of_mem_head?_orderTokens (terms : List (ColumnRef × Direction)) :
    ∀ t ∈ (orderTokens terms).head?, t.isClosed = true := by
  rw [orderTokens]
  split
  · simp
  · simp only [List.head?_cons, Option.mem_some_iff]
    rintro t rfl
    decide

theorem isClosed_of_mem_head?_windowTokens (w : Option Window) :
    ∀ t ∈ (windowTokens w).head?, t.isClosed = true := by
  cases w with
  | none => simp [windowTokens]
  | some w =>
    simp only [windowTokens, List.head?_cons, Option.mem_some_iff]
    rintro t rfl
    decide

namespace Select

/-- What follows the name of the table. -/
def tailTokens (s : Select) : List Token :=
  whereTokens s.condition ++ orderTokens s.order ++ windowTokens s.window

theorem tokens_eq (s : Select) : s.tokens = s.headTokens ++ s.tailTokens := by
  simp [tokens, tailTokens]

end Select

namespace WellSpaced

theorem selectHead (s : Select) : WellSpaced s.headTokens := by
  have hc : WellSpaced
      (joinTokens ", " (s.columns.map fun c => ColumnRef.tokens ⟨some s.table, c⟩)) :=
    join (by decide) (by simpa using fun c _ => columnRef ⟨some s.table, c⟩)
  have ht : WellSpaced
      (joinTokens ", " (s.columns.map fun c => ColumnRef.tokens ⟨some s.table, c⟩) ++
      [.word " FROM ", .name s.table]) :=
    around (by decide) hc (singleton rfl)
  exact first (by decide) (by decide) ht

theorem selectTail (s : Select) : WellSpaced s.tailTokens :=
  ((whereClause s.condition).append (orderClause s.order)
    (isClosed_of_mem_head?_orderTokens s.order)).append (windowClause s.window)
    (isClosed_of_mem_head?_windowTokens s.window)

theorem select (s : Select) : WellSpaced s.tokens :=
  (((selectHead s).append (whereClause s.condition)
    (isClosed_of_mem_head?_whereTokens s.condition)).append (orderClause s.order)
    (isClosed_of_mem_head?_orderTokens s.order)).append (windowClause s.window)
    (isClosed_of_mem_head?_windowTokens s.window)

theorem count (s : Select) : WellSpaced s.countTokens :=
  around (by decide) (first (by decide) (by decide) (select s.unordered)) (singleton rfl)

end WellSpaced

/-! ## Names and words -/

namespace Piece

/-- A lexeme that is a name was a name in the text. -/
theorem mem_of_name_mem_lexemes {s : String} {ps : List Piece} (h : Lexeme.name s ∈ lexemes ps) :
    Piece.name s ∈ ps := by
  obtain ⟨run, hrun, hs⟩ := List.mem_filterMap.1 h
  have hsub : ∀ p ∈ run, p ∈ ps := fun p hp => by
    rw [← List.flatten_splitBy joins ps]
    exact List.mem_flatten.2 ⟨run, hrun, hp⟩
  cases run with
  | nil => cases hs
  | cons p run =>
    cases p with
    | name t =>
      cases hs
      exact hsub _ List.mem_cons_self
    | char c =>
      rw [lexeme?] at hs
      split at hs
      · cases hs
      · split at hs <;> cases hs

/-- Characters that belong to a word make one. -/
theorem lexemes_word {cs : List Char} (hne : cs ≠ []) (h : ∀ c ∈ cs, isWordChar c = true) :
    lexemes (cs.map .char) = [.word (.ofList cs)] := by
  have hchain : (cs.map Piece.char).IsChain fun p q => p.joins q = true := by
    refine List.Pairwise.isChain (List.pairwise_of_forall_mem_list ?_)
    simp only [List.mem_map]
    rintro _ ⟨c, hc, rfl⟩ _ ⟨c', hc', rfl⟩
    simp [joins, h c hc, h c' hc']
  rw [lexemes, List.splitBy_of_isChain (by simpa using hne) hchain]
  cases cs with
  | nil => exact absurd rfl hne
  | cons c cs =>
    have hc := h c List.mem_cons_self
    have hm : c ≠ ' ' ∧ isMark c = false := by simpa [isWordChar] using hc
    have hf : (cs.map Piece.char).filterMap char? = cs := by
      simp [List.filterMap_map, Function.comp_def, char?]
    simp [lexeme?, hm, hf]

end Piece

theorem lexemes_placeholder (d : Dialect) (n : Nat) :
    Piece.lexemes ((d.placeholder n).map .char) = [.word (.ofList (d.placeholder n))] :=
  Piece.lexemes_word (d.placeholder_chars n).1 fun c hc => ((d.placeholder_chars n).2 c hc).1

section

variable (d : Dialect) (n : Nat) (ts : List Token)

@[simp] theorem lexemesAfter_nil : lexemesAfter d n [] = [] := rfl

@[simp] theorem lexemesAfter_word (w : String) :
    lexemesAfter d n (.word w :: ts) = wordLexemes w ++ lexemesAfter d n ts := rfl

@[simp] theorem lexemesAfter_name (s : String) :
    lexemesAfter d n (.name s :: ts) = .name s :: lexemesAfter d n ts := rfl

@[simp] theorem lexemesAfter_value (v : Datum) :
    lexemesAfter d n (.value v :: ts) =
      .word (.ofList (d.placeholder (n + 1))) :: lexemesAfter d (n + 1) ts := by
  rw [lexemesAfter, Token.pieces, lexemes_placeholder]
  rfl

end

namespace Token

def name? : Token → Option String
  | .name s => some s
  | .word _ => none
  | .value _ => none

section

variable (ts : List Token)

@[simp] theorem filterMap_name?_word (w : String) :
    (word w :: ts).filterMap name? = ts.filterMap name? := rfl

@[simp] theorem filterMap_name?_name (s : String) :
    (name s :: ts).filterMap name? = s :: ts.filterMap name? := rfl

@[simp] theorem filterMap_name?_value (v : Datum) :
    (value v :: ts).filterMap name? = ts.filterMap name? := rfl

@[simp] theorem filterMap_datum?_word (w : String) :
    (word w :: ts).filterMap datum? = ts.filterMap datum? := rfl

@[simp] theorem filterMap_datum?_name (s : String) :
    (name s :: ts).filterMap datum? = ts.filterMap datum? := rfl

@[simp] theorem filterMap_datum?_value (v : Datum) :
    (value v :: ts).filterMap datum? = v :: ts.filterMap datum? := rfl

end

/-- The names in the text of a token are the token itself if it is one. -/
theorem filterMap_name?_lexemes (d : Dialect) (n : Nat) (t : Token) :
    (Piece.lexemes (t.pieces d n)).filterMap Lexeme.name? = t.name?.toList := by
  have hnone : ∀ cs : List Char,
      (Piece.lexemes (cs.map .char)).filterMap Lexeme.name? = [] := by
    intro cs
    refine List.filterMap_eq_nil_iff.2 fun l hl => ?_
    cases l with
    | name s => simpa using Piece.mem_of_name_mem_lexemes hl
    | word w => rfl
    | mark c => rfl
  cases t with
  | word w => exact hnone _
  | value v => exact hnone _
  | name s => rfl

end Token

/-- The names in the text are those of the tokens, in their order. -/
theorem filterMap_name?_lexemesAfter (d : Dialect) (n : Nat) (ts : List Token) :
    (lexemesAfter d n ts).filterMap Lexeme.name? = ts.filterMap Token.name? := by
  induction ts generalizing n with
  | nil => rfl
  | cons t ts ih =>
    rw [lexemesAfter, List.filterMap_append, ih, Token.filterMap_name?_lexemes, List.filterMap_cons]
    cases t.name? <;> rfl

/-- How many placeholders tokens take. -/
def arity (ts : List Token) : Nat := (ts.filterMap Token.datum?).length

@[simp] theorem arity_nil : arity [] = 0 := rfl

@[simp] theorem arity_cons (t : Token) (ts : List Token) :
    arity (t :: ts) = t.arity + arity ts := by
  cases t with
  | value v => simp [arity, Token.arity, Nat.add_comm]
  | word w => simp [arity, Token.arity]
  | name s => simp [arity, Token.arity]

/-- A lexeme of tokens comes from the text of one of them, or is a placeholder within their
number. -/
theorem mem_lexemesAfter {d : Dialect} {n : Nat} {ts : List Token} {l : Lexeme}
    (h : l ∈ lexemesAfter d n ts) :
    (∃ s, l = .name s) ∨
      (∃ w, Token.word w ∈ ts ∧ l ∈ wordLexemes w) ∨
      ∃ k, n < k ∧ k ≤ n + arity ts ∧ l = .word (.ofList (d.placeholder k)) := by
  induction ts generalizing n with
  | nil => cases h
  | cons t ts ih =>
    rcases List.mem_append.1 h with h | h
    · cases t with
      | name s => exact .inl ⟨s, List.mem_singleton.1 h⟩
      | word w => exact .inr (.inl ⟨w, List.mem_cons_self, h⟩)
      | value v =>
        rw [Token.pieces, lexemes_placeholder] at h
        refine .inr (.inr ⟨n + 1, by omega, ?_, List.mem_singleton.1 h⟩)
        simp only [arity_cons, Token.arity]
        omega
    · rcases ih h with h | ⟨w, hw, h⟩ | ⟨k, hk, hk', h⟩
      · exact .inl h
      · exact .inr (.inl ⟨w, List.mem_cons_of_mem _ hw, h⟩)
      · refine .inr (.inr ⟨k, by omega, ?_, h⟩)
        rw [arity_cons]
        omega

theorem renderAfter_append (d : Dialect) (n : Nat) (ts us : List Token) :
    renderAfter d n (ts ++ us) = renderAfter d n ts ++ renderAfter d (n + arity ts) us := by
  induction ts generalizing n with
  | nil => rfl
  | cons t ts ih =>
    rw [List.cons_append, renderAfter_cons, renderAfter_cons, ih, List.append_assoc, arity_cons,
      Nat.add_assoc]

theorem lexemesAfter_append (d : Dialect) (n : Nat) (ts us : List Token) :
    lexemesAfter d n (ts ++ us) = lexemesAfter d n ts ++ lexemesAfter d (n + arity ts) us := by
  induction ts generalizing n with
  | nil => rfl
  | cons t ts ih =>
    rw [List.cons_append, lexemesAfter, lexemesAfter, ih, List.append_assoc, arity_cons,
      Nat.add_assoc]

/-! ## The words of each part -/

theorem mem_joinTokens {separator : String} {tss : List (List Token)} {t : Token}
    (h : t ∈ joinTokens separator tss) : t = .word separator ∨ ∃ ts ∈ tss, t ∈ ts := by
  induction tss with
  | nil => cases h
  | cons ts tss ih =>
    cases tss with
    | nil => exact .inr ⟨ts, List.mem_singleton_self ts, h⟩
    | cons us tss =>
      rw [joinTokens_cons_cons] at h
      rcases List.mem_append.1 h with h | h
      · exact .inr ⟨ts, List.mem_cons_self, h⟩
      · rcases List.mem_cons.1 h with h | h
        · exact .inl h
        · exact (ih h).imp_right fun ⟨vs, hvs, ht⟩ => ⟨vs, List.mem_cons_of_mem _ hvs, ht⟩

section

variable {t : Token}

theorem mem_operandTokens {bare : Bool} {ts : List Token} (h : t ∈ operandTokens bare ts) :
    (∃ w ∈ joiningWords, t = .word w) ∨ t ∈ ts := by
  cases bare with
  | true => exact .inr h
  | false =>
    simp only [operandTokens, Bool.false_eq_true, if_false, List.cons_append, List.mem_cons,
      List.mem_append, List.not_mem_nil, or_false] at h
    rcases h with h | h | h
    · exact .inl ⟨_, by decide, h⟩
    · exact .inr h
    · exact .inl ⟨_, by decide, h⟩

theorem mem_joinedTokens {separator : String} (hs : separator ∈ joiningWords) {bare bare' : Bool}
    {ts us : List Token}
    (h : t ∈ operandTokens bare ts ++ .word separator :: operandTokens bare' us) :
    (∃ w ∈ joiningWords, t = .word w) ∨ t ∈ ts ∨ t ∈ us := by
  rcases List.mem_append.1 h with h | h
  · exact (mem_operandTokens h).imp_right .inl
  · rcases List.mem_cons.1 h with h | h
    · exact .inl ⟨separator, hs, h⟩
    · exact (mem_operandTokens h).imp_right .inr

/-- What a token of a formula is: it joins tests, negates, or belongs to a test. -/
def Formula.Uses (f : Formula) (t : Token) : Prop :=
  (∃ w ∈ joiningWords, t = .word w) ∨ (t = .word "NOT " ∧ f.isPositive = false) ∨
    ∃ a ∈ f.atoms, t ∈ a.tokens

theorem Formula.Uses.mono {f g : Formula} (hn : f.isPositive = false → g.isPositive = false)
    (ha : f.atoms ⊆ g.atoms) (h : f.Uses t) : g.Uses t :=
  h.imp_right (.imp (.imp_right hn) fun ⟨a, hmem, h⟩ => ⟨a, ha hmem, h⟩)

theorem uses_of_mem_tokens {f : Formula} (h : t ∈ f.tokens) : f.Uses t := by
  induction f with
  | atom a => exact .inr (.inr ⟨a, List.mem_singleton_self a, h⟩)
  | not f ih =>
    rcases List.mem_cons.1 h with h | h
    · exact .inr (.inl ⟨h, rfl⟩)
    · rcases mem_operandTokens h with h | h
      · exact .inl h
      · exact (ih h).mono (fun _ => rfl) (List.Subset.refl f.atoms)
  | and f g ihf ihg =>
    rcases mem_joinedTokens (by decide) h with h | h | h
    · exact .inl h
    · exact (ihf h).mono (fun hn => by simp [Formula.isPositive, hn]) (List.subset_append_left _ _)
    · exact (ihg h).mono (fun hn => by simp [Formula.isPositive, hn]) (List.subset_append_right _ _)
  | or f g ihf ihg =>
    rcases mem_joinedTokens (by decide) h with h | h | h
    · exact .inl h
    · exact (ihf h).mono (fun hn => by simp [Formula.isPositive, hn]) (List.subset_append_left _ _)
    · exact (ihg h).mono (fun hn => by simp [Formula.isPositive, hn]) (List.subset_append_right _ _)

/-- Every token of an order joins columns or belongs to one. -/
theorem mem_orderTokens {terms : List (ColumnRef × Direction)} (h : t ∈ orderTokens terms) :
    (∃ w ∈ orderingWords, t = .word w) ∨ ∃ term ∈ terms, t ∈ term.1.tokens := by
  rw [orderTokens] at h
  split at h
  · cases h
  · rcases List.mem_cons.1 h with h | h
    · exact .inl ⟨_, by decide, h⟩
    · rcases mem_joinTokens h with h | ⟨ts, hts, h⟩
      · exact .inl ⟨_, by decide, h⟩
      · obtain ⟨term, hterm, rfl⟩ := List.mem_map.1 hts
        rcases List.mem_append.1 h with h | h
        · exact .inr ⟨term, hterm, h⟩
        · refine .inl ⟨directionWord term.2, ?_, List.mem_singleton.1 h⟩
          cases term.2 <;> decide

end

variable {w : String}

theorem eq_of_word_mem_columnRef {c : ColumnRef} (h : Token.word w ∈ c.tokens) :
    c.table ≠ none ∧ w = "." := by
  obtain ⟨table, column⟩ := c
  cases table with
  | none => simp [ColumnRef.tokens] at h
  | some t => simpa [ColumnRef.tokens] using h

theorem word_mem_compare {relation : Relation} {v : Datum}
    (h : Token.word w ∈ (Test.compare relation v).tokens) : w ∈ relationWords := by
  have h : w = " " ++ relation.symbol ++ " " := by simpa [Test.tokens] using h
  exact h ▸ relationWord_mem relation

theorem word_mem_atom {a : Atom} (h : Token.word w ∈ a.tokens) :
    (a.column.table ≠ none ∧ w = ".") ∨ Token.word w ∈ a.test.tokens :=
  (List.mem_append.1 h).imp_left eq_of_word_mem_columnRef

/-- Every token before the condition is a fixed word or a name. -/
theorem mem_headTokens {s : Select} {t : Token} (h : t ∈ s.headTokens) :
    (∃ w ∈ headWords, t = .word w) ∨ ∃ name, t = .name name := by
  simp only [Select.headTokens, List.cons_append, List.mem_cons, List.mem_append, List.not_mem_nil,
    or_false] at h
  rcases h with h | h | h | h
  · exact .inl ⟨_, by decide, h⟩
  · rcases mem_joinTokens h with h | ⟨ts, hts, h⟩
    · exact .inl ⟨_, by decide, h⟩
    · obtain ⟨c, -, rfl⟩ := List.mem_map.1 hts
      simp only [ColumnRef.tokens, List.mem_cons, List.not_mem_nil, or_false] at h
      rcases h with h | h | h
      · exact .inr ⟨_, h⟩
      · exact .inl ⟨_, by decide, h⟩
      · exact .inr ⟨_, h⟩
  · exact .inl ⟨_, by decide, h⟩
  · exact .inr ⟨_, h⟩

/-- No value is bound before the condition. -/
theorem filterMap_datum?_headTokens (s : Select) : s.headTokens.filterMap Token.datum? = [] := by
  refine List.filterMap_eq_nil_iff.2 fun t ht => ?_
  rcases mem_headTokens ht with ⟨w, -, rfl⟩ | ⟨name, rfl⟩ <;> rfl

@[simp] theorem arity_headTokens (s : Select) : arity s.headTokens = 0 := by
  rw [arity, filterMap_datum?_headTokens, List.length_nil]

/-- The statements of the windows of a select differ in the last two values only. -/
theorem statement_inWindow (s : Select) (d : Dialect) :
    ∃ sql values, ∀ w : Window, (s.inWindow w).statement d =
      ⟨sql, values ++ [.uint64 w.limit, .uint64 w.offset]⟩ := by
  obtain ⟨ts, hts⟩ : ∃ ts, ∀ w, (s.inWindow w).tokens = ts ++ windowTokens (some w) :=
    ⟨s.headTokens ++ whereTokens s.condition ++ orderTokens s.order, fun w => rfl⟩
  refine ⟨.ofList (renderAfter d 0 ts ++ renderAfter d (0 + arity ts) (windowTokens (some ⟨0, 0⟩))),
    ts.filterMap Token.datum?, fun w => ?_⟩
  rw [Select.statement, Statement.ofTokens, hts, renderAfter_append, List.filterMap_append]
  rfl

end ListQuery.Sql
