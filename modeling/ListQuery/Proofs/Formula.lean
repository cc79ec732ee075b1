import ListQuery.Sql.Condition

/-!
Conditions as a database understands them. Tests of columns are joined by `NOT`, `AND` and `OR`, of
which `NOT` binds tightest and `OR` least, and grouped by parentheses. Main statement: what is
written for a formula reads as this formula, however it is nested.
-/
namespace ListQuery.Sql

namespace Formula

/-- Whether a formula is true where these tests are. -/
def Holds (v : Atom → Prop) : Formula → Prop
  | .atom a => v a
  | .not f => ¬ f.Holds v
  | .and f g => f.Holds v ∧ g.Holds v
  | .or f g => f.Holds v ∨ g.Holds v

/-- The tests of a formula from left to right. -/
def atoms : Formula → List Atom
  | .atom a => [a]
  | .not f => f.atoms
  | .and f g => f.atoms ++ g.atoms
  | .or f g => f.atoms ++ g.atoms

/-- Whether nothing in a formula is negated as a whole. -/
def isPositive : Formula → Bool
  | .atom _ => true
  | .not _ => false
  | .and f g => f.isPositive && g.isPositive
  | .or f g => f.isPositive && g.isPositive

/-- A formula behind so many `NOT`s. -/
def negate : Nat → Formula → Formula
  | 0, f => f
  | n + 1, f => .not (negate n f)

/-- A conjunction so far with one more member. -/
def conjoin (before : Option Formula) (f : Formula) : Formula :=
  match before with
  | none => f
  | some g => .and g f

/-- A disjunction so far with one more member. -/
def disjoin (before : Option Formula) (f : Formula) : Formula :=
  match before with
  | none => f
  | some g => .or g f

end Formula

/-! ## Reading a formula -/

/-- What a condition is written with. -/
inductive Item where
  | atom (a : Atom)
  | not
  | and
  | or
  | opening
  | closing

/-- What has been read between two parentheses: the alternatives that an `OR` has ended, the
conjunction that the next operand joins, and how many `NOT`s stand before this operand. -/
structure Level where
  alternatives : Option Formula
  conjunction : Option Formula
  negations : Nat

namespace Level

def start : Level := ⟨none, none, 0⟩

/-- One more `NOT` before the next operand. -/
def negated (l : Level) : Level := { l with negations := l.negations + 1 }

/-- The next operand joins the conjunction, behind its `NOT`s. -/
def join (l : Level) (f : Formula) : Formula := .conjoin l.conjunction (.negate l.negations f)

@[simp] theorem join_start (f : Formula) : start.join f = f := rfl

end Level

open Formula

mutual

/-- Reads on where an operand has to stand. `outer` is what was read before the parentheses that
are open. -/
def readOperand (outer : List Level) (level : Level) : List Item → Option Formula
  | .atom a :: is => readOperator outer level.alternatives (level.join (.atom a)) is
  | .not :: is => readOperand outer level.negated is
  | .opening :: is => readOperand (level :: outer) .start is
  | _ => none

/-- Reads on behind an operand. An `OR` ends the conjunction, so that `AND` binds tighter. -/
def readOperator (outer : List Level) (alternatives : Option Formula) (conjunction : Formula) :
    List Item → Option Formula
  | [] => if outer.isEmpty then some (disjoin alternatives conjunction) else none
  | .and :: is => readOperand outer ⟨alternatives, some conjunction, 0⟩ is
  | .or :: is => readOperand outer ⟨some (disjoin alternatives conjunction), none, 0⟩ is
  | .closing :: is =>
    match outer with
    | [] => none
    | level :: outer =>
      readOperator outer level.alternatives (level.join (disjoin alternatives conjunction)) is
  | .atom _ :: _ => none
  | .not :: _ => none
  | .opening :: _ => none

end

/-- The formula that a whole condition writes. -/
def Formula.read? (is : List Item) : Option Formula := readOperand [] .start is

/-! ## Writing and reading -/

/-- An operand, in parentheses unless it stands bare. -/
def operandItems (bare : Bool) (is : List Item) : List Item :=
  if bare then is else .opening :: is ++ [.closing]

def Formula.items : Formula → List Item
  | .atom a => [.atom a]
  | .not f => .not :: operandItems f.isNarrow f.items
  | .and f g => operandItems f.leadsAnd f.items ++ .and :: operandItems g.isNarrow g.items
  | .or f g => operandItems f.leadsOr f.items ++ .or :: operandItems g.isNarrow g.items

/-- Between parentheses, or as a whole condition, the items of a formula are read as the formula. -/
def ReadsAlone (f : Formula) : Prop :=
  ∀ outer, ∃ alternatives conjunction,
    (∀ rest, readOperand outer .start (f.items ++ rest) =
      readOperator outer alternatives conjunction rest) ∧
    disjoin alternatives conjunction = f

namespace ReadsAlone

variable {f : Formula}

/-- An operand joins the conjunction of its level, behind the `NOT`s before it. -/
theorem operand (hf : ReadsAlone f) (outer : List Level) (level : Level) (rest : List Item) :
    readOperand outer level (operandItems f.isNarrow f.items ++ rest) =
      readOperator outer level.alternatives (level.join f) rest := by
  cases hn : f.isNarrow with
  | true =>
    cases f with
    | atom a => rfl
    | not f => cases hn
    | and f g => cases hn
    | or f g => cases hn
  | false =>
    obtain ⟨alternatives, conjunction, hread, hmeans⟩ := hf (level :: outer)
    have h := hread (.closing :: rest)
    simp only [operandItems, Bool.false_eq_true, if_false, List.cons_append, List.append_assoc,
      List.nil_append, readOperand]
    rw [h, readOperator, hmeans]

/-- In front of an `OR` stand alternatives, or one operand. -/
theorem alternatives (hf : ReadsAlone f) (outer : List Level) :
    ∃ alternatives conjunction,
      (∀ rest, readOperand outer .start (operandItems f.leadsOr f.items ++ rest) =
        readOperator outer alternatives conjunction rest) ∧
      disjoin alternatives conjunction = f := by
  cases f with
  | or f g => exact hf outer
  | atom a => exact ⟨none, _, hf.operand outer .start, rfl⟩
  | not f => exact ⟨none, _, hf.operand outer .start, rfl⟩
  | and f g => exact ⟨none, _, hf.operand outer .start, rfl⟩

end ReadsAlone

/-- `NOT` binds tighter than `AND`, `AND` tighter than `OR`, and parentheses bind tightest. -/
example (a b c : Atom) :
    Formula.read? [.atom a, .or, .not, .atom b, .and, .atom c] =
        some (.or (.atom a) (.and (.not (.atom b)) (.atom c))) ∧
      Formula.read? [.not, .opening, .atom a, .or, .atom b, .closing, .and, .atom c] =
        some (.and (.not (.or (.atom a) (.atom b))) (.atom c)) := ⟨rfl, rfl⟩

/-! ## What a condition asks for -/

namespace Clause

variable (c : Clause)

theorem atoms_formula : c.formula.atoms = c.atoms := by
  have key : ∀ (others : List Atom) (f : Formula),
      (others.foldl (fun f a => .or f (.atom a)) f).atoms = f.atoms ++ others := by
    intro others
    induction others with
    | nil => simp
    | cons a others ih => intro f; simp [ih, Formula.atoms]
  rw [formula, key]
  rfl

theorem isPositive_formula : c.formula.isPositive = true := by
  have key : ∀ (others : List Atom) (f : Formula), f.isPositive = true →
      (others.foldl (fun f a => .or f (.atom a)) f).isPositive = true := by
    intro others
    induction others with
    | nil => exact fun f hf => hf
    | cons a others ih => exact fun f hf => ih _ (by simp [isPositive, hf])
  exact key c.others _ rfl

end Clause

/-! ## Conjunctions -/

theorem atoms_foldl_and (fs : List Formula) (f : Formula) :
    (fs.foldl .and f).atoms = f.atoms ++ fs.flatMap atoms := by
  induction fs generalizing f with
  | nil => simp
  | cons g fs ih => simp [ih, atoms]

theorem isPositive_foldl_and {fs : List Formula} {f : Formula} (hf : f.isPositive = true)
    (hfs : ∀ g ∈ fs, g.isPositive = true) : (fs.foldl .and f).isPositive = true := by
  induction fs generalizing f with
  | nil => exact hf
  | cons g fs ih =>
    have hg := hfs g List.mem_cons_self
    exact ih (by simp [isPositive, hf, hg]) fun g' h => hfs g' (List.mem_cons_of_mem _ h)

namespace Restriction

/-- The formulas of which each has to hold. -/
def formulas : Restriction → List Formula
  | .all first others => first :: others
  | .apart f => [f]

/-- What is added has to hold. -/
def Holds (v : Atom → Prop) (r : Restriction) : Prop := ∀ f ∈ r.formulas, f.Holds v

/-- The tests that are added, from left to right. -/
def atoms (r : Restriction) : List Atom := r.formulas.flatMap Formula.atoms

variable (r : Restriction)

theorem atoms_formula : r.formula.atoms = r.atoms := by
  cases r <;> simp [formula, atoms, formulas, atoms_foldl_and]

theorem atoms_joinTo (before : Formula) : (r.joinTo before).atoms = before.atoms ++ r.atoms := by
  cases r <;> simp [joinTo, atoms, formulas, atoms_foldl_and, Formula.atoms]

end Restriction

namespace Condition

theorem atoms_foldl_joinTo (cs : Condition) (f : Formula) :
    (cs.foldl Restriction.joinTo f).atoms = f.atoms ++ cs.flatMap Restriction.atoms := by
  induction cs generalizing f with
  | nil => simp
  | cons r cs ih => simp [ih, r.atoms_joinTo]

/-- The tests of formulas that are added in one step. -/
theorem flatMap_atoms_ofFormulas (fs : List Formula) :
    (ofFormulas fs).flatMap Restriction.atoms = fs.flatMap Formula.atoms := by
  cases fs <;> simp [ofFormulas, Restriction.atoms, Restriction.formulas]

theorem isPositive_of_formula?_ofFormulas {fs : List Formula} {f : Formula}
    (hfs : ∀ g ∈ fs, g.isPositive = true) (h : formula? (ofFormulas fs) = some f) :
    f.isPositive = true := by
  cases fs with
  | nil => cases h
  | cons g fs =>
    cases h
    exact isPositive_foldl_and (hfs g List.mem_cons_self) fun g' h =>
      hfs g' (List.mem_cons_of_mem _ h)

variable {cs : Condition} {f : Formula}

theorem formula?_eq_none_iff : formula? cs = none ↔ cs = [] := by
  match cs with
  | [] => simp [formula?]
  | [.apart f] => simp [formula?]
  | .all first others :: cs => simp [formula?]
  | .apart f :: c :: cs => simp [formula?]

/-- The tests of a condition stand in the order in which they were added. -/
theorem atoms_of_formula? (h : formula? cs = some f) :
    f.atoms = cs.flatMap Restriction.atoms := by
  match cs with
  | [] => cases h
  | [.apart g] =>
    cases h
    simp [Restriction.atoms_formula]
  | .all first others :: cs =>
    cases h
    simp [atoms_foldl_joinTo, Restriction.atoms_formula]
  | .apart g :: r :: cs =>
    cases h
    simp [atoms_foldl_joinTo, Restriction.atoms_formula, Formula.atoms, Restriction.atoms,
      Restriction.formulas]

end Condition
end ListQuery.Sql
