/-!
Cutting a list at every separator. Cutting undoes joining where no piece holds the separator.
-/
namespace ListQuery.Text

variable {α : Type} [DecidableEq α]

/-- The pieces between the separators; an empty list is one empty piece. -/
def splitOn (sep : α) : List α → List (List α)
  | [] => [[]]
  | a :: as =>
    if a = sep then [] :: splitOn sep as
    else match splitOn sep as with
      | p :: ps => (a :: p) :: ps
      | [] => [[a]]

/-- A list without the separator is one piece. -/
theorem splitOn_of_not_mem {sep : α} {as : List α} (h : sep ∉ as) : splitOn sep as = [as] := by
  induction as with
  | nil => rfl
  | cons a as ih =>
    simp only [List.mem_cons, not_or] at h
    simp [splitOn, Ne.symm h.1, ih h.2]

/-- A first piece and a separator in front of a list add that piece. -/
theorem splitOn_append_cons {sep : α} {as : List α} (h : sep ∉ as) (bs : List α) :
    splitOn sep (as ++ sep :: bs) = as :: splitOn sep bs := by
  induction as with
  | nil => simp [splitOn]
  | cons a as ih =>
    simp only [List.mem_cons, not_or] at h
    simp [splitOn, Ne.symm h.1, ih h.2]

/-- Cutting undoes joining if no piece holds the separator. -/
theorem splitOn_intercalate {sep : α} {pieces : List (List α)} (hne : pieces ≠ [])
    (h : ∀ piece ∈ pieces, sep ∉ piece) : splitOn sep ([sep].intercalate pieces) = pieces := by
  induction pieces with
  | nil => exact absurd rfl hne
  | cons piece pieces ih =>
    have hp := h piece List.mem_cons_self
    cases pieces with
    | nil => simpa using splitOn_of_not_mem hp
    | cons next pieces =>
      have ih := ih (by simp) fun q hq => h q (List.mem_cons_of_mem _ hq)
      rw [List.intercalate_cons_cons, List.append_assoc, List.singleton_append,
        splitOn_append_cons hp, ih]

end ListQuery.Text
