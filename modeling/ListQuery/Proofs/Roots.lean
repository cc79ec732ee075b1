import Mathlib
import ListQuery.Proofs.ParameterTree

/-!
The roots of written keys. A pair changes what stands under the root of its key and nothing else.
Main statement: the value under a name is built from the texts below this root alone, whatever
stands between them, and a name takes its place with the first key of its root.
-/
namespace ListQuery

/-- The root of a written key; a text that is no key has none. -/
def Key.root? (raw : String) : Option String := (Key.read? raw).map Key.root

/-- The pairs whose key has this root, in order. -/
def pairsUnder (name : String) (pairs : List (String × String)) : List (String × String) :=
  pairs.filter fun e => Key.root? e.1 = some name

/-- The texts of the pairs under a root, each with the steps that lead to it from there. -/
def textsUnder (name : String) (pairs : List (String × String)) : List (List Step × String) :=
  (pairsUnder name pairs).filterMap fun e => (Key.read? e.1).map fun k => (k.path, e.2)

/-- The roots of the pairs whose key can be read, in order and with repetitions. -/
def pairRoots (pairs : List (String × String)) : List String :=
  pairs.filterMap fun e => Key.root? e.1

/-- The pairs under other roots have no part in the texts. -/
theorem textsUnder_pairsUnder (name : String) (pairs : List (String × String)) :
    textsUnder name (pairsUnder name pairs) = textsUnder name pairs := by
  have hidem : pairsUnder name (pairsUnder name pairs) = pairsUnder name pairs := by
    simp [pairsUnder]
  rw [textsUnder, hidem, textsUnder]

/-- A pair with a key of the root puts its text in front of the texts of the later pairs. -/
theorem textsUnder_cons_of_root {k : Key} {e : String × String} (h : Key.read? e.1 = some k)
    (pairs : List (String × String)) :
    textsUnder k.root (e :: pairs) = (k.path, e.2) :: textsUnder k.root pairs := by
  have hr : Key.root? e.1 = some k.root := by rw [Key.root?, h]; rfl
  simp [textsUnder, pairsUnder, hr, h]

theorem textsUnder_cons_of_ne {name : String} {e : String × String}
    (h : Key.root? e.1 ≠ some name) (pairs : List (String × String)) :
    textsUnder name (e :: pairs) = textsUnder name pairs := by
  simp [textsUnder, pairsUnder, h]

/-- A value that was among the earlier ones leaves the distinct ones alone; a new one goes last. -/
theorem eraseDups_concat {α : Type} [BEq α] [LawfulBEq α] (xs : List α) (x : α) :
    (xs ++ [x]).eraseDups = if x ∈ xs then xs.eraseDups else xs.eraseDups ++ [x] := by
  rw [List.eraseDups_append]
  by_cases hx : x ∈ xs
  · simp [List.removeAll, hx]
  · simp [List.removeAll, hx, List.eraseDups_cons]

namespace Params

/-- A text stored under a key changes the value under the root of the key. -/
theorem get?_store_of_root {raw : String} {k : Key} (h : Key.read? raw = some k) (p : Params)
    (text : String) :
    (p.store raw text).get? k.root = some (Value.store (p.get? k.root) k.path (.text text)) := by
  rw [store, h]
  exact Entries.get?_alter_self _ _ _

/-- It changes nothing under another name, and a text that is no key changes nothing at all. -/
theorem get?_store_of_ne {raw name : String} (h : Key.root? raw ≠ some name) (p : Params)
    (text : String) : (p.store raw text).get? name = p.get? name := by
  rw [store]
  cases hk : Key.read? raw with
  | none => rfl
  | some k =>
    have hn : name ≠ k.root := by
      rintro rfl
      exact h (by rw [Key.root?, hk]; rfl)
    exact Entries.get?_alter_of_ne hn _ _

/-- A root seen for the first time goes to the end; one that is known keeps its place, also where
the value under it becomes one of another kind. -/
theorem keys_store (p : Params) (raw text : String) :
    (p.store raw text).keys =
      match Key.root? raw with
      | none => p.keys
      | some name => if name ∈ p.keys then p.keys else p.keys ++ [name] := by
  rw [store, Key.root?]
  cases Key.read? raw with
  | none => rfl
  | some k => exact Entries.keys_alter _ _ _

/-- Storing pairs in turn stores the texts under a root below the value of this name. -/
theorem get?_foldl_store (name : String) (pairs : List (String × String)) (p : Params) :
    (pairs.foldl (fun p e => p.store e.1 e.2) p).get? name =
      Value.storeAll (p.get? name) (textsUnder name pairs) := by
  induction pairs generalizing p with
  | nil => rfl
  | cons e pairs ih =>
    rw [List.foldl_cons, ih]
    by_cases h : Key.root? e.1 = some name
    · obtain ⟨k, hk, rfl⟩ := Option.map_eq_some_iff.1 h
      rw [get?_store_of_root hk, textsUnder_cons_of_root hk, Value.storeAll_cons]
    · rw [get?_store_of_ne h, textsUnder_cons_of_ne h]

/-- The value under a name is made of the texts under this root. -/
theorem get?_ofTexts (name : String) (pairs : List (String × String)) :
    (ofTexts pairs).get? name = Value.storeAll none (textsUnder name pairs) :=
  get?_foldl_store name pairs empty

/-- The names are the distinct roots, each at the place where it stands first. -/
theorem keys_ofTexts (pairs : List (String × String)) :
    (ofTexts pairs).keys = (pairRoots pairs).eraseDups := by
  -- from the front the names already stored would have to be carried; the last pair only adds one
  induction pairs using List.reverseRecOn with
  | nil => rfl
  | append_singleton pairs e ih =>
    have hstep : ofTexts (pairs ++ [e]) = (ofTexts pairs).store e.1 e.2 := by
      simp [ofTexts, List.foldl_append]
    have hroots : pairRoots (pairs ++ [e]) = pairRoots pairs ++ (Key.root? e.1).toList := by
      rw [pairRoots, List.filterMap_append, ← pairRoots]
      cases h : Key.root? e.1 <;> simp [h]
    rw [hstep, hroots, keys_store, ih]
    cases Key.root? e.1 with
    | none => simp
    | some name => simp [eraseDups_concat]

end Params

/-- Roots of a query string do not interfere. What stands under a name is what the pairs with this
root alone make of it, and the names are the roots of the pairs, each once and in the order of first
occurrence. -/
theorem query_roots_do_not_interfere (query : String) :
    (∀ name, (Params.ofQuery query).get? name =
      (Params.ofTexts (pairsUnder name (queryPairs query))).get? name) ∧
    (Params.ofQuery query).keys = (pairRoots (queryPairs query)).eraseDups := by
  refine ⟨fun name => ?_, Params.keys_ofTexts _⟩
  rw [Params.ofQuery, Params.get?_ofTexts, Params.get?_ofTexts, textsUnder_pairsUnder]

example : (Params.ofQuery "ids=1&q=x&ids[]=2&[y]=3&q[z]=4").keys = ["ids", "q"] := by cbv

end ListQuery
