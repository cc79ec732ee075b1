import ListQuery.Value.Number
import ListQuery.Text.Blank

/-!
Parameter values. A value is what a request can carry under one name: nothing, a truth value, a
number, a text, a list or a map with its entries in order.
-/
namespace ListQuery

inductive Value where
  | null
  | bool (b : Bool)
  | number (n : Number)
  | text (s : String)
  | list (items : List Value)
  | map (entries : List (String × Value))

/-- The entries of a map, in order. -/
abbrev Entries := List (String × Value)

namespace Entries

def keys (es : Entries) : List String := es.map Prod.fst

def get? : Entries → String → Option Value
  | [], _ => none
  | (k, v) :: es, key => if k = key then some v else get? es key

/-- Changes the value under a key. A new key goes to the end; a known one keeps its place. -/
def alter (key : String) (f : Option Value → Value) : Entries → Entries
  | [] => [(key, f none)]
  | (k, v) :: es => if k = key then (k, f (some v)) :: es else (k, v) :: alter key f es

def insert (es : Entries) (key : String) (value : Value) : Entries :=
  es.alter key fun _ => value

/-- The entries that come from inserting the pairs in turn. -/
def ofPairs (pairs : List (String × Value)) : Entries :=
  pairs.foldl (fun es p => es.insert p.1 p.2) []

@[simp] theorem get?_alter_self (key : String) (f : Option Value → Value) (es : Entries) :
    (es.alter key f).get? key = some (f (es.get? key)) := by
  induction es with
  | nil => simp [alter, get?]
  | cons e es ih =>
    by_cases h : e.1 = key <;> simp [alter, get?, h, ih]

theorem get?_alter_of_ne {key other : String} (h : other ≠ key) (f : Option Value → Value)
    (es : Entries) : (es.alter key f).get? other = es.get? other := by
  induction es with
  | nil => simp [alter, get?, Ne.symm h]
  | cons e es ih =>
    by_cases hk : e.1 = key
    · simp [alter, get?, hk, Ne.symm h]
    · simp [alter, hk, get?, ih]

theorem keys_alter (key : String) (f : Option Value → Value) (es : Entries) :
    (es.alter key f).keys = if key ∈ es.keys then es.keys else es.keys ++ [key] := by
  induction es with
  | nil => simp [alter, keys]
  | cons e es ih =>
    by_cases h : e.1 = key
    · simp [alter, keys, h]
    · simp only [keys] at ih
      by_cases hm : key ∈ es.map Prod.fst <;> simp_all [alter, keys, eq_comm]

theorem nodup_keys_alter {es : Entries} (h : es.keys.Nodup) (key : String)
    (f : Option Value → Value) : (es.alter key f).keys.Nodup := by
  rw [keys_alter]
  split
  · exact h
  · rename_i hk
    exact List.nodup_append.2 ⟨h, by simp, by
      intro a ha b hb
      simp only [List.mem_singleton] at hb
      subst hb
      exact fun hab => hk (hab ▸ ha)⟩

/-- An entry after a change is the changed one or was there before. -/
theorem mem_alter {key : String} {f : Option Value → Value} {es : Entries} {e : String × Value}
    (h : e ∈ es.alter key f) : e.2 = f (es.get? key) ∨ e ∈ es := by
  induction es with
  | nil =>
    simp only [alter, List.mem_singleton] at h
    subst h
    exact .inl rfl
  | cons d es ih =>
    by_cases hk : d.1 = key
    · simp only [alter, hk, if_true, List.mem_cons] at h
      rcases h with h | h
      · subst h
        exact .inl (by simp [get?, hk])
      · exact .inr (List.mem_cons_of_mem _ h)
    · simp only [alter, hk, if_false, List.mem_cons] at h
      rcases h with h | h
      · exact .inr (h ▸ List.mem_cons_self)
      · rcases ih h with h | h
        · exact .inl (by simpa [get?, hk] using h)
        · exact .inr (List.mem_cons_of_mem _ h)

theorem mem_of_get? {es : Entries} {key : String} {v : Value} (h : es.get? key = some v) :
    (key, v) ∈ es := by
  induction es with
  | nil => simp [get?] at h
  | cons e es ih =>
    by_cases hk : e.1 = key
    · simp only [get?, hk, if_true, Option.some.injEq] at h
      subst h
      exact hk ▸ List.mem_cons_self
    · simp only [get?, hk, if_false] at h
      exact List.mem_cons_of_mem _ (ih h)

end Entries

namespace Value

/-- The word for a kind of value. -/
def kind : Value → String
  | .null => "null"
  | .bool _ => "bool"
  | .number _ => "number"
  | .text _ => "string"
  | .list _ => "list"
  | .map _ => "map"

/-- Nothing, a blank text, and an empty list or map are not filled; `false` and zero are. -/
def isFilled : Value → Bool
  | .null => false
  | .text s => !Text.allBlank s
  | .list items => !items.isEmpty
  | .map entries => !entries.isEmpty
  | .bool _ => true
  | .number _ => true

/-- The text of a value that is neither nothing nor made of other values. -/
def scalarText? : Value → Option String
  | .text s => some s
  | .number n => some n.text
  | .bool b => some (if b then "true" else "false")
  | .null => none
  | .list _ => none
  | .map _ => none

end Value
end ListQuery
