import ListQuery.Value.Basic

/-!
Values whose maps name no key twice. `tidy` brings any value into this form the way a reader of
entries does: a repeated key keeps its first place and its last value.
-/
namespace ListQuery

/-- No map at any depth has a key twice. -/
inductive Value.Distinct : Value → Prop where
  | null : Distinct .null
  | bool (b : Bool) : Distinct (.bool b)
  | number (n : Number) : Distinct (.number n)
  | text (s : String) : Distinct (.text s)
  | list {items : List Value} : (∀ v ∈ items, Distinct v) → Distinct (.list items)
  | map {entries : List (String × Value)} :
      (entries.map Prod.fst).Nodup → (∀ e ∈ entries, Distinct e.2) → Distinct (.map entries)

/-- The entries of a map without repeated keys. -/
structure Entries.Distinct (es : Entries) : Prop where
  nodup : es.keys.Nodup
  values : ∀ e ∈ es, e.2.Distinct

theorem Value.distinct_map_iff {es : Entries} : (Value.map es).Distinct ↔ es.Distinct :=
  ⟨fun h => by cases h with | map hn hv => exact ⟨hn, hv⟩, fun h => .map h.nodup h.values⟩

theorem Value.distinct_list_iff {items : List Value} :
    (Value.list items).Distinct ↔ ∀ v ∈ items, v.Distinct :=
  ⟨fun h => by cases h with | list hv => exact hv, .list⟩

namespace Entries

theorem distinct_nil : Distinct [] := ⟨by simp [keys], by simp⟩

theorem Distinct.get? {es : Entries} (h : es.Distinct) {key : String} {v : Value}
    (hv : es.get? key = some v) : v.Distinct :=
  h.values _ (mem_of_get? hv)

theorem Distinct.alter {es : Entries} (h : es.Distinct) {key : String}
    {f : Option Value → Value} (hf : (f (es.get? key)).Distinct) : (es.alter key f).Distinct :=
  ⟨nodup_keys_alter h.nodup key f, fun e he => by
    rcases mem_alter he with h' | h'
    · exact h' ▸ hf
    · exact h.values e h'⟩

theorem Distinct.insert {es : Entries} (h : es.Distinct) (key : String) {v : Value}
    (hv : v.Distinct) : (es.insert key v).Distinct :=
  h.alter hv

theorem Distinct.filter {es : Entries} (h : es.Distinct) (p : String × Value → Bool) :
    Distinct (List.filter p es) :=
  ⟨h.nodup.sublist (List.filter_sublist.map _), fun e he => h.values e (List.mem_filter.1 he).1⟩

/-- A key that stands once is looked up by its entry. -/
theorem get?_of_mem {es : Entries} (hn : es.keys.Nodup) {key : String} {v : Value}
    (hm : (key, v) ∈ es) : es.get? key = some v := by
  induction es with
  | nil => simp at hm
  | cons e es ih =>
    simp only [keys, List.map_cons, List.nodup_cons] at hn
    rcases List.mem_cons.1 hm with hm | hm
    · subst hm
      simp only [Entries.get?, if_true]
    · have hk : e.1 ≠ key := fun hk =>
        hn.1 (List.mem_map.2 ⟨(key, v), hm, hk.symm⟩)
      simp only [Entries.get?, hk, if_false]
      exact ih hn.2 hm

theorem distinct_foldl_insert {pairs : List (String × Value)} (h : ∀ p ∈ pairs, p.2.Distinct)
    {es : Entries} (hes : es.Distinct) :
    (pairs.foldl (fun es p => es.insert p.1 p.2) es).Distinct := by
  induction pairs generalizing es with
  | nil => exact hes
  | cons p pairs ih =>
    exact ih (fun q hq => h q (List.mem_cons_of_mem _ hq))
      (hes.insert p.1 (h p List.mem_cons_self))

theorem distinct_ofPairs {pairs : List (String × Value)} (h : ∀ p ∈ pairs, p.2.Distinct) :
    (ofPairs pairs).Distinct :=
  distinct_foldl_insert h distinct_nil

end Entries

mutual

/-- The value with every map rebuilt entry by entry. -/
def Value.tidy : Value → Value
  | .list items => .list (Value.tidyAll items)
  | .map entries => .map (Entries.ofPairs (Entries.tidyEach entries))
  | .null => .null
  | .bool b => .bool b
  | .number n => .number n
  | .text s => .text s

def Value.tidyAll : List Value → List Value
  | [] => []
  | v :: vs => v.tidy :: Value.tidyAll vs

def Entries.tidyEach : List (String × Value) → List (String × Value)
  | [] => []
  | (k, v) :: es => (k, v.tidy) :: Entries.tidyEach es

end

mutual

theorem Value.distinct_tidy : (v : Value) → v.tidy.Distinct
  | .list items => by
    rw [Value.tidy]
    exact .list (Value.distinct_tidyAll items)
  | .map entries => by
    rw [Value.tidy, Value.distinct_map_iff]
    exact Entries.distinct_ofPairs (Entries.distinct_tidyEach entries)
  | .null => by rw [Value.tidy]; exact .null
  | .bool b => by rw [Value.tidy]; exact .bool b
  | .number n => by rw [Value.tidy]; exact .number n
  | .text s => by rw [Value.tidy]; exact .text s

theorem Value.distinct_tidyAll : (vs : List Value) → ∀ v ∈ Value.tidyAll vs, v.Distinct
  | [] => by simp [Value.tidyAll]
  | v :: vs => by
    rw [Value.tidyAll]
    intro w hw
    rcases List.mem_cons.1 hw with hw | hw
    · exact hw ▸ Value.distinct_tidy v
    · exact Value.distinct_tidyAll vs w hw

theorem Entries.distinct_tidyEach :
    (es : List (String × Value)) → ∀ e ∈ Entries.tidyEach es, e.2.Distinct
  | [] => by simp [Entries.tidyEach]
  | (k, v) :: es => by
    rw [Entries.tidyEach]
    intro e he
    rcases List.mem_cons.1 he with he | he
    · exact he ▸ Value.distinct_tidy v
    · exact Entries.distinct_tidyEach es e he

end

end ListQuery
