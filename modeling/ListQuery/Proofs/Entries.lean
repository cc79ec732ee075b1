import ListQuery.Params.Key

/-!
Entries that are filtered or whose values are changed one by one, and what is looked up in them
afterwards.
-/
namespace ListQuery

namespace Entries

@[simp] theorem get?_nil (key : String) : get? [] key = none := rfl

@[simp] theorem get?_cons (e : String × Value) (es : Entries) (key : String) :
    get? (e :: es) key = if e.1 = key then some e.2 else es.get? key := rfl

theorem get?_eq_none {es : Entries} {key : String} (h : key ∉ es.keys) : es.get? key = none := by
  induction es with
  | nil => rfl
  | cons e es ih =>
    simp only [keys, List.map_cons, List.mem_cons, not_or] at h
    rw [get?_cons, if_neg (Ne.symm h.1)]
    exact ih h.2

/-- Of two changes under one key the second sees what the first has left. -/
theorem alter_alter (key : String) (f g : Option Value → Value) (es : Entries) :
    (es.alter key f).alter key g = es.alter key fun v => g (some (f v)) := by
  induction es with
  | nil => simp [alter]
  | cons e es ih =>
    by_cases hk : e.1 = key
    · simp [alter, hk]
    · simp [alter, hk, ih]

theorem alter_of_not_mem {key : String} {es : Entries} (h : key ∉ es.keys)
    (f : Option Value → Value) : es.alter key f = es ++ [(key, f none)] := by
  induction es with
  | nil => rfl
  | cons e es ih =>
    simp only [keys, List.map_cons, List.mem_cons, not_or] at h
    rw [alter, if_neg (Ne.symm h.1), ih h.2]
    rfl

theorem mem_keys_alter {key name : String} {f : Option Value → Value} {es : Entries}
    (h : name ∈ (es.alter key f).keys) : name ∈ es.keys ∨ name = key := by
  rw [keys_alter] at h
  split at h
  · exact .inl h
  · simpa using h

theorem alter_ne_nil (key : String) (f : Option Value → Value) (es : Entries) :
    es.alter key f ≠ [] := by
  cases es with
  | nil => simp [alter]
  | cons e es =>
    rw [alter]
    split <;> simp

/-- A filter keeps what is found under a key or leaves nothing there. -/
theorem get?_filter {es : Entries} (hn : es.keys.Nodup) (keep : String × Value → Bool)
    (key : String) :
    get? (List.filter keep es) key = (es.get? key).filter fun v => keep (key, v) := by
  induction es with
  | nil => rfl
  | cons e es ih =>
    obtain ⟨k, v⟩ := e
    simp only [keys, List.map_cons, List.nodup_cons] at hn
    have ih := ih hn.2
    by_cases hk : k = key
    · subst hk
      have hes : get? es k = none := get?_eq_none hn.1
      by_cases hv : keep (k, v) <;> simp [hv, ih, hes, Option.filter_some]
    · by_cases hv : keep (k, v) <;> simp [hv, hk, ih]

/-- The entries with every value changed in its place. -/
def mapValues (f : String → Value → Value) (es : Entries) : Entries :=
  es.map fun e => (e.1, f e.1 e.2)

@[simp] theorem keys_mapValues (f : String → Value → Value) (es : Entries) :
    (es.mapValues f).keys = es.keys := by
  simp [mapValues, keys]

theorem get?_mapValues (f : String → Value → Value) (es : Entries) (key : String) :
    (es.mapValues f).get? key = (es.get? key).map (f key) := by
  induction es with
  | nil => rfl
  | cons e es ih =>
    by_cases hk : e.1 = key
    · simp [mapValues, hk]
    · simpa [mapValues, hk] using ih

/-- A change that spares some names leaves their entries as they are. -/
theorem filter_mapValues {spared : String → Bool} {f : String → Value → Value}
    (hf : ∀ name v, spared name = true → f name v = v) (es : Entries) :
    List.filter (fun e => spared e.1) (es.mapValues f) = List.filter (fun e => spared e.1) es := by
  induction es with
  | nil => rfl
  | cons e es ih =>
    cases he : spared e.1 with
    | false => simpa [mapValues, he] using ih
    | true => simpa [mapValues, he, hf e.1 e.2 he] using ih

/-- Entries with the same names in the same order are the same if all of them are shared. -/
theorem eq_of_keys_eq {es fs : Entries} (hn : fs.keys.Nodup) (hk : es.keys = fs.keys)
    (h : ∀ e ∈ es, e ∈ fs) : es = fs := by
  have hmap : ∀ {gs : Entries}, (∀ e ∈ gs, e ∈ fs) →
      gs = gs.keys.map fun name => (name, (fs.get? name).getD .null) := by
    intro gs hg
    rw [keys, List.map_map]
    refine (List.map_id gs).symm.trans (List.map_congr_left fun e he => ?_)
    simp [get?_of_mem hn (hg e he)]
  rw [hmap h, hk]
  exact (hmap fun e he => he).symm

theorem Distinct.mapValues {es : Entries} (h : es.Distinct) {f : String → Value → Value}
    (hf : ∀ name v, v.Distinct → (f name v).Distinct) : (es.mapValues f).Distinct where
  nodup := by
    rw [keys_mapValues]
    exact h.nodup
  values := by
    intro e he
    obtain ⟨d, hd, rfl⟩ := List.mem_map.1 he
    exact hf d.1 d.2 (h.values d hd)

end Entries

namespace Params

/-- The text of a value that is filled. -/
theorem text?_eq (p : Params) (name : String) :
    p.text? name = (p.get? name).bind fun v => if v.isFilled then v.scalarText? else none := by
  rw [text?]
  cases p.get? name with
  | none => rfl
  | some v => by_cases hf : v.isFilled <;> simp [hf, Option.filter_some]

/-- The entries of a parameter that is a map, with or without an entry. -/
theorem getD_map? (p : Params) (name : String) :
    (p.map? name).getD [] = Value.entriesOf (p.get? name) := by
  rw [map?]
  cases p.get? name with
  | none => rfl
  | some v =>
    cases v with
    | map es => cases es <;> rfl
    | null | bool _ | number _ | text _ | list _ => rfl

/-- No name stands twice among the entries of a parameter. -/
theorem distinct_map? (p : Params) (name : String) :
    Entries.Distinct ((p.map? name).getD []) := by
  rw [getD_map?]
  exact Value.distinct_entriesOf fun v hv => p.distinct.get? hv

end Params
end ListQuery
