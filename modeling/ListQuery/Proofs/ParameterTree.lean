import Mathlib
import ListQuery.Proofs.Entries
import ListQuery.Proofs.FormEncoding
import ListQuery.Proofs.KeyNotation

/-!
Parameters as trees of texts, written as a query string leaf by leaf. Reading a query string that
was written gives the tree back, and whatever is read is a tree that can be written.
-/
namespace ListQuery

mutual

/-- The texts in a value, depth first, each with the path that leads to it. -/
def Value.leaves : Value → List (List Step × String)
  | .text s => [([], s)]
  | .list items => Value.leavesAll items
  | .map entries => (Entries.leaves entries).map fun l => (.named l.1.root :: l.1.path, l.2)
  | .null => []
  | .bool _ => []
  | .number _ => []

def Value.leavesAll : List Value → List (List Step × String)
  | [] => []
  | v :: vs => (v.leaves.map fun l => (.append :: l.1, l.2)) ++ Value.leavesAll vs

/-- The texts in entries, each with its key. -/
def Entries.leaves : List (String × Value) → List (Key × String)
  | [] => []
  | (name, v) :: es => (v.leaves.map fun l => (⟨name, l.1⟩, l.2)) ++ Entries.leaves es

end

/-- Values that a query string can write: texts, and lists and maps of such values that are not
empty. A list has one text in each element, because every `[]` begins a new one. -/
inductive Value.WellFormed : Value → Prop where
  | text (s : String) : WellFormed (.text s)
  | list {items : List Value} (ne : items ≠ []) (values : ∀ v ∈ items, WellFormed v)
      (single : ∀ v ∈ items, v.leaves.length = 1) : WellFormed (.list items)
  | map {entries : List (String × Value)} (ne : entries ≠ [])
      (names : ∀ name ∈ Entries.keys entries, (Step.named name).WellFormed)
      (values : ∀ e ∈ entries, WellFormed e.2) : WellFormed (.map entries)

/-- Parameters that a query string can write. -/
structure Params.WellFormed (p : Params) : Prop where
  roots : ∀ name ∈ p.keys, name ≠ "" ∧ '[' ∉ name.toList
  values : ∀ e ∈ p.entries, e.2.WellFormed

/-- The query string that writes every text of the parameters under its key. -/
def Params.toQuery (p : Params) : String :=
  encodePairs ((Entries.leaves p.entries).map fun l => (l.1.text, l.2))

/-- What a place holds after texts have been stored below it in turn. -/
def Value.storeAll (slot : Option Value) (ls : List (List Step × String)) : Option Value :=
  ls.foldl (fun slot l => some (Value.store slot l.1 (.text l.2))) slot

/-- The entries after texts have been stored under keys in turn. -/
def Entries.storeAll (es : Entries) (ls : List (Key × String)) : Entries :=
  ls.foldl (fun es l => es.store l.1 (.text l.2)) es

namespace Value

@[simp] theorem storeAll_nil (slot : Option Value) : storeAll slot [] = slot := rfl

@[simp] theorem storeAll_cons (slot : Option Value) (l : List Step × String)
    (ls : List (List Step × String)) :
    storeAll slot (l :: ls) = storeAll (some (store slot l.1 (.text l.2))) ls := rfl

theorem leavesAll_eq_flatMap (items : List Value) :
    leavesAll items = items.flatMap fun v => v.leaves.map fun l => (.append :: l.1, l.2) := by
  induction items with
  | nil => rfl
  | cons v vs ih => rw [leavesAll, ih, List.flatMap_cons]

/-- Storing the texts of elements that hold one each appends the elements. -/
theorem storeAll_leavesAll (items : List Value) (h : ∀ v ∈ items, v.leaves.length = 1)
    (hv : ∀ v ∈ items, storeAll none v.leaves = some v) (slot : Option Value) (hne : items ≠ []) :
    storeAll slot (leavesAll items) = some (.list (itemsOf slot ++ items)) := by
  induction items generalizing slot with
  | nil => exact absurd rfl hne
  | cons v vs ih =>
    obtain ⟨l, hl⟩ := List.length_eq_one_iff.1 (h v List.mem_cons_self)
    have hst : store none l.1 (.text l.2) = v := by
      have hv := hv v List.mem_cons_self
      rw [hl] at hv
      exact Option.some.inj hv
    rw [leavesAll, hl]
    simp only [List.map_cons, List.map_nil, List.singleton_append, storeAll_cons, store, hst]
    cases vs with
    | nil => rfl
    | cons w ws =>
      rw [ih (fun u hu => h u (List.mem_cons_of_mem _ hu))
        (fun u hu => hv u (List.mem_cons_of_mem _ hu)) _ (by simp)]
      simp [itemsOf]

/-- Storing below a map stores into its entries. -/
theorem storeAll_named (slot : Option Value) (ls : List (Key × String)) (hne : ls ≠ []) :
    storeAll slot (ls.map fun l => (.named l.1.root :: l.1.path, l.2)) =
      some (.map (Entries.storeAll (entriesOf slot) ls)) := by
  induction ls generalizing slot with
  | nil => exact absurd rfl hne
  | cons l ls ih =>
    rw [List.map_cons, storeAll_cons]
    cases ls with
    | nil => rfl
    | cons m ms =>
      rw [ih _ (by simp)]
      rfl

end Value

namespace Entries

theorem leaves_eq_flatMap (es : Entries) :
    Entries.leaves es = es.flatMap fun e => e.2.leaves.map fun l => (⟨e.1, l.1⟩, l.2) := by
  induction es with
  | nil => rfl
  | cons e es ih => rw [Entries.leaves, ih, List.flatMap_cons]

@[simp] theorem storeAll_nil (es : Entries) : es.storeAll [] = es := rfl

@[simp] theorem storeAll_cons (es : Entries) (l : Key × String) (ls : List (Key × String)) :
    es.storeAll (l :: ls) = (es.store l.1 (.text l.2)).storeAll ls := rfl

theorem storeAll_append (es : Entries) (ls ms : List (Key × String)) :
    es.storeAll (ls ++ ms) = (es.storeAll ls).storeAll ms := List.foldl_append

/-- Storing texts under keys of one root changes the value under the root, and only that. -/
theorem storeAll_under (es : Entries) (name : String) (ls : List (List Step × String))
    (hne : ls ≠ []) :
    es.storeAll (ls.map fun l => (⟨name, l.1⟩, l.2)) =
      es.alter name fun slot => (Value.storeAll slot ls).getD .null := by
  induction ls generalizing es with
  | nil => exact absurd rfl hne
  | cons l ls ih =>
    cases ls with
    | nil => rfl
    | cons m ms =>
      rw [List.map_cons, storeAll_cons, ih _ (by simp), Entries.store, alter_alter]
      rfl

/-- Storing the texts of entries with new names appends the entries. -/
theorem storeAll_leaves (es before : Entries) (hn : (keys (before ++ es)).Nodup)
    (hv : ∀ e ∈ es, Value.storeAll none e.2.leaves = some e.2) :
    storeAll before (Entries.leaves es) = before ++ es := by
  induction es generalizing before with
  | nil => simp [Entries.leaves]
  | cons e es ih =>
    obtain ⟨name, v⟩ := e
    have hst := hv (name, v) List.mem_cons_self
    have hne : v.leaves ≠ [] := by
      intro hl
      simp [hl] at hst
    have hk : name ∉ keys before := by
      simp only [keys, List.map_append, List.map_cons] at hn
      intro hm
      exact (List.nodup_append.1 hn).2.2 name hm name List.mem_cons_self rfl
    rw [Entries.leaves, storeAll_append, storeAll_under _ _ _ hne, alter_of_not_mem hk, hst,
      ih _ (by simpa [keys] using hn) fun d hd => hv d (List.mem_cons_of_mem _ hd)]
    simp

end Entries

/-- Storing the texts of a well-formed value in an empty place gives the value back. -/
theorem Value.storeAll_leaves {v : Value} (h : v.WellFormed) (hd : v.Distinct) :
    Value.storeAll none v.leaves = some v := by
  induction h with
  | text s => rfl
  | list ne _ single ih =>
    have hd := Value.distinct_list_iff.1 hd
    exact Value.storeAll_leavesAll _ single (fun v hv => ih v hv (hd v hv)) none ne
  | @map entries ne _ _ ih =>
    have hd := Value.distinct_map_iff.1 hd
    have hs : ∀ e ∈ entries, Value.storeAll none e.2.leaves = some e.2 :=
      fun e he => ih e he (hd.values e he)
    have hl := Entries.storeAll_leaves entries [] hd.nodup hs
    have hne : Entries.leaves entries ≠ [] := by
      intro hnil
      rw [hnil, Entries.storeAll_nil, List.nil_append] at hl
      exact ne hl.symm
    rw [Value.leaves, Value.storeAll_named none _ hne]
    exact congrArg (fun es => some (Value.map es)) hl

/-- Every step on the way to a text of a well-formed value can be written. -/
theorem Value.wellFormed_of_mem_leaves {v : Value} (h : v.WellFormed) :
    ∀ l ∈ v.leaves, ∀ s ∈ l.1, s.WellFormed := by
  induction h with
  | text s => simp [Value.leaves]
  | list _ _ _ ih =>
    rw [Value.leaves, Value.leavesAll_eq_flatMap]
    intro l hl s hs
    obtain ⟨v, hv, hl⟩ := List.mem_flatMap.1 hl
    obtain ⟨m, hm, rfl⟩ := List.mem_map.1 hl
    rcases List.mem_cons.1 hs with hs | hs
    · exact hs ▸ trivial
    · exact ih v hv m hm s hs
  | map _ names _ ih =>
    rw [Value.leaves, Entries.leaves_eq_flatMap]
    intro l hl s hs
    obtain ⟨k, hk, rfl⟩ := List.mem_map.1 hl
    obtain ⟨e, he, hk⟩ := List.mem_flatMap.1 hk
    obtain ⟨m, hm, rfl⟩ := List.mem_map.1 hk
    rcases List.mem_cons.1 hs with hs | hs
    · exact hs ▸ names e.1 (List.mem_map_of_mem he)
    · exact ih e he m hm s hs

namespace Params

/-- Every key that well-formed parameters write can be read. -/
theorem wellFormed_of_mem_leaves {p : Params} (h : p.WellFormed) :
    ∀ l ∈ Entries.leaves p.entries, l.1.WellFormed := by
  rw [Entries.leaves_eq_flatMap]
  intro l hl
  obtain ⟨e, he, hl⟩ := List.mem_flatMap.1 hl
  obtain ⟨m, hm, rfl⟩ := List.mem_map.1 hl
  have hr := h.roots e.1 (List.mem_map_of_mem he)
  exact ⟨hr.1, hr.2, Value.wellFormed_of_mem_leaves (h.values e he) m hm⟩

theorem ext_entries {p q : Params} (h : p.entries = q.entries) : p = q := by
  cases p
  cases q
  cases h
  rfl

/-- Storing texts under written keys stores them under the keys. -/
theorem entries_foldl_store (ls : List (Key × String)) (h : ∀ l ∈ ls, l.1.WellFormed)
    (p : Params) :
    ((ls.map fun l => (l.1.text, l.2)).foldl (fun p e => p.store e.1 e.2) p).entries =
      p.entries.storeAll ls := by
  induction ls generalizing p with
  | nil => rfl
  | cons l ls ih =>
    have hk := Key.read?_text (h l List.mem_cons_self)
    rw [List.map_cons, List.foldl_cons, ih fun m hm => h m (List.mem_cons_of_mem _ hm)]
    simp only [Params.store, hk]
    rfl

/-- Reading the query string that well-formed parameters write gives them back. -/
theorem ofQuery_toQuery_of_wellFormed {p : Params} (h : p.WellFormed) : ofQuery p.toQuery = p := by
  refine ext_entries ?_
  rw [ofQuery, toQuery, queryPairs_encodePairs, ofTexts,
    entries_foldl_store _ (wellFormed_of_mem_leaves h)]
  exact Entries.storeAll_leaves p.entries [] p.distinct.nodup fun e he =>
    Value.storeAll_leaves (h.values e he) (p.distinct.values e he)

example : (Params.ofPairs [("ids", .list [.text "1", .text "a b"])]).toQuery =
    "ids%5B%5D=1&ids%5B%5D=a+b" := by cbv

end Params

namespace Value

/-- Storing one text in an empty place makes a value of that one text. -/
theorem leaves_store_none (path : List Step) (s : String) :
    (store none path (.text s)).leaves = [(path, s)] := by
  induction path with
  | nil => rfl
  | cons step path ih =>
    cases step with
    | append => simp [store, itemsOf, leaves, leavesAll, ih]
    | named segment => simp [store, entriesOf, Entries.alter, leaves, Entries.leaves, ih]

theorem wellFormed_list_iff {items : List Value} :
    (Value.list items).WellFormed ↔
      items ≠ [] ∧ ∀ v ∈ items, v.WellFormed ∧ v.leaves.length = 1 := by
  constructor
  · intro h
    cases h with
    | list ne values single => exact ⟨ne, fun v hv => ⟨values v hv, single v hv⟩⟩
  · rintro ⟨ne, h⟩
    exact .list ne (fun v hv => (h v hv).1) fun v hv => (h v hv).2

theorem wellFormed_map_iff {entries : List (String × Value)} :
    (Value.map entries).WellFormed ↔
      entries ≠ [] ∧ (∀ name ∈ Entries.keys entries, (Step.named name).WellFormed) ∧
        ∀ e ∈ entries, e.2.WellFormed := by
  constructor
  · intro h
    cases h with
    | map ne names values => exact ⟨ne, names, values⟩
  · rintro ⟨ne, names, values⟩
    exact .map ne names values

theorem wellFormed_itemsOf {slot : Option Value} (hs : ∀ v ∈ slot, v.WellFormed) :
    ∀ v ∈ itemsOf slot, v.WellFormed ∧ v.leaves.length = 1 := by
  match slot, hs with
  | some (.list items), hs => exact (wellFormed_list_iff.1 (hs _ rfl)).2
  | none, _ | some .null, _ | some (.bool _), _ | some (.number _), _ | some (.text _), _
  | some (.map _), _ => simp [itemsOf]

theorem wellFormed_entriesOf {slot : Option Value} (hs : ∀ v ∈ slot, v.WellFormed) :
    (∀ name ∈ Entries.keys (entriesOf slot), (Step.named name).WellFormed) ∧
      ∀ e ∈ entriesOf slot, e.2.WellFormed := by
  match slot, hs with
  | some (.map entries), hs => exact (wellFormed_map_iff.1 (hs _ rfl)).2
  | none, _ | some .null, _ | some (.bool _), _ | some (.number _), _ | some (.text _), _
  | some (.list _), _ => simp [entriesOf, Entries.keys]

/-- Storing a text keeps a place well formed. What is of the wrong kind on the way is replaced, and
an element of a list is never stored into again. -/
theorem wellFormed_store {slot : Option Value} (hs : ∀ v ∈ slot, v.WellFormed) {path : List Step}
    (hp : ∀ step ∈ path, step.WellFormed) (s : String) :
    (store slot path (.text s)).WellFormed := by
  induction path generalizing slot with
  | nil => exact .text s
  | cons step path ih =>
    have hp' : ∀ step ∈ path, step.WellFormed := fun t ht => hp t (List.mem_cons_of_mem _ ht)
    cases step with
    | append =>
      refine wellFormed_list_iff.2 ⟨by simp, fun v hv => ?_⟩
      rcases List.mem_append.1 hv with hv | hv
      · exact wellFormed_itemsOf hs v hv
      · rw [List.mem_singleton.1 hv, leaves_store_none]
        exact ⟨ih (by simp) hp', rfl⟩
    | named segment =>
      have he := wellFormed_entriesOf hs
      refine .map (Entries.alter_ne_nil _ _ _) (fun name hname => ?_) fun e hm => ?_
      · rcases Entries.mem_keys_alter hname with hname | hname
        · exact he.1 name hname
        · exact hname ▸ hp _ List.mem_cons_self
      · rcases Entries.mem_alter hm with hm | hm
        · rw [hm]
          exact ih (fun v hv => he.2 _ (Entries.mem_of_get? hv)) hp'
        · exact he.2 e hm

end Value

namespace Params

theorem wellFormed_empty : empty.WellFormed := ⟨by simp [keys, empty, Entries.keys], by simp [empty]⟩

/-- Storing a text under a written key keeps parameters well formed. -/
theorem WellFormed.store {p : Params} (h : p.WellFormed) (key text : String) :
    (p.store key text).WellFormed := by
  rw [Params.store]
  split
  · rename_i k hk
    have hk := Key.wellFormed_of_read? hk
    constructor
    · intro name hname
      rcases Entries.mem_keys_alter hname with hname | hname
      · exact h.roots name hname
      · exact hname ▸ ⟨hk.root_ne, hk.root_closed⟩
    · intro e he
      rcases Entries.mem_alter he with he | he
      · rw [he]
        exact Value.wellFormed_store (fun v hv => h.values _ (Entries.mem_of_get? hv)) hk.path text
      · exact h.values e he
  · exact h

theorem wellFormed_foldl_store {p : Params} (h : p.WellFormed) (pairs : List (String × String)) :
    (pairs.foldl (fun p e => p.store e.1 e.2) p).WellFormed := by
  induction pairs generalizing p with
  | nil => exact h
  | cons e pairs ih => exact ih (h.store e.1 e.2)

end Params

/-- Reading a query string undoes writing one, for all parameters that can be written, and what is
read from any text are such parameters. -/
theorem ofQuery_toQuery_and_wellFormed_ofQuery :
    (∀ t : Params, t.WellFormed → Params.ofQuery t.toQuery = t) ∧
      ∀ query : String, (Params.ofQuery query).WellFormed :=
  ⟨fun _ h => Params.ofQuery_toQuery_of_wellFormed h,
    fun query => Params.wellFormed_foldl_store Params.wellFormed_empty (queryPairs query)⟩

/-- Brackets in names, an empty text, reserved characters and a map inside a list. -/
theorem ofQuery_toQuery_nested :
    let t := Params.ofPairs
      [("a]", .map [("x[", .list [.text "", .map [("k", .list [.text "ü"])]]), ("y", .text "&=+%")]),
       ("?", .text " b")]
    t.WellFormed ∧ Params.ofQuery t.toQuery = t := by
  intro t
  have he : t.entries =
      [("a]", .map [("x[", .list [.text "", .map [("k", .list [.text "ü"])]]),
        ("y", .text "&=+%")]), ("?", .text " b")] := by cbv
  have h : t.WellFormed := by
    constructor
    · simp [Params.keys, he, Entries.keys]
    · simp [he, Value.wellFormed_map_iff, Value.wellFormed_list_iff, Value.WellFormed.text,
        Entries.keys, Step.WellFormed, Value.leaves, Value.leavesAll, Entries.leaves]
  exact ⟨h, ofQuery_toQuery_and_wellFormed_ofQuery.1 t h⟩

end ListQuery
