import ListQuery.Params.QueryString
import ListQuery.Proofs.Entries

/-!
Values as trees. A chain of names leads from the root of a tree through maps to a place in it.
Main statement: storing under a key writes one place, and every chain of names that parts from the
key leads where it led before.
-/
namespace ListQuery

namespace Value

/-- What a map has under a name; any other value has nothing there. -/
def under? : Value → String → Option Value
  | .map entries, name => Entries.get? entries name
  | _, _ => none

/-- What a chain of names leads to, through maps only. -/
def follow? (v : Value) (chain : List String) : Option Value := chain.foldlM under? v

/-- What stands where a step is about to store: the entry of a map, and nothing yet where an
element is to be appended. -/
def target? : Value → Step → Option Value
  | v, .named segment => v.under? segment
  | _, .append => none

/-- What stands where a step has stored: the entry of a map, or the last element of a list. -/
def stored? : Value → Step → Option Value
  | v, .named segment => v.under? segment
  | v, .append => (itemsOf (some v)).getLast?

theorem get?_entriesOf (slot : Option Value) (name : String) :
    Entries.get? (entriesOf slot) name = slot.bind (·.under? name) := by
  cases slot with
  | none => rfl
  | some v => cases v <;> rfl

theorem follow?_cons (v : Value) (name : String) (chain : List String) :
    v.follow? (name :: chain) = (v.under? name).bind (·.follow? chain) := List.foldlM_cons

theorem bind_follow?_cons (slot : Option Value) (name : String) (chain : List String) :
    slot.bind (·.follow? (name :: chain)) =
      (slot.bind (·.under? name)).bind (·.follow? chain) := by
  rw [Option.bind_assoc]
  rfl

section Store

variable (slot : Option Value) (path rest : List Step) (value : Value)

/-- A step to a name stores below the entry of this name. -/
theorem under?_store_self (segment : String) :
    (store slot (.named segment :: path) value).under? segment =
      some (store (slot.bind (·.under? segment)) path value) := by
  rw [store, under?, Entries.get?_alter_self, get?_entriesOf]

/-- The other entries stay; a value that was no map had none. -/
theorem under?_store_of_ne {segment name : String} (h : name ≠ segment) :
    (store slot (.named segment :: path) value).under? name = slot.bind (·.under? name) := by
  rw [store, under?, Entries.get?_alter_of_ne h, get?_entriesOf]

/-- Where the first steps of a path have stored stands what the other steps make of what stood
there before. -/
theorem foldlM_stored?_store :
    path.foldlM stored? (store slot (path ++ rest) value) =
      some (store (slot.bind (path.foldlM target? ·)) rest value) := by
  induction path generalizing slot with
  | nil => cases slot <;> rfl
  | cons step path ih =>
    rw [List.cons_append, List.foldlM_cons]
    cases step with
    | append =>
      have hlast : (store slot (.append :: (path ++ rest)) value).stored? .append =
          some (store none (path ++ rest) value) := List.getLast?_concat
      have hnew : slot.bind ((Step.append :: path).foldlM target? ·) = none := by
        cases slot <;> rfl
      rw [hlast, hnew]
      exact ih none
    | named segment =>
      have hentry := under?_store_self slot (path ++ rest) value segment
      have htarget : slot.bind ((Step.named segment :: path).foldlM target? ·) =
          (slot.bind (·.under? segment)).bind (path.foldlM target? ·) := by
        rw [Option.bind_assoc]
        rfl
      rw [stored?, hentry, htarget]
      exact ih _

/-- Names lead to what was stored under them. -/
theorem follow?_store (names : List String) :
    (store slot (names.map .named) value).follow? names = some value := by
  induction names generalizing slot with
  | nil => rfl
  | cons name names ih =>
    rw [follow?_cons, List.map_cons, under?_store_self]
    exact ih _

/-- A chain that parts from the names leads where it led before. The name at which it parts is
another entry of the same map, and there is none if that map has only now been made. -/
theorem follow?_store_of_parted {names chain : List String} (hc : ¬ chain <+: names)
    (hn : ¬ names <+: chain) :
    (store slot (names.map .named ++ rest) value).follow? chain = slot.bind (·.follow? chain) := by
  induction names generalizing slot chain with
  | nil => exact absurd List.nil_prefix hn
  | cons name names ih =>
    cases chain with
    | nil => exact absurd List.nil_prefix hc
    | cons other chain =>
      rw [follow?_cons, bind_follow?_cons, List.map_cons, List.cons_append]
      by_cases ho : other = name
      · subst ho
        rw [List.cons_prefix_cons] at hc hn
        rw [under?_store_self]
        exact ih _ (fun h => hc ⟨rfl, h⟩) fun h => hn ⟨rfl, h⟩
      · rw [under?_store_of_ne _ _ _ ho]

/-- A map stands at every level above the last name. The names it had keep their order, and the
next name of the path comes last if it is new. -/
theorem exists_level_store {names level : List String} {name : String}
    (h : level ++ [name] <+: names) :
    ∃ entries,
      (store slot (names.map .named ++ rest) value).follow? level = some (.map entries) ∧
        let known := Entries.keys (entriesOf (slot.bind (·.follow? level)))
        Entries.keys entries = if name ∈ known then known else known ++ [name] := by
  induction level generalizing slot names with
  | nil =>
    obtain ⟨names, rfl⟩ := h
    refine ⟨_, rfl, ?_⟩
    rw [Entries.keys_alter]
    cases slot <;> rfl
  | cons first level ih =>
    obtain ⟨after, rfl⟩ := h
    obtain ⟨entries, hfollow, hkeys⟩ := ih (slot.bind (·.under? first)) (List.prefix_append _ after)
    refine ⟨entries, ?_, ?_⟩
    · rw [follow?_cons, List.cons_append, List.cons_append, List.map_cons, List.cons_append,
        under?_store_self]
      exact hfollow
    · rw [bind_follow?_cons]
      exact hkeys

end Store

/-- What is no list has no elements. -/
theorem itemsOf_eq_nil {slot : Option Value} (h : ∀ items, slot ≠ some (.list items)) :
    itemsOf slot = [] := by
  match slot, h with
  | some (.list items), h => exact absurd rfl (h items)
  | none, _ | some .null, _ | some (.bool _), _ | some (.number _), _ | some (.text _), _
  | some (.map _), _ => rfl

/-- Entries are found by dotted paths too. -/
theorem child?_of_under? {v w : Value} {name : String} (h : v.under? name = some w) :
    v.child? name = some w := by
  cases v with
  | map entries => exact h
  | null | bool _ | number _ | text _ | list _ => cases h

theorem foldlM_child?_of_follow? {v w : Value} {chain : List String}
    (h : v.follow? chain = some w) : chain.foldlM child? v = some w := by
  induction chain generalizing v with
  | nil => exact h
  | cons name chain ih =>
    rw [follow?_cons, Option.bind_eq_some_iff] at h
    obtain ⟨u, hu, h⟩ := h
    rw [List.foldlM_cons, child?_of_under? hu]
    exact ih h

end Value

/-- The dotted path of a chain of names. -/
def dotted (chain : List String) : String :=
  .ofList (['.'].intercalate (chain.map String.toList))

namespace Params

theorem pathSegments_dotted {chain : List String} (hne : chain ≠ [])
    (h : ∀ name ∈ chain, '.' ∉ name.toList) : pathSegments (dotted chain) = chain := by
  have hcut : Text.splitOn '.' (['.'].intercalate (chain.map String.toList)) =
      chain.map String.toList := by
    refine Text.splitOn_intercalate (by simpa using hne) fun piece hp => ?_
    obtain ⟨name, hname, rfl⟩ := List.mem_map.1 hp
    exact h name hname
  rw [pathSegments, dotted, String.toList_ofList, hcut, List.map_map]
  exact List.map_id'' (fun _ => String.ofList_toList) chain

/-- The dotted path of a chain leads to what the chain leads to, if its dots stand between names
only. -/
theorem getPath?_dotted {p : Params} {root : String} {names : List String} {w : Value}
    (h : ∀ name ∈ root :: names, '.' ∉ name.toList)
    (hw : (Value.map p.entries).follow? (root :: names) = some w) :
    p.getPath? (dotted (root :: names)) = some w := by
  rw [Value.follow?_cons, Option.bind_eq_some_iff] at hw
  obtain ⟨v, hv, hw⟩ := hw
  have hv : p.get? root = some v := hv
  rw [getPath?, pathSegments_dotted (by simp) h]
  simp only [hv, Option.bind_some]
  exact Value.foldlM_child?_of_follow? hw

end Params

/-- Storing under a key writes one place and leaves the rest as it was. The names of the key lead
to what was stored. A chain of names that parts from them leads where it led before. On the way the
names of every map keep their order, and a new one comes last. An append adds one element at the
end of a list and makes a list of this element of anything else; the element is what an empty map
would get under a name, the value itself where the append is the last step. -/
theorem store_writes_one_place (es : Entries) (root : String) (value : Value) :
    (∀ names : List String,
      let after := es.store ⟨root, names.map .named⟩ value
      (Value.map after).follow? (root :: names) = some value ∧
      ((∀ name ∈ root :: names, '.' ∉ name.toList) → ∀ p : Params, p.entries = after →
        p.getPath? (dotted (root :: names)) = some value)) ∧
    (∀ (names : List String) (rest : List Step),
      let before := Value.map es
      let after := Value.map (es.store ⟨root, names.map .named ++ rest⟩ value)
      (∀ chain, ¬ chain <+: root :: names → ¬ root :: names <+: chain →
        after.follow? chain = before.follow? chain) ∧
      ∀ level name, level ++ [name] <+: root :: names →
        ∃ entries, after.follow? level = some (.map entries) ∧
          let known := Entries.keys (Value.entriesOf (before.follow? level))
          Entries.keys entries = if name ∈ known then known else known ++ [name]) ∧
    ∀ path rest : List Step,
      let place := Step.named root :: path
      let slot := place.foldlM Value.target? (.map es)
      let after := Value.map (es.store ⟨root, path ++ .append :: rest⟩ value)
      let element := Value.store none rest value
      (∀ name, Entries.get? (Entries.store [] ⟨name, rest⟩ value) name = some element) ∧
      (∀ items, slot = some (.list items) →
        place.foldlM Value.stored? after = some (.list (items ++ [element]))) ∧
      ((∀ items, slot ≠ some (.list items)) →
        place.foldlM Value.stored? after = some (.list [element])) := by
  -- the root is one more name, under which a map that is there already is stored into
  refine ⟨fun names => ?_, fun names rest => ?_, fun path rest => ?_⟩
  · intro after
    have hfollow : (Value.map after).follow? (root :: names) = some value :=
      Value.follow?_store (some (.map es)) value (root :: names)
    refine ⟨hfollow, fun hdots p hp => Params.getPath?_dotted hdots ?_⟩
    rw [hp]
    exact hfollow
  · intro before after
    constructor
    · intro chain hc hn
      exact Value.follow?_store_of_parted (some before) rest value hc hn
    · intro level name h
      exact Value.exists_level_store (some before) rest value h
  · intro place slot after element
    have hplace : place.foldlM Value.stored? after =
        some (.list (Value.itemsOf slot ++ [element])) :=
      Value.foldlM_stored?_store (some (.map es)) place (.append :: rest) value
    rw [hplace]
    refine ⟨fun name => Entries.get?_alter_self name _ [], ?_, ?_⟩
    · intro items hslot
      rw [hslot]
      rfl
    · intro hslot
      rw [Value.itemsOf_eq_nil hslot]
      rfl

/-- A text is in the way of the first key, its neighbours stay, and the other keys append to a list
and to a map. -/
theorem store_below_text_list_and_map :
    let before := Params.ofPairs
      [("a", .map [("x", .text "1"), ("b", .text "old"), ("y", .list [.text "2"])])]
    let after := before.store "a[b][d]" "new"
    after.getPath? "a.b.d" = some (.text "new") ∧
      (Value.map after.entries).follow? ["a", "x"] = some (.text "1") ∧
      (∃ entries, (Value.map after.entries).follow? ["a"] = some (.map entries) ∧
        Entries.keys entries = ["x", "b", "y"]) ∧
      (before.store "a[y][]" "new").getPath? "a.y" = some (.list [.text "2", .text "new"]) ∧
      (before.store "a[]" "new").get? "a" = some (.list [.text "new"]) := by
  intro before after
  obtain ⟨hnamed, hframe, happend⟩ := store_writes_one_place before.entries "a" (.text "new")
  have hframe := hframe ["b", "d"] []
  refine ⟨(hnamed ["b", "d"]).2 (by decide) after rfl, ?_, ?_, ?_, ?_⟩
  · exact hframe.1 ["a", "x"] (by decide) (by decide)
  · exact hframe.2 ["a"] "b" (by decide)
  · exact (happend [.named "y"] []).2.1 [.text "2"] rfl
  · exact (happend [] []).2.2 fun items hslot => nomatch hslot

end ListQuery
