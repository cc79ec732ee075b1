import ListQuery.Proofs.Parts

/-!
Where the equalities and comparisons of a description come from, place by place of the request. Main
statements: the equalities are those of the entries that may be matched, in their order, up to the
first with an integer name; the comparisons are those of the bounds that count, in the order of
their places, and without ranges the names of ranges are like any other.
-/
namespace ListQuery

/-! ## Lists by place -/

/-- A list holds what stands at the places where something stands: once each, in the order of the
places. -/
def Enumerates {ι β : Type} (before : ι → ι → Prop) (stands : ι → β → Prop) (bs : List β) : Prop :=
  ∃ places : List ι, places.Pairwise before ∧ (∀ i, i ∈ places ↔ ∃ b, stands i b) ∧
    List.Forall₂ stands places bs

/-- The order of places in a list of lists: by the outer place, then by the inner one. -/
def Earlier (q q' : Nat × Nat) : Prop := q.1 < q'.1 ∨ (q.1 = q'.1 ∧ q.2 < q'.2)

/-- The element at place `i` is kept, and none that is kept before it stops. -/
def KeptAt {α : Type} (keeps : α → Prop) (stops : α → Bool) (as : List α) (i : Nat) (a : α) :
    Prop :=
  as[i]? = some a ∧ keeps a ∧ ∀ j < i, ∀ b, as[j]? = some b → keeps b → stops b = false

section

variable {α : Type} {keeps : α → Prop} {stops : α → Bool} {a b : α} {as : List α} {i : Nat}

theorem keptAt_cons_zero : KeptAt keeps stops (a :: as) 0 b ↔ a = b ∧ keeps b := by
  simp [KeptAt]

theorem keptAt_cons_succ : KeptAt keeps stops (a :: as) (i + 1) b ↔
    (keeps a → stops a = false) ∧ KeptAt keeps stops as i b := by
  simp only [KeptAt, List.getElem?_cons_succ, Nat.forall_lt_succ_left, List.getElem?_cons_zero,
    Option.some.injEq, forall_eq']
  tauto

end

namespace Enumerates

variable {ι α β γ : Type} {before : ι → ι → Prop} {stands : ι → β → Prop} {bs cs : List β}

theorem nil (h : ∀ i b, ¬ stands i b) : Enumerates before stands [] :=
  ⟨[], .nil, by simpa using h, .nil⟩

theorem congr {stands' : ι → β → Prop} (h : Enumerates before stands bs)
    (hiff : ∀ i b, stands i b ↔ stands' i b) : Enumerates before stands' bs := by
  obtain rfl : stands = stands' := funext fun i => funext fun b => propext (hiff i b)
  exact h

theorem map (h : Enumerates before stands bs) (g : β → γ) :
    Enumerates before (fun i c => ∃ b, stands i b ∧ c = g b) (bs.map g) := by
  obtain ⟨places, hsorted, hmem, hstands⟩ := h
  refine ⟨places, hsorted, fun i => ?_, ?_⟩
  · rw [hmem]
    exact ⟨fun ⟨b, hb⟩ => ⟨g b, b, hb, rfl⟩, fun ⟨_, b, hb, _⟩ => ⟨b, hb⟩⟩
  · exact List.forall₂_map_right_iff.2 (hstands.imp fun i b hb => ⟨b, hb, rfl⟩)

/-- Places in two parts, of which the first stands before the second. -/
theorem append {ι₁ ι₂ : Type} {before₁ : ι₁ → ι₁ → Prop} {before₂ : ι₂ → ι₂ → Prop} (f : ι₁ → ι)
    (g : ι₂ → ι) (hf : Enumerates before₁ (fun i => stands (f i)) bs)
    (hg : Enumerates before₂ (fun j => stands (g j)) cs)
    (first : ∀ i i', before₁ i i' → before (f i) (f i'))
    (second : ∀ j j', before₂ j j' → before (g j) (g j')) (across : ∀ i j, before (f i) (g j))
    (cover : ∀ k, (∃ i, f i = k) ∨ ∃ j, g j = k) : Enumerates before stands (bs ++ cs) := by
  obtain ⟨ps, hps, hpmem, hpstands⟩ := hf
  obtain ⟨qs, hqs, hqmem, hqstands⟩ := hg
  refine ⟨ps.map f ++ qs.map g, ?_, fun k => ?_, ?_⟩
  · refine List.pairwise_append.2 ⟨hps.map f first, hqs.map g second, fun a ha b hb => ?_⟩
    obtain ⟨i, -, rfl⟩ := List.mem_map.1 ha
    obtain ⟨j, -, rfl⟩ := List.mem_map.1 hb
    exact across i j
  · rw [List.mem_append]
    constructor
    · rintro (hk | hk)
      · obtain ⟨i, hi, rfl⟩ := List.mem_map.1 hk
        exact (hpmem i).1 hi
      · obtain ⟨j, hj, rfl⟩ := List.mem_map.1 hk
        exact (hqmem j).1 hj
    · intro hb
      rcases cover k with ⟨i, rfl⟩ | ⟨j, rfl⟩
      · exact .inl (List.mem_map_of_mem ((hpmem i).2 hb))
      · exact .inr (List.mem_map_of_mem ((hqmem j).2 hb))
  · exact List.rel_append (List.forall₂_map_left_iff.2 hpstands)
      (List.forall₂_map_left_iff.2 hqstands)

section

variable {stands : Nat → β → Prop}

/-- The first place apart from the others. -/
theorem first_append (h : Enumerates (fun _ _ => False) (fun _ : Unit => stands 0) bs)
    (hcs : Enumerates (· < ·) (fun i => stands (i + 1)) cs) :
    Enumerates (· < ·) stands (bs ++ cs) := by
  refine append (fun _ => 0) Nat.succ h hcs (fun _ _ h => h.elim) (fun _ _ => Nat.succ_lt_succ)
    (fun _ => Nat.succ_pos) fun k => ?_
  cases k with
  | zero => exact .inl ⟨(), rfl⟩
  | succ k => exact .inr ⟨k, rfl⟩

/-- Nothing stands at the first place. -/
theorem skip (h : ∀ b, ¬ stands 0 b) (hbs : Enumerates (· < ·) (fun i => stands (i + 1)) bs) :
    Enumerates (· < ·) stands bs :=
  first_append (nil fun _ => h) hbs

/-- Something stands at the first place. -/
theorem cons {b : β} (h : stands 0 b) (hbs : Enumerates (· < ·) (fun i => stands (i + 1)) bs) :
    Enumerates (· < ·) stands (b :: bs) := by
  have hone : Enumerates (fun _ _ => False) (fun _ : Unit => stands 0) [b] :=
    ⟨[()], List.pairwise_singleton _ _, fun _ => by simpa using ⟨b, h⟩, .cons h .nil⟩
  exact first_append hone hbs

end

/-- The elements that are kept, of which the first that stops is the last. -/
theorem upToStop (keeps stops : α → Bool) (as : List α) :
    Enumerates (· < ·) (KeptAt (fun a => keeps a = true) stops as)
      ((as.filter keeps).takeWhile (fun a => !stops a) ++
        ((as.filter keeps).dropWhile fun a => !stops a).take 1) := by
  induction as with
  | nil => exact nil fun i b h => by simpa using h.1
  | cons a as ih =>
    cases hk : keeps a with
    | false =>
      rw [List.filter_cons_of_neg (by simp [hk])]
      refine skip (fun b h => ?_) (ih.congr fun i b => ?_)
      · obtain ⟨rfl, hb⟩ := keptAt_cons_zero.1 h
        rw [hk] at hb
        cases hb
      · simp [keptAt_cons_succ, hk]
    | true =>
      rw [List.filter_cons_of_pos hk]
      have hfirst : KeptAt (fun a => keeps a = true) stops (a :: as) 0 a :=
        keptAt_cons_zero.2 ⟨rfl, hk⟩
      cases hs : stops a with
      | true =>
        have hnone : ∀ i b, ¬ KeptAt (fun a => keeps a = true) stops (a :: as) (i + 1) b :=
          fun i b h => by simpa [hs, hk] using (keptAt_cons_succ.1 h).1
        simpa [hs] using cons hfirst (nil hnone)
      | false =>
        have h := cons hfirst (ih.congr fun i b => by simp [keptAt_cons_succ, hs])
        simpa [hs] using h

/-- The elements that are kept. -/
theorem filter (keeps : α → Bool) (as : List α) :
    Enumerates (· < ·) (fun (i : Nat) a => as[i]? = some a ∧ keeps a = true) (as.filter keeps) := by
  have h := upToStop keeps (fun _ => false) as
  simp only [Bool.not_false] at h
  rw [List.takeWhile_eq_self_iff.2 fun _ _ => rfl, List.dropWhile_eq_nil_iff.2 fun _ _ => rfl,
    List.take_nil, List.append_nil] at h
  exact h.congr fun i a => by simp [KeptAt]

/-- Lists made from each element in turn, by the place of the element and then the place in what is
made from it. -/
theorem flatMap {f : α → List β} {stands : α → Nat → β → Prop}
    (h : ∀ a, Enumerates (· < ·) (stands a) (f a)) (as : List α) :
    Enumerates Earlier (fun q b => ∃ a, as[q.1]? = some a ∧ stands a q.2 b) (as.flatMap f) := by
  induction as with
  | nil => exact nil (by simp)
  | cons a as ih =>
    rw [List.flatMap_cons]
    refine append (fun j => (0, j)) (fun q => (q.1 + 1, q.2)) ((h a).congr ?_) (ih.congr ?_)
      (fun _ _ h => .inr ⟨rfl, h⟩) (fun q q' hq => ?_) (fun _ _ => .inl (Nat.succ_pos _)) ?_
    · simp
    · simp
    · simp only [Earlier] at hq ⊢
      omega
    · rintro ⟨i, j⟩
      cases i with
      | zero => exact .inl ⟨j, rfl⟩
      | succ i => exact .inr ⟨(i, j), rfl⟩

end Enumerates

/-! ## Equalities and comparisons of a description -/

namespace Predicate

def equality? : Predicate → Option (String × Value)
  | .equals column value => some (column, value)
  | _ => none

def comparison? : Predicate → Option (String × Operator × Value)
  | .compare column operator value => some (column, operator, value)
  | _ => none

end Predicate

namespace Description

/-- The columns that have to equal a value. -/
def equalities (d : Description) : Entries := d.filterMap Predicate.equality?

/-- The columns that are compared with a bound. -/
def bounds (d : Description) : List (String × Operator × Value) :=
  d.filterMap Predicate.comparison?

end Description

namespace Parts

/-- What is picked from a description, part by part. -/
theorem filterMap_description {β : Type} (f : Predicate → Option β) (parts : Parts) :
    parts.description.filterMap f =
      parts.equalities.filterMap (fun e => f (.equals e.1 e.2)) ++
        parts.comparisons.filterMap (fun b => f (.compare b.1 b.2.1 b.2.2)) ++
        (group parts.patterns).filterMap f ++
        (f (.orderBy parts.order.1 parts.order.2)).toList ++
        parts.calls.filterMap fun e => f (.scopeCall e.1 e.2) := by
  simp only [description, List.filterMap_append, List.filterMap_cons, List.filterMap_map,
    Function.comp_def]
  cases f (.orderBy parts.order.1 parts.order.2) <;> simp

/-- What no pattern counts for is not found in a group. -/
theorem filterMap_group {β : Type} {f : Predicate → Option β} (hlike : ∀ c p, f (.like c p) = none)
    (horLike : ∀ c p, f (.orLike c p) = none) (ps : List (String × String)) :
    (group ps).filterMap f = [] := by
  cases ps with
  | nil => rfl
  | cons p ps => simp [group, hlike, List.filterMap_map, horLike]

theorem equalities_description (parts : Parts) :
    parts.description.equalities = parts.equalities := by
  rw [Description.equalities, filterMap_description,
    filterMap_group (fun _ _ => rfl) fun _ _ => rfl]
  simp [Predicate.equality?]

theorem bounds_description (parts : Parts) : parts.description.bounds = parts.comparisons := by
  rw [Description.bounds, filterMap_description,
    filterMap_group (fun _ _ => rfl) fun _ _ => rfl]
  simp [Predicate.comparison?]

end Parts

/-! ## What stands at the places of a request -/

/-- The names under which no parameter is matched. -/
def reservedNames (ranges : Bool) : List String :=
  if ranges then controlNames ++ rangeNames else controlNames

theorem isReserved_eq (ranges : Bool) (name : String) :
    isReserved ranges name = (reservedNames ranges).contains name := by
  cases ranges <;> simp [isReserved, reservedNames]

/-- The names of ranges, each with the symbol of its comparison. -/
def rangeSymbols : List (String × String) :=
  [("lt", "<"), ("gt", ">"), ("lte", "<="), ("max", "<="), ("gte", ">="), ("min", ">=")]

theorem mem_rangeSymbols_iff {name : String} {operator : Operator} :
    (name, operator.symbol) ∈ rangeSymbols ↔ Operator.ofName? name = some operator := by
  unfold Operator.ofName?
  split <;> cases operator <;> simp_all [rangeSymbols, Operator.symbol]

namespace Rules

variable (r : Rules)

/-- Whether an entry may be matched: its name is free, its value is filled and neither a list nor a
map, and where names are checked, its name is allowed. -/
structure Matches (reserved : List String) (e : String × Value) : Prop where
  free : e.1 ∉ reserved
  filled : e.2.isFilled = true
  scalar : e.2.scalarText?.isSome = true
  allowed : r.config.checkMatches = true → e.1 ∈ r.allowed

/-- What place `i` asks a column to equal. The entry there may be matched, and none before it that
may be matched has an integer name; under an integer name the value counts as an integer. -/
def EqualityAt (reserved : List String) (es : Entries) (i : Nat) (b : String × Value) : Prop :=
  ∃ e, KeptAt (r.Matches reserved) (fun e => isIntegerName e.1) es i e ∧
    b = (e.1, if isIntegerName e.1 then .number (.ofInt64 e.2.toInteger) else e.2)

/-- What entry `j` of a parameter asks its column to be compared with. The parameter is a map under
the name of a range, the value of the entry is filled, and where columns are checked, the column is
allowed. -/
def BoundIn (e : String × Value) (j : Nat) (b : String × Operator × Value) : Prop :=
  ∃ bounds, e.2 = .map bounds ∧ (e.1, b.2.1.symbol) ∈ rangeSymbols ∧
    bounds[j]? = some (b.1, b.2.2) ∧ b.2.2.isFilled = true ∧
    (r.config.checkAllColumns = true → b.1 ∈ r.allowed)

/-- What entry `q.2` of parameter `q.1` asks its column to be compared with. -/
def BoundAt (es : Entries) (q : Nat × Nat) (b : String × Operator × Value) : Prop :=
  ∃ e, es[q.1]? = some e ∧ r.BoundIn e q.2 b

variable {r}

theorem matches_iff {ranges : Bool} {e : String × Value} :
    r.Matches (reservedNames ranges) e ↔ (r.isMatched e && !isReserved ranges e.1) = true := by
  have hfree : isReserved ranges e.1 = false ↔ e.1 ∉ reservedNames ranges := by
    simp [isReserved_eq]
  rw [Bool.and_eq_true, Bool.not_eq_true', hfree, isMatched_iff]
  constructor
  · rintro ⟨hname, hf, hs, ha⟩
    exact ⟨⟨hf, hs, ha⟩, hname⟩
  · rintro ⟨⟨hf, hs, ha⟩, hname⟩
    exact ⟨hname, hf, hs, ha⟩

theorem enumerates_matched (r : Rules) (p : Params) :
    Enumerates (· < ·) (r.EqualityAt (reservedNames r.config.ranges) p.entries)
      ((r.matched (p.columnMatches r.config.ranges)).map equality) := by
  let ranges := r.config.ranges
  have hkept : r.Matches (reservedNames ranges) =
      fun e => (r.isMatched e && !isReserved ranges e.1) = true :=
    funext fun e => propext matches_iff
  have h := (Enumerates.upToStop (fun e => r.isMatched e && !isReserved ranges e.1)
    (fun e => isIntegerName e.1) p.entries).map equality
  rw [← hkept, ← List.filter_filter] at h
  exact h

theorem enumerates_comparisonsOf (r : Rules) (e : String × Value) :
    Enumerates (· < ·) (r.BoundIn e) (r.comparisonsOf e) := by
  rw [comparisonsOf]
  cases ho : Operator.ofName? e.1 with
  | none =>
    refine .nil fun j b hb => ?_
    obtain ⟨_, -, hname, -⟩ := hb
    rw [mem_rangeSymbols_iff, ho] at hname
    cases hname
  | some operator =>
    cases hv : e.2 with
    | map bounds =>
      have h := (Enumerates.filter r.keepsBound bounds).map fun b => (b.1, operator, b.2)
      simp only [Option.toList_some, List.flatMap_singleton, Value.entriesOf]
      refine h.congr fun j b => ?_
      constructor
      · rintro ⟨d, ⟨hd, hk⟩, rfl⟩
        exact ⟨bounds, hv, mem_rangeSymbols_iff.2 ho, hd, keepsBound_iff.1 hk⟩
      · rintro ⟨_, hbounds, hname, hd, hk⟩
        obtain rfl := Value.map.inj (hv.symm.trans hbounds)
        rw [mem_rangeSymbols_iff, ho] at hname
        obtain rfl := Option.some.inj hname
        exact ⟨(b.1, b.2.2), ⟨hd, keepsBound_iff.2 hk⟩, rfl⟩
    | null | bool _ | number _ | text _ | list _ => exact .nil (by simp [BoundIn, hv])

theorem enumerates_comparisons (r : Rules) {p : Params} (hr : r.config.ranges = true) :
    Enumerates Earlier (r.BoundAt p.entries) (r.comparisons p) := by
  rw [comparisons, if_pos hr]
  exact Enumerates.flatMap r.enumerates_comparisonsOf p.entries

end Rules

/-- Lenient compiling matches the entries that may be matched, in the order of the request: each of
them up to the first with an integer name, whose value counts as an integer, and none after it. An
entry that may not be matched ends nothing, whatever its name. -/
theorem equalities_enumerate_entries (c : Config) (schema : Schema) (knowsScope : String → Bool)
    (p : Params) (h : schema.allowed c.source ≠ []) :
    ∃ d, Config.compile { c with lenient := true } schema knowsScope p = .ok d ∧
      Enumerates (· < ·)
        ((c.rules schema knowsScope).EqualityAt (reservedNames c.ranges) p.entries)
        d.equalities := by
  refine ⟨_, c.compile_lenient schema knowsScope p h, ?_⟩
  rw [Rules.description_findings, Parts.equalities_description]
  exact Rules.enumerates_matched _ p

/-- Blank, listed and refused parameters end nothing, though their names are integers. -/
theorem Sample.equalities_behind_integer_names :
    let schema := Schema.ofDescriptor usersResource.descriptor
      ["id", "name", "3", "5", "7", "email"]
    let p := Params.ofPairs [("3", .text " "), ("5", .list [.text "x"]), ("9", .text "x"),
      ("page", .text "2"), ("name", .text "Ann"), ("7", .text "7up"), ("email", .text "b")]
    let equalities : Entries := [("name", .text "Ann"), ("7", .number (.ofInt64 7))]
    schema.allowed .queryable ≠ [] ∧
      ∃ d, Config.extended.compile schema userScopes.contains p = .ok d ∧
        d.equalities = equalities ∧
        Enumerates (· < ·) ((Config.extended.rules schema userScopes.contains).EqualityAt
          (reservedNames true) p.entries) equalities := by
  intro schema p equalities
  have h : schema.allowed .queryable ≠ [] := by decide
  have hcompile : Config.extended.compile schema userScopes.contains p =
      .ok [.equals "name" (.text "Ann"), .equals "7" (.number (.ofInt64 7)),
        .orderBy "created_at" .ascending] := by rfl
  have hlenient : ({ Config.extended with lenient := true } : Config) = Config.extended := rfl
  obtain ⟨d, hd, hplaces⟩ :=
    equalities_enumerate_entries Config.extended schema userScopes.contains p h
  rw [hlenient, hcompile] at hd
  obtain rfl := Except.ok.inj hd
  exact ⟨h, _, hcompile, rfl, hplaces⟩

/-- With ranges, lenient compiling compares the bounds that count, each once, in the order of the
parameters that hold them and inside a parameter in the order of its map. Without ranges nothing is
compared, and only control names are kept from being matched. -/
theorem bounds_enumerate_entries (c : Config) (schema : Schema) (knowsScope : String → Bool)
    (p : Params) (h : schema.allowed c.source ≠ []) :
    ∃ d, Config.compile { c with lenient := true } schema knowsScope p = .ok d ∧
      (c.ranges = true →
        Enumerates Earlier ((c.rules schema knowsScope).BoundAt p.entries) d.bounds) ∧
      (c.ranges = false → d.bounds = [] ∧
        Enumerates (· < ·) ((c.rules schema knowsScope).EqualityAt controlNames p.entries)
          d.equalities) := by
  refine ⟨_, c.compile_lenient schema knowsScope p h, fun hr => ?_, fun hr => ⟨?_, ?_⟩⟩
  · rw [Rules.description_findings, Parts.bounds_description]
    exact Rules.enumerates_comparisons _ hr
  · rw [Rules.description_findings, Parts.bounds_description]
    exact (Rules.sound_parts _ p).comparisons_eq_nil hr
  · have hmatched := Rules.enumerates_matched (c.rules schema knowsScope) p
    have hreserved : reservedNames (c.rules schema knowsScope).config.ranges = controlNames := by
      show reservedNames c.ranges = controlNames
      rw [hr]
      rfl
    rw [hreserved] at hmatched
    rw [Rules.description_findings, Parts.equalities_description]
    exact hmatched

/-- Both names of one comparison count here, and a range that is no map is matched where ranges are
not read. -/
theorem Sample.bounds_under_both_names :
    let c : Config := { Config.extended with checkAllColumns := true }
    let plain : Config := { c with ranges := false }
    let schema := Schema.ofDescriptor usersResource.descriptor ["id", "age", "lt"]
    let p := Params.ofPairs [("min", .map [("age", .text "18"), ("pay", .text "1"), ("id", .null)]),
      ("lt", .text "5"), ("gte", .map [("id", .number (.ofInt64 7)), ("age", .text "21")])]
    let bounds : List (String × Operator × Value) := [("age", .atLeast, .text "18"),
      ("id", .atLeast, .number (.ofInt64 7)), ("age", .atLeast, .text "21")]
    schema.allowed .queryable ≠ [] ∧
      (∃ d, c.compile schema userScopes.contains p = .ok d ∧ d.bounds = bounds ∧
        Enumerates Earlier ((c.rules schema userScopes.contains).BoundAt p.entries) bounds) ∧
      ∃ d, plain.compile schema userScopes.contains p = .ok d ∧ d.bounds = [] ∧
        d.equalities = [("lt", .text "5")] := by
  intro c plain schema p bounds
  have h : schema.allowed .queryable ≠ [] := by decide
  have hcompile : c.compile schema userScopes.contains p =
      .ok [.compare "age" .atLeast (.text "18"), .compare "id" .atLeast (.number (.ofInt64 7)),
        .compare "age" .atLeast (.text "21"), .orderBy "created_at" .ascending] := by rfl
  have hplain : plain.compile schema userScopes.contains p =
      .ok [.equals "lt" (.text "5"), .orderBy "created_at" .ascending] := by rfl
  obtain ⟨d, hd, hplaces, -⟩ := bounds_enumerate_entries c schema userScopes.contains p h
  rw [show ({ c with lenient := true } : Config) = c from rfl, hcompile] at hd
  obtain rfl := Except.ok.inj hd
  obtain ⟨d, hd, -, hnone⟩ :=
    bounds_enumerate_entries plain schema userScopes.contains p h
  rw [show ({ plain with lenient := true } : Config) = plain from rfl, hplain] at hd
  obtain rfl := Except.ok.inj hd
  exact ⟨h, ⟨_, hcompile, rfl, hplaces rfl⟩, _, hplain, (hnone rfl).1, rfl⟩

end ListQuery
