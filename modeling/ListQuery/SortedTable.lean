/-!
Tables with named entries in the order of their names. Names are compared code point by code point,
which is also the order of their UTF-8 bytes.
-/
namespace ListQuery

/-- Entries in strictly increasing order of their names. -/
structure SortedTable (β : Type) where
  entries : List (String × β)
  sorted : entries.Pairwise fun a b => a.1 < b.1

namespace SortedTable

variable {β : Type}

def empty : SortedTable β := ⟨[], .nil⟩

/-- Puts an entry in its place, instead of one of the same name. -/
def insertInto (name : String) (b : β) : List (String × β) → List (String × β)
  | [] => [(name, b)]
  | e :: es =>
    if name < e.1 then (name, b) :: e :: es
    else if name = e.1 then (name, b) :: es
    else e :: insertInto name b es

theorem mem_insertInto {name : String} {b : β} {es : List (String × β)} {x : String × β}
    (h : x ∈ insertInto name b es) : x = (name, b) ∨ x ∈ es := by
  induction es with
  | nil => simpa [insertInto] using h
  | cons e es ih =>
    rw [insertInto] at h
    split at h
    · simpa using h
    · split at h
      · rcases List.mem_cons.1 h with h | h
        · exact .inl h
        · exact .inr (List.mem_cons_of_mem _ h)
      · rcases List.mem_cons.1 h with h | h
        · exact .inr (h ▸ List.mem_cons_self)
        · exact (ih h).imp_right (List.mem_cons_of_mem _)

theorem sorted_insertInto {es : List (String × β)} (h : es.Pairwise fun a b => a.1 < b.1)
    (name : String) (b : β) : (insertInto name b es).Pairwise fun a b => a.1 < b.1 := by
  induction es with
  | nil => simp [insertInto]
  | cons e es ih =>
    rw [List.pairwise_cons] at h
    rw [insertInto]
    split
    · rename_i hlt
      refine List.pairwise_cons.2 ⟨fun x hx => ?_, List.pairwise_cons.2 h⟩
      rcases List.mem_cons.1 hx with hx | hx
      · exact hx ▸ hlt
      · exact String.lt_trans hlt (h.1 x hx)
    · split
      · rename_i heq
        exact List.pairwise_cons.2 ⟨fun x hx => heq ▸ h.1 x hx, h.2⟩
      · rename_i hlt heq
        refine List.pairwise_cons.2 ⟨fun x hx => ?_, ih h.2⟩
        rcases mem_insertInto hx with hx | hx
        · rw [hx]
          exact Std.lt_of_le_of_ne (Std.not_lt.1 hlt) (Ne.symm heq)
        · exact h.1 x hx

def insert (t : SortedTable β) (name : String) (b : β) : SortedTable β :=
  ⟨insertInto name b t.entries, sorted_insertInto t.sorted name b⟩

def get? (t : SortedTable β) (name : String) : Option β :=
  (t.entries.find? (·.1 = name)).map Prod.snd

def contains (t : SortedTable β) (name : String) : Bool := t.entries.any (·.1 = name)

def names (t : SortedTable β) : List String := t.entries.map Prod.fst

def size (t : SortedTable β) : Nat := t.entries.length

/-- A name is in a table exactly when it has an entry. -/
theorem contains_eq_isSome (t : SortedTable β) (name : String) :
    t.contains name = (t.get? name).isSome := by
  rw [Bool.eq_iff_iff]
  simp [contains, get?]

theorem any_insertInto (name other : String) (b : β) (es : List (String × β)) :
    (insertInto name b es).any (·.1 = other) = (decide (name = other) || es.any (·.1 = other)) := by
  induction es with
  | nil => simp [insertInto]
  | cons e es ih =>
    rw [insertInto]
    split
    · simp
    · split
      · rename_i heq
        simp [heq]
      · rw [List.any_cons, ih, List.any_cons, Bool.or_left_comm]

/-- An entry put into a table adds its name and takes none away. -/
theorem contains_insert_iff (t : SortedTable β) (name other : String) (b : β) :
    (t.insert name b).contains other = true ↔ other = name ∨ t.contains other = true := by
  rw [contains, insert, any_insertInto, Bool.or_eq_true, decide_eq_true_eq, eq_comm, contains]

end SortedTable

/-- A set of names, in order. -/
abbrev NameSet := SortedTable Unit

namespace NameSet

def ofList (names : List String) : NameSet :=
  names.foldl (fun s n => s.insert n ()) .empty

theorem contains_foldl_insert_iff (names : List String) (s : NameSet) (name : String) :
    (names.foldl (fun s n => s.insert n ()) s).contains name = true ↔
      s.contains name = true ∨ name ∈ names := by
  induction names generalizing s with
  | nil => simp
  | cons n names ih =>
    rw [List.foldl_cons, ih, SortedTable.contains_insert_iff, List.mem_cons, or_assoc,
      or_left_comm]

/-- A set of listed names has the names of the list, however often and wherever they stand there. -/
theorem contains_ofList_iff (names : List String) (name : String) :
    (ofList names).contains name = true ↔ name ∈ names := by
  rw [ofList, contains_foldl_insert_iff]
  simp [SortedTable.contains, SortedTable.empty]

end NameSet
end ListQuery
