import Mathlib.Data.List.Basic
import ListQuery.Resource

/-!
The columns of a schema that are not hidden. One listing takes them from the table, the other from
the id column and the fillable ones, where a name may stand many times. Main statement: what the
two listings hold and in which order, for every descriptor.
-/
namespace ListQuery

namespace Schema

/-- The names read so far have been listed: those that are not hidden, in the order in which they
come first. -/
structure ListsVisible (hidden : NameSet) (names listed : List String) : Prop where
  mem_iff : ∀ c, c ∈ listed ↔ c ∈ names ∧ hidden.contains c = false
  ordered : listed.Pairwise fun a b => names.idxOf a < names.idxOf b

namespace ListsVisible

variable {hidden : NameSet} {names listed : List String}

theorem nil : ListsVisible hidden [] [] := ⟨by simp, .nil⟩

theorem nodup (h : ListsVisible hidden names listed) : listed.Nodup :=
  h.ordered.imp fun hlt heq => by simp [heq] at hlt

/-- Further names do not move the first places of the columns that are listed. -/
theorem ordered_append (h : ListsVisible hidden names listed) (more : List String) :
    listed.Pairwise fun a b => (names ++ more).idxOf a < (names ++ more).idxOf b := by
  refine h.ordered.imp_of_mem fun ha hb hlt => ?_
  rw [List.idxOf_append_of_mem ((h.mem_iff _).1 ha).1,
    List.idxOf_append_of_mem ((h.mem_iff _).1 hb).1]
  exact hlt

/-- A name that is hidden or listed already is passed over. -/
theorem skip (h : ListsVisible hidden names listed) {c : String}
    (hc : hidden.contains c = true ∨ c ∈ listed) : ListsVisible hidden (names ++ [c]) listed where
  mem_iff d := by
    rw [h.mem_iff, List.mem_append, List.mem_singleton]
    constructor
    · rintro ⟨hd, hv⟩
      exact ⟨.inl hd, hv⟩
    · rintro ⟨hd | rfl, hv⟩
      · exact ⟨hd, hv⟩
      · rcases hc with hc | hc
        · rw [hc] at hv
          cases hv
        · exact (h.mem_iff d).1 hc
  ordered := h.ordered_append [c]

/-- Any other name is new among all that were read, and its place is behind theirs. -/
theorem push (h : ListsVisible hidden names listed) {c : String} (hv : hidden.contains c = false)
    (hc : c ∉ listed) : ListsVisible hidden (names ++ [c]) (listed ++ [c]) where
  mem_iff d := by
    rw [List.mem_append, h.mem_iff, List.mem_append, List.mem_singleton]
    constructor
    · rintro (⟨hd, hv⟩ | rfl)
      · exact ⟨.inl hd, hv⟩
      · exact ⟨.inr rfl, hv⟩
    · rintro ⟨hd | rfl, hv⟩
      · exact .inl ⟨hd, hv⟩
      · exact .inr rfl
  ordered := by
    have hnew : c ∉ names := fun hm => hc ((h.mem_iff c).2 ⟨hm, hv⟩)
    refine List.pairwise_append.2 ⟨h.ordered_append [c], List.pairwise_singleton _ _, ?_⟩
    intro a ha b hb
    rw [List.mem_singleton.1 hb]
    have ha := ((h.mem_iff a).1 ha).1
    calc (names ++ [c]).idxOf a = names.idxOf a := List.idxOf_append_of_mem ha
      _ < names.length := List.idxOf_lt_length_of_mem ha
      _ ≤ names.length + [c].idxOf c := Nat.le_add_right _ _
      _ = (names ++ [c]).idxOf c := (List.idxOf_append_of_notMem hnew).symm

/-- Reading on through a list of names keeps the listing right. -/
theorem addVisible (h : ListsVisible hidden names listed) (cs : List String) :
    ListsVisible hidden (names ++ cs) (Schema.addVisible hidden listed cs) := by
  induction cs generalizing names listed with
  | nil => rwa [List.append_nil]
  | cons c cs ih =>
    rw [Schema.addVisible, List.append_cons]
    split
    · rename_i hc
      exact ih (h.skip (by simpa using hc))
    · rename_i hc
      simp only [Bool.or_eq_true, not_or, Bool.not_eq_true, List.contains_iff_mem] at hc
      exact ih (h.push hc.1 hc.2)

end ListsVisible

theorem listsVisible_searchable (s : Schema) :
    ListsVisible s.hidden (s.idColumn :: s.fillable) s.searchable :=
  ListsVisible.nil.addVisible _

/-- No column of an allow-list is hidden. -/
theorem not_hidden_of_mem_allowed {s : Schema} {source : ColumnSource} {c : String}
    (h : c ∈ s.allowed source) : s.hidden.contains c = false := by
  cases source with
  | queryable => simpa using (List.mem_filter.1 h).2
  | searchable => exact ((s.listsVisible_searchable.mem_iff c).1 h).2

/-- The set of hidden columns of a schema has the names that the descriptor hides. -/
theorem contains_hidden_eq_false_iff (d : Descriptor) (columns : List String) (c : String) :
    (ofDescriptor d columns).hidden.contains c = false ↔ c ∉ d.hidden := by
  rw [← Bool.not_eq_true]
  exact not_congr (NameSet.contains_ofList_iff d.hidden c)

end Schema

/-- Every descriptor of a table whose columns are known has a schema. Its search columns are the id
column and the fillable ones without the hidden ones, each once and where it comes first; its
queryable columns are those of the table without the hidden ones. Neither listing has a hidden
column. -/
theorem allow_lists_of_descriptor (d : Descriptor)
    (listing : String → Except SchemaFault (List String)) (columns : List String)
    (h : listing d.table = .ok columns) :
    ∃ s, d.schema listing = .ok s ∧
      s.searchable.Nodup ∧
      (∀ c, c ∈ s.searchable ↔ (c = d.idColumn ∨ c ∈ d.fillable) ∧ c ∉ d.hidden) ∧
      (s.searchable.Pairwise fun a b =>
        (d.idColumn :: d.fillable).idxOf a < (d.idColumn :: d.fillable).idxOf b) ∧
      s.queryable = columns.filter (· ∉ d.hidden) ∧
      ∀ source, ∀ c ∈ d.hidden, c ∉ s.allowed source := by
  have hs := (Schema.ofDescriptor d columns).listsVisible_searchable
  refine ⟨.ofDescriptor d columns, by rw [Descriptor.schema, h], hs.nodup, ?_, hs.ordered, ?_, ?_⟩
  · intro c
    rw [hs.mem_iff, Schema.contains_hidden_eq_false_iff]
    exact and_congr_left' List.mem_cons
  · refine List.filter_congr fun c _ => ?_
    rw [Bool.eq_iff_iff, Bool.not_eq_true', Schema.contains_hidden_eq_false_iff, decide_eq_true_eq]
  · intro source c hc hm
    exact (Schema.contains_hidden_eq_false_iff d columns c).1
      (Schema.not_hidden_of_mem_allowed hm) hc

/-- The id column and a name stand twice here, one hidden column is fillable and hidden twice, and
another is no column at all. -/
theorem allow_lists_of_repeated_names :
    let d : Descriptor :=
      { table := "users"
        fillable := ["name", "id", "password", "email", "name"]
        hidden := ["token", "password", "password"] }
    let catalog : Catalog := [("users", ["id", "name", "email", "password", "created_at"])]
    ∃ s, d.schema catalog.listing = .ok s ∧ s.searchable.Nodup ∧
      s.queryable = ["id", "name", "email", "created_at"] ∧
      ∀ source, "password" ∉ s.allowed source := by
  intro d catalog
  obtain ⟨s, hs, hnodup, -, -, hqueryable, hhidden⟩ := allow_lists_of_descriptor d catalog.listing
    ["id", "name", "email", "password", "created_at"] rfl
  refine ⟨s, hs, hnodup, hqueryable.trans (by decide), fun source => hhidden source _ (by decide)⟩

end ListQuery
