import ListQuery.Params.Key

/-!
Keys in bracket notation, written and read back. Reading gives exactly the keys that can be
written: a root without an opening bracket, and segments without a closing one.
-/
namespace ListQuery

/-- Whether a step can be written: a segment has a name, and the name does not close its bracket. -/
def Step.WellFormed : Step → Prop
  | .append => True
  | .named segment => segment ≠ "" ∧ ']' ∉ segment.toList

structure Key.WellFormed (k : Key) : Prop where
  root_ne : k.root ≠ ""
  root_closed : '[' ∉ k.root.toList
  path : ∀ s ∈ k.path, s.WellFormed

def Step.chars : Step → List Char
  | .append => ['[', ']']
  | .named segment => '[' :: segment.toList ++ [']']

/-- The text that leads to a key. -/
def Key.text (k : Key) : String := .ofList (k.root.toList ++ k.path.flatMap Step.chars)

theorem ofList_ne_empty {cs : List Char} (h : cs ≠ []) : String.ofList cs ≠ "" := by
  intro he
  have hl := congrArg String.toList he
  rw [String.toList_ofList] at hl
  exact h hl

theorem toList_ne_nil {s : String} (h : s ≠ "") : s.toList ≠ [] := by
  intro hl
  exact h (String.toList_eq_nil_iff.1 hl)

theorem Step.ofSegment_toList {segment : String} (h : segment ≠ "") :
    Step.ofSegment segment.toList = .named segment := by
  have hl : segment.toList.isEmpty = false := by simpa using toList_ne_nil h
  rw [ofSegment, hl, String.ofList_toList]
  rfl

theorem Step.wellFormed_ofSegment {segment : List Char} (h : ']' ∉ segment) :
    (Step.ofSegment segment).WellFormed := by
  rw [ofSegment]
  split
  · trivial
  · rename_i hs
    refine ⟨ofList_ne_empty (by simpa using hs), ?_⟩
    rwa [String.toList_ofList]

/-- An open bracket takes everything up to the closing one. -/
theorem Step.readPath_opened {segment : List Char} (h : ']' ∉ segment) (before rest : List Char) :
    Step.readPath (some before) (segment ++ ']' :: rest) =
      .ofSegment (before ++ segment) :: Step.readPath none rest := by
  induction segment generalizing before with
  | nil => simp [readPath]
  | cons c segment ih =>
    simp only [List.mem_cons, not_or] at h
    rw [List.cons_append, readPath, if_neg (Ne.symm h.1), ih h.2]
    simp

/-- Reading the steps of a path undoes writing them. -/
theorem Step.readPath_chars {path : List Step} (h : ∀ s ∈ path, s.WellFormed) :
    Step.readPath none (path.flatMap Step.chars) = path := by
  induction path with
  | nil => rfl
  | cons step path ih =>
    have ih := ih fun s hs => h s (List.mem_cons_of_mem _ hs)
    rw [List.flatMap_cons]
    cases step with
    | append =>
      rw [chars, List.cons_append, List.cons_append, List.nil_append, readPath, if_pos rfl,
        readPath, if_pos rfl, ih]
      rfl
    | named segment =>
      have hs : segment ≠ "" ∧ ']' ∉ segment.toList := h _ List.mem_cons_self
      rw [chars, List.cons_append, List.cons_append, List.append_assoc, readPath, if_pos rfl,
        List.singleton_append, readPath_opened hs.2, List.nil_append, ofSegment_toList hs.1, ih]

/-- What follows a root begins with an opening bracket, if it is not nothing. -/
theorem Step.chars_path (path : List Step) :
    path.flatMap Step.chars = [] ∨ ∃ cs, path.flatMap Step.chars = '[' :: cs := by
  cases path with
  | nil => exact .inl rfl
  | cons step path =>
    refine .inr ?_
    cases step with
    | append => exact ⟨_, rfl⟩
    | named segment => exact ⟨_, rfl⟩

/-- Reading a key undoes writing it. -/
theorem Key.read?_text {k : Key} (h : k.WellFormed) : Key.read? k.text = some k := by
  have hr : ∀ c ∈ k.root.toList, (c != '[') = true := by
    intro c hc
    have hne : c ≠ '[' := fun he => h.root_closed (he ▸ hc)
    simpa using hne
  have ht : (k.path.flatMap Step.chars).takeWhile (· != '[') = [] := by
    rcases Step.chars_path k.path with hp | ⟨cs, hp⟩ <;> rw [hp] <;> simp
  have hd : (k.path.flatMap Step.chars).dropWhile (· != '[') = k.path.flatMap Step.chars := by
    rcases Step.chars_path k.path with hp | ⟨cs, hp⟩ <;> rw [hp] <;> simp
  rw [Key.read?, Key.text, String.toList_ofList, List.takeWhile_append_of_pos hr,
    List.dropWhile_append_of_pos hr, ht, hd, List.append_nil, Step.readPath_chars h.path]
  split
  · rename_i he
    exact absurd he (toList_ne_nil h.root_ne)
  · simp

/-- The steps that are read can be written. -/
theorem Step.wellFormed_of_mem_readPath {opened : Option (List Char)}
    (ho : ∀ segment ∈ opened, ']' ∉ segment) {cs : List Char} :
    ∀ s ∈ Step.readPath opened cs, s.WellFormed := by
  induction cs generalizing opened with
  | nil => simp [readPath]
  | cons c cs ih =>
    cases opened with
    | none =>
      rw [readPath]
      split
      · exact ih (by simp)
      · simp
    | some segment =>
      have hs := ho segment rfl
      rw [readPath]
      split
      · intro s hm
        rcases List.mem_cons.1 hm with hm | hm
        · exact hm ▸ wellFormed_ofSegment hs
        · exact ih (by simp) s hm
      · rename_i hc
        refine ih fun t ht => ?_
        rw [Option.mem_some] at ht
        subst ht
        simp [hs, Ne.symm hc]

/-- A key that is read can be written. -/
theorem Key.wellFormed_of_read? {raw : String} {k : Key} (h : Key.read? raw = some k) :
    k.WellFormed := by
  rw [Key.read?] at h
  split at h
  · cases h
  · rename_i root hr
    cases h
    refine ⟨ofList_ne_empty hr, ?_, Step.wellFormed_of_mem_readPath (by simp)⟩
    rw [String.toList_ofList]
    intro hm
    simpa using List.all_eq_true.1 List.all_takeWhile _ hm

end ListQuery
