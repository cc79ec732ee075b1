import Mathlib
import ListQuery.Params.QueryString
import ListQuery.Proofs.Parts

/-!
Patterns of the SQL `LIKE` and the texts they match. Main statement: the pattern of a search finds
every text in which the term occurs, and finds others as soon as the term has a wildcard of its own,
because the term is put between two `%` as it stands.
-/
namespace ListQuery

/-- The characters that a pattern does not read as themselves. -/
def isWildcard (c : Char) : Bool := c == '%' || c == '_'

/-- Whether a segment of the text is one that a character of a pattern stands for: any for `%`, one
character for `_`, and the character itself otherwise. -/
def standsFor (c : Char) (segment : List Char) : Bool :=
  if c = '%' then true else if c = '_' then segment.length == 1 else segment == [c]

/-- A text matches a pattern if it falls into one segment for each character of the pattern. -/
inductive LikeMatches : List Char → List Char → Prop where
  | nil : LikeMatches [] []
  | cons {c : Char} {pattern segment rest : List Char} (head : standsFor c segment = true)
      (tail : LikeMatches pattern rest) : LikeMatches (c :: pattern) (segment ++ rest)

/-- Tries every length for the segment of each character. -/
def likeMatches : List Char → List Char → Bool
  | [], text => text.isEmpty
  | c :: pattern, text =>
    (List.range (text.length + 1)).any fun n =>
      standsFor c (text.take n) && likeMatches pattern (text.drop n)

theorem likeMatches_iff {pattern text : List Char} :
    likeMatches pattern text = true ↔ LikeMatches pattern text := by
  constructor
  · intro h
    induction pattern generalizing text with
    | nil =>
      rw [likeMatches, List.isEmpty_iff] at h
      exact h ▸ .nil
    | cons c pattern ih =>
      simp only [likeMatches, List.any_eq_true, Bool.and_eq_true] at h
      obtain ⟨n, _, hhead, htail⟩ := h
      rw [← List.take_append_drop n text]
      exact .cons hhead (ih htail)
  · intro h
    induction h with
    | nil => rfl
    | @cons c pattern segment rest head _ ih =>
      simp only [likeMatches, List.any_eq_true, Bool.and_eq_true]
      exact ⟨segment.length, by simp, by simpa using head, by simpa using ih⟩

instance (pattern text : List Char) : Decidable (LikeMatches pattern text) :=
  decidable_of_iff _ likeMatches_iff

theorem standsFor_self (c : Char) : standsFor c [c] = true := by
  rw [standsFor]
  split
  · rfl
  · split <;> simp

theorem standsFor_of_not_isWildcard {c : Char} (h : isWildcard c = false) (segment : List Char) :
    standsFor c segment = true ↔ segment = [c] := by
  simp only [isWildcard, Bool.or_eq_false_iff, beq_eq_false_iff_ne] at h
  simp [standsFor, h.1, h.2]

/-- Any single character may stand where a wildcard is. -/
theorem standsFor_of_isWildcard {c : Char} (h : isWildcard c = true) (d : Char) :
    standsFor c [d] = true := by
  simp only [isWildcard, Bool.or_eq_true, beq_iff_eq] at h
  rcases h with rfl | rfl <;> rfl

namespace LikeMatches

/-- A pattern in two parts matches the texts in two parts that match them. -/
theorem append_iff {first second text : List Char} :
    LikeMatches (first ++ second) text ↔
      ∃ front back, text = front ++ back ∧ LikeMatches first front ∧ LikeMatches second back := by
  constructor
  · intro h
    induction first generalizing text with
    | nil => exact ⟨[], text, rfl, .nil, h⟩
    | cons c first ih =>
      cases h with
      | @cons _ _ segment rest head tail =>
        obtain ⟨front, back, rfl, hfirst, hsecond⟩ := ih tail
        exact ⟨segment ++ front, back, (List.append_assoc ..).symm, .cons head hfirst, hsecond⟩
  · rintro ⟨front, back, rfl, hfirst, hsecond⟩
    induction hfirst with
    | nil => exact hsecond
    | cons head _ ih =>
      rw [List.append_assoc]
      exact .cons head ih

theorem percent (text : List Char) : LikeMatches ['%'] text := by
  have h : LikeMatches ['%'] (text ++ []) := .cons rfl .nil
  rwa [List.append_nil] at h

/-- Between two `%` a pattern may match any part of the text. -/
theorem contains_iff {term text : List Char} :
    LikeMatches ('%' :: (term ++ ['%'])) text ↔ ∃ part, part <:+: text ∧ LikeMatches term part := by
  constructor
  · intro h
    cases h with
    | @cons _ _ before _ _ tail =>
      obtain ⟨part, behind, rfl, hpart, _⟩ := append_iff.1 tail
      exact ⟨part, ⟨before, behind, List.append_assoc ..⟩, hpart⟩
  · rintro ⟨part, ⟨before, behind, rfl⟩, hpart⟩
    rw [List.append_assoc]
    exact .cons rfl (append_iff.2 ⟨part, behind, rfl, hpart, percent behind⟩)

/-- A term read as a pattern matches itself. -/
theorem refl (term : List Char) : LikeMatches term term := by
  induction term with
  | nil => exact .nil
  | cons c term ih => exact .cons (standsFor_self c) ih

/-- Without wildcards a term matches itself only. -/
theorem iff_eq_of_plain {term text : List Char} (h : ∀ c ∈ term, isWildcard c = false) :
    LikeMatches term text ↔ text = term := by
  refine ⟨fun hm => ?_, fun he => he ▸ refl text⟩
  induction hm with
  | nil => rfl
  | @cons c _ segment rest head _ ih =>
    rw [(standsFor_of_not_isWildcard (h c List.mem_cons_self) segment).1 head,
      ih fun d hd => h d (List.mem_cons_of_mem _ hd)]
    rfl

/-- A letter in place of every wildcard. -/
def filledIn (term : List Char) : List Char := term.map fun c => if isWildcard c then 'x' else c

theorem filledIn_matches (term : List Char) : LikeMatches term (filledIn term) := by
  induction term with
  | nil => exact .nil
  | cons c term ih =>
    rw [filledIn, List.map_cons]
    cases hc : isWildcard c with
    | true => exact .cons (standsFor_of_isWildcard hc 'x') ih
    | false => exact .cons (standsFor_self c) ih

/-- A term with a wildcard does not occur in the text where the wildcard is filled in. -/
theorem not_infix_filledIn {term : List Char} {c : Char} (hc : c ∈ term)
    (hw : isWildcard c = true) : ¬ term <:+: filledIn term := by
  intro h
  have heq : filledIn term = term := (h.eq_of_length (by simp [filledIn])).symm
  have hfixed : (if isWildcard c then 'x' else c) = c :=
    List.map_inj_left.1 (heq.trans (List.map_id term).symm) c hc
  rw [if_pos hw] at hfixed
  rw [← hfixed] at hw
  exact absurd hw (by decide)

/-- Between two `%` a term finds its occurrences and nothing else exactly if it has no wildcard. -/
theorem forall_contains_iff_infix {term : List Char} :
    (∀ text, LikeMatches ('%' :: (term ++ ['%'])) text ↔ term <:+: text) ↔
      ∀ c ∈ term, isWildcard c = false := by
  constructor
  · intro h c hc
    rw [Bool.eq_false_iff]
    intro hw
    have hfound := contains_iff.2 ⟨_, List.infix_rfl, filledIn_matches term⟩
    exact not_infix_filledIn hc hw ((h _).1 hfound)
  · intro h text
    rw [contains_iff]
    constructor
    · rintro ⟨part, hpart, hm⟩
      exact (iff_eq_of_plain h).1 hm ▸ hpart
    · intro ht
      exact ⟨term, ht, refl term⟩

end LikeMatches

theorem toList_containsPattern (term : String) :
    (containsPattern term).toList = '%' :: (term.toList ++ ['%']) := by
  simp [containsPattern]

namespace Parts

/-- A group holds its patterns, whichever of them opens it. -/
theorem mem_group_iff {ps : List (String × String)} {column pattern : String} :
    (.like column pattern ∈ group ps ∨ .orLike column pattern ∈ group ps) ↔
      (column, pattern) ∈ ps := by
  cases ps with
  | nil => simp [group]
  | cons q ps => simp [group, Prod.ext_iff]

/-- The patterns of a description are those of its group. -/
theorem mem_patterns_iff {parts : Parts} {column pattern : String} :
    (.like column pattern ∈ parts.description ∨ .orLike column pattern ∈ parts.description) ↔
      (column, pattern) ∈ parts.patterns := by
  rw [← mem_group_iff]
  simp [description]

end Parts

/-- A search compiles to one pattern for its term, in every column that is searched. -/
theorem Config.searches_of_compile {c : Config} {schema : Schema} {knowsScope : String → Bool}
    {p : Params} {d : Description} (h : c.compile schema knowsScope p = .ok d) {term : String}
    (hterm : p.text? "search" = some term) {column pattern : String} :
    (.like column pattern ∈ d ∨ .orLike column pattern ∈ d) ↔
      column ∈ (c.rules schema knowsScope).searched p ∧ pattern = containsPattern term := by
  rw [c.eq_description_of_compile schema knowsScope p h, Rules.description_findings,
    Parts.mem_patterns_iff, Rules.parts, Rules.patterns, hterm]
  simp [eq_comm]

/-- A search is made in every column that is searched, and its pattern matches every text in which
the term occurs. It matches the texts of which some part matches the term read as a pattern, and
these are the texts in which the term occurs exactly for the terms without a wildcard. -/
theorem search_pattern_matches_substrings_iff {c : Config} {schema : Schema}
    {knowsScope : String → Bool} {p : Params} {d : Description}
    (h : c.compile schema knowsScope p = .ok d) {term : String}
    (hterm : p.text? "search" = some term) :
    (∀ column ∈ (c.rules schema knowsScope).searched p,
      ∃ pattern, .like column pattern ∈ d ∨ .orLike column pattern ∈ d) ∧
    ∀ column pattern, (.like column pattern ∈ d ∨ .orLike column pattern ∈ d) →
      (∀ text : String, term.toList <:+: text.toList →
        LikeMatches pattern.toList text.toList) ∧
      (∀ text : String, LikeMatches pattern.toList text.toList ↔
        ∃ part, part <:+: text.toList ∧ LikeMatches term.toList part) ∧
      ((∀ text : String, LikeMatches pattern.toList text.toList ↔ term.toList <:+: text.toList) ↔
        ∀ ch ∈ term.toList, isWildcard ch = false) := by
  refine ⟨fun column hc => ⟨_, (Config.searches_of_compile h hterm).2 ⟨hc, rfl⟩⟩, ?_⟩
  intro column pattern hp
  obtain ⟨_, rfl⟩ := (Config.searches_of_compile h hterm).1 hp
  rw [toList_containsPattern]
  refine ⟨fun text ht => ?_, fun text => LikeMatches.contains_iff, ?_⟩
  · exact LikeMatches.contains_iff.2 ⟨_, ht, .refl _⟩
  · rw [← LikeMatches.forall_contains_iff_infix]
    -- every list of characters is that of a text
    refine ⟨fun hall text => ?_, fun hall text => hall text.toList⟩
    simpa using hall (String.ofList text)

namespace Sample

/-- A term without wildcards finds its occurrences only. -/
theorem search_for_plain_term :
    let p := Params.ofQuery "search=50&search_by=name"
    let schema := Schema.ofDescriptor usersResource.descriptor users.columnNames
    let d : Description := [.like "name" "%50%", .orderBy "created_at" .ascending]
    Config.extended.compile schema userScopes.contains p = .ok d ∧
      p.text? "search" = some "50" ∧ (∀ ch ∈ "50".toList, isWildcard ch = false) ∧
      ∀ text : String, LikeMatches "%50%".toList text.toList ↔ "50".toList <:+: text.toList := by
  intro p schema d
  have hcompile : Config.extended.compile schema userScopes.contains p = .ok d := by rfl
  have hterm : p.text? "search" = some "50" := by rfl
  have hplain : ∀ ch ∈ "50".toList, isWildcard ch = false := by simp [isWildcard]
  have hname := (search_pattern_matches_substrings_iff hcompile hterm).2 "name" "%50%"
    (.inl List.mem_cons_self)
  exact ⟨hcompile, hterm, hplain, hname.2.2.2 hplain⟩

/-- A search for `50%` finds `501` too, where this term does not occur. -/
theorem search_for_percent_finds_more :
    let p := Params.ofQuery "search=50%25&search_by=name"
    let schema := Schema.ofDescriptor usersResource.descriptor users.columnNames
    ∃ d, Config.extended.compile schema userScopes.contains p = .ok d ∧
      p.text? "search" = some "50%" ∧ .like "name" "%50%%" ∈ d ∧
      ¬ (LikeMatches "%50%%".toList "501".toList ↔ "50%".toList <:+: "501".toList) := by
  intro p schema
  have hcompile : Config.extended.compile schema userScopes.contains p =
      .ok [.like "name" "%50%%", .orderBy "created_at" .ascending] := by rfl
  have hmatches : LikeMatches "%50%%".toList "501".toList := likeMatches_iff.1 (by rfl)
  have habsent : ¬ "50%".toList <:+: "501".toList := by decide
  exact ⟨_, hcompile, by rfl, List.mem_cons_self, fun hiff => habsent (hiff.1 hmatches)⟩

end Sample
end ListQuery
