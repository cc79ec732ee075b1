import ListQuery.Text.Blank

/-!
What trimming leaves. A text is cut into blanks, a part that neither begins nor ends with a blank,
and blanks again; the part in the middle is what trimming leaves, and it is the only one.
-/
namespace ListQuery.Text

/-- No blank at either end; there may be some between other characters. -/
structure Trimmed (cs : List Char) : Prop where
  front : ∀ c ∈ cs.head?, isBlank c = false
  back : ∀ c ∈ cs.getLast?, isBlank c = false

namespace Trimmed

theorem of_forall {cs : List Char} (h : ∀ c ∈ cs, isBlank c = false) : Trimmed cs :=
  ⟨fun c hc => h c (List.mem_of_mem_head? hc), fun c hc => h c (List.mem_of_mem_getLast? hc)⟩

theorem reverse {cs : List Char} (h : Trimmed cs) : Trimmed cs.reverse :=
  ⟨by rw [List.head?_reverse]; exact h.back, by rw [List.getLast?_reverse]; exact h.front⟩

end Trimmed

theorem dropBlank_append {before cs : List Char} (h : ∀ c ∈ before, isBlank c = true) :
    dropBlank (before ++ cs) = dropBlank cs :=
  List.dropWhile_append_of_pos h

theorem dropBlank_of_head {c : Char} {cs : List Char} (h : isBlank c = false) :
    dropBlank (c :: cs) = c :: cs :=
  List.dropWhile_cons_of_neg (by simp [h])

theorem dropBlank_trimmed_append {core : List Char} (h : Trimmed core) (hne : core ≠ [])
    (rest : List Char) : dropBlank (core ++ rest) = core ++ rest := by
  obtain ⟨c, cs, rfl⟩ := List.exists_cons_of_ne_nil hne
  exact dropBlank_of_head (h.front c rfl)

/-- Dropping blanks leaves a rest behind blanks, and the rest does not begin with one. -/
theorem exists_dropBlank (cs : List Char) :
    (∃ before, (∀ c ∈ before, isBlank c = true) ∧ cs = before ++ dropBlank cs) ∧
      ∀ c ∈ (dropBlank cs).head?, isBlank c = false := by
  induction cs with
  | nil => exact ⟨⟨[], by simp, rfl⟩, by simp [dropBlank]⟩
  | cons c cs ih =>
    by_cases h : isBlank c = true
    · have hdrop : dropBlank (c :: cs) = dropBlank cs := by simp [dropBlank, h]
      obtain ⟨⟨before, hbefore, hcs⟩, hhead⟩ := ih
      rw [hdrop]
      refine ⟨⟨c :: before, ?_, congrArg (c :: ·) hcs⟩, hhead⟩
      exact List.forall_mem_cons.2 ⟨h, hbefore⟩
    · have h : isBlank c = false := Bool.eq_false_iff.2 h
      rw [dropBlank_of_head h]
      exact ⟨⟨[], by simp, rfl⟩, by simp [h]⟩

/-- Trimming takes away the blanks around a text that begins and ends with others. -/
theorem strip_padded {before core after : List Char} (hbefore : ∀ c ∈ before, isBlank c = true)
    (hcore : Trimmed core) (hafter : ∀ c ∈ after, isBlank c = true) :
    strip (before ++ core ++ after) = core := by
  by_cases hne : core = []
  · subst hne
    rw [strip_eq_nil_iff]
    intro c hc
    rw [List.append_nil, List.mem_append] at hc
    exact hc.elim (hbefore c) (hafter c)
  · have hback := dropBlank_trimmed_append hcore.reverse
      (fun h => hne (List.reverse_eq_nil_iff.1 h)) []
    rw [List.append_nil] at hback
    rw [strip, List.append_assoc, dropBlank_append hbefore,
      dropBlank_trimmed_append hcore hne after, List.reverse_append,
      dropBlank_append fun c hc => hafter c (List.mem_reverse.1 hc), hback, List.reverse_reverse]

/-- A text is what trimming leaves of it, with blanks in front and behind. -/
theorem exists_padding (cs : List Char) :
    Trimmed (strip cs) ∧ ∃ before after, cs = before ++ strip cs ++ after ∧
      (∀ c ∈ before, isBlank c = true) ∧ ∀ c ∈ after, isBlank c = true := by
  obtain ⟨⟨before, hbefore, hcs⟩, hfront⟩ := exists_dropBlank cs
  obtain ⟨⟨behind, hbehind, hrest⟩, hback⟩ := exists_dropBlank (dropBlank cs).reverse
  have hrest : dropBlank cs = strip cs ++ behind.reverse := by
    rw [← List.reverse_reverse (dropBlank cs), hrest, List.reverse_append, ← strip]
  refine ⟨⟨fun c hc => hfront c ?_, ?_⟩, before, behind.reverse, ?_, hbefore, fun c hc => ?_⟩
  · rw [hrest, List.head?_append, Option.mem_def.1 hc]
    rfl
  · rw [strip, List.getLast?_reverse]
    exact hback
  · rw [List.append_assoc, ← hrest, ← hcs]
  · exact hbehind c (List.mem_reverse.1 hc)

theorem trimmed_strip (cs : List Char) : Trimmed (strip cs) := (exists_padding cs).1

/-- A text with blanks around one that has a property. -/
def Padded (holds : List Char → Prop) (s : String) : Prop :=
  ∃ before core after, s.toList = before ++ core ++ after ∧
    (∀ c ∈ before, isBlank c = true) ∧ (∀ c ∈ after, isBlank c = true) ∧ holds core

theorem Padded.bare {holds : List Char → Prop} {s : String} (h : holds s.toList) : Padded holds s :=
  ⟨[], s.toList, [], (List.append_nil _).symm, by simp, by simp, h⟩

/-- Trimming finds what has a property if nothing with it has blanks at its ends. -/
theorem padded_iff {holds : List Char → Prop} (h : ∀ core, holds core → Trimmed core)
    {s : String} : Padded holds s ↔ holds (strip s.toList) := by
  constructor
  · rintro ⟨before, core, after, hs, hbefore, hafter, hcore⟩
    rwa [hs, strip_padded hbefore (h core hcore) hafter]
  · intro hcore
    obtain ⟨-, before, after, hs, hbefore, hafter⟩ := exists_padding s.toList
    exact ⟨before, _, after, hs, hbefore, hafter, hcore⟩

/-- Only a text without blanks at its ends is left as it is. -/
theorem strip_eq_self_iff {cs : List Char} : strip cs = cs ↔ Trimmed cs := by
  constructor
  · intro h
    exact h ▸ trimmed_strip cs
  · intro h
    have hnone : ∀ c ∈ ([] : List Char), isBlank c = true := by simp
    have hcs := strip_padded hnone h hnone
    rwa [List.nil_append, List.append_nil] at hcs

theorem trimmed_trim (s : String) : Trimmed (trim s).toList := by
  rw [toList_trim]
  exact trimmed_strip s.toList

theorem trim_eq_empty_iff {s : String} : trim s = "" ↔ allBlank s = true := by
  rw [allBlank, List.all_eq_true, ← strip_eq_nil_iff, ← toList_trim, String.toList_eq_nil_iff]

theorem trim_eq_self_iff {s : String} : trim s = s ↔ Trimmed s.toList := by
  rw [← String.toList_inj, toList_trim, strip_eq_self_iff]

theorem trim_padded {before core after : String} (hbefore : allBlank before = true)
    (hcore : Trimmed core.toList) (hafter : allBlank after = true) :
    trim (before ++ core ++ after) = core := by
  refine String.toList_inj.1 ?_
  rw [toList_trim, String.toList_append, String.toList_append]
  exact strip_padded (List.all_eq_true.1 hbefore) hcore (List.all_eq_true.1 hafter)

theorem exists_trim_padding (s : String) :
    ∃ before after, s = before ++ trim s ++ after ∧ allBlank before = true ∧
      allBlank after = true := by
  obtain ⟨-, before, after, hs, hbefore, hafter⟩ := exists_padding s.toList
  refine ⟨.ofList before, .ofList after, String.toList_inj.1 ?_, ?_, ?_⟩
  · simpa using hs
  · simpa [allBlank] using hbefore
  · simpa [allBlank] using hafter

end ListQuery.Text
