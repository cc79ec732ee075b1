import Mathlib
import ListQuery.Predicate
import ListQuery.Proofs.Trimming

/-!
Words in any case. A word without capitals is found by trimming and lower-casing from the spellings
of it that differ in case, with blanks around them, and from nothing else. Lower-casing by the whole
of Unicode comes to the same for words of letters that only their own capitals are mapped to.
-/
namespace ListQuery

namespace Text

/-- A word, any of its letters as capitals. -/
def InAnyCase (word : String) (cs : List Char) : Prop :=
  List.Forall₂ (fun c letter => c = letter ∨ c = letter.toUpper) cs word.toList

/-- Whether a word has no capital, and no blank in either case. -/
def isPlainWord (word : String) : Bool :=
  word.toList.all fun letter =>
    letter.toLower = letter && !isBlank letter && !isBlank letter.toUpper

theorem of_isPlainWord {word : String} (h : isPlainWord word = true) {letter : Char}
    (hletter : letter ∈ word.toList) :
    letter.toLower = letter ∧ isBlank letter = false ∧ isBlank letter.toUpper = false := by
  simpa [and_assoc] using List.all_eq_true.1 h letter hletter

/-- In lower case, a letter is found from itself and from its capital only. -/
theorem toLower_eq_iff {c letter : Char} (h : letter.toLower = letter) :
    c.toLower = letter ↔ c = letter ∨ c = letter.toUpper := by
  constructor
  · rintro rfl
    by_cases hc : c.isUpper = true
    · refine .inr ?_
      rw [Char.toUpper_toLower_eq_toUpper,
        Char.toUpper_eq_of_not_isLower (Char.not_isLower_of_isUpper hc)]
    · exact .inl (Char.toLower_eq_of_not_isUpper hc).symm
  · rintro (rfl | rfl)
    · exact h
    · rw [Char.toLower_toUpper_eq_toLower, h]

theorem forall₂_anyCase_iff {letters : List Char} (h : ∀ letter ∈ letters, letter.toLower = letter)
    {cs : List Char} :
    List.Forall₂ (fun c letter => c = letter ∨ c = letter.toUpper) cs letters ↔
      cs.map Char.toLower = letters := by
  induction cs generalizing letters with
  | nil => simp [eq_comm]
  | cons c cs ih =>
    cases letters with
    | nil => simp
    | cons letter letters =>
      obtain ⟨hletter, hletters⟩ := List.forall_mem_cons.1 h
      rw [List.forall₂_cons, ih hletters, ← toLower_eq_iff hletter, List.map_cons, List.cons.injEq]

theorem InAnyCase.self (word : String) : InAnyCase word word.toList :=
  List.forall₂_same.2 fun _ _ => .inl rfl

theorem inAnyCase_iff {word : String} (h : isPlainWord word = true) {cs : List Char} :
    InAnyCase word cs ↔ cs.map Char.toLower = word.toList :=
  forall₂_anyCase_iff fun _ hl => (of_isPlainWord h hl).1

theorem InAnyCase.trimmed {word : String} (h : isPlainWord word = true) {cs : List Char}
    (hcs : InAnyCase word cs) : Trimmed cs := by
  refine .of_forall fun c hc => ?_
  obtain ⟨letter, hl, hcl⟩ : ∃ letter ∈ word.toList, c = letter ∨ c = letter.toUpper := by
    rw [InAnyCase] at hcs
    generalize word.toList = letters at hcs
    induction hcs with
    | nil => cases hc
    | cons hfirst _ ih =>
      rcases List.mem_cons.1 hc with rfl | hc
      · exact ⟨_, List.mem_cons_self, hfirst⟩
      · obtain ⟨letter, hl, hcl⟩ := ih hc
        exact ⟨letter, List.mem_cons_of_mem _ hl, hcl⟩
  rcases hcl with rfl | rfl
  · exact (of_isPlainWord h hl).2.1
  · exact (of_isPlainWord h hl).2.2

theorem toList_asciiLower_trim (raw : String) :
    (asciiLower (trim raw)).toList = (strip raw.toList).map Char.toLower := by
  rw [asciiLower, String.toList_ofList, toList_trim]

/-- A plain word is found by trimming and lower-casing. -/
theorem asciiLower_trim_eq_iff {raw word : String} (h : isPlainWord word = true) :
    asciiLower (trim raw) = word ↔ InAnyCase word (strip raw.toList) := by
  rw [inAnyCase_iff h, ← toList_asciiLower_trim, String.toList_inj]

/-! ## Lower case of all characters -/

/-- Whether no character but its capital is mapped to a letter. Two of the letters `a` to `z` are
not firm: a dotted capital comes to an `i` and a dot, and the sign of a unit to a `k`. -/
def isFirmLetter (letter : Char) : Bool :=
  letter.isLower && letter != 'i' && lowerRuns.all fun (first, last, _, shift) =>
    last < 0x80 || letter.toNat < first + shift || last + shift < letter.toNat

structure FirmLetter (letter : Char) : Prop where
  isLower : letter.isLower = true
  ne_i : letter ≠ 'i'
  apart : ∀ run ∈ lowerRuns, run.2.1 < 0x80 ∨ (letter.toNat : Int) < run.1 + run.2.2.2 ∨
    run.2.1 + run.2.2.2 < (letter.toNat : Int)

theorem of_isFirmLetter {letter : Char} (h : isFirmLetter letter = true) : FirmLetter letter := by
  rw [isFirmLetter, Bool.and_eq_true, Bool.and_eq_true, List.all_eq_true] at h
  refine ⟨h.1.1, by simpa using h.1.2, fun run hrun => ?_⟩
  simpa [or_assoc] using h.2 run hrun

/-- Below 128 the mapping is that of the letters `A` to `Z`. -/
theorem lowerCode_ascii : ∀ n < 0x80, Char.ofNat (lowerCode n) = (Char.ofNat n).toLower := by
  decide +kernel

namespace FirmLetter

variable {letter : Char} (h : FirmLetter letter)
include h

theorem bounds : 97 ≤ letter.toNat ∧ letter.toNat ≤ 122 := by
  have := h.isLower
  simpa [Char.isLower, UInt32.le_iff_toNat_le] using this

theorem toLower_eq : letter.toLower = letter :=
  Char.toLower_eq_of_not_isUpper (Char.not_isUpper_of_isLower h.isLower)

theorem ofNat_lowerCode_ne {n : Nat} (hn : 0x80 ≤ n) : Char.ofNat (lowerCode n) ≠ letter := by
  have hletter := h.bounds
  have hcode : lowerCode n ≠ letter.toNat := by
    rw [lowerCode]
    split
    · rename_i first last step shift hfind
      have hin := List.find?_some hfind
      simp only [Bool.and_eq_true, decide_eq_true_eq] at hin
      have hapart := h.apart _ (List.mem_of_find?_eq_some hfind)
      simp only at hapart
      omega
    · omega
  intro he
  have he := congrArg Char.toNat he
  rw [Char.toNat_ofNat] at he
  split at he
  · exact hcode he
  · omega

/-- A firm letter is mapped to from itself and its capital only. -/
theorem ofNat_lowerCode_eq_iff {c : Char} :
    Char.ofNat (lowerCode c.toNat) = letter ↔ c = letter ∨ c = letter.toUpper := by
  rw [← toLower_eq_iff h.toLower_eq]
  by_cases hc : c.toNat < 0x80
  · rw [lowerCode_ascii _ hc, Char.ofNat_toNat]
  · refine iff_of_false (h.ofNat_lowerCode_ne (Nat.le_of_not_lt hc)) fun he => ?_
    have hletter := h.bounds
    have hupper : ¬ c.isUpper = true := by
      simp only [Char.isUpper, UInt32.le_iff_toNat_le, decide_eq_true_eq]
      exact fun hupper => hc (Nat.lt_of_le_of_lt hupper.2 (by decide))
    rw [Char.toLower_eq_of_not_isUpper hupper] at he
    subst he
    omega

/-- A firm letter comes from one character, wherever in a word it stands. -/
theorem lowerAfter_cons_eq_iff {before cs letters : List Char} {c : Char} :
    lowerAfter before (c :: cs) = letter :: letters ↔
      (c = letter ∨ c = letter.toUpper) ∧ lowerAfter (c :: before) cs = letters := by
  rw [← h.ofNat_lowerCode_eq_iff, lowerAfter]
  have hletter := h.bounds
  by_cases hsigma : c = 'Σ'
  · subst hsigma
    have hne : lowerSigma before cs ≠ letter := by
      rw [lowerSigma]
      split <;> (rintro rfl; revert hletter; decide)
    have hcode : Char.ofNat (lowerCode 'Σ'.toNat) ≠ letter := h.ofNat_lowerCode_ne (by decide)
    exact iff_of_false (fun he => hne (List.cons.inj he).1) fun he => hcode he.1
  · rw [if_neg hsigma, lowerChar]
    by_cases hdotted : c = 'İ'
    · subst hdotted
      have hcode : Char.ofNat (lowerCode 'İ'.toNat) ≠ letter := h.ofNat_lowerCode_ne (by decide)
      exact iff_of_false (fun he => h.ne_i (List.cons.inj he).1.symm) fun he => hcode he.1
    · rw [if_neg hdotted, List.singleton_append, List.cons.injEq]

end FirmLetter

theorem lowerAfter_ne_nil {before cs : List Char} {c : Char} : lowerAfter before (c :: cs) ≠ [] := by
  rw [lowerAfter, lowerChar]
  repeat' split
  all_goals exact List.cons_ne_nil _ _

theorem lowerAfter_eq_iff {letters : List Char} (h : ∀ letter ∈ letters, FirmLetter letter)
    {before cs : List Char} :
    lowerAfter before cs = letters ↔
      List.Forall₂ (fun c letter => c = letter ∨ c = letter.toUpper) cs letters := by
  induction cs generalizing before letters with
  | nil => simp [lowerAfter, eq_comm]
  | cons c cs ih =>
    cases letters with
    | nil => simp [lowerAfter_ne_nil]
    | cons letter letters =>
      obtain ⟨hletter, hletters⟩ := List.forall_mem_cons.1 h
      rw [hletter.lowerAfter_cons_eq_iff, ih hletters, List.forall₂_cons]

/-- A word of firm letters is found by trimming and lower-casing. -/
theorem lower_trim_eq_iff {raw word : String} (h : word.toList.all isFirmLetter = true) :
    lower (trim raw) = word ↔ InAnyCase word (strip raw.toList) := by
  have hletters : ∀ letter ∈ word.toList, FirmLetter letter := fun letter hletter =>
    of_isFirmLetter (List.all_eq_true.1 h letter hletter)
  rw [← String.toList_inj, lower, String.toList_ofList, toList_trim, lowerAfter_eq_iff hletters,
    InAnyCase]

end Text

/-! ## Directions -/

theorem Direction.read?_eq_some_iff_lower {raw : String} {d : Direction} :
    read? raw = some d ↔ Text.lower (Text.trim raw) = d.name := by
  rw [read?]
  generalize Text.lower (Text.trim raw) = word
  constructor
  · intro h
    split at h <;> cases h <;> rfl
  · rintro rfl
    cases d <;> rfl

/-- The directions are read from the words `asc` and `desc`, in any case and with blanks around
them, and from no other text. -/
theorem Direction.read?_eq_some_iff {raw : String} {d : Direction} :
    read? raw = some d ↔ Text.Padded (Text.InAnyCase d.name) raw := by
  have hplain : Text.isPlainWord d.name = true := by cases d <;> decide
  have hfirm : d.name.toList.all Text.isFirmLetter = true := by cases d <;> decide +kernel
  rw [read?_eq_some_iff_lower, Text.lower_trim_eq_iff hfirm,
    Text.padded_iff fun core => Text.InAnyCase.trimmed hplain]

end ListQuery
