import ListQuery.Text.CodePoints

/-!
Blank characters and trimming. A character is blank when it has the Unicode property White_Space;
trimming removes blank characters from the ends of a text and touches nothing between them.
-/
namespace ListQuery.Text

/-- The Unicode property White_Space. -/
def blankRanges : Ranges :=
  [(0x09, 0x0d), (0x20, 0x20), (0x85, 0x85), (0xa0, 0xa0), (0x1680, 0x1680), (0x2000, 0x200a),
   (0x2028, 0x2029), (0x202f, 0x202f), (0x205f, 0x205f), (0x3000, 0x3000)]

def isBlank (c : Char) : Bool := blankRanges.has c.toNat

/-- The characters left when the blank ones in front are dropped. -/
def dropBlank (cs : List Char) : List Char := cs.dropWhile isBlank

/-- The characters left when the blank ones at both ends are dropped. -/
def strip (cs : List Char) : List Char := (dropBlank (dropBlank cs).reverse).reverse

def trim (s : String) : String := .ofList (strip s.toList)

/-- Whether a text has no character but blank ones. -/
def allBlank (s : String) : Bool := s.toList.all isBlank

@[simp] theorem toList_trim (s : String) : (trim s).toList = strip s.toList := by simp [trim]

theorem dropBlank_eq_nil_iff {cs : List Char} : dropBlank cs = [] ↔ ∀ c ∈ cs, isBlank c = true := by
  induction cs with
  | nil => simp [dropBlank]
  | cons c cs ih =>
    by_cases h : isBlank c = true
    · have : dropBlank (c :: cs) = dropBlank cs := by simp [dropBlank, h]
      simp [this, ih, h]
    · have : dropBlank (c :: cs) = c :: cs := by simp [dropBlank, h]
      simp [this, h]

/-- Trimming leaves nothing exactly when every character is blank. -/
theorem strip_eq_nil_iff {cs : List Char} : strip cs = [] ↔ ∀ c ∈ cs, isBlank c = true := by
  rw [strip, List.reverse_eq_nil_iff, dropBlank_eq_nil_iff, ← @dropBlank_eq_nil_iff cs]
  constructor
  · intro h
    rw [dropBlank_eq_nil_iff]
    intro c hc
    by_cases hd : c ∈ dropBlank cs
    · exact h c (by simpa using hd)
    · have hs : cs = cs.takeWhile isBlank ++ dropBlank cs := by simp [dropBlank]
      rw [hs, List.mem_append] at hc
      rcases hc with hc | hc
      · exact List.all_eq_true.mp List.all_takeWhile c hc
      · exact absurd hc hd
  · intro h
    simp [h]

end ListQuery.Text
