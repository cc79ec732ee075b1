import ListQuery.Proofs.Trimming
import ListQuery.Text.Integer

/-!
Integers as they are written. Reading undoes writing; no sign and no digit is blank, so that trimming
undoes padding. Written without needless zeros, an integer has one text only.
-/
namespace ListQuery.Text

/-- An integer is written by its digits, behind a minus sign if it is negative. -/
theorem toList_toString (n : Int) :
    (toString n).toList =
      if n < 0 then '-' :: Nat.toDigits 10 n.natAbs else Nat.toDigits 10 n.natAbs := by
  cases n with
  | ofNat m => simp [toString, Int.repr, Nat.repr]
  | negSucc m => simp [toString, Int.repr, Nat.repr]

theorem isDigit_toDigits {n : Nat} {c : Char} (h : c ∈ Nat.toDigits 10 n) : c.isDigit = true :=
  Nat.isDigit_of_mem_toDigits (by decide) (by decide) h

/-- Digits are read without a sign. -/
theorem integer?_of_digits {ds : List Char} (h : ∀ c ∈ ds, c.isDigit = true) {n : Nat}
    (hn : digits? ds = some n) : integer? ds = some (n : Int) := by
  have hsign : ∀ c cs, ds = c :: cs → c ≠ '-' ∧ c ≠ '+' := by
    rintro c cs rfl
    have hc := h c List.mem_cons_self
    constructor <;> rintro rfl <;> cases hc
  have hnatural : natural? ds = some n := by
    unfold natural?
    split
    · exact absurd rfl (hsign _ _ rfl).2
    · exact hn
  unfold integer?
  split
  · exact absurd rfl (hsign _ _ rfl).1
  · rw [hnatural]
    rfl

theorem integer?_toString (n : Int) : integer? (toString n).toList = some n := by
  rw [toList_toString]
  split
  · rename_i hn
    have hneg : -(n.natAbs : Int) = n := by omega
    rw [integer?, digits?_toDigits]
    exact congrArg some hneg
  · rename_i hn
    have hpos : (n.natAbs : Int) = n := by omega
    rw [integer?_of_digits (fun _ => isDigit_toDigits) (digits?_toDigits n.natAbs), hpos]

/-- An integer that is written is read back if it fits 64 bits with a sign. -/
theorem readInt64?_toString (n : Int) :
    readInt64? (toString n) =
      if -0x8000000000000000 ≤ n ∧ n < 0x8000000000000000 then some (Int64.ofInt n) else none := by
  rw [readInt64?, integer?_toString, Option.bind_some]

theorem isBlank_of_isDigit {c : Char} (h : c.isDigit = true) : isBlank c = false := by
  obtain ⟨hlow, hhigh⟩ := Char.isDigit_iff_toNat.1 h
  have hlow : 0x30 ≤ c.toNat := hlow
  have hhigh : c.toNat ≤ 0x39 := hhigh
  rw [Bool.eq_false_iff]
  intro hblank
  obtain ⟨range, hrange, hbounds⟩ := Ranges.has_iff.1 hblank
  have hapart : ∀ range ∈ blankRanges, range.2 < 0x30 ∨ 0x39 < range.1 := by decide
  have := hapart range hrange
  omega

theorem isBlank_toString {n : Int} {c : Char} (h : c ∈ (toString n).toList) :
    isBlank c = false := by
  rw [toList_toString] at h
  split at h
  · rcases List.mem_cons.1 h with rfl | h
    · rfl
    · exact isBlank_of_isDigit (isDigit_toDigits h)
  · exact isBlank_of_isDigit (isDigit_toDigits h)

/-- A number that 64 bits hold, written by digits with or without a plus sign. -/
structure WritesCount (cs : List Char) (n : UInt64) : Prop where
  digits : ∃ ds, (cs = ds ∨ cs = '+' :: ds) ∧ ds ≠ [] ∧ (∀ c ∈ ds, c.isDigit = true) ∧
    decimalValue ds = n.toNat

theorem digits?_eq_some_iff {ds : List Char} {n : Nat} :
    digits? ds = some n ↔ ds ≠ [] ∧ (∀ c ∈ ds, c.isDigit = true) ∧ decimalValue ds = n := by
  rw [digits?]
  by_cases hne : ds = [] <;> by_cases hall : ∀ c ∈ ds, c.isDigit = true <;> simp [hne, hall]

theorem natural?_eq_some_iff {cs : List Char} {n : Nat} :
    natural? cs = some n ↔ ∃ ds, (cs = ds ∨ cs = '+' :: ds) ∧ digits? ds = some n := by
  constructor
  · intro h
    unfold natural? at h
    split at h
    · exact ⟨_, .inr rfl, h⟩
    · exact ⟨_, .inl rfl, h⟩
  · rintro ⟨ds, rfl | rfl, h⟩
    · unfold natural?
      split
      · -- a plus sign is no digit
        rename_i rest
        have hplus := (digits?_eq_some_iff.1 h).2.1 '+' List.mem_cons_self
        cases hplus
      · exact h
    · exact h

theorem readUInt64?_eq_some_iff {s : String} {n : UInt64} :
    readUInt64? s = some n ↔ WritesCount s.toList n := by
  have hn := n.toNat_lt
  rw [readUInt64?, Option.bind_eq_some_iff]
  constructor
  · rintro ⟨m, hm, h⟩
    obtain ⟨ds, hs, hds⟩ := natural?_eq_some_iff.1 hm
    obtain ⟨hne, hall, hvalue⟩ := digits?_eq_some_iff.1 hds
    split at h
    · rename_i hfits
      obtain rfl := Option.some.inj h
      refine ⟨ds, hs, hne, hall, ?_⟩
      rw [hvalue, UInt64.toNat_ofNat_of_lt' hfits]
    · cases h
  · rintro ⟨ds, hs, hne, hall, hvalue⟩
    refine ⟨n.toNat, natural?_eq_some_iff.2 ⟨ds, hs, digits?_eq_some_iff.2 ⟨hne, hall, hvalue⟩⟩, ?_⟩
    rw [if_pos hn, UInt64.ofNat_toNat]

theorem WritesCount.trimmed {cs : List Char} {n : UInt64} (h : WritesCount cs n) : Trimmed cs := by
  obtain ⟨ds, hcs, -, hall, -⟩ := h.digits
  have hds : ∀ c ∈ ds, isBlank c = false := fun c hc => isBlank_of_isDigit (hall c hc)
  rcases hcs with rfl | rfl
  · exact .of_forall hds
  · exact .of_forall (List.forall_mem_cons.2 ⟨rfl, hds⟩)

/-- The decimal digits of a count write it. -/
theorem writesCount_toDigits (n : UInt64) : WritesCount (Nat.toDigits 10 n.toNat) n :=
  ⟨_, .inl rfl, digits?_eq_some_iff.1 (digits?_toDigits n.toNat)⟩

/-! ## Digits as they are written -/

/-- The digits of a number: at least one, and no needless zero in front. -/
structure WritesNatural (ds : List Char) (n : Nat) : Prop where
  ne_nil : ds ≠ []
  isDigit : ∀ c ∈ ds, c.isDigit = true
  value : decimalValue ds = n
  zero : ds.head? = some '0' → ds = ['0']

/-- A digit is that of its value. -/
theorem toDigits_of_isDigit {c : Char} (h : c.isDigit = true) :
    c.toNat - '0'.toNat < 10 ∧ Nat.toDigits 10 (c.toNat - '0'.toNat) = [c] := by
  obtain ⟨hlow, hhigh⟩ := Char.isDigit_iff_toNat.1 h
  have hzero : '0'.toNat = 48 := rfl
  have hnine : '9'.toNat = 57 := rfl
  have hlt : c.toNat - '0'.toNat < 10 := by omega
  refine ⟨hlt, ?_⟩
  rw [Nat.toDigits_of_lt_base hlt, List.singleton_inj, ← Char.toNat_inj,
    Nat.toNat_digitChar_of_lt_ten hlt]
  omega

/-- Digits behind those of a number above zero are with them the digits of one number. -/
theorem toDigits_append {n : Nat} (hn : 0 < n) {cs : List Char} (h : ∀ c ∈ cs, c.isDigit = true) :
    Nat.toDigits 10 n ++ cs =
      Nat.toDigits 10 (cs.foldl (fun n c => 10 * n + (c.toNat - '0'.toNat)) n) := by
  induction cs generalizing n with
  | nil => rw [List.append_nil, List.foldl_nil]
  | cons c cs ih =>
    obtain ⟨hc, hcs⟩ := List.forall_mem_cons.1 h
    obtain ⟨hlt, hdigit⟩ := toDigits_of_isDigit hc
    have happend := Nat.toDigits_append_toDigits (by decide : 1 < 10) hn hlt
    rw [hdigit] at happend
    rw [List.foldl_cons, ← ih (by omega) hcs, ← happend, List.append_assoc, List.singleton_append]

/-- A number above zero has no zero in front. -/
theorem head?_toDigits_ne {n : Nat} (hn : 0 < n) : (Nat.toDigits 10 n).head? ≠ some '0' := by
  induction n using Nat.strongRecOn with
  | ind n ih =>
    by_cases hlt : n < 10
    · rw [Nat.toDigits_of_lt_base hlt, List.head?_singleton, Ne, Option.some_inj, ← Char.toNat_inj,
        Nat.toNat_digitChar_of_lt_ten hlt]
      have hzero : '0'.toNat = 48 := rfl
      omega
    · -- the first digit is that of a tenth of the number
      have hpos : 0 < n / 10 := by omega
      have happend := Nat.toDigits_append_toDigits (by decide : 1 < 10) hpos
        (Nat.mod_lt n (by decide : 0 < 10))
      rw [Nat.div_add_mod] at happend
      have hfirst := ih (n / 10) (by omega) hpos
      obtain ⟨d, ds, hds⟩ := List.exists_cons_of_ne_nil
        (Nat.toDigits_ne_nil : Nat.toDigits 10 (n / 10) ≠ [])
      rw [hds] at hfirst happend
      rwa [← happend]

/-- A number is written by its decimal digits and in no other way. -/
theorem writesNatural_iff {ds : List Char} {n : Nat} :
    WritesNatural ds n ↔ ds = Nat.toDigits 10 n := by
  constructor
  · rintro ⟨hne, hall, rfl, hzero⟩
    obtain ⟨d, ds, rfl⟩ := List.exists_cons_of_ne_nil hne
    obtain ⟨hd, hds⟩ := List.forall_mem_cons.1 hall
    by_cases hfirst : d = '0'
    · subst hfirst
      rw [hzero rfl]
      rfl
    · have hlow : 48 ≤ d.toNat := (Char.isDigit_iff_toNat.1 hd).1
      have hne : d.toNat ≠ 48 := fun h => hfirst (Char.toNat_inj.1 h)
      have hpos : 0 < d.toNat - '0'.toNat := by
        have hzero : '0'.toNat = 48 := rfl
        omega
      have happend := toDigits_append hpos hds
      rw [(toDigits_of_isDigit hd).2] at happend
      rw [decimalValue, List.foldl_cons, Nat.mul_zero, Nat.zero_add]
      exact happend
  · rintro rfl
    obtain ⟨hne, hall, hvalue⟩ := digits?_eq_some_iff.1 (digits?_toDigits n)
    refine ⟨hne, hall, hvalue, fun hhead => ?_⟩
    obtain rfl | hn := Nat.eq_zero_or_pos n
    · rfl
    · exact absurd hhead (head?_toDigits_ne hn)

/-- A whole number as it is written: its digits, behind a minus sign if it is negative. -/
def WritesInteger (cs : List Char) (n : Int) : Prop :=
  ∃ ds, WritesNatural ds n.natAbs ∧ cs = if n < 0 then '-' :: ds else ds

/-- An integer has one text, that which writes it. -/
theorem toString_eq_iff {n : Int} {s : String} : toString n = s ↔ WritesInteger s.toList n := by
  rw [← String.toList_inj, toList_toString, eq_comm]
  simp only [WritesInteger, writesNatural_iff, exists_eq_left]

end ListQuery.Text
