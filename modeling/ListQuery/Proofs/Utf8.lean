import ListQuery.Text.Utf8

/-!
Reading UTF-8 undoes writing it. The character that has begun is followed byte by byte: each byte
that was written meets the bounds that the bytes before it left.
-/
namespace ListQuery.Text

theorem toNat_toUInt8 {n : Nat} (h : n < 256) : n.toUInt8.toNat = n := by
  rw [Nat.toUInt8, UInt8.toNat_ofNat']
  exact Nat.mod_eq_of_lt h

/-- The first byte of two begins a character that owes one more. -/
theorem ofLead_two {k : Nat} (h : 2 ≤ k) (hk : k < 32) :
    Pending.ofLead (0xc0 + k) = some ⟨k, 1, 0x80, 0xbf⟩ := by
  rw [Pending.ofLead, if_pos (by omega), Nat.add_sub_cancel_left]

/-- The first byte of three rules out what two bytes write and what no character has. -/
theorem ofLead_three {k : Nat} (hk : k < 16) :
    Pending.ofLead (0xe0 + k) =
      some ⟨k, 2, if k = 0 then 0xa0 else 0x80, if k = 0xd then 0x9f else 0xbf⟩ := by
  by_cases h0 : k = 0
  · subst h0
    rfl
  · by_cases hd : k = 0xd
    · subst hd
      rfl
    · rw [Pending.ofLead, if_neg (by omega), if_neg (by omega), if_neg (by omega),
        if_pos (by omega), Nat.add_sub_cancel_left, if_neg h0, if_neg hd]

/-- The first byte of four rules out what three bytes write and what lies beyond all characters. -/
theorem ofLead_four {k : Nat} (hk : k < 5) :
    Pending.ofLead (0xf0 + k) =
      some ⟨k, 3, if k = 0 then 0x90 else 0x80, if k = 4 then 0x8f else 0xbf⟩ := by
  by_cases h0 : k = 0
  · subst h0
    rfl
  · by_cases h4 : k = 4
    · subst h4
      rfl
    · rw [Pending.ofLead, if_neg (by omega), if_neg (by omega), if_neg (by omega),
        if_neg (by omega), if_neg (by omega), if_neg (by omega), if_pos (by omega),
        Nat.add_sub_cancel_left, if_neg h0, if_neg h4]

theorem decodeAfter_single {n : Nat} (h : n < 0x80) (bytes : Bytes) :
    decodeAfter none (n.toUInt8 :: bytes) = Char.ofNat n :: decodeAfter none bytes := by
  rw [decodeAfter, toNat_toUInt8 (by omega), startChar, if_pos h]
  rfl

theorem decodeAfter_lead {n : Nat} {p : Pending} (hn : n < 256) (hl : 0x80 ≤ n)
    (h : Pending.ofLead n = some p) (bytes : Bytes) :
    decodeAfter none (n.toUInt8 :: bytes) = decodeAfter (some p) bytes := by
  rw [decodeAfter, toNat_toUInt8 hn, startChar, if_neg (by omega), h]
  rfl

/-- A byte within bounds goes on with a character that owes more than one. -/
theorem decodeAfter_next {p : Pending} {k : Nat} (ho : 1 < p.owed) (hk : k < 0x40)
    (hl : p.least ≤ 0x80 + k) (hm : 0x80 + k ≤ p.most) (bytes : Bytes) :
    decodeAfter (some p) ((0x80 + k).toUInt8 :: bytes) =
      decodeAfter (some ⟨p.value * 0x40 + k, p.owed - 1, 0x80, 0xbf⟩) bytes := by
  rw [decodeAfter, toNat_toUInt8 (by omega), Pending.next, if_pos ⟨hl, hm⟩, if_neg (by omega),
    Nat.add_sub_cancel_left]
  rfl

/-- The last byte ends a character. -/
theorem decodeAfter_last {p : Pending} {k : Nat} (ho : p.owed = 1) (hk : k < 0x40)
    (hl : p.least ≤ 0x80 + k) (hm : 0x80 + k ≤ p.most) (bytes : Bytes) :
    decodeAfter (some p) ((0x80 + k).toUInt8 :: bytes) =
      Char.ofNat (p.value * 0x40 + k) :: decodeAfter none bytes := by
  rw [decodeAfter, toNat_toUInt8 (by omega), Pending.next, if_pos ⟨hl, hm⟩, if_pos ho,
    Nat.add_sub_cancel_left]
  rfl

/-- A written character is read back, whatever follows. -/
theorem decodeAfter_encodeChar (c : Char) (bytes : Bytes) :
    decodeAfter none (encodeChar c ++ bytes) = c :: decodeAfter none bytes := by
  have hc : c.toNat < 0xd800 ∨ 0xdfff < c.toNat ∧ c.toNat < 0x110000 := c.valid
  have hof : Char.ofNat c.toNat = c := Char.ofNat_toNat c
  generalize hn : c.toNat = n at hc hof
  rw [encodeChar, hn]
  split
  · rename_i h1
    rw [List.singleton_append, decodeAfter_single h1, hof]
  · split
    · rename_i h1 h2
      have hv : n / 0x40 * 0x40 + n % 0x40 = n := by omega
      rw [List.cons_append, List.cons_append, List.nil_append,
        decodeAfter_lead (by omega) (by omega) (ofLead_two (by omega) (by omega)),
        decodeAfter_last rfl (by omega) (by simp only; omega) (by simp only; omega)]
      simp only [hv, hof]
    · split
      · rename_i h1 h2 h3
        have hv : (n / 0x1000 * 0x40 + n / 0x40 % 0x40) * 0x40 + n % 0x40 = n := by omega
        rw [List.cons_append, List.cons_append, List.cons_append, List.nil_append,
          decodeAfter_lead (by omega) (by omega) (ofLead_three (by omega)),
          decodeAfter_next (by simp) (by omega) (by simp only; split <;> omega)
            (by simp only; split <;> omega),
          decodeAfter_last rfl (by omega) (by simp only; omega) (by simp only; omega)]
        simp only [hv, hof]
      · rename_i h1 h2 h3
        have hv : ((n / 0x40000 * 0x40 + n / 0x1000 % 0x40) * 0x40 + n / 0x40 % 0x40) * 0x40 +
            n % 0x40 = n := by omega
        rw [List.cons_append, List.cons_append, List.cons_append, List.cons_append,
          List.nil_append,
          decodeAfter_lead (by omega) (by omega) (ofLead_four (by omega)),
          decodeAfter_next (by simp) (by omega) (by simp only; split <;> omega)
            (by simp only; split <;> omega),
          decodeAfter_next (by simp) (by omega) (by simp only; omega) (by simp only; omega),
          decodeAfter_last rfl (by omega) (by simp only; omega) (by simp only; omega)]
        simp only [hv, hof]

/-- Reading UTF-8 undoes writing it. -/
theorem decodeUtf8_encodeUtf8 (cs : List Char) : decodeUtf8 (encodeUtf8 cs) = cs := by
  rw [decodeUtf8, encodeUtf8]
  induction cs with
  | nil => rfl
  | cons c cs ih => rw [List.flatMap_cons, decodeAfter_encodeChar, ih]

end ListQuery.Text
