import ListQuery.Params.QueryString
import ListQuery.Proofs.Utf8

/-!
Writing query strings in form encoding, and reading them back: bytes first, then keys and texts,
pairs, and whole queries.
-/
namespace ListQuery

open Text

/-- The byte of a hexadecimal digit. -/
def hexDigit (n : Nat) : UInt8 := (if n < 10 then 0x30 + n else 0x37 + n).toUInt8

/-- Bytes that form encoding leaves as they are: letters, digits and `*`, `-`, `.`, `_`. -/
def isPlain (b : UInt8) : Bool :=
  (0x30 ≤ b && b ≤ 0x39) || (0x41 ≤ b && b ≤ 0x5a) || (0x61 ≤ b && b ≤ 0x7a) ||
    b == 0x2a || b == 0x2d || b == 0x2e || b == 0x5f

/-- A byte in form encoding. -/
def encodeByte (b : UInt8) : Bytes :=
  if b = 0x20 then [0x2b]
  else if isPlain b then [b]
  else [0x25, hexDigit (b.toNat / 16), hexDigit (b.toNat % 16)]

/-- A key or a text in form encoding. -/
def encodeComponent (s : String) : Bytes := (encodeUtf8 s.toList).flatMap encodeByte

def encodePair (e : String × String) : Bytes := encodeComponent e.1 ++ 0x3d :: encodeComponent e.2

/-- Bytes below 128 as the characters with their numbers. -/
def asciiText (bytes : Bytes) : String := .ofList (bytes.map fun b => Char.ofNat b.toNat)

/-- The query string of pairs. -/
def encodePairs (pairs : List (String × String)) : String :=
  asciiText ([0x26].intercalate (pairs.map encodePair))

/-- A fact about bytes holds of all if it holds of 256. -/
theorem forall_byte {P : UInt8 → Prop} (h : ∀ n < 256, P (UInt8.ofNat n)) (b : UInt8) : P b := by
  have hb := h b.toNat b.toNat_lt
  rwa [UInt8.ofNat_toNat] at hb

theorem hexValue?_hexDigit : ∀ n < 16, hexValue? (hexDigit n) = some n.toUInt8 := by decide

theorem hexDigit_ne_plus : ∀ n < 16, hexDigit n ≠ 0x2b := by decide

/-- Bytes of which form encoding makes use. None of them separates or starts a query. -/
def isWritten (b : UInt8) : Bool := isPlain b || b == 0x25 || b == 0x2b

theorem isWritten_of_mem_encodeByte (b : UInt8) : ∀ x ∈ encodeByte b, isWritten x = true := by
  have h : (encodeByte b).all isWritten = true :=
    forall_byte (P := fun b => (encodeByte b).all isWritten = true) (by decide +kernel) b
  exact List.all_eq_true.1 h

theorem bounds_of_isWritten (b : UInt8) (h : isWritten b = true) :
    b.toNat < 0x80 ∧ b ≠ 0x26 ∧ b ≠ 0x3d ∧ b ≠ 0x3f :=
  forall_byte (P := fun b => isWritten b = true → b.toNat < 0x80 ∧ b ≠ 0x26 ∧ b ≠ 0x3d ∧ b ≠ 0x3f)
    (by decide +kernel) b h

/-- A byte that is no percent sign stands for itself. -/
theorem percentDecode_cons_of_ne {b : UInt8} (h : b ≠ 0x25) (bytes : Bytes) :
    percentDecode (b :: bytes) = b :: percentDecode bytes := by
  match bytes with
  | [] => simp [percentDecode]
  | [x] => simp [percentDecode]
  | x :: y :: rest =>
    rw [percentDecode]
    simp [h]

theorem plusToSpace_cons (b : UInt8) (bytes : Bytes) :
    plusToSpace (b :: bytes) = (if b = 0x2b then 0x20 else b) :: plusToSpace bytes := rfl

theorem byte_of_hexDigits (b : UInt8) :
    (b.toNat / 16).toUInt8 * 16 + (b.toNat % 16).toUInt8 = b :=
  forall_byte (P := fun b => (b.toNat / 16).toUInt8 * 16 + (b.toNat % 16).toUInt8 = b)
    (by decide +kernel) b

theorem isPlain_ne (b : UInt8) (h : isPlain b = true) : b ≠ 0x25 ∧ b ≠ 0x2b :=
  forall_byte (P := fun b => isPlain b = true → b ≠ 0x25 ∧ b ≠ 0x2b) (by decide +kernel) b h

/-- A written byte is read back, whatever follows. -/
theorem percentDecode_encodeByte (b : UInt8) (bytes : Bytes) :
    percentDecode (plusToSpace (encodeByte b ++ bytes)) =
      b :: percentDecode (plusToSpace bytes) := by
  rw [encodeByte]
  split
  · rename_i hb
    rw [List.singleton_append, plusToSpace_cons, if_pos rfl, hb]
    exact percentDecode_cons_of_ne (by decide) _
  · split
    · rename_i hb
      have hne := isPlain_ne b hb
      rw [List.singleton_append, plusToSpace_cons, if_neg hne.2,
        percentDecode_cons_of_ne hne.1]
    · have hh : b.toNat / 16 < 16 := by have := b.toNat_lt; omega
      have hl : b.toNat % 16 < 16 := by omega
      simp only [List.cons_append, List.nil_append, plusToSpace_cons]
      rw [if_neg (by decide), if_neg (hexDigit_ne_plus _ hh), if_neg (hexDigit_ne_plus _ hl),
        percentDecode, hexValue?_hexDigit _ hh, hexValue?_hexDigit _ hl]
      simp [byte_of_hexDigits]

theorem percentDecode_encodeBytes (bytes : Bytes) :
    percentDecode (plusToSpace (bytes.flatMap encodeByte)) = bytes := by
  induction bytes with
  | nil => rfl
  | cons b bytes ih => rw [List.flatMap_cons, percentDecode_encodeByte, ih]

/-- Reading a key or a text undoes writing it. -/
theorem decodeComponent_encodeComponent (s : String) : decodeComponent (encodeComponent s) = s := by
  rw [decodeComponent, encodeComponent, percentDecode_encodeBytes, decodeUtf8_encodeUtf8]
  exact String.ofList_toList

theorem isWritten_of_mem_encodeComponent {s : String} {b : UInt8}
    (h : b ∈ encodeComponent s) : isWritten b = true := by
  obtain ⟨a, -, hb⟩ := List.mem_flatMap.1 h
  exact isWritten_of_mem_encodeByte a b hb

/-- Reading a pair undoes writing it: the first equals sign is the one written between the two. -/
theorem decodePair_encodePair (e : String × String) : decodePair (encodePair e) = e := by
  have hk : ∀ b ∈ encodeComponent e.1, (b != 0x3d) = true := fun b hb => by
    simpa using (bounds_of_isWritten b (isWritten_of_mem_encodeComponent hb)).2.2.1
  rw [decodePair, encodePair, List.takeWhile_append_of_pos hk, List.dropWhile_append_of_pos hk]
  simp [decodeComponent_encodeComponent]

theorem isWritten_of_mem_encodePair {e : String × String} {b : UInt8} (h : b ∈ encodePair e) :
    isWritten b = true ∨ b = 0x3d := by
  rcases List.mem_append.1 h with h | h
  · exact .inl (isWritten_of_mem_encodeComponent h)
  · rcases List.mem_cons.1 h with h | h
    · exact .inr h
    · exact .inl (isWritten_of_mem_encodeComponent h)

theorem ampersand_not_mem_encodePair (e : String × String) : (0x26 : UInt8) ∉ encodePair e := by
  intro h
  rcases isWritten_of_mem_encodePair h with h | h
  · exact (bounds_of_isWritten _ h).2.1 rfl
  · exact absurd h (by decide)

theorem encodePair_ne_nil (e : String × String) : encodePair e ≠ [] := by
  simp [encodePair]

/-- Characters below 128 take one byte each. -/
theorem encodeUtf8_asciiText {bytes : Bytes} (h : ∀ b ∈ bytes, b.toNat < 0x80) :
    encodeUtf8 (asciiText bytes).toList = bytes := by
  rw [asciiText, String.toList_ofList, encodeUtf8]
  induction bytes with
  | nil => rfl
  | cons b bytes ih =>
    have hb := h b List.mem_cons_self
    have hv : (Char.ofNat b.toNat).toNat = b.toNat :=
      forall_byte (P := fun b => (Char.ofNat b.toNat).toNat = b.toNat) (by decide +kernel) b
    rw [List.map_cons, List.flatMap_cons, ih fun c hc => h c (List.mem_cons_of_mem _ hc),
      encodeChar, hv, if_pos hb]
    simp

/-- What holds of the separator and of every element of a piece holds of all that is joined. -/
theorem forall_mem_intercalate {α : Type} {P : α → Prop} {sep : α} {pieces : List (List α)}
    (hs : P sep) (h : ∀ piece ∈ pieces, ∀ a ∈ piece, P a) :
    ∀ a ∈ [sep].intercalate pieces, P a := by
  induction pieces with
  | nil => simp
  | cons piece pieces ih =>
    have hp := h piece List.mem_cons_self
    have ih := ih fun q hq => h q (List.mem_cons_of_mem _ hq)
    cases pieces with
    | nil => simpa using hp
    | cons next pieces =>
      intro a ha
      rw [List.intercalate_cons_cons, List.append_assoc] at ha
      rcases List.mem_append.1 ha with ha | ha
      · exact hp a ha
      · rcases List.mem_cons.1 ha with ha | ha
        · exact ha ▸ hs
        · exact ih a ha

/-- A written query is ASCII and has no question mark. -/
theorem bounds_of_mem_encodePairs {pairs : List (String × String)} :
    ∀ b ∈ ([0x26] : Bytes).intercalate (pairs.map encodePair), b.toNat < 0x80 ∧ b ≠ 0x3f := by
  refine forall_mem_intercalate (by decide) fun piece hp b hb => ?_
  obtain ⟨e, -, rfl⟩ := List.mem_map.1 hp
  rcases isWritten_of_mem_encodePair hb with h | h
  · have hw := bounds_of_isWritten b h
    exact ⟨hw.1, hw.2.2.2⟩
  · subst h
    decide

/-- A written query does not begin with a question mark that reading would drop. -/
theorem dropWhile_encodePairs (pairs : List (String × String)) :
    (encodePairs pairs).toList.dropWhile (· == '?') = (encodePairs pairs).toList := by
  have h : ∀ c ∈ (encodePairs pairs).toList, c ≠ '?' := by
    intro c hc
    rw [encodePairs, asciiText, String.toList_ofList] at hc
    obtain ⟨b, hb, rfl⟩ := List.mem_map.1 hc
    have hb := (bounds_of_mem_encodePairs b hb).2
    exact forall_byte (P := fun b => b ≠ 0x3f → Char.ofNat b.toNat ≠ '?') (by decide +kernel) b hb
  cases hl : (encodePairs pairs).toList with
  | nil => rfl
  | cons c cs =>
    rw [hl] at h
    exact List.dropWhile_cons_of_neg (by simpa using h c List.mem_cons_self)

/-- Reading a query undoes writing its pairs. -/
theorem queryPairs_encodePairs (pairs : List (String × String)) :
    queryPairs (encodePairs pairs) = pairs := by
  have hb : encodeUtf8 (encodePairs pairs).toList = [0x26].intercalate (pairs.map encodePair) :=
    encodeUtf8_asciiText fun b hb => (bounds_of_mem_encodePairs b hb).1
  rw [queryPairs, dropWhile_encodePairs, hb]
  cases pairs with
  | nil => rfl
  | cons e pairs =>
    have hs : splitOn 0x26 ([0x26].intercalate ((e :: pairs).map encodePair)) =
        (e :: pairs).map encodePair := by
      refine splitOn_intercalate (by simp) fun piece hp => ?_
      obtain ⟨d, -, rfl⟩ := List.mem_map.1 hp
      exact ampersand_not_mem_encodePair d
    have hf : ∀ piece ∈ (e :: pairs).map encodePair, (!piece.isEmpty) = true := by
      intro piece hp
      obtain ⟨d, -, rfl⟩ := List.mem_map.1 hp
      simpa using encodePair_ne_nil d
    simp only [hs, List.filter_eq_self.2 hf, List.map_map]
    have hd : decodePair ∘ encodePair = id := funext decodePair_encodePair
    rw [hd, List.map_id]

end ListQuery
