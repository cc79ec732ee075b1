import ListQuery.Proofs.RowRanges
import ListQuery.Proofs.Utf8

/-!
The bytes of content ranges. Main statement: whatever the name, the text of a range is printable
ASCII, so that it is taken as a header wherever such bytes are, and the header tells the cut down
name and the range apart.
-/
namespace ListQuery

open Text

/-- A character that is neither a control character nor beyond ASCII. -/
def IsPrintable (c : Char) : Prop := 0x20 ≤ c.toNat ∧ c.toNat ≤ 0x7e

theorem isPrintable_of_isDigit {c : Char} (h : c.isDigit = true) : IsPrintable c := by
  obtain ⟨hlow, hhigh⟩ := Char.isDigit_iff_toNat.1 h
  have hlow : 0x30 ≤ c.toNat := hlow
  have hhigh : c.toNat ≤ 0x39 := hhigh
  exact ⟨by omega, by omega⟩

theorem isPrintable_toDigits {n : Nat} : ∀ c ∈ Nat.toDigits 10 n, IsPrintable c :=
  fun _ hc => isPrintable_of_isDigit (isDigit_toDigits hc)

/-- A name keeps its printable characters, in their order, and no others. -/
theorem mem_headerName_iff {name : String} {c : Char} :
    c ∈ headerName name ↔ c ∈ name.toList ∧ IsPrintable c := by
  rw [headerName, List.mem_filter, Bool.and_eq_true, decide_eq_true_iff, decide_eq_true_iff,
    IsPrintable, Nat.lt_succ_iff]

theorem isPrintable_contentRange (offset count total : UInt64) (name : String) :
    ∀ c ∈ (contentRange offset count total name).toList, IsPrintable c := by
  have hseparators : IsPrintable ' ' ∧ IsPrintable '-' ∧ IsPrintable '/' := by
    unfold IsPrintable
    decide
  intro c hc
  rw [toList_contentRange, List.mem_append, List.mem_cons, List.mem_append, List.mem_append,
    List.mem_cons, List.mem_cons] at hc
  rcases hc with hc | rfl | (hc | rfl | hc) | rfl | hc
  · exact (mem_headerName_iff.1 hc).2
  · exact hseparators.1
  · exact isPrintable_toDigits c hc
  · exact hseparators.2.1
  · exact isPrintable_toDigits c hc
  · exact hseparators.2.2
  · exact isPrintable_toDigits c hc

/-- Printable characters are written by printable bytes. -/
theorem mem_encodeUtf8_of_isPrintable {cs : List Char} (h : ∀ c ∈ cs, IsPrintable c) {b : UInt8}
    (hb : b ∈ encodeUtf8 cs) : 0x20 ≤ b ∧ b ≤ 0x7e := by
  obtain ⟨c, hc, hb⟩ := List.mem_flatMap.1 hb
  obtain ⟨hlow, hhigh⟩ := h c hc
  have hsingle : encodeChar c = [c.toNat.toUInt8] := by
    rw [encodeChar, if_pos (by omega)]
  rw [hsingle, List.mem_singleton] at hb
  have hnat : b.toNat = c.toNat := by rw [hb, toNat_toUInt8 (by omega)]
  rw [UInt8.le_iff_toNat_le, UInt8.le_iff_toNat_le, hnat]
  exact ⟨hlow, hhigh⟩

section

variable {accepts : Bytes → Bool}
  (haccepts : ∀ bytes, (∀ b ∈ bytes, (0x20 ≤ b ∧ b ≤ 0x7e) ∨ b = 0x09) → accepts bytes = true)
  (offset count total : UInt64) (name : String)

include haccepts

theorem accepts_contentRange :
    accepts (encodeUtf8 (contentRange offset count total name).toList) = true :=
  haccepts _ fun _ hb =>
    .inl (mem_encodeUtf8_of_isPrintable (isPrintable_contentRange offset count total name) hb)

theorem rangeHeader_eq : rangeHeader accepts offset count total name =
    encodeUtf8 (contentRange offset count total name).toList :=
  if_pos (accepts_contentRange haccepts offset count total name)

theorem decodeUtf8_rangeHeader : decodeUtf8 (rangeHeader accepts offset count total name) =
    (contentRange offset count total name).toList := by
  rw [rangeHeader_eq haccepts, decodeUtf8_encodeUtf8]

end

/-- The header for a range is the text of the range, whatever the name, wherever printable bytes and
tabs may stand in headers. It is printable ASCII, its last space parts the cut down name from the
range, and the range tells its first row and the total, so that headers are equal only where these
and the cut down names are. -/
theorem range_header_accepted (accepts : Bytes → Bool)
    (haccepts : ∀ bytes, (∀ b ∈ bytes, (0x20 ≤ b ∧ b ≤ 0x7e) ∨ b = 0x09) → accepts bytes = true)
    (offset count total : UInt64) (name : String) :
    let text := (contentRange offset count total name).toList
    (∀ c ∈ text, IsPrintable c) ∧ accepts (encodeUtf8 text) = true ∧
    rangeHeader accepts offset count total name = encodeUtf8 text ∧
    (∃ rows range, splitLast? ' ' (decodeUtf8 (rangeHeader accepts offset count total name)) =
        some (headerName name, rows) ∧ RowRange.read? rows = some range ∧
      range.first = offset.toNat ∧ range.total = total.toNat) ∧
    ∀ offset' count' total' name', rangeHeader accepts offset' count' total' name' =
        rangeHeader accepts offset count total name →
      headerName name' = headerName name ∧ offset' = offset ∧ total' = total := by
  intro text
  have hdecode := decodeUtf8_rangeHeader haccepts
  obtain ⟨rows, hsplit, hread⟩ := splitLast?_contentRange offset count total name
  refine ⟨isPrintable_contentRange offset count total name,
    accepts_contentRange haccepts offset count total name,
    rangeHeader_eq haccepts offset count total name,
    ⟨rows, _, hdecode offset count total name ▸ hsplit, hread, rfl, rfl⟩,
    fun offset' count' total' name' h => ?_⟩
  obtain ⟨rows', hsplit', hread'⟩ := splitLast?_contentRange offset' count' total' name'
  rw [← hdecode, h, hdecode, hsplit] at hsplit'
  obtain ⟨hname, rfl⟩ := Prod.mk.inj (Option.some.inj hsplit')
  obtain ⟨hfirst, -, htotal⟩ := RowRange.mk.inj (Option.some.inj (hread.symm.trans hread'))
  exact ⟨hname.symm, UInt64.toNat_inj.1 hfirst.symm, UInt64.toNat_inj.1 htotal.symm⟩

namespace Sample

/-- A name with line breaks, other scripts and what looks like a range is told apart from the
range. -/
theorem header_of_hostile_name :
    let accepts (bytes : Bytes) := bytes.all fun b => b == 0x09 || (0x20 ≤ b && b != 0x7f)
    let name := "us\r\ners: \u00fc\u2028 0-9/9\u007f"
    let header := rangeHeader accepts 0xffffffffffffffff 1 0 name
    (∀ bytes : Bytes, (∀ b ∈ bytes, (0x20 ≤ b ∧ b ≤ 0x7e) ∨ b = 0x09) → accepts bytes = true) ∧
      decodeUtf8 header = "users:  0-9/9 18446744073709551615-0/0".toList ∧
      ∃ rows range, splitLast? ' ' (decodeUtf8 header) = some ("users:  0-9/9".toList, rows) ∧
        RowRange.read? rows = some range ∧ range.first = 0xffffffffffffffff ∧ range.total = 0 := by
  intro accepts name header
  have haccepts : ∀ bytes : Bytes, (∀ b ∈ bytes, (0x20 ≤ b ∧ b ≤ 0x7e) ∨ b = 0x09) →
      accepts bytes = true := by
    intro bytes h
    refine List.all_eq_true.2 fun b hb => ?_
    rcases h b hb with ⟨hlow, hhigh⟩ | rfl
    · have hne : b ≠ 0x7f := by
        rintro rfl
        exact absurd hhigh (by decide)
      simp [hlow, hne]
    · rfl
  obtain ⟨-, -, hheader, hread, -⟩ :=
    range_header_accepted accepts haccepts 0xffffffffffffffff 1 0 name
  have hname : headerName name = "users:  0-9/9".toList := by decide
  rw [hname] at hread
  have hheader : decodeUtf8 header = (contentRange 0xffffffffffffffff 1 0 name).toList :=
    (congrArg decodeUtf8 hheader).trans (decodeUtf8_encodeUtf8 _)
  exact ⟨haccepts, hheader.trans (by decide), hread⟩

end Sample
end ListQuery
