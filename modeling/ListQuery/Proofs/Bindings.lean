import Mathlib.Data.Nat.Digits.Defs
import ListQuery.Proofs.Conditions
import ListQuery.Proofs.WrittenIntegers
import ListQuery.Sample.Gadgets

/-!
What the integers of a request bind as. Main statement: an integer that its column holds binds as
the same number whether it comes as text or as a number, up to the largest signed one. Larger ones,
which only the widest unsigned columns hold, bind as unsigned numbers and, where they come as text,
as this text.
-/
namespace ListQuery

open Sql Text

namespace ColumnType

/-- The least integer that a type holds and the first beyond it, if it is a type of integers. -/
def integers? : ColumnType → Option (Int × Int)
  | .tinyInteger => some (-0x80, 0x80)
  | .smallInteger => some (-0x8000, 0x8000)
  | .integer => some (-0x80000000, 0x80000000)
  | .bigInteger => some (-0x8000000000000000, 0x8000000000000000)
  | .tinyUnsigned => some (0, 0x100)
  | .smallUnsigned => some (0, 0x10000)
  | .unsigned => some (0, 0x100000000)
  | .bigUnsigned => some (0, 0x10000000000000000)
  | _ => none

/-- An integer that a column of the type can have. -/
structure Holds (type : ColumnType) (n : Int) : Prop where
  within : ∃ range, type.integers? = some range ∧ range.1 ≤ n ∧ n < range.2

namespace Holds

variable {type : ColumnType} {n : Int}

theorem isInteger (h : type.Holds n) : type.isInteger = true := by
  obtain ⟨range, hrange, -⟩ := h.within
  cases type <;> first | rfl | cases hrange

theorem fits (h : type.Holds n) : -0x8000000000000000 ≤ n ∧ n < 0x10000000000000000 := by
  obtain ⟨range, hrange, hleast, hbeyond⟩ := h.within
  cases type <;> cases hrange <;> simp only at hleast hbeyond <;> omega

theorem eq_bigUnsigned (h : type.Holds n) (hn : 0x8000000000000000 ≤ n) : type = .bigUnsigned := by
  obtain ⟨range, hrange, hleast, hbeyond⟩ := h.within
  cases type <;> cases hrange <;> simp only at hleast hbeyond <;> first | rfl | omega

end Holds
end ColumnType

/-! ## Written integers -/

/-- The shortest identifier has 32 digits. -/
theorem Sql.Uuid.read?_of_length_lt {s : String} (h : s.toList.length < 32) : read? s = none := by
  have hhyphenated : ofHyphenated? s.toList = none := by
    rw [ofHyphenated?]
    exact if_neg fun hc => by omega
  rw [read?, if_neg (by omega), if_neg (by omega), if_neg (by omega), hhyphenated]

theorem length_toString_lt {n : Int} (hleast : -0x8000000000000000 ≤ n)
    (hbeyond : n < 0x10000000000000000) : (toString n).toList.length < 32 := by
  have hdigits : (Nat.toDigits 10 n.natAbs).length ≤ 20 :=
    Nat.toDigits_length 10 _ 20 (by decide) (by omega)
  rw [toList_toString]
  split
  · rw [List.length_cons]
    omega
  · omega

theorem trim_padded_toString (n : Int) {before after : String} (hbefore : allBlank before = true)
    (hafter : allBlank after = true) : trim (before ++ toString n ++ after) = toString n :=
  trim_padded hbefore (.of_forall fun _ => isBlank_toString) hafter

namespace Entity

variable {e : Entity} {column : String} {type : ColumnType} {n : Int} {s : String}

/-- A text with an integer for a column of integers binds as this number if it fits 64 bits with a
sign, and else as the text. -/
theorem bind_text_of_trim (htype : e.columnType? column = some type) (hn : type.Holds n)
    (hs : trim s = toString n) :
    e.bind column (.text s) =
      if n < 0x8000000000000000 then .int64 (.ofInt n) else .text (some s) := by
  have hread : type.readText? (toString n) = (readInt64? (toString n)).map .int64 := by
    unfold ColumnType.readText?
    rw [if_pos hn.isInteger]
  obtain ⟨hleast, hbeyond⟩ := hn.fits
  simp only [bind, htype, Option.bind_some, hs, hread, readInt64?_toString]
  by_cases hsmall : n < 0x8000000000000000
  · rw [if_pos ⟨hleast, hsmall⟩, if_pos hsmall]
    rfl
  · rw [if_neg fun hc => hsmall hc.2, if_neg hsmall, Option.map_none, Option.getD_none, Value.datum,
      hs, Uuid.read?_of_length_lt (length_toString_lt hleast hbeyond)]

theorem bind_number (fits : -0x8000000000000000 ≤ n ∧ n < 0x10000000000000000) :
    e.bind column (.number (.integer n fits)) =
      if n < 0x8000000000000000 then .int64 (.ofInt n) else .uint64 (.ofNat n.toNat) := rfl

end Entity

/-! ## Main statement -/

/-- What a predicate compares a column with. -/
def Predicate.datum? (e : Entity) (q : Predicate) : Option Datum :=
  (q.atom? e).bind fun a => a.values.head?

/-- An integer that its column holds, as text with blanks around it and as a number, binds as one
and the same number if it is no larger than the largest signed one, and only then. A larger one,
whose column is of the widest unsigned type, binds as an unsigned number or else as its text. -/
theorem integer_binds_alike_iff (e : Entity) {column : String} {type : ColumnType}
    (htype : e.columnType? column = some type) {n : Int} (hn : type.Holds n)
    (before after : String) (hbefore : allBlank before = true) (hafter : allBlank after = true)
    (asks : Value → Predicate)
    (hasks : asks = .equals column ∨ ∃ operator, asks = .compare column operator) :
    let text := before ++ toString n ++ after
    let asText := (asks (.text text)).datum? e
    let asNumber := (asks (.number (.integer n hn.fits))).datum? e
    (asText = asNumber ↔ n < 0x8000000000000000) ∧
    (n < 0x8000000000000000 → ∃ m : Int64, m.toInt = n ∧ asText = some (.int64 m) ∧
      asNumber = some (.int64 m)) ∧
    (0x8000000000000000 ≤ n → type = .bigUnsigned ∧ asText = some (.text (some text)) ∧
      ∃ m : UInt64, m.toNat = n ∧ asNumber = some (.uint64 m)) := by
  intro text asText asNumber
  obtain ⟨hleast, hbeyond⟩ := hn.fits
  have hasks : ∀ v, (asks v).datum? e = some (e.bind column v) := by
    rcases hasks with rfl | ⟨operator, rfl⟩ <;> exact fun v => rfl
  have htext : asText = some (e.bind column (.text text)) := hasks _
  have hnumber : asNumber = some (e.bind column (.number (.integer n hn.fits))) := hasks _
  rw [e.bind_text_of_trim htype hn (trim_padded_toString n hbefore hafter)] at htext
  rw [e.bind_number] at hnumber
  by_cases hsmall : n < 0x8000000000000000
  · rw [if_pos hsmall] at htext hnumber
    refine ⟨iff_of_true (htext.trans hnumber.symm) hsmall, fun _ => ⟨.ofInt n, ?_, htext, hnumber⟩,
      fun hlarge => absurd hsmall (by omega)⟩
    exact Int64.toInt_ofInt_of_le hleast hsmall
  · rw [if_neg hsmall] at htext hnumber
    refine ⟨iff_of_false (fun heq => ?_) hsmall, fun h => absurd h hsmall, fun hlarge =>
      ⟨hn.eq_bigUnsigned hlarge, htext, .ofNat n.toNat, ?_, hnumber⟩⟩
    · rw [htext, hnumber] at heq
      cases heq
    · have hsize : n.toNat < UInt64.size := by
        show n.toNat < 0x10000000000000000
        omega
      rw [UInt64.toNat_ofNat_of_lt' hsize]
      omega

namespace Sample

/-- The least integer of a column, with blanks around it. -/
theorem least_integer_of_gadget_binds_alike :
    ColumnType.Holds .bigInteger (-0x8000000000000000) ∧
      ((Predicate.compare "id" .atLeast (.text "\u3000-9223372036854775808 ")).datum? gadgets =
        some (.int64 (-9223372036854775808))) ∧
      (Predicate.compare "id" .atLeast
        (.number (.integer (-0x8000000000000000) (by decide)))).datum? gadgets =
        some (.int64 (-9223372036854775808)) := by
  have hn : ColumnType.Holds .bigInteger (-0x8000000000000000) := ⟨_, rfl, by decide, by decide⟩
  have htype : gadgets.columnType? "id" = some .bigInteger := by rfl
  obtain ⟨-, hsmall, -⟩ := integer_binds_alike_iff gadgets htype hn "\u3000" " "
    (by decide) (by decide) (.compare "id" .atLeast) (.inr ⟨.atLeast, rfl⟩)
  obtain ⟨m, hm, htext, hnumber⟩ := hsmall (by decide)
  obtain rfl : m = -9223372036854775808 := Int64.toInt_inj.1 hm
  exact ⟨hn, htext, hnumber⟩

/-- The largest integer of the widest unsigned column binds as a text where it comes as one. -/
theorem largest_unsigned_binds_as_text :
    let asText := (Predicate.equals "ubig" (.text "18446744073709551615")).datum? gadgets
    let asNumber :=
      (Predicate.equals "ubig" (.number (.integer 0xffffffffffffffff (by decide)))).datum? gadgets
    gadgets.columnType? "ubig" = some .bigUnsigned ∧
      ColumnType.Holds .bigUnsigned 0xffffffffffffffff ∧
      asText = some (.text (some "18446744073709551615")) ∧
      asNumber = some (.uint64 0xffffffffffffffff) ∧ asText ≠ asNumber := by
  intro asText asNumber
  have htext : asText = some (.text (some "18446744073709551615")) := by rfl
  have hnumber : asNumber = some (.uint64 0xffffffffffffffff) := by rfl
  refine ⟨by rfl, ⟨_, rfl, by decide, by decide⟩, htext, hnumber, fun h => ?_⟩
  rw [htext, hnumber] at h
  cases h

end Sample
end ListQuery
