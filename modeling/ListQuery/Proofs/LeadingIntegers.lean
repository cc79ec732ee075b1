import ListQuery.Compile
import ListQuery.Params.QueryString
import ListQuery.Proofs.Utf8
import ListQuery.Proofs.WrittenIntegers

/-!
The integer at the start of a text. Main statement: it is the one that the longest part of a sign
and digits writes, brought within `2 ^ 63 - 1` on both sides of zero. A number and its digits
therefore count as the same integer but for the least signed one, whose digits come to one more.
-/
namespace ListQuery

open Text

/-! ## The longest part that is a sign and digits -/

/-- A sign or none, and digits or none. -/
inductive SignedDigits : List Char → Prop where
  | plain {ds : List Char} (digits : ∀ c ∈ ds, c.isDigit = true) : SignedDigits ds
  | minus {ds : List Char} (digits : ∀ c ∈ ds, c.isDigit = true) : SignedDigits ('-' :: ds)
  | plus {ds : List Char} (digits : ∀ c ∈ ds, c.isDigit = true) : SignedDigits ('+' :: ds)

/-- The integer that a sign and digits write. -/
def signedValue : List Char → Int
  | '-' :: ds => -(decimalValue ds : Int)
  | '+' :: ds => decimalValue ds
  | ds => decimalValue ds

/-- A text begins with a sign and digits, and with no longer ones. -/
structure LeadingSigned (part cs : List Char) : Prop where
  begins : part <+: cs
  signed : SignedDigits part
  longest : ∀ other, other <+: cs → SignedDigits other → other.length ≤ part.length

/-- The sign at the start of a text, if one is, and the digits behind it. -/
def signedRun : List Char → List Char
  | '-' :: cs => '-' :: cs.takeWhile Char.isDigit
  | '+' :: cs => '+' :: cs.takeWhile Char.isDigit
  | cs => cs.takeWhile Char.isDigit

theorem isDigit_of_mem_takeWhile {c : Char} {cs : List Char}
    (h : c ∈ cs.takeWhile Char.isDigit) : c.isDigit = true :=
  List.all_eq_true.1 List.all_takeWhile c h

/-- No more digits stand at the start than are taken. -/
theorem length_le_takeWhile {ds cs : List Char} (hbegins : ds <+: cs)
    (hdigits : ∀ c ∈ ds, c.isDigit = true) : ds.length ≤ (cs.takeWhile Char.isDigit).length := by
  obtain ⟨rest, rfl⟩ := hbegins
  rw [List.takeWhile_append_of_pos hdigits, List.length_append]
  exact Nat.le_add_right _ _

/-- Behind a sign the digits that are taken are the longest part. -/
theorem leadingSigned_cons {sign : Char} (cs : List Char)
    (hsigned : ∀ {ds : List Char}, (∀ c ∈ ds, c.isDigit = true) → SignedDigits (sign :: ds)) :
    LeadingSigned (sign :: cs.takeWhile Char.isDigit) (sign :: cs) where
  begins := by
    rw [List.prefix_cons_inj]
    exact List.takeWhile_prefix _
  signed := hsigned fun _ => isDigit_of_mem_takeWhile
  longest := by
    have htail : ∀ {c : Char} {ds : List Char}, c :: ds <+: sign :: cs →
        (∀ d ∈ ds, d.isDigit = true) →
        (c :: ds).length ≤ (sign :: cs.takeWhile Char.isDigit).length :=
      fun hbegins hdigits => Nat.succ_le_succ
        (length_le_takeWhile (List.cons_prefix_cons.1 hbegins).2 hdigits)
    intro other hbegins hother
    cases hother with
    | minus hdigits => exact htail hbegins hdigits
    | plus hdigits => exact htail hbegins hdigits
    | plain hdigits =>
      cases other with
      | nil => exact Nat.zero_le _
      | cons c ds => exact htail hbegins fun d hd => hdigits d (List.mem_cons_of_mem _ hd)

theorem leadingSigned_signedRun (cs : List Char) : LeadingSigned (signedRun cs) cs := by
  unfold signedRun
  split
  · exact leadingSigned_cons _ .minus
  · exact leadingSigned_cons _ .plus
  · rename_i hminus hplus
    refine ⟨List.takeWhile_prefix _, .plain fun _ => isDigit_of_mem_takeWhile, ?_⟩
    intro other hbegins hother
    cases hother with
    | plain hdigits => exact length_le_takeWhile hbegins hdigits
    | minus hdigits =>
      obtain ⟨rest, hcs⟩ := hbegins
      exact absurd hcs.symm (hminus _)
    | plus hdigits =>
      obtain ⟨rest, hcs⟩ := hbegins
      exact absurd hcs.symm (hplus _)

/-- The longest part is the only one. -/
theorem LeadingSigned.eq_signedRun {part cs : List Char} (h : LeadingSigned part cs) :
    part = signedRun cs := by
  have hrun := leadingSigned_signedRun cs
  have hlength : part.length = (signedRun cs).length :=
    Nat.le_antisymm (hrun.longest _ h.begins h.signed) (h.longest _ hrun.begins hrun.signed)
  have hprefix := List.prefix_of_prefix_length_le h.begins hrun.begins (Nat.le_of_eq hlength)
  exact hprefix.eq_of_length hlength

/-! ## The value of the part -/

/-- An integer brought within `2 ^ 63 - 1` on both sides of zero. -/
def clampEvenly (n : Int) : Int := max (-0x7fffffffffffffff) (min 0x7fffffffffffffff n)

/-- An integer brought within the signed 64-bit ones. -/
def clampSigned (n : Int) : Int := max (-0x8000000000000000) (min 0x7fffffffffffffff n)

theorem clampEvenly_eq_clampSigned_iff {n : Int} :
    clampEvenly n = clampSigned n ↔ -0x8000000000000000 < n := by
  rw [clampEvenly, clampSigned]
  omega

/-- Digits alone write the number that they stand for. -/
theorem signedValue_of_digits {ds : List Char} (h : ∀ c ∈ ds, c.isDigit = true) :
    signedValue ds = decimalValue ds := by
  unfold signedValue
  split
  · exact absurd (h '-' List.mem_cons_self) (by decide)
  · exact absurd (h '+' List.mem_cons_self) (by decide)
  · rfl

theorem leadingInteger_eq (s : String) :
    leadingInteger s = .ofInt (clampEvenly (signedValue (signedRun (dropBlank s.toList)))) := by
  unfold leadingInteger
  generalize dropBlank s.toList = cs
  have hclamp : ∀ n : Nat, min 0x7fffffffffffffff (n : Int) = clampEvenly n := fun n => by
    rw [clampEvenly]
    omega
  have hneg : ∀ n : Nat, -min 0x7fffffffffffffff (n : Int) = clampEvenly (-n) := fun n => by
    rw [clampEvenly]
    omega
  simp only
  split
  · rw [Int64.neg_ofInt, hneg]
    rfl
  · rw [hclamp]
    rfl
  · rename_i hminus hplus
    have hrun : signedRun cs = cs.takeWhile Char.isDigit := by
      unfold signedRun
      split
      · exact absurd rfl (hminus _)
      · exact absurd rfl (hplus _)
      · rfl
    rw [hclamp, hrun, signedValue_of_digits fun _ => isDigit_of_mem_takeWhile]

/-! ## Numbers and their digits -/

theorem signedRun_toString (n : Int) : signedRun (toString n).toList = (toString n).toList := by
  have hsigned : SignedDigits (toString n).toList := by
    rw [toList_toString]
    split
    · exact .minus fun _ => isDigit_toDigits
    · exact .plain fun _ => isDigit_toDigits
  have hwhole : LeadingSigned (toString n).toList (toString n).toList :=
    ⟨List.prefix_rfl, hsigned, fun _ hbegins _ => hbegins.length_le⟩
  exact hwhole.eq_signedRun.symm

theorem signedValue_toString (n : Int) : signedValue (toString n).toList = n := by
  have hvalue : decimalValue (Nat.toDigits 10 n.natAbs) = n.natAbs := by
    have h := digits?_toDigits n.natAbs
    rw [digits?] at h
    split at h
    · cases h
    · exact Option.some.inj h
  rw [toList_toString]
  split
  · rw [signedValue, hvalue]
    omega
  · rw [signedValue_of_digits fun _ => isDigit_toDigits, hvalue]
    omega

/-- The digits of an integer count as the integer itself, brought within bounds. -/
theorem leadingInteger_toString (n : Int) :
    leadingInteger (toString n) = .ofInt (clampEvenly n) := by
  have hblank : dropBlank (toString n).toList = (toString n).toList := by
    cases h : (toString n).toList with
    | nil => rfl
    | cons c cs => exact dropBlank_of_head (isBlank_toString (h ▸ List.mem_cons_self))
  rw [leadingInteger_eq, hblank, signedRun_toString, signedValue_toString]

theorem toInt_ofInt_clampEvenly (n : Int) :
    (Int64.ofInt (clampEvenly n)).toInt = clampEvenly n := by
  have hbounds : -0x7fffffffffffffff ≤ clampEvenly n ∧ clampEvenly n ≤ 0x7fffffffffffffff := by
    rw [clampEvenly]
    omega
  exact Int64.toInt_ofInt_of_le (by omega) (by omega)

theorem toInteger_integer_eq_digits_iff {n : Int}
    (fits : -0x8000000000000000 ≤ n ∧ n < 0x10000000000000000) :
    (Value.number (.integer n fits)).toInteger = (Value.text (toString n)).toInteger ↔
      n ≠ -0x8000000000000000 := by
  have hnumber : (Int64.ofInt (min 0x7fffffffffffffff n)).toInt = min 0x7fffffffffffffff n :=
    Int64.toInt_ofInt_of_le (by omega) (by omega)
  simp only [Value.toInteger, leadingInteger_toString]
  rw [← Int64.toInt_inj, hnumber, toInt_ofInt_clampEvenly, clampEvenly]
  omega

/-! ## Reading byte by byte -/

/-- A text cut at a byte. There is no cut inside of a character or behind the end. -/
def splitAtByte? : Nat → List Char → Option (List Char × List Char)
  | 0, cs => some ([], cs)
  | _ + 1, [] => none
  | n + 1, c :: cs =>
    if (encodeChar c).length ≤ n + 1 then
      (splitAtByte? (n + 1 - (encodeChar c).length) cs).map fun cut => (c :: cut.1, cut.2)
    else none

/-- The opposite of an integer, if it fits 64 bits. -/
def negate? (n : Int64) : Option Int64 := if n = Int64.minValue then none else some (-n)

/-- The digits at the start of a text, cut off at the byte where they stop. -/
def magnitude? (cs : List Char) : Option Int64 :=
  let stop := (encodeUtf8 (cs.takeWhile Char.isDigit)).length
  (splitAtByte? stop cs).map fun cut =>
    (readInt64? (.ofList cut.1)).getD (if stop = 0 then 0 else 0x7fffffffffffffff)

/-- The integer at the start of a text, whose sign is known by its byte. There is none where a cut
falls inside of a character or a negation leaves 64 bits. -/
def leadingInteger? (s : String) : Option Int64 :=
  let text := dropBlank s.toList
  match (encodeUtf8 text).head? with
  | some 0x2d => ((splitAtByte? 1 text).bind fun cut => magnitude? cut.2).bind negate?
  | some 0x2b => (splitAtByte? 1 text).bind fun cut => magnitude? cut.2
  | _ => magnitude? text

theorem length_encodeChar_pos (c : Char) : 0 < (encodeChar c).length := by
  unfold encodeChar
  simp only
  repeat' split
  all_goals exact Nat.succ_pos _

/-- A text is cut where one part of it ends. -/
theorem splitAtByte?_append (part rest : List Char) :
    splitAtByte? (encodeUtf8 part).length (part ++ rest) = some (part, rest) := by
  induction part with
  | nil =>
    show splitAtByte? 0 rest = some ([], rest)
    rw [splitAtByte?]
  | cons c part ih =>
    have hpos := length_encodeChar_pos c
    have hlength : (encodeUtf8 (c :: part)).length =
        ((encodeChar c).length - 1 + (encodeUtf8 part).length) + 1 := by
      rw [encodeUtf8, List.flatMap_cons, List.length_append, ← encodeUtf8]
      omega
    have hrest : (encodeChar c).length - 1 + (encodeUtf8 part).length + 1 - (encodeChar c).length =
        (encodeUtf8 part).length := by
      omega
    rw [hlength, List.cons_append, splitAtByte?, if_pos (by omega), hrest, ih]
    rfl

/-- A byte of one character is that of the character itself. -/
theorem head?_of_encodeUtf8 {cs : List Char} {b : UInt8} (hb : b.toNat < 0x80)
    (h : (encodeUtf8 cs).head? = some b) : cs.head? = some (Char.ofNat b.toNat) := by
  obtain ⟨bytes, hbytes⟩ := List.head?_eq_some_iff.1 h
  have hself : b.toNat.toUInt8 = b := UInt8.toNat_inj.1 (toNat_toUInt8 (by omega))
  have hdecoded := decodeUtf8_encodeUtf8 cs
  rw [hbytes, decodeUtf8, ← hself, decodeAfter_single hb] at hdecoded
  rw [← hdecoded]
  rfl

theorem magnitude?_eq (cs : List Char) :
    magnitude? cs =
      some (.ofInt (min 0x7fffffffffffffff (decimalValue (cs.takeWhile Char.isDigit) : Int))) := by
  have hcut : splitAtByte? (encodeUtf8 (cs.takeWhile Char.isDigit)).length cs =
      some (cs.takeWhile Char.isDigit, cs.dropWhile Char.isDigit) := by
    have h := splitAtByte?_append (cs.takeWhile Char.isDigit) (cs.dropWhile Char.isDigit)
    rwa [List.takeWhile_append_dropWhile] at h
  have hdigits : ∀ c ∈ cs.takeWhile Char.isDigit, c.isDigit = true :=
    fun _ => isDigit_of_mem_takeWhile
  rw [magnitude?, hcut, Option.map_some]
  congr 1
  generalize cs.takeWhile Char.isDigit = ds at hdigits
  rw [readInt64?, String.toList_ofList]
  cases ds with
  | nil => rfl
  | cons d ds =>
    have hread : digits? (d :: ds) = some (decimalValue (d :: ds)) := by
      rw [digits?, List.all_eq_true.2 hdigits]
      rfl
    have hstop : (encodeUtf8 (d :: ds)).length ≠ 0 := by
      rw [encodeUtf8, List.flatMap_cons, List.length_append]
      have := length_encodeChar_pos d
      omega
    rw [integer?_of_digits hdigits hread, Option.bind_some, if_neg hstop]
    split
    · rename_i hfits
      rw [Option.getD_some]
      congr 1
      omega
    · rename_i hlarge
      rw [Option.getD_none, Int.min_eq_left (by omega)]
      rfl

/-- Behind a sign, which is one byte, the text is cut. -/
theorem splitAtByte?_sign {c : Char} (hc : (encodeChar c).length = 1) (cs : List Char) :
    splitAtByte? 1 (c :: cs) = some ([c], cs) := by
  have h := splitAtByte?_append [c] cs
  rwa [encodeUtf8, List.flatMap_singleton, hc] at h

theorem negate?_ofInt {n : Int} (hlow : 0 ≤ n) (hhigh : n ≤ 0x7fffffffffffffff) :
    negate? (.ofInt n) = some (-.ofInt n) := by
  refine if_neg fun h => ?_
  have hn : (Int64.ofInt n).toInt = n := Int64.toInt_ofInt_of_le (by omega) (by omega)
  rw [h] at hn
  have hleast : Int64.minValue.toInt = -0x8000000000000000 := rfl
  omega

/-- No step of the reading fails, and the result is the integer at the start of the text. -/
theorem leadingInteger?_eq (s : String) : leadingInteger? s = some (leadingInteger s) := by
  unfold leadingInteger? leadingInteger
  generalize dropBlank s.toList = cs
  simp only
  split
  · -- the first byte is that of a minus sign
    rename_i hbyte
    obtain ⟨rest, rfl⟩ := List.head?_eq_some_iff.1 (head?_of_encodeUtf8 (by decide) hbyte)
    have hcut : splitAtByte? 1 (Char.ofNat (UInt8.toNat 0x2d) :: rest) = some (['-'], rest) :=
      splitAtByte?_sign rfl rest
    rw [hcut, Option.bind_some, magnitude?_eq, Option.bind_some,
      negate?_ofInt (by omega) (by omega)]
    rfl
  · rename_i hbyte
    obtain ⟨rest, rfl⟩ := List.head?_eq_some_iff.1 (head?_of_encodeUtf8 (by decide) hbyte)
    have hcut : splitAtByte? 1 (Char.ofNat (UInt8.toNat 0x2b) :: rest) = some (['+'], rest) :=
      splitAtByte?_sign rfl rest
    rw [hcut, Option.bind_some, magnitude?_eq]
    rfl
  · rename_i hminus hplus
    rw [magnitude?_eq]
    split
    · exact absurd rfl hminus
    · exact absurd rfl hplus
    · rfl

/-! ## Main statement -/

/-- The integer at the start of a text is that of its longest part of a sign and digits, brought
within `2 ^ 63 - 1` on both sides of zero; reading it byte by byte fails nowhere. It is the part
brought within the signed 64-bit integers if the part writes more than the least of them and only
then, and a number counts as its digits do unless it is this least one. -/
theorem leadingInteger_of_longest_part (s : String) {n : Int}
    (fits : -0x8000000000000000 ≤ n ∧ n < 0x10000000000000000) :
    (leadingInteger? s = some (leadingInteger s) ∧
      ∃ part, LeadingSigned part (dropBlank s.toList) ∧
        (leadingInteger s).toInt = clampEvenly (signedValue part) ∧
        ((leadingInteger s).toInt = clampSigned (signedValue part) ↔
          -0x8000000000000000 < signedValue part)) ∧
    ((Value.number (.integer n fits)).toInteger =
        (Value.text (Number.integer n fits).text).toInteger ↔ n ≠ -0x8000000000000000) := by
  have hvalue := congrArg Int64.toInt (leadingInteger_eq s)
  rw [toInt_ofInt_clampEvenly] at hvalue
  refine ⟨⟨leadingInteger?_eq s, _, leadingSigned_signedRun _, hvalue, ?_⟩,
    toInteger_integer_eq_digits_iff fits⟩
  rw [hvalue]
  exact clampEvenly_eq_clampSigned_iff

/-- Zeros in front do not count, digits of another script end the part, and what fits 64 bits
without a sign only counts as the largest signed integer either way. -/
theorem leading_integer_before_other_digits :
    let s := "\u2003\t-0042\u0665 apples"
    LeadingSigned "-0042".toList (dropBlank s.toList) ∧ (leadingInteger s).toInt = -42 ∧
      leadingInteger? s = some (-42) ∧
      (Value.number (.integer 0xffffffffffffffff (by decide))).toInteger =
        (Value.text "18446744073709551615").toInteger := by
  intro s
  have hfits : -0x8000000000000000 ≤ (0xffffffffffffffff : Int) ∧
      (0xffffffffffffffff : Int) < 0x10000000000000000 := by decide
  obtain ⟨⟨hbytes, part, hpart, hvalue, -⟩, hdigits⟩ := leadingInteger_of_longest_part s hfits
  have hrun : part = "-0042".toList := hpart.eq_signedRun.trans (by decide)
  rw [hrun] at hpart hvalue
  have hvalue : (leadingInteger s).toInt = -42 := hvalue
  have hs : leadingInteger s = -42 := Int64.toInt_inj.1 hvalue
  exact ⟨hpart, hvalue, hs ▸ hbytes, hdigits.2 (by decide)⟩

/-- The least signed integer fits 64 bits, yet its digits come to one more, also where they are
matched under an integer name. -/
theorem digits_of_least_integer_come_to_one_more :
    let s := "-9223372036854775808"
    let schema := Schema.ofDescriptor ⟨"items", "id", [], []⟩ ["id", "3"]
    LeadingSigned s.toList (dropBlank s.toList) ∧ signedValue s.toList = -0x8000000000000000 ∧
      (leadingInteger s).toInt ≠ clampSigned (signedValue s.toList) ∧
      (Value.number (.integer (-0x8000000000000000) (by decide))).toInteger ≠
        (Value.text s).toInteger ∧
      Config.extended.compile schema (fun _ => false) (.ofQuery "3=-9223372036854775808") =
        .ok [.equals "3" (.number (.ofInt64 (-9223372036854775807))),
          .orderBy "created_at" .ascending] := by
  intro s schema
  have hrun : signedRun (dropBlank s.toList) = s.toList := by decide
  refine ⟨?_, by decide, by decide, by decide, by rfl⟩
  have h := leadingSigned_signedRun (dropBlank s.toList)
  rwa [hrun] at h

end ListQuery
