import ListQuery.Decimal.Binary64
import ListQuery.Text.Integer

/-!
Reading decimal numbers as doubles. Of the doubles the one nearest to the written number is taken,
whatever the number of digits and the size of the exponent.
-/
namespace ListQuery.Decimal

open Text

/-- A written decimal number: `digits * 10 ^ exponent`. -/
structure Written where
  digits : Nat
  exponent : Int

/-- How many digits a number has; zero has none. -/
def digitCount (n : Nat) : Nat := if n = 0 then 0 else (Nat.toDigits 10 n).length

/-- A power of ten; those with a negative exponent count as one. -/
def tenTo (e : Int) : Nat := Nat.pow 10 e.toNat

/-- The double nearest to a written number. Exponents that leave the range of doubles on either
side are decided by the place of the first digit alone. -/
def Written.nearest (w : Written) (negative : Bool) : Binary64 :=
  let place := w.exponent + digitCount w.digits
  if w.digits = 0 ∨ place < -330 then .zero negative
  else if 310 < place then .infinity negative
  else .ofRatio negative (w.digits * tenTo w.exponent) (tenTo (-w.exponent))

/-- The exponent written after the letter `e`. -/
def exponent? : List Char → Option Int
  | [] => some 0
  | e :: cs => if e = 'e' ∨ e = 'E' then integer? cs else none

/-- A decimal number without a sign: digits with at most one point among or beside them, then an
exponent if there is one. -/
def written? (cs : List Char) : Option Written :=
  let whole := cs.takeWhile Char.isDigit
  let rest := cs.dropWhile Char.isDigit
  let (fraction, tail) := match rest with
    | '.' :: r => (r.takeWhile Char.isDigit, r.dropWhile Char.isDigit)
    | r => ([], r)
  if whole.isEmpty && fraction.isEmpty then none
  else (exponent? tail).map fun e => ⟨decimalValue (whole ++ fraction), e - fraction.length⟩

/-- A double without a sign: a decimal number, or one of the names of infinity and of no number,
in any case. -/
def unsigned? (negative : Bool) (cs : List Char) : Option Binary64 :=
  let name := cs.map Char.toLower
  if name = "inf".toList ∨ name = "infinity".toList then some (.infinity negative)
  else if name = "nan".toList then some .nan
  else (written? cs).map (·.nearest negative)

/-- The double that a text writes, with or without a sign. -/
def readBinary64? (s : String) : Option Binary64 :=
  match s.toList with
  | '-' :: cs => unsigned? true cs
  | '+' :: cs => unsigned? false cs
  | cs => unsigned? false cs

end ListQuery.Decimal
