import ListQuery.Decimal.Nearest

/-!
Numerals, the numbers of data formats as they are written. One that is no 64-bit integer is read in
double precision throughout: as many digits as fit 64 bits make a significand, which is rounded to a
double and then multiplied or divided by a power of ten. The result can therefore miss the nearest
double by a little.
-/
namespace ListQuery

namespace Binary64

/-- The product of two finite numbers, rounded. -/
def mul (x y : Binary64) : Binary64 :=
  let scale := x.scale + y.scale
  ofRatio (x.isNegative != y.isNegative) ((x.significand * y.significand) <<< scale.toNat)
    (1 <<< (-scale).toNat)

/-- The quotient of two finite numbers, rounded; the divisor is not zero. -/
def div (x y : Binary64) : Binary64 :=
  let scale := x.scale - y.scale
  ofRatio (x.isNegative != y.isNegative) (x.significand <<< scale.toNat)
    (y.significand <<< (-scale).toNat)

end Binary64

namespace Decimal

open Text

/-- A number as it is written: its digits before and after the point, and its exponent if it has
one. -/
structure Numeral where
  negative : Bool
  whole : List Char
  fraction : List Char
  exponent : Option Int
  deriving DecidableEq, Repr

/-- A double times a power of ten. Beyond the powers that are doubles themselves a small number is
divided in steps, and any other but zero is too large. -/
def timesPower (x : Binary64) (e : Int) : Binary64 :=
  if e.natAbs ≤ 308 then
    if 0 ≤ e then x.mul (.ofRatio false (tenTo e) 1) else x.div (.ofRatio false (tenTo (-e)) 1)
  else if x.isZero then x
  else if 0 ≤ e then .infinity false
  else timesPower (x.div (.ofRatio false (tenTo 308) 1)) (e + 308)
termination_by (-e).toNat
decreasing_by omega

/-- Appends digits to a number up to the first that would take it beyond 64 bits; this one and all
after it are left over. -/
def gather (n : Nat) : List Char → Nat × List Char
  | [] => (n, [])
  | c :: cs =>
    let m := 10 * n + (c.toNat - '0'.toNat)
    if m < 0x10000000000000000 then gather m cs else (n, c :: cs)

namespace Numeral

/-- The numeral that a text writes: a minus sign if there is one, digits without a needless zero in
front, digits after a point, and an exponent. -/
def read? (s : String) : Option Numeral :=
  let (negative, cs) := match s.toList with
    | '-' :: cs => (true, cs)
    | cs => (false, cs)
  let whole := cs.takeWhile Char.isDigit
  let (point, rest) := match cs.dropWhile Char.isDigit with
    | '.' :: r => (true, r)
    | r => (false, r)
  let fraction := if point then rest.takeWhile Char.isDigit else []
  let tail := if point then rest.dropWhile Char.isDigit else rest
  if whole.isEmpty || (whole.head? == some '0' && whole != ['0']) || (point && fraction.isEmpty) then
    none
  else match tail with
    | [] => some ⟨negative, whole, fraction, none⟩
    | e :: ds =>
      if e = 'e' ∨ e = 'E' then (integer? ds).map fun n => ⟨negative, whole, fraction, some n⟩
      else none

/-- The whole number of a numeral with neither point nor exponent. Minus zero is none. -/
def integer? (n : Numeral) : Option Int :=
  if !n.fraction.isEmpty || n.exponent.isSome then none
  else match n.negative, decimalValue n.whole with
    | true, 0 => none
    | true, m => some (-(m : Int))
    | false, m => some m

/-- The significand and the power of ten that go into a double. Digits left over before the point
count for the power; those left over behind it are dropped. -/
def written (n : Numeral) : Written :=
  let (head, skipped) := gather 0 n.whole
  let (digits, dropped) := gather head n.fraction
  ⟨digits, n.exponent.getD 0 + skipped.length + dropped.length - n.fraction.length⟩

/-- The double of a numeral; infinity if it is too large. -/
def toBinary64 (n : Numeral) : Binary64 :=
  let w := n.written
  .ofMagnitude n.negative (timesPower (.ofRatio false w.digits 1) w.exponent).magnitude

end Numeral
end Decimal
end ListQuery
