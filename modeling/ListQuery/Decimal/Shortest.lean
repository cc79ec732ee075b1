import ListQuery.Decimal.Binary64
import ListQuery.Decimal.Nearest

/-!
The shortest decimal text of a double: the fewest digits that read back to it, and of these the
nearest to it, the even one in a tie.
-/
namespace ListQuery.Decimal

/-- A positive double with its bounds, over one denominator: every number between `low / den` and
`high / den` is nearest to it, the bounds themselves when `closed`. -/
structure Interval where
  low : Nat
  value : Nat
  high : Nat
  den : Nat
  closed : Bool

/-- The numbers nearest to a positive double. The bound below is closer when the significand is a
power of two, because the doubles below it lie twice as dense. -/
def intervalOf (x : Binary64) : Interval :=
  let m := 4 * x.significand
  let up := 1 <<< (x.scale - 2).toNat
  let dense := x.significand = 0x10000000000000 ∧ -1074 < x.scale
  { low := (if dense then m - 1 else m - 2) * up
    value := m * up
    high := (m + 2) * up
    den := 1 <<< (2 - x.scale).toNat
    closed := x.significand % 2 = 0 }

/-- Whether `digits * 10 ^ exponent` is nearest to the double of the interval. -/
def Interval.holds (i : Interval) (digits : Nat) (exponent : Int) : Bool :=
  let d := digits * tenTo exponent * i.den
  let ten := tenTo (-exponent)
  if i.closed then i.low * ten ≤ d && d ≤ i.high * ten else i.low * ten < d && d < i.high * ten

/-- The place of the first digit of `num / den`: the `p` with `10 ^ p ≤ num / den < 10 ^ (p + 1)`,
for positive `num` and `den`. -/
def firstPlace (num den : Nat) : Int :=
  if den ≤ num then (digitCount (num / den) : Int) - 1
  else -(digitCount ((den + num - 1) / num - 1) : Int)

/-- The points of the grid `10 ^ exponent` just below and just above the double that read back to
it, the better one first. -/
def Interval.candidates (i : Interval) (exponent : Int) : List Nat :=
  let num := i.value * tenTo (-exponent)
  let den := i.den * tenTo exponent
  let below := num / den
  let r := num % den
  let order := if 2 * r < den ∨ (2 * r = den ∧ below % 2 = 0) then [below, below + 1]
    else [below + 1, below]
  order.filter fun d => i.holds d exponent

/-- The first grid with a point that reads back, tried from `count` digits up to seventeen. -/
def Interval.search (i : Interval) (place : Int) (count : Nat) : (fuel : Nat) → Written
  | 0 => ⟨i.value / i.den, 0⟩
  | fuel + 1 =>
    let exponent := place - count + 1
    match i.candidates exponent with
    | d :: _ => ⟨d, exponent⟩
    | [] => i.search place (count + 1) fuel

/-- The shortest decimal that reads back to a positive double. Seventeen digits always do. -/
def shortest (x : Binary64) : Written :=
  let i := intervalOf x
  i.search (firstPlace i.value i.den) 1 17

/-- How a format lays out a decimal: positional when the place of the first digit lies between the
two bounds, otherwise one digit, a fraction if there is one, and the exponent. -/
structure Layout where
  leastPlace : Int
  mostPlace : Int
  /-- Written after the exponent letter of a positive exponent. -/
  plus : List Char
  /-- Written after a whole number in positional notation. -/
  wholeTail : List Char

/-- Digits without the zeros at their end. -/
def dropTrailingZeros (cs : List Char) : List Char := (cs.reverse.dropWhile (· == '0')).reverse

/-- A positive decimal as text. -/
def Written.layOut (w : Written) (l : Layout) : List Char :=
  let all := Nat.toDigits 10 w.digits
  let place := w.exponent + all.length - 1
  let ds := dropTrailingZeros all
  if l.leastPlace ≤ place ∧ place ≤ l.mostPlace then
    if 0 ≤ place then
      let count := place.toNat + 1
      let whole := ds.take count ++ List.replicate (count - ds.length) '0'
      match ds.drop count with
      | [] => whole ++ l.wholeTail
      | fraction => whole ++ '.' :: fraction
    else '0' :: '.' :: List.replicate ((-place).toNat - 1) '0' ++ ds
  else
    let mantissa := match ds with
      | d :: r :: rs => d :: '.' :: r :: rs
      | short => short
    let sign := if 0 ≤ place then l.plus else ['-']
    mantissa ++ 'e' :: sign ++ Nat.toDigits 10 place.natAbs

/-- Finite doubles as text: the sign of zero is kept, a whole number ends in `.0`, and positional
notation runs from `0.00001` to below `1e+16`. -/
def numberLayout : Layout := ⟨-5, 15, ['+'], ['.', '0']⟩

/-- A finite double as text. -/
def text (x : Binary64) : String :=
  let digits := if x.isZero then ['0', '.', '0'] else (shortest x).layOut numberLayout
  .ofList (if x.isNegative then '-' :: digits else digits)

end ListQuery.Decimal
