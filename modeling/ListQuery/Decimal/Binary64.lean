/-!
Double-precision numbers by their bits. A finite one is a whole number of halvings or doublings:
`significand * 2 ^ scale`, below zero when the sign bit is set.
-/
namespace ListQuery

/-- A double-precision number, given by its 64 bits. -/
structure Binary64 where
  bits : UInt64
  deriving DecidableEq, Repr

namespace Binary64

/-- The bits without the sign. -/
def magnitude (x : Binary64) : Nat := x.bits.toNat % 0x8000000000000000

def isNegative (x : Binary64) : Bool := 0x8000000000000000 ≤ x.bits.toNat

/-- The bits of the magnitude that stands above every finite one. -/
def infinityBits : Nat := 0x7ff0000000000000

def isNaN (x : Binary64) : Bool := infinityBits < x.magnitude

def isInfinite (x : Binary64) : Bool := x.magnitude = infinityBits

def isZero (x : Binary64) : Bool := x.magnitude = 0

/-- The whole number that a finite magnitude scales. -/
def significand (x : Binary64) : Nat :=
  if x.magnitude < 0x10000000000000 then x.magnitude
  else x.magnitude % 0x10000000000000 + 0x10000000000000

/-- The power of two that scales it. -/
def scale (x : Binary64) : Int :=
  if x.magnitude < 0x10000000000000 then -1074
  else (x.magnitude / 0x10000000000000 : Nat) - 1075

/-- The number with a sign and a magnitude. -/
def ofMagnitude (negative : Bool) (m : Nat) : Binary64 :=
  ⟨UInt64.ofNat (if negative then 0x8000000000000000 + m else m)⟩

def zero (negative : Bool) : Binary64 := ofMagnitude negative 0

def infinity (negative : Bool) : Binary64 := ofMagnitude negative infinityBits

def nan : Binary64 := ofMagnitude false (infinityBits + 0x8000000000000)

/-- The largest power of two `2 ^ k` with `2 ^ k * den ≤ num`, as `k`, for positive `num` and
`den`. -/
def binaryExponent (num den : Nat) : Int :=
  let k : Int := num.log2 - den.log2
  if num <<< (-k).toNat < den <<< k.toNat then k - 1 else k

/-- The quotient rounded to the nearest whole number, a half to the even one. -/
def roundHalfEven (num den : Nat) : Nat :=
  let q := num / den
  let r := num % den
  if 2 * r < den ∨ (2 * r = den ∧ q % 2 = 0) then q else q + 1

/-- The double nearest to `num / den`, a tie to the even significand, and infinity from the middle
between the largest finite double and the next power of two on. A carry out of the significand
steps the exponent field, because the two fields lie side by side. -/
def ofRatio (negative : Bool) (num den : Nat) : Binary64 :=
  if num = 0 then zero negative
  else
    let scale := max (binaryExponent num den - 52) (-1074)
    let m := roundHalfEven (num <<< (-scale).toNat) (den <<< scale.toNat)
    ofMagnitude negative (min infinityBits ((scale + 1074).toNat <<< 52 + m))

/-- The whole part of a finite number, toward zero. -/
def truncateFinite (x : Binary64) : Int :=
  let whole : Nat := x.significand <<< x.scale.toNat >>> (-x.scale).toNat
  if x.isNegative then -whole else whole

/-- The whole part held between the bounds of a signed 64-bit number; no number counts as zero. -/
def truncate (x : Binary64) : Int64 :=
  if x.isNaN then 0
  else if x.isInfinite then if x.isNegative then Int64.minValue else Int64.maxValue
  else .ofInt (max (-0x8000000000000000) (min 0x7fffffffffffffff x.truncateFinite))

end Binary64
end ListQuery
