import ListQuery.Decimal.Shortest
import ListQuery.Decimal.Numeral

/-!
Numbers of a request: whole numbers that fit 64 bits, with or without a sign, and finite doubles
for everything else.
-/
namespace ListQuery

namespace Binary64

def isFinite (x : Binary64) : Bool := x.magnitude < infinityBits

end Binary64

/-- A number of a request. -/
inductive Number where
  | integer (n : Int) (fits : -0x8000000000000000 ≤ n ∧ n < 0x10000000000000000)
  | double (x : Binary64) (finite : x.isFinite = true)
  deriving DecidableEq

namespace Number

def ofInt64 (n : Int64) : Number :=
  .integer n.toInt ⟨by have := n.le_toInt; omega, by have := n.toInt_lt; omega⟩

def ofUInt64 (n : UInt64) : Number :=
  .integer n.toNat ⟨by omega, by have := n.toNat_lt; omega⟩

/-- A double as a number, if it is finite. -/
def ofBinary64? (x : Binary64) : Option Number :=
  if h : x.isFinite = true then some (.double x h) else none

/-- A whole number, as an integer where it fits 64 bits. -/
def ofInt? (n : Int) : Option Number :=
  if h : -0x8000000000000000 ≤ n ∧ n < 0x10000000000000000 then some (.integer n h) else none

/-- The number that a text writes: an integer if it has neither point nor exponent and fits 64
bits, otherwise a double. -/
def read? (s : String) : Option Number :=
  (Decimal.Numeral.read? s).bind fun n =>
    (n.integer?.bind ofInt?).or (ofBinary64? n.toBinary64)

def text : Number → String
  | .integer n _ => toString n
  | .double x _ => Decimal.text x

end Number
end ListQuery
