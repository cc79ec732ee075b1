/-!
Reading integers. A written integer is an optional sign and ASCII digits, with nothing around them;
one that does not fit the wanted width is not read at all.
-/
namespace ListQuery.Text

/-- The number that decimal digits stand for. -/
def decimalValue (cs : List Char) : Nat :=
  cs.foldl (fun n c => 10 * n + (c.toNat - '0'.toNat)) 0

/-- The number written by one or more digits. -/
def digits? (cs : List Char) : Option Nat :=
  if cs.isEmpty || !cs.all Char.isDigit then none else some (decimalValue cs)

/-- The decimal digits of a number are read back. -/
theorem digits?_toDigits (n : Nat) : digits? (Nat.toDigits 10 n) = some n := by
  have hne : Nat.toDigits 10 n ≠ [] := Nat.toDigits_ne_nil
  have hall : (Nat.toDigits 10 n).all Char.isDigit = true :=
    List.all_eq_true.2 fun c hc => Nat.isDigit_of_mem_toDigits (by decide) (by decide) hc
  have hvalue : decimalValue (Nat.toDigits 10 n) = n := by
    rw [decimalValue, ← Nat.ofDigitChars_eq_foldl, Nat.ofDigitChars_ten_toDigits]
  simp [digits?, hne, hall, hvalue]

/-- The number written by digits, with or without a plus sign. -/
def natural? : List Char → Option Nat
  | '+' :: cs => digits? cs
  | cs => digits? cs

/-- The number written by digits, with or without a sign. -/
def integer? : List Char → Option Int
  | '-' :: cs => (digits? cs).map fun n => -(n : Int)
  | cs => (natural? cs).map fun n => (n : Int)

/-- The unsigned 64-bit number that a text writes. -/
def readUInt64? (s : String) : Option UInt64 :=
  (natural? s.toList).bind fun n => if n < 0x10000000000000000 then some (UInt64.ofNat n) else none

/-- The signed 64-bit number that a text writes. -/
def readInt64? (s : String) : Option Int64 :=
  (integer? s.toList).bind fun n =>
    if -0x8000000000000000 ≤ n ∧ n < 0x8000000000000000 then some (Int64.ofInt n) else none

/-- The signed 32-bit number that a text writes. -/
def readInt32? (s : String) : Option Int32 :=
  (integer? s.toList).bind fun n =>
    if -0x80000000 ≤ n ∧ n < 0x80000000 then some (Int32.ofInt n) else none

end ListQuery.Text
