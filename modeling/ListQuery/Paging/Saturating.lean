/-!
Saturating arithmetic on unsigned 64-bit counts: a result that does not fit is the nearest one that
does.
-/
namespace ListQuery.Saturating

/-- The count nearest to a number. -/
def ofNat (n : Nat) : UInt64 := UInt64.ofNat (min n 0xffffffffffffffff)

def add (a b : UInt64) : UInt64 := ofNat (a.toNat + b.toNat)

def sub (a b : UInt64) : UInt64 := ofNat (a.toNat - b.toNat)

def mul (a b : UInt64) : UInt64 := ofNat (a.toNat * b.toNat)

@[simp] theorem toNat_ofNat (n : Nat) : (ofNat n).toNat = min n 0xffffffffffffffff := by
  rw [ofNat, UInt64.toNat_ofNat']
  exact Nat.mod_eq_of_lt (by omega)

@[simp] theorem toNat_add (a b : UInt64) :
    (add a b).toNat = min (a.toNat + b.toNat) 0xffffffffffffffff := toNat_ofNat _

@[simp] theorem toNat_sub (a b : UInt64) : (sub a b).toNat = a.toNat - b.toNat := by
  have := a.toNat_lt
  rw [sub, toNat_ofNat]
  omega

@[simp] theorem toNat_mul (a b : UInt64) :
    (mul a b).toNat = min (a.toNat * b.toNat) 0xffffffffffffffff := toNat_ofNat _

end ListQuery.Saturating
