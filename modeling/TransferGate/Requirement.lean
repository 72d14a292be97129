/-! # The space requirement

Downloads need free space for a number of downloads of the largest allowed size.
The size is asked for once; the requirement computed from it is kept from then
on, so later changes of the size do not matter. The product saturates at the
largest number of bytes that can be expressed.
-/

namespace TransferGate

def saturatingMul (left right : UInt64) : UInt64 :=
  UInt64.ofNat (min (left.toNat * right.toNat) (UInt64.size - 1))

theorem toNat_saturatingMul (left right : UInt64) :
    (saturatingMul left right).toNat = min (left.toNat * right.toNat) (UInt64.size - 1) := by
  rw [saturatingMul, UInt64.toNat_ofNat']
  exact Nat.mod_eq_of_lt (by simp only [UInt64.size]; omega)

structure Requirement where
  multiplier : UInt64
  known : Option UInt64 := none
deriving DecidableEq, Repr

namespace Requirement

/-- The requirement that follows from the size of the largest allowed download. -/
def bytesFor (requirement : Requirement) (maxDownload : UInt64) : UInt64 :=
  saturatingMul maxDownload requirement.multiplier

end Requirement

end TransferGate
