/-! # Battery levels

A level is reported as an IEEE 754 single-precision number, nominally between
zero and one. Nothing is computed with it: it is only compared. So a level is
its bit pattern, and comparison goes through an integer key that puts the
patterns of numbers into numeric order. Patterns that are not numbers compare
with nothing, not even with themselves.
-/

namespace TransferGate

structure BatteryLevel where
  bits : UInt32
deriving DecidableEq, Repr

namespace BatteryLevel

def magnitude (level : BatteryLevel) : Nat := level.bits.toNat % 0x80000000

def isNegative (level : BatteryLevel) : Bool := decide (0x80000000 ≤ level.bits.toNat)

/-- The patterns above the one of infinity stand for no number. -/
def isNaN (level : BatteryLevel) : Bool := decide (0x7f800000 < level.magnitude)

/-- The place of a number among all numbers. Both zeros have place zero, so they
are the same number. -/
def place (level : BatteryLevel) : Int :=
  if level.isNegative then -(level.magnitude : Int) else (level.magnitude : Int)

/-- Numeric order. It holds of no pair with a pattern that is not a number. -/
def below (left right : BatteryLevel) : Bool :=
  !left.isNaN && !right.isNaN && decide (left.place < right.place)

def same (left right : BatteryLevel) : Bool :=
  !left.isNaN && !right.isNaN && decide (left.place = right.place)

/-- The single-precision number nearest to one tenth; transfers stop below it. -/
def lowThreshold : BatteryLevel := ⟨0x3dcccccd⟩

def isLow (level : BatteryLevel) : Bool := level.below lowThreshold

theorem same_self (level : BatteryLevel) : level.same level = !level.isNaN := by
  simp [same]

theorem below_trans {left middle right : BatteryLevel}
    (leftBelow : left.below middle = true) (middleBelow : middle.below right = true) :
    left.below right = true := by
  simp only [below, Bool.and_eq_true, decide_eq_true_eq] at *
  exact ⟨⟨leftBelow.1.1, middleBelow.1.2⟩, Int.lt_trans leftBelow.2 middleBelow.2⟩

example : (⟨0x3dcccccc⟩ : BatteryLevel).isLow = true := by decide
example : lowThreshold.isLow = false := by decide
example : (⟨0xff800000⟩ : BatteryLevel).isLow = true := by decide
example : (⟨0x7fc00000⟩ : BatteryLevel).isLow = false := by decide
example : (⟨0x80000000⟩ : BatteryLevel).same ⟨0⟩ = true := by decide

end BatteryLevel

end TransferGate
