/-! # Settings

Capacities and the space multiplier may be given as zero; they then count as
one. A capacity can also be too large to be provided at all, which is found out
when the gate is built.
-/

namespace TransferGate

structure Settings where
  busCapacity : Nat := 1024
  requestCapacity : Nat := 64
  batteryReason : String := "BackupDownloadQueue"
  /-- Free space needed, in units of the largest allowed download. -/
  spaceMultiplier : UInt64 := 5
deriving DecidableEq, Repr

namespace Settings

def effectiveBusCapacity (settings : Settings) : Nat := max settings.busCapacity 1

def effectiveRequestCapacity (settings : Settings) : Nat := max settings.requestCapacity 1

def effectiveMultiplier (settings : Settings) : UInt64 := max settings.spaceMultiplier 1

end Settings

inductive CapacityError where
  | bus
  | queue
deriving DecidableEq, Repr

namespace CapacityError

def maxBus : Nat := 0x7fffffffffffffff

def maxQueue : Nat := 0x1fffffffffffffff

def message : CapacityError → String
  | .bus => "broadcast channel capacity exceeded `usize::MAX / 2`"
  | .queue => "a semaphore may not have more than MAX_PERMITS permits (" ++ toString maxQueue ++ ")"

def checkBus (capacity : Nat) : Except CapacityError Unit :=
  if capacity ≤ maxBus then .ok () else .error .bus

def checkQueue (capacity : Nat) : Except CapacityError Unit :=
  if capacity ≤ maxQueue then .ok () else .error .queue

end CapacityError

end TransferGate
