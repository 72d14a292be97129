import TransferGate.BatteryLevel
import TransferGate.Failure
import TransferGate.Queue

/-! # Questions to the host

The gate learns about the world only by asking its host. Each kind of question
has a kind of answer. A `Lookup` is a question that the host may fail to answer.
Beginning and ending a battery session, and closing a look at the queues, are
questions whose answer says nothing.

Queues are looked at in a transaction: `openQueues`, then any of the lookups in
a queue, then `closeQueues`. A transaction that could not be opened is not
closed.
-/

namespace TransferGate

inductive Lookup where
  | cellularAllowed
  | freeSpace
  | openQueues
  /-- How many records wait in the queue, counted up to a limit. -/
  | pendingCount (queue : Queue) (limit : Nat)
  | hasReadyWork (queue : Queue)
  | isSuspended (queue : Queue)
deriving DecidableEq, Repr

abbrev Lookup.Value : Lookup → Type
  | .cellularAllowed => Bool
  | .freeSpace => UInt64
  | .openQueues => Unit
  | .pendingCount _ _ => Nat
  | .hasReadyWork _ => Bool
  | .isSuspended _ => Bool

inductive Question where
  | isMainApp
  | isAppReady
  | isRegistered
  | isOnWifi
  | maxDownload
  | isLowPower
  | beginBattery (reason : String) (session : Nat)
  | batteryLevel (session : Nat)
  | endBattery (session : Nat)
  | lookUp (lookup : Lookup)
  | closeQueues
deriving DecidableEq, Repr

abbrev Question.Answer : Question → Type
  | .isMainApp => Bool
  | .isAppReady => Bool
  | .isRegistered => Bool
  | .isOnWifi => Bool
  | .maxDownload => UInt64
  | .isLowPower => Bool
  | .beginBattery _ _ => Unit
  | .batteryLevel _ => Option BatteryLevel
  | .endBattery _ => Unit
  | .lookUp lookup => Except ReadFailure lookup.Value
  | .closeQueues => Unit

structure Exchange where
  question : Question
  answer : question.Answer

def Exchange.failedLookup? : Exchange → Option (Lookup × ReadFailure)
  | ⟨.lookUp lookup, .error failure⟩ => some (lookup, failure)
  | _ => none

end TransferGate
