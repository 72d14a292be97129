import TransferGate.Fanout
import TransferGate.Schedule
import TransferGate.Wiring

/-! # Workers on a single thread

The workers of a fan-out are tasks that listen for their own queue. Nothing else
runs; their reports go to the bus of the `Wired` fan-out.
-/

namespace TransferGate

namespace Wired

def listensForQueue (index : Nat) : Effect → Bool
  | .queued subscriber _ => subscriber == index
  | _ => false

/-- Every event takes at most two turns, and a worker may step aside, be woken, and leave. -/
def workersPatience (wired : Wired Fanout) : Nat :=
  wired.part.workers.foldl (fun total worker => total + 8 * (worker.queue.length + 1)) 8

def workers : Crew (Wired Fanout) Nat where
  effort? wired index := (wired.part.workerTask? index).map fun _ => .receipt
  turn index := perform (Fanout.workerTurn index)
  listens := listensForQueue
  letIn := pure false
  patience := workersPatience

def launch (wired : Wired Fanout) : Schedule (Wired Fanout) Nat where
  state := wired
  awake := List.range wired.part.workers.length

end Wired

end TransferGate
