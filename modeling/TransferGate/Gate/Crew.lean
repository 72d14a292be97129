import TransferGate.Gate.Turn
import TransferGate.Schedule

/-! # The tasks of a gate on a single thread

The workers, the relay and the server share one thread. The server and the relay
listen for notices on the bus, and each worker for its own queue. The callers at
the door come in at breaks, as many of them as there is room for.
-/

namespace TransferGate

namespace Gate

inductive Task where
  | server
  | relay
  | worker (index : Nat)
deriving DecidableEq, Repr

/-- The turn that the task takes. A cancelled relay passes nothing on. -/
def Task.turn : Task → Turn
  | .server => .server
  | .relay => .relay true
  | .worker index => .worker index

def Task.listens : Task → Effect → Bool
  | .server, .announced _ => true
  | .relay, .announced _ => true
  | .worker index, .queued subscriber _ => subscriber == index
  | _, _ => false

/-- Events that do not matter for observation are passed over. -/
def ServerTask.effort : ServerTask → Effort
  | .start => .free
  | .stop => .free
  | .serve _ _ => .receipt
  | .lifecycle _ _ => .receipt
  | .observed (.lagged _) _ => .receipt
  | .observed (.event event) _ => if event.kind.observedSignal?.isSome then .receipt else .skip

def RelayTask.effort : RelayTask → Effort
  | .close => .free
  | .pass _ _ => .receipt
  | .leave => .free

def effort? (gate : Gate) : Task → Option Effort
  | .server => gate.serverTask?.map ServerTask.effort
  | .relay => (gate.relayTask? true).map RelayTask.effort
  | .worker index => (gate.fanout.workerTask? index).map fun _ => .receipt

def letIn : Activity Gate Bool := fun gate =>
  (Activity.whileBusy doorTurn gate.door.length).run gate

/-- It grows with what is waiting, with how often the sources can still change, and with
the number of subscribers. -/
def patience (gate : Gate) : Nat :=
  let waiting := gate.line.length + gate.door.length + gate.bus.backlog .lifecycle +
    gate.bus.backlog .observation + gate.bus.backlog .relay
  let turns := 64 * (1 + gate.controller.host.sources.changesLeft + waiting) *
    (1 + gate.fanout.workers.length)
  turns * turns

def crew : Crew Gate Task where
  effort? := effort?
  turn task := turn task.turn
  listens := Task.listens
  letIn := letIn
  patience := patience

def tasks (gate : Gate) : List Task :=
  let workers := (List.range gate.fanout.workers.length).map .worker
  match gate.relay with
  | .absent => workers ++ [.server]
  | _ => workers ++ [.relay, .server]

def launch (gate : Gate) : Schedule Gate Task where
  state := gate
  awake := gate.tasks

end Gate

end TransferGate
