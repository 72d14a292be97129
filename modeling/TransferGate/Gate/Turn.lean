import TransferGate.Gate.Basic

/-! # Turns of the tasks of a gate

The callers at the door, the server, the relay and each worker take turns. What
a task would do next is a value that can be looked up in the gate; there is none
if the task waits for something from outside. A turn does that one thing and
tells whether there was one.

The server prefers, in this order: to stop when it is cancelled, the oldest
request, an event on the lifecycle seat, an event on the observation seat. The
relay has no preference between stopping and passing on an event; which it does
when both are possible is an argument of its turn.
-/

namespace TransferGate

namespace Gate

/-! ## The door -/

def doorTurn : Activity Gate Bool := do
  let gate ← Activity.get
  match gate.door with
  | [] => return false
  | first :: rest =>
      if gate.line.length < gate.room then
        Activity.set { gate with line := gate.line ++ [first], door := rest }
        return true
      else return false

/-! ## The server -/

inductive ServerTask where
  | start
  | stop
  | serve (request : Ticketed) (rest : List Ticketed)
  | lifecycle (receipt : Receipt) (bus : Bus Seat)
  | observed (receipt : Receipt) (bus : Bus Seat)

def signalTask? (gate : Gate) : Option ServerTask :=
  match gate.bus.receive .lifecycle with
  | some (receipt, bus) => some (.lifecycle receipt bus)
  | none => (gate.bus.receive .observation).map fun received =>
      .observed received.1 received.2

def serverTask? (gate : Gate) : Option ServerTask :=
  match gate.server with
  | .stopped => none
  | .starting => some .start
  | .serving =>
      if gate.cancelled then some .stop
      else
        match gate.line with
        | request :: rest => some (.serve request rest)
        | [] =>
            if gate.handles = 0 ∧ gate.door = [] then some .stop
            else gate.signalTask?

/-- Only application readiness matters on the lifecycle seat; after a lag it may have been
among the missed events. -/
def handleLifecycle : Receipt → Activity Gate Unit
  | .event event =>
      match event.kind with
      | .signal .appReady => onController Controller.readinessChanged
      | _ => return ()
  | .lagged missed => do
      Activity.log (.lifecycleLagged missed)
      onController Controller.readinessChanged

def handleObserved : Receipt → Activity Gate Unit
  | .event event =>
      match event.kind.observedSignal? with
      | none => return ()
      | some signal => onController (Controller.reread signal)
  | .lagged missed => onController (Controller.recover missed)

/-- The server gives up observing, cancels the gate so that the relay stops too, and
leaves. -/
def stopServer : Activity Gate Unit := do
  onController Controller.shutDown
  Activity.modify fun gate => { gate with cancelled := true }
  Activity.log .serverStopped
  close

def doServerTask : ServerTask → Activity Gate Unit
  | .start => do
      onController Controller.readinessChanged
      Activity.modify fun gate => { gate with server := .serving }
  | .stop => stopServer
  | .serve request rest => do
      Activity.modify fun gate => { gate with line := rest }
      let reply ← onController (Controller.serve request.request)
      Activity.emit (.answered request.ticket reply)
  | .lifecycle receipt bus => do
      changeBus fun _ => bus
      handleLifecycle receipt
  | .observed receipt bus => do
      changeBus fun _ => bus
      handleObserved receipt

def serverTurn : Activity Gate Bool := do
  match (← Activity.get).serverTask? with
  | none => return false
  | some task =>
      doServerTask task
      return true

/-! ## The relay -/

inductive RelayTask where
  | close
  | pass (receipt : Receipt) (bus : Bus Seat)
  | leave

def listenTask? (gate : Gate) (stopFirst : Bool) : Option RelayTask :=
  match gate.cancelled && stopFirst, gate.bus.receive .relay with
  | true, _ => some .close
  | false, some (receipt, bus) => some (.pass receipt bus)
  | false, none => if gate.cancelled then some .close else none

/-- When the relay could both stop and pass on an event, it stops exactly if
`stopFirst`. -/
def relayTask? (gate : Gate) (stopFirst : Bool) : Option RelayTask :=
  match gate.relay with
  | .absent => none
  | .ended => none
  | .closing => if gate.fanout.isDrained then some .leave else none
  | .listening => gate.listenTask? stopFirst

def handleRelayed : Receipt → Activity Gate Unit
  | .event event => do
      Activity.emit (.relayed event)
      onFanout (Fanout.emit event)
  | .lagged missed => Activity.log (.relayLagged missed)

def doRelayTask : RelayTask → Activity Gate Unit
  | .close => Activity.modify fun gate =>
      { gate with relay := .closing, fanout := gate.fanout.close }
  | .pass receipt bus => do
      changeBus fun _ => bus
      handleRelayed receipt
  | .leave => Activity.modify fun gate =>
      { gate with relay := .ended, bus := gate.bus.leave .relay }

def relayTurn (stopFirst : Bool) : Activity Gate Bool := do
  match (← Activity.get).relayTask? stopFirst with
  | none => return false
  | some task =>
      doRelayTask task
      return true

/-! ## All tasks -/

/-- A choice of the task that takes the next turn. -/
inductive Turn where
  | door
  | server
  | relay (stopFirst : Bool)
  | worker (index : Nat)
deriving DecidableEq, Repr

def turn : Turn → Activity Gate Bool
  | .door => doorTurn
  | .server => serverTurn
  | .relay stopFirst => relayTurn stopFirst
  | .worker index => onFanout (Fanout.workerTurn index)

end Gate

end TransferGate
