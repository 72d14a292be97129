import TransferGate.Controller
import TransferGate.Fanout
import TransferGate.Wiring

/-! # The gate

A gate lets many callers share one controller. Callers put requests into a line;
one server takes them out in that order, works on one at a time, and replies. The
line has limited room. Callers who find it full wait at the door, in the order
in which they came.

The server also reads the bus, on one seat for application readiness and, while
the controller observes, on another one for the observed signals. If there are
subscribers, a relay reads the bus on a third seat and hands them every event.

The gate is stopped by a cancellation, its own or that of the parent it may be
attached to, or by the last handle going away. What a caller or a task does is
an activity on the `Gate`; any order of such activities is a run of the gate.
-/

namespace TransferGate

inductive ServerPhase where
  | starting
  | serving
  | stopped
deriving DecidableEq, Repr

inductive RelayPhase where
  | absent
  | listening
  /-- No more events are passed on; the workers finish what they have. -/
  | closing
  | ended
deriving DecidableEq, Repr

structure Ticketed where
  ticket : Nat
  request : Request
deriving DecidableEq, Repr

structure Gate where
  bus : Bus Seat
  controller : Controller
  server : ServerPhase
  room : Nat
  line : List Ticketed
  /-- The requests that wait for room in the line, oldest first. -/
  door : List Ticketed
  nextTicket : Nat
  /-- How many handles there are, not counting those of callers at the door. -/
  handles : Nat
  cancelled : Bool
  attached : Bool
  parentCancelled : Bool
  fanout : Fanout
  relay : RelayPhase

namespace Gate

/-- No request will be worked on any more, and callers are told so at once. -/
def isClosed (gate : Gate) : Bool := gate.server == .stopped

def onController (activity : Activity Controller Value) : Activity Gate Value := fun gate =>
  let outcome := activity.run gate.controller
  ⟨outcome.value,
    { gate with controller := outcome.state, bus := gate.bus.absorbAll outcome.effects },
    outcome.effects⟩

def onFanout (activity : Activity Fanout Value) : Activity Gate Value := fun gate =>
  let outcome := activity.run gate.fanout
  ⟨outcome.value,
    { gate with fanout := outcome.state, bus := gate.bus.absorbAll outcome.effects },
    outcome.effects⟩

@[simp] theorem run_onController (activity : Activity Controller Value) (gate : Gate) :
    (onController activity).run gate =
      ⟨(activity.run gate.controller).value,
        { gate with
          controller := (activity.run gate.controller).state
          bus := gate.bus.absorbAll (activity.run gate.controller).effects },
        (activity.run gate.controller).effects⟩ := rfl

@[simp] theorem run_onFanout (activity : Activity Fanout Value) (gate : Gate) :
    (onFanout activity).run gate =
      ⟨(activity.run gate.fanout).value,
        { gate with
          fanout := (activity.run gate.fanout).state
          bus := gate.bus.absorbAll (activity.run gate.fanout).effects },
        (activity.run gate.fanout).effects⟩ := rfl

def onHost (activity : Activity Host Value) : Activity Gate Value :=
  onController (Controller.onHost activity)

def changeBus (change : Bus Seat → Bus Seat) : Activity Gate Unit :=
  Activity.modify fun gate => { gate with bus := change gate.bus }

def refuse : List Ticketed → Activity Gate Unit
  | [] => return ()
  | waiting :: rest => do
      Activity.emit (.answered waiting.ticket .closed)
      refuse rest

/-- Nobody works on requests any more; those in line and at the door are refused. -/
def close : Activity Gate Unit := do
  let gate ← Activity.get
  refuse (gate.line ++ gate.door)
  Activity.modify fun gate => { gate with server := .stopped, line := [], door := [] }
  changeBus (·.leave .lifecycle)

/-- Builds a gate with one handle. Nothing runs yet, but the relay and the server sit on
the bus, so they miss nothing. -/
def build (settings : Settings) (host : Host) (subscribers : List Subscriber)
    (attached : Bool) : Except CapacityError (Outcome Gate Unit) := do
  let bus ← Bus.create settings.effectiveBusCapacity
  let fanout ← Fanout.create subscribers
  CapacityError.checkQueue settings.effectiveRequestCapacity
  let relayed := if subscribers.isEmpty then bus else bus.subscribe .relay
  let created := Controller.create.run host
  let gate : Gate :=
    { bus := relayed.subscribe .lifecycle
      controller := created.value
      server := .starting
      room := settings.effectiveRequestCapacity
      line := []
      door := []
      nextTicket := 0
      handles := 1
      cancelled := false
      attached := attached
      parentCancelled := false
      fanout := fanout
      relay := if subscribers.isEmpty then .absent else .listening }
  return ⟨(), gate, created.effects⟩

end Gate

end TransferGate
