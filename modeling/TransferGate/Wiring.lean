import TransferGate.Activity
import TransferGate.Bus

/-! # Wiring activities to a bus

The effects of an activity say what it announces and when its receiver takes or
leaves its seat. `Bus.absorb` is what such an effect means for the bus, and a
`Wired` part is one whose effects reach a bus as they happen.
-/

namespace TransferGate

inductive Seat where
  | outside
  /-- The server waits for application readiness. -/
  | lifecycle
  /-- The server waits for observed signals. -/
  | observation
  | relay
deriving DecidableEq, Repr

namespace Bus

def absorb (bus : Bus Seat) : Effect → Bus Seat
  | .announced notice => bus.publish notice
  | .attached => bus.subscribe .observation
  | .detached => bus.leave .observation
  | _ => bus

def absorbAll (bus : Bus Seat) (effects : List Effect) : Bus Seat := effects.foldl absorb bus

@[simp] theorem absorbAll_nil (bus : Bus Seat) : bus.absorbAll [] = bus := rfl

theorem absorbAll_append (bus : Bus Seat) (first second : List Effect) :
    bus.absorbAll (first ++ second) = (bus.absorbAll first).absorbAll second :=
  List.foldl_append

end Bus

structure Wired (Part : Type) where
  bus : Bus Seat
  part : Part

namespace Wired

variable {Part Value : Type}

def perform (activity : Activity Part Value) : Activity (Wired Part) Value := fun wired =>
  let outcome := activity.run wired.part
  ⟨outcome.value, ⟨wired.bus.absorbAll outcome.effects, outcome.state⟩, outcome.effects⟩

def issue (notice : Notice) : Activity (Wired Part) Event := fun wired =>
  let issued := wired.bus.issue notice
  ⟨issued.1, { wired with bus := issued.2 }, []⟩

end Wired

end TransferGate
