import TransferGate.Gate.Basic

/-! # What callers do

Callers act through a handle. Most requests wait in line for the server; the
caller holds a ticket, under which the reply will come. Some need not wait:

* a check of free space asks the host itself and sends a request only when space
  is short;
* a failed job sends a request only if the failure can matter.
-/

namespace TransferGate

namespace Gate

/-- Puts the request into the line, or at the door. Room that has become free is kept for
those at the door, so a request that comes later enters the line only if there is more room
than they need. -/
def enqueue (gate : Gate) (request : Ticketed) : Gate :=
  if gate.line.length + gate.door.length < gate.room then
    { gate with line := gate.line ++ [request] }
  else { gate with door := gate.door ++ [request] }

/-- Sends a request, which is refused at once if the gate is closed. Yields the ticket
for the reply. -/
def send (request : Request) : Activity Gate Nat := do
  let gate ← Activity.get
  let ticket := gate.nextTicket
  Activity.set { gate with nextTicket := ticket + 1 }
  match gate.isClosed with
  | true => Activity.emit (.answered ticket .closed)
  | false => Activity.modify fun gate => gate.enqueue ⟨ticket, request⟩
  return ticket

def requiredBytes : Activity Gate UInt64 := onHost Host.requiredBytes

def isShort (free : Option UInt64) (required : UInt64) : Bool :=
  free.any fun free => free < required

/-- Compares free space with the requirement. There is a ticket only if space is known to
be short; then the server reads it again and replies with the status of downloads. -/
def quickCheck : Activity Gate (Option Nat) := do
  let required ← requiredBytes
  let free ← onHost Host.freeSpace
  match isShort free required with
  | true => some <$> send .refreshSpace
  | false => return none

/-- Reports the failure of a job. There is a ticket only if the failure can change a
status: an upload's never does, a download's only if space ran out. -/
def jobFailed (queue : Queue) (failure : Failure) : Activity Gate (Option Nat) :=
  match queue == .upload || !failure.isOutOfSpace with
  | true => return none
  | false => some <$> send .outOfSpace

/-- Puts a signal on the bus. Events of other kinds are not for callers to publish, and
nothing happens. -/
def publish : EventKind → Activity Gate Unit
  | .signal signal => do
      changeBus (·.publish (.signal signal))
      Activity.announce (.signal signal)
  | _ => return ()

def cancel : Activity Gate Unit :=
  Activity.modify fun gate => { gate with cancelled := true }

/-- Cancels the parent, and the gate with it if it is attached. The gate never cancels
its parent. -/
def cancelParent : Activity Gate Unit :=
  Activity.modify fun gate =>
    { gate with parentCancelled := true, cancelled := gate.cancelled || gate.attached }

def cloneHandle : Activity Gate Unit :=
  Activity.modify fun gate => { gate with handles := gate.handles + 1 }

def dropHandle : Activity Gate Unit :=
  Activity.modify fun gate => { gate with handles := gate.handles - 1 }

def changeSources (change : Sources → Sources) : Activity Gate Unit :=
  onHost (Host.replaceSources change)

def permit (subscriber count : Nat) : Activity Gate Unit :=
  Activity.modify fun gate => { gate with fanout := gate.fanout.permit subscriber count }

/-- All tasks are taken away at once. The battery session ends, but nobody announces
anything. -/
def abandon : Activity Gate Unit := do
  onController Controller.discard
  close
  Activity.modify fun gate =>
    { gate with
      fanout := gate.fanout.kill
      relay := if gate.relay = .absent then .absent else .ended
      bus := gate.bus.leave .relay }

end Gate

end TransferGate
