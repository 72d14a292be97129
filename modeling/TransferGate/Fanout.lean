import TransferGate.Activity
import TransferGate.Settings

/-! # Handing events to subscribers

Each subscriber has a queue of its own, with a limited number of slots, and a
worker that hands it one event after the other. An event that finds the queue
full, or the worker gone, is dropped for that subscriber only. The drop is
reported on the bus, except the drop of such a report.

What a subscriber does with an event is its `Reaction`: it may refuse the event,
which ends its worker and loses what is queued; it may wait until it is given a
permit; and it may panic, which is reported and keeps it from nothing else. The
event it is busy with takes up no slot.
-/

namespace TransferGate

/-- What a panic carries. Only a text can be reported as such. -/
inductive PanicPayload where
  | text (message : String)
  | other
deriving DecidableEq, Repr

def PanicPayload.message : PanicPayload → String
  | .text message => message
  | .other => "unknown panic"

/-- What a subscriber does with an event, in this order. -/
structure Reaction where
  /-- Fails before it begins, and its worker with it. -/
  refuses : Bool := false
  line : Option LogLine := none
  waits : Bool := false
  panics : Option PanicPayload := none
deriving DecidableEq, Repr

structure Subscriber where
  name : String
  capacity : Nat := 256
  reaction : Event → Reaction

def Subscriber.logWriter : Subscriber where
  name := "LogWriter"
  reaction event := { line := some (.ofNotice event.toNotice) }

structure Worker where
  subscriber : Subscriber
  queue : List Event := []
  /-- The event for which the subscriber waits for a permit. -/
  pausedOn : Option Event := none
  permits : Nat := 0
  ended : Bool := false

namespace Worker

def slots (worker : Worker) : Nat := max worker.subscriber.capacity 1

def obstacle? (worker : Worker) : Option String :=
  if worker.ended then some "closed"
  else if worker.queue.length < worker.slots then none
  else some "full"

/-- Reports the drop of an event, unless it is such a report itself. -/
def reportDrop (event : Event) (name reason : String) : Activity Worker Unit :=
  match event.kind with
  | .subscriberOverflow => return ()
  | _ => Activity.announce (.overflow name reason)

/-- Queues the event, or drops it and reports that. The subscriber is number `index`. -/
def offer (event : Event) (index : Nat) : Activity Worker Unit := do
  let worker ← Activity.get
  match worker.obstacle? with
  | none => do
      Activity.set { worker with queue := worker.queue ++ [event] }
      Activity.emit (.queued index event)
  | some reason => reportDrop event worker.subscriber.name reason

def finish (name : String) : Option PanicPayload → Activity Worker Unit
  | none => return ()
  | some payload => do
      Activity.log (.subscriberPanicked name payload.message)
      Activity.announce (.panicked name payload.message)

def writeLine : Option LogLine → Activity Worker Unit
  | none => return ()
  | some line => Activity.log line

inductive Task where
  | resume (event : Event) (permits : Nat)
  | fail
  | start (event : Event) (rest : List Event)
  | leave
deriving DecidableEq, Repr

/-- What the worker would do next; `closed` says that no more events will come. -/
def task? (worker : Worker) (closed : Bool) : Option Task :=
  match worker.ended, worker.pausedOn, worker.queue with
  | true, _, _ => none
  | false, some event, _ =>
      match worker.permits with
      | 0 => none
      | permits + 1 => some (.resume event permits)
  | false, none, event :: rest =>
      if (worker.subscriber.reaction event).refuses then some .fail
      else some (.start event rest)
  | false, none, [] => if closed then some .leave else none

def doTask (index : Nat) (worker : Worker) : Task → Activity Worker Unit
  | .resume event permits => do
      Activity.set { worker with pausedOn := none, permits := permits }
      finish worker.subscriber.name (worker.subscriber.reaction event).panics
  | .fail => Activity.set { worker with queue := [], ended := true }
  | .start event rest => do
      let reaction := worker.subscriber.reaction event
      Activity.emit (.delivered index event)
      writeLine reaction.line
      match reaction.waits with
      | true => Activity.set { worker with queue := rest, pausedOn := some event }
      | false => do
          Activity.set { worker with queue := rest }
          finish worker.subscriber.name reaction.panics
  | .leave => Activity.set { worker with ended := true }

def turn (index : Nat) (closed : Bool) : Activity Worker Bool := do
  let worker ← Activity.get
  match worker.task? closed with
  | none => return false
  | some task =>
      doTask index worker task
      return true

def kill (worker : Worker) : Worker :=
  { worker with queue := [], pausedOn := none, ended := true }

end Worker

structure Fanout where
  workers : List Worker
  closed : Bool := false

namespace Fanout

def create (subscribers : List Subscriber) : Except CapacityError Fanout := do
  subscribers.forM fun subscriber => CapacityError.checkQueue (max subscriber.capacity 1)
  return { workers := subscribers.map fun subscriber => { subscriber := subscriber } }

def emit (event : Event) : Activity Fanout Unit :=
  (Activity.onEach (Worker.offer event)).on Fanout.workers fun workers fanout =>
    { fanout with workers := workers }

def workerTurn (index : Nat) : Activity Fanout Bool := fun fanout =>
  match fanout.workers[index]? with
  | none => ⟨false, fanout, []⟩
  | some worker =>
      let outcome := (Worker.turn index fanout.closed).run worker
      ⟨outcome.value, { fanout with workers := fanout.workers.set index outcome.state },
        outcome.effects⟩

def workerTask? (fanout : Fanout) (index : Nat) : Option Worker.Task :=
  fanout.workers[index]?.bind fun worker => worker.task? fanout.closed

def close (fanout : Fanout) : Fanout := { fanout with closed := true }

def kill (fanout : Fanout) : Fanout := { fanout with workers := fanout.workers.map Worker.kill }

def permit (fanout : Fanout) (index count : Nat) : Fanout :=
  { fanout with workers := fanout.workers.modify index fun worker =>
      { worker with permits := worker.permits + count } }

def isDrained (fanout : Fanout) : Bool := fanout.workers.all Worker.ended

end Fanout

end TransferGate
