import TransferGate.Host.Reading

/-! # The controller

The controller owns the conditions and decides. Everything it does is an
activity: it asks the host, changes its conditions, and announces every change
of a queue's status that results.

Watching the host costs energy and is pointless while both queues are empty. So
the controller *observes* only while there is work: it begins when a look at the
queues finds work where none was recorded, and ends when both queues are
recorded as empty. While it observes it holds a battery session, if there is a
battery manager, and a receiver of signals sits on the bus.

All changes of the conditions go through `Controller.revise`, which compares the
statuses before and after.
-/

namespace TransferGate

/-- What the controller holds while it observes. -/
structure Observation where
  session : Option Nat
deriving DecidableEq, Repr

structure Controller where
  conditions : Conditions
  observation : Option Observation
  host : Host

namespace Controller

def onHost (activity : Activity Host Value) : Activity Controller Value :=
  activity.on Controller.host fun host controller => { controller with host := host }

@[simp] theorem run_onHost (activity : Activity Host Value) (controller : Controller) :
    (onHost activity).run controller =
      ⟨(activity.run controller.host).value,
        { controller with host := (activity.run controller.host).state },
        (activity.run controller.host).effects⟩ := rfl

def status (controller : Controller) (queue : Queue) : Status :=
  controller.conditions.status queue

def isObserving (controller : Controller) : Bool := controller.observation.isSome

def session? (controller : Controller) : Option Nat :=
  controller.observation.bind Observation.session

def create : Activity Host Controller := do
  let primary ← Host.isMainApp
  return { conditions := .unread primary, observation := none, host := ← Activity.get }

/-! ## Changing the conditions -/

def changeEffects (change : Conditions.StatusChange) : List Effect :=
  [.logged (.statusChange change), .announced (.statusChanged change.queue change.becomes)]

/-- Changes the conditions, announces every status that differs afterwards, and yields
the queues concerned. -/
def revise (change : Conditions → Conditions) : Activity Controller (List Queue) :=
  fun controller =>
    let after := change controller.conditions
    let changes := controller.conditions.changes after
    ⟨changes.map Conditions.StatusChange.queue, { controller with conditions := after },
      .revised after :: changes.flatMap changeEffects⟩

@[simp] theorem run_revise (change : Conditions → Conditions) (controller : Controller) :
    (revise change).run controller =
      ⟨(controller.conditions.changes (change controller.conditions)).map
          Conditions.StatusChange.queue,
        { controller with conditions := change controller.conditions },
        .revised (change controller.conditions) ::
          (controller.conditions.changes (change controller.conditions)).flatMap changeEffects⟩ :=
  rfl

def update (reading : Option Nat → Activity Host (Conditions → Conditions)) :
    Activity Controller Unit := do
  let change ← onHost (reading (← Activity.get).session?)
  let _ ← revise change

def reread (signal : Signal) : Activity Controller Unit :=
  update fun session => Host.readFor session signal

def refresh : Activity Controller Unit := update Host.readAll

def readinessChanged : Activity Controller Unit := reread .appReady

def freeSpaceChanged : Activity Controller Unit := reread .willEnterForeground

def recordOutOfSpace (ranOut : Bool) : Activity Controller Unit := do
  let _ ← revise fun conditions => { conditions with ranOutOfSpace := ranOut }

/-! ## Observation -/

/-- Takes a seat on the bus, opens a battery session, and says so. -/
def openObservation : Activity Controller Unit := do
  Activity.emit .attached
  let session ← onHost Host.beginBattery
  Activity.modify fun controller => { controller with observation := some ⟨session⟩ }
  Activity.log .observationStarted
  Activity.announce .observationStarted

def ensureObserving : Activity Controller Unit := do
  match (← Activity.get).observation with
  | some _ => return ()
  | none => openObservation

def startObserving : Activity Controller Unit := do
  ensureObserving
  refresh

def release (observation : Observation) : Activity Controller Unit := do
  Activity.modify fun controller => { controller with observation := none }
  onHost (Host.endBattery observation.session)
  Activity.emit .detached

def stopObserving : Activity Controller Unit := do
  match (← Activity.get).observation with
  | none => return ()
  | some observation =>
      release observation
      Activity.log .observationStopped
      Activity.announce .observationStopped

/-- Starts observing when there is work where none was recorded, and stops when there is
none where some was. -/
def followWork (isEmpty : Bool) : Activity Controller Unit := do
  match isEmpty, (← Activity.get).conditions.allEmpty with
  | true, false => stopObserving
  | false, true => startObserving
  | _, _ => return ()

def lookAtQueues : Activity Controller QueueProbe := do
  let probe ← onHost Host.probeQueues
  let _ ← revise fun conditions =>
    { conditions with downloadsSuspended := probe.downloadsSuspended }
  return probe

/-- Looks at the queues and observes as they require. What was found is recorded in two
steps: the suspension before observing starts or stops, the emptiness after that. -/
def observeIfNeeded : Activity Controller Unit := do
  let probe ← lookAtQueues
  followWork probe.allEmpty
  let _ ← revise fun conditions =>
    { conditions with empty := ⟨some probe.empty.upload, some probe.empty.download⟩ }

/-! ## Operations -/

def currentStatus (queue : Queue) : Activity Controller Status :=
  (fun controller => controller.status queue) <$> Activity.get

/-- Measures the queues, observes if there is work, and yields the status. -/
def begin (queue : Queue) : Activity Controller Status := do
  observeIfNeeded
  currentStatus queue

def stopIfAllEmpty : Activity Controller Unit := do
  match (← Activity.get).conditions.allEmpty with
  | true => stopObserving
  | false => return ()

def emptied (queue : Queue) : Activity Controller Unit := do
  let _ ← revise fun conditions => conditions.setEmpty queue true
  stopIfAllEmpty

/-- Reads free space again, then forgets that space ran out. If space is still below the
requirement, downloads stay held back for that reason. -/
def retry : Activity Controller Unit := do
  freeSpaceChanged
  recordOutOfSpace false

def outOfSpace : Activity Controller Status := do
  recordOutOfSpace true
  currentStatus .download

/-- A job of `queue` failed. Only downloads that ran out of space matter. -/
def jobFailed : Queue → Failure → Activity Controller (Option Status)
  | .upload, _ => return none
  | .download, failure =>
      match failure.isOutOfSpace with
      | true => some <$> outOfSpace
      | false => return none

def refreshSpace : Activity Controller Status := do
  freeSpaceChanged
  currentStatus .download

def rereadIfObserving (signal : Signal) : Activity Controller Unit := do
  match (← Activity.get).isObserving with
  | true => reread signal
  | false => return ()

/-- Honours an event: application readiness at any time, the observed signals only while
observing, and nothing else. -/
def receive : EventKind → Activity Controller Unit
  | .signal .appReady => readinessChanged
  | .signal signal => rereadIfObserving signal
  | _ => return ()

def refreshIfObserving : Activity Controller Unit := do
  match (← Activity.get).isObserving with
  | true => refresh
  | false => return ()

/-- Some observed signals were missed, so everything is read again. -/
def recover (missed : Nat) : Activity Controller Unit := do
  Activity.log (.observationLagged missed)
  refreshIfObserving

def shutDown : Activity Controller Unit := do
  Activity.log .shuttingDown
  stopObserving

def discard : Activity Controller Unit := do
  match (← Activity.get).observation with
  | none => return ()
  | some observation => release observation

def serve : Request → Activity Controller Reply
  | .status queue => .status <$> currentStatus queue
  | .begin queue => .status <$> begin queue
  | .retry => do
      retry
      return .done
  | .emptied queue => do
      emptied queue
      return .done
  | .refreshSpace => .status <$> refreshSpace
  | .outOfSpace => .status <$> outOfSpace
  | .conditions => (fun controller => .conditions controller.conditions) <$> Activity.get
  | .isObserving => (fun controller => .observing controller.isObserving) <$> Activity.get

end Controller

end TransferGate
