import TransferGate.Queue

/-! # Signals, notices and events

The host tells the gate about changes by *signals*. A signal carries no value:
the gate reads the source again when one arrives, so any number of equal signals
amounts to one fresh reading.

A `Notice` is what is said; an `Event` is a notice with its place in the
sequence of everything that was said.
-/

namespace TransferGate

inductive Signal where
  | appReady
  | registrationChanged
  | cellularPreferenceChanged
  | reachabilityChanged
  | batteryLevelChanged
  | lowPowerModeChanged
  /-- The application is about to enter the foreground. No system event exists for
  changes of free space, so this is when it is read again. -/
  | willEnterForeground
  | downloadSuspensionChanged
deriving DecidableEq, Repr

def Signal.all : List Signal :=
  [.appReady, .registrationChanged, .cellularPreferenceChanged, .reachabilityChanged,
    .batteryLevelChanged, .lowPowerModeChanged, .willEnterForeground, .downloadSuspensionChanged]

theorem Signal.mem_all (signal : Signal) : signal ∈ Signal.all := by
  cases signal <;> simp [Signal.all]

/-- The signals that count only while the gate observes its host. -/
def Signal.isObserved (signal : Signal) : Bool := signal != .appReady

inductive EventKind where
  | signal (signal : Signal)
  | queueStatusChanged
  | observationStarted
  | observationStopped
  | subscriberPanicked
  | subscriberOverflow
deriving DecidableEq, Repr

namespace EventKind

def all : List EventKind :=
  Signal.all.map .signal ++
    [.queueStatusChanged, .observationStarted, .observationStopped, .subscriberPanicked,
      .subscriberOverflow]

theorem mem_all (kind : EventKind) : kind ∈ all := by
  cases kind <;> simp [all, Signal.mem_all]

def isSignal : EventKind → Bool
  | .signal _ => true
  | _ => false

def observedSignal? : EventKind → Option Signal
  | .signal received => if received.isObserved then some received else none
  | _ => none

/-- The two kinds by which the relaying of events reports on itself. -/
def isReport : EventKind → Bool
  | .subscriberPanicked => true
  | .subscriberOverflow => true
  | _ => false

def name : EventKind → String
  | .signal .appReady => "AppReady"
  | .signal .registrationChanged => "RegistrationChanged"
  | .signal .cellularPreferenceChanged => "CellularPreferenceChanged"
  | .signal .reachabilityChanged => "ReachabilityChanged"
  | .signal .batteryLevelChanged => "BatteryLevelChanged"
  | .signal .lowPowerModeChanged => "LowPowerModeChanged"
  | .signal .willEnterForeground => "WillEnterForeground"
  | .signal .downloadSuspensionChanged => "DownloadSuspensionChanged"
  | .queueStatusChanged => "QueueStatusChanged"
  | .observationStarted => "ObservationStarted"
  | .observationStopped => "ObservationStopped"
  | .subscriberPanicked => "SubscriberPanicked"
  | .subscriberOverflow => "SubscriberOverflow"

def ofName? (name : String) : Option EventKind :=
  all.find? fun kind => kind.name == name

end EventKind

structure Notice where
  kind : EventKind
  queue : Option Queue := none
  status : Option Status := none
  reason : Option String := none
  source : Option String := none
deriving DecidableEq, Repr

namespace Notice

def signal (signal : Signal) : Notice := { kind := .signal signal }

def observationStarted : Notice := { kind := .observationStarted }

def observationStopped : Notice := { kind := .observationStopped }

def statusChanged (queue : Queue) (status : Status) : Notice :=
  { kind := .queueStatusChanged, queue := some queue, status := some status }

def overflow (subscriber reason : String) : Notice :=
  { kind := .subscriberOverflow, source := some subscriber, reason := some reason }

def panicked (subscriber reason : String) : Notice :=
  { kind := .subscriberPanicked, source := some subscriber, reason := some reason }

def isStatusChangeFor (notice : Notice) (queue : Queue) : Bool :=
  notice.kind == .queueStatusChanged && notice.queue == some queue

end Notice

structure Event extends Notice where
  seq : Nat
deriving DecidableEq, Repr

def Event.number (first : Nat) : List Notice → List Event
  | [] => []
  | notice :: rest => { notice with seq := first } :: Event.number (first + 1) rest

end TransferGate
