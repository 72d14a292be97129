import TransferGate.Activity
import TransferGate.Host.Sources
import TransferGate.Requirement
import TransferGate.Settings

/-! # Reading the host

`Host` is the gate's side of its host: what the sources will answer, and the
little that has to be remembered between readings. Every reading is an activity
on it that asks its questions in a fixed order. A lookup that fails is logged
and yields nothing; no reading fails.

`Host.readFor` reads what one signal is about, and `Host.readAll` reads
everything. Both yield the change of the conditions that follows.
-/

namespace TransferGate

structure Host where
  sources : Sources
  hasBattery : Bool
  batteryReason : String
  requirement : Requirement
  nextSession : Nat

structure QueueProbe where
  empty : PerQueue Bool
  downloadsSuspended : Option Bool
deriving DecidableEq, Repr

def QueueProbe.allEmpty (probe : QueueProbe) : Bool :=
  Queue.all.all probe.empty.get

namespace Host

def create (settings : Settings) (sources : Sources) (hasBattery : Bool) : Host where
  sources := sources
  hasBattery := hasBattery
  batteryReason := settings.batteryReason
  requirement := { multiplier := settings.effectiveMultiplier }
  nextSession := 0

def ask (question : Question) : Activity Host question.Answer := fun host =>
  let answered := host.sources.read question
  ⟨answered.1, { host with sources := answered.2 }, [.asked ⟨question, answered.1⟩]⟩

@[simp] theorem run_ask (question : Question) (host : Host) :
    (ask question).run host =
      ⟨(host.sources.read question).1, { host with sources := (host.sources.read question).2 },
        [.asked ⟨question, (host.sources.read question).1⟩]⟩ := rfl

def replaceSources (change : Sources → Sources) : Activity Host Unit := do
  let host ← Activity.get
  Activity.set { host with sources := change host.sources }
  Activity.emit (.replaced (change host.sources))

/-- Looks something up; a failure is logged and yields nothing. -/
def lookUp (lookup : Lookup) : Activity Host (Option lookup.Value) := do
  match ← ask (.lookUp lookup) with
  | .ok value => return some value
  | .error failure =>
      Activity.log (lookup.failureLine failure)
      return none

theorem run_lookUp (lookup : Lookup) (host : Host) :
    (lookUp lookup).run host =
      ⟨(host.sources.lookUp lookup).1.toOption,
        { host with sources := (host.sources.lookUp lookup).2 },
        .asked ⟨.lookUp lookup, (host.sources.lookUp lookup).1⟩ ::
          match (host.sources.lookUp lookup).1 with
          | .ok _ => []
          | .error failure => [.logged (lookup.failureLine failure)]⟩ := by
  rw [lookUp, Activity.run_bind, run_ask]
  cases found : (host.sources.lookUp lookup).1 <;> simp [Sources.read, found, Except.toOption]

def isMainApp : Activity Host Bool := ask .isMainApp

def isAppReady : Activity Host Bool := ask .isAppReady

def isRegistered : Activity Host Bool := ask .isRegistered

def isOnWifi : Activity Host Bool := ask .isOnWifi

def cellularAllowed : Activity Host (Option Bool) := lookUp .cellularAllowed

def freeSpace : Activity Host (Option UInt64) := lookUp .freeSpace

def isLowPower : Activity Host (Option Bool) := do
  if (← Activity.get).hasBattery then return some (← ask .isLowPower) else return none

def beginSession (reason : String) : Activity Host (Option Nat) := do
  let host ← Activity.get
  if host.hasBattery then
    let session := host.nextSession
    ask (.beginBattery reason session)
    Activity.modify fun host => { host with nextSession := session + 1 }
    return some session
  else return none

def beginBattery : Activity Host (Option Nat) := do
  beginSession (← Activity.get).batteryReason

def batteryLevel : Option Nat → Activity Host (Option BatteryLevel)
  | none => return none
  | some session => ask (.batteryLevel session)

def endBattery : Option Nat → Activity Host Unit
  | none => return ()
  | some session => ask (.endBattery session)

def computeRequirement : Activity Host UInt64 := do
  let maxDownload : UInt64 ← ask .maxDownload
  let bytes := (← Activity.get).requirement.bytesFor maxDownload
  Activity.modify fun host =>
    { host with requirement := { host.requirement with known := some bytes } }
  return bytes

/-- The space requirement. Only its first reading asks the host. -/
def requiredBytes : Activity Host UInt64 := do
  match (← Activity.get).requirement.known with
  | some bytes => return bytes
  | none => computeRequirement

/-- Whether downloads are suspended, read in a transaction of its own. -/
def downloadsSuspended : Activity Host (Option Bool) := do
  match ← lookUp .openQueues with
  | none => return none
  | some _ =>
      let suspended : Option Bool ← lookUp (.isSuspended .download)
      ask .closeQueues
      return suspended

/-- Looks at both queues in one transaction. A queue whose measurement failed counts as
empty, and both do if the transaction could not be opened. -/
def probeQueues : Activity Host QueueProbe := do
  match ← lookUp .openQueues with
  | none => return ⟨.both true, none⟩
  | some _ =>
      let pending : Option Nat ← lookUp (.pendingCount .upload 1)
      let ready : Option Bool ← lookUp (.hasReadyWork .download)
      let suspended : Option Bool ← lookUp (.isSuspended .download)
      ask .closeQueues
      return ⟨⟨pending.getD 0 == 0, !ready.getD false⟩, suspended⟩

def readFor (session : Option Nat) : Signal → Activity Host (Conditions → Conditions)
  | .appReady => do
      let ready ← isAppReady
      return fun conditions => { conditions with ready := ready }
  | .registrationChanged => do
      let registered ← isRegistered
      return fun conditions => { conditions with registered := some registered }
  | .cellularPreferenceChanged => do
      let allowed ← cellularAllowed
      return fun conditions => { conditions with cellularAllowed := allowed }
  | .reachabilityChanged => do
      let wifi ← isOnWifi
      return fun conditions => { conditions with wifi := some wifi }
  | .batteryLevelChanged => do
      let level ← batteryLevel session
      return fun conditions => { conditions with batteryLevel := level }
  | .lowPowerModeChanged => do
      let lowPower ← isLowPower
      return fun conditions => { conditions with lowPower := lowPower }
  | .willEnterForeground => do
      let free ← freeSpace
      return fun conditions => { conditions with freeBytes := free }
  | .downloadSuspensionChanged => do
      let suspended ← downloadsSuspended
      return fun conditions => { conditions with downloadsSuspended := suspended }

/-- Reads everything. Whether the queues are empty and whether space ran out is not read
here and stays as it is. -/
def readAll (session : Option Nat) : Activity Host (Conditions → Conditions) := do
  let primary ← isMainApp
  let ready ← isAppReady
  let registered ← isRegistered
  let suspended ← downloadsSuspended
  let cellular ← cellularAllowed
  let wifi ← isOnWifi
  let level ← batteryLevel session
  let lowPower ← isLowPower
  let free ← freeSpace
  let required ← requiredBytes
  return fun conditions =>
    { empty := conditions.empty
      primary := primary
      ready := ready
      registered := some registered
      downloadsSuspended := suspended
      cellularAllowed := cellular
      wifi := some wifi
      batteryLevel := level
      lowPower := lowPower
      freeBytes := free
      requiredBytes := some required
      ranOutOfSpace := conditions.ranOutOfSpace }

end Host

end TransferGate
