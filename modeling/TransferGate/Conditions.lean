import TransferGate.Queue
import TransferGate.BatteryLevel

/-! # Conditions and the admission rule

`Conditions` holds the latest value of everything admission depends on. A value
that has not been read yet, or could not be read, is `none`; it is never
replaced by a default, because several rules tell "known to be false" apart from
"unknown".

The status of a queue is decided by the first of these rules that applies.

1. the queue is known to be empty: `empty`
2. another process does the transfers, startup is not complete, or the account
   is not known to be registered: `notReady`
3. downloads are known to be suspended: `suspended`
4. downloads ran out of space and nobody asked for a retry, or the known free
   space is below the known requirement: `lowDiskSpace`
5. wifi is needed and not known to be reachable: `noWifi`
6. the battery is known to be low, or low-power mode is known to be on:
   `lowBattery`
7. otherwise: `running`

Rules 3 and 4 concern downloads only. Downloads always need wifi; uploads need
it unless they are known to be allowed on cellular data.
-/

namespace TransferGate

structure Conditions where
  /-- Whether each queue was empty when it was last measured or reported. -/
  empty : PerQueue (Option Bool)
  primary : Bool
  ready : Bool
  registered : Option Bool
  downloadsSuspended : Option Bool
  cellularAllowed : Option Bool
  wifi : Option Bool
  batteryLevel : Option BatteryLevel
  lowPower : Option Bool
  freeBytes : Option UInt64
  requiredBytes : Option UInt64
  ranOutOfSpace : Bool
deriving DecidableEq, Repr

namespace Conditions

def unread (primary : Bool) : Conditions where
  empty := .both none
  primary := primary
  ready := false
  registered := none
  downloadsSuspended := none
  cellularAllowed := none
  wifi := none
  batteryLevel := none
  lowPower := none
  freeBytes := none
  requiredBytes := none
  ranOutOfSpace := false

def setEmpty (conditions : Conditions) (queue : Queue) (empty : Bool) : Conditions :=
  { conditions with empty := conditions.empty.set queue (some empty) }

def allEmpty (conditions : Conditions) : Bool :=
  Queue.all.all fun queue => (conditions.empty.get queue).getD true

def knownEmpty (conditions : Conditions) (queue : Queue) : Bool :=
  conditions.empty.get queue == some true

def unprepared (conditions : Conditions) : Bool :=
  !conditions.primary || !conditions.ready || conditions.registered != some true

def suspends (conditions : Conditions) (queue : Queue) : Bool :=
  queue == .download && conditions.downloadsSuspended == some true

/-- Free space is below the requirement. Not so while either is unknown. -/
def belowRequirement (conditions : Conditions) : Bool :=
  match conditions.freeBytes, conditions.requiredBytes with
  | some free, some required => decide (free < required)
  | _, _ => false

def lacksSpace (conditions : Conditions) (queue : Queue) : Bool :=
  queue == .download && (conditions.ranOutOfSpace || conditions.belowRequirement)

def needsWifi (conditions : Conditions) : Queue → Bool
  | .upload => conditions.cellularAllowed != some true
  | .download => true

def lacksWifi (conditions : Conditions) (queue : Queue) : Bool :=
  conditions.needsWifi queue && conditions.wifi != some true

def lacksPower (conditions : Conditions) : Bool :=
  conditions.batteryLevel.any BatteryLevel.isLow || conditions.lowPower == some true

def status (conditions : Conditions) (queue : Queue) : Status :=
  if conditions.knownEmpty queue then .empty
  else if conditions.unprepared then .notReady
  else if conditions.suspends queue then .suspended
  else if conditions.lacksSpace queue then .lowDiskSpace
  else if conditions.lacksWifi queue then .noWifi
  else if conditions.lacksPower then .lowBattery
  else .running

theorem status_eq_empty_iff (conditions : Conditions) (queue : Queue) :
    conditions.status queue = .empty ↔ conditions.knownEmpty queue = true := by
  cases known : conditions.knownEmpty queue with
  | true => simp [status, known]
  | false =>
      simp only [status, known, Bool.false_eq_true, if_false, iff_false]
      repeat' split
      all_goals simp

/-- Equality of conditions in which battery levels compare as numbers, so that
conditions with a level that is not a number differ from themselves. -/
def same (left right : Conditions) : Bool :=
  let sameLevel := match left.batteryLevel, right.batteryLevel with
    | none, none => true
    | some leftLevel, some rightLevel => leftLevel.same rightLevel
    | _, _ => false
  sameLevel && { left with batteryLevel := none } == { right with batteryLevel := none }

structure StatusChange where
  queue : Queue
  was : Status
  becomes : Status
deriving DecidableEq, Repr

/-- What there is to announce when `before` gives way to `after`: the queues whose
status differs, uploads first. -/
def changes (before after : Conditions) : List StatusChange :=
  Queue.all.filterMap fun queue =>
    if before.status queue = after.status queue then none
    else some ⟨queue, before.status queue, after.status queue⟩

theorem changes_self (conditions : Conditions) : conditions.changes conditions = [] := by
  simp [changes]

example : (unread true).status .upload = .notReady := rfl
example : ((unread true).setEmpty .upload true).status .upload = .empty := rfl

end Conditions

end TransferGate
