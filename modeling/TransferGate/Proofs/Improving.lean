import TransferGate.Conditions

/-! # Better conditions, better statuses

Apart from `empty`, which says nothing about what a queue is held back by, the statuses are
ordered by how early their rule comes: the earlier the rule, the worse the status. The status of
a queue with work is then the worst one whose rule applies, whatever comes before that rule.
So if every rule that applies after a change has applied before it, the status is no worse.

Conditions stay as good as they were, `Conditions.AsGoodAs`, when what has to be known to hold goes
on to be known, and what holds a queue back once it is known is known only if it was known before.
A value that gets lost counts as the worse in the first case and as the better in the second.
-/

namespace TransferGate

namespace Status

/-- How bad it is; an empty queue is not to be compared with others. -/
def severity : Status → Option Nat
  | .empty => none
  | .running => some 0
  | .lowBattery => some 1
  | .noWifi => some 2
  | .lowDiskSpace => some 3
  | .suspended => some 4
  | .notReady => some 5

/-- Both statuses are `empty`, or neither is and the first is at or below the second. -/
def AtMost (left right : Status) : Prop := Option.Rel (· ≤ ·) left.severity right.severity

theorem AtMost.refl (status : Status) : status.AtMost status := by
  unfold AtMost
  cases status.severity with
  | none => exact .none
  | some severity => exact .some (Nat.le_refl severity)

example : [running, lowBattery, noWifi, lowDiskSpace, suspended, notReady].map severity =
    (List.range 6).map some := rfl

end Status

namespace Conditions

/-! ## The status as the worst one whose rule applies -/

def applies (conditions : Conditions) (queue : Queue) : Status → Bool
  | .empty => conditions.knownEmpty queue
  | .notReady => conditions.unprepared
  | .suspended => conditions.suspends queue
  | .lowDiskSpace => conditions.lacksSpace queue
  | .noWifi => conditions.lacksWifi queue
  | .lowBattery => conditions.lacksPower
  | .running => true

private theorem applies_status (conditions : Conditions) (queue : Queue) :
    conditions.applies queue (conditions.status queue) = true := by
  unfold status
  repeat' split
  all_goals first | assumption | rfl

private theorem atMost_status {conditions : Conditions} {queue : Queue}
    (hasWork : conditions.knownEmpty queue = false) {candidate : Status}
    (applies : conditions.applies queue candidate = true) :
    candidate.AtMost (conditions.status queue) := by
  cases candidate with
  | empty => cases hasWork.symm.trans applies
  | _ =>
      simp only [Conditions.applies] at applies
      unfold status
      repeat' split
      all_goals first
        | exact .some (by decide)
        | simp_all

/-! ## Conditions that are no worse -/

def ShortOfSpace (conditions : Conditions) : Prop :=
  ∃ free required, conditions.freeBytes = some free ∧ conditions.requiredBytes = some required ∧
    free < required

def LowOnBattery (conditions : Conditions) : Prop :=
  ∃ level, conditions.batteryLevel = some level ∧ level.isLow = true

structure AsGoodAs (after before : Conditions) : Prop where
  primary : before.primary = true → after.primary = true
  ready : before.ready = true → after.ready = true
  registered : before.registered = some true → after.registered = some true
  wifi : before.wifi = some true → after.wifi = some true
  cellularAllowed : before.cellularAllowed = some true → after.cellularAllowed = some true
  downloadsSuspended :
    after.downloadsSuspended = some true → before.downloadsSuspended = some true
  lowPower : after.lowPower = some true → before.lowPower = some true
  ranOutOfSpace : after.ranOutOfSpace = true → before.ranOutOfSpace = true
  shortOfSpace : after.ShortOfSpace → before.ShortOfSpace
  lowOnBattery : after.LowOnBattery → before.LowOnBattery

private theorem belowRequirement_iff (conditions : Conditions) :
    conditions.belowRequirement = true ↔ conditions.ShortOfSpace := by
  unfold belowRequirement ShortOfSpace
  cases conditions.freeBytes <;> cases conditions.requiredBytes <;> simp

private theorem lacksPower_iff (conditions : Conditions) :
    conditions.lacksPower = true ↔ conditions.LowOnBattery ∨ conditions.lowPower = some true := by
  simp [lacksPower, LowOnBattery, Option.any_eq_true]

namespace AsGoodAs

variable {after before : Conditions}

theorem refl (conditions : Conditions) : conditions.AsGoodAs conditions :=
  ⟨id, id, id, id, id, id, id, id, id, id⟩

private theorem applies (better : after.AsGoodAs before) {queue : Queue} {status : Status}
    (full : status ≠ .empty) (applies : after.applies queue status = true) :
    before.applies queue status = true := by
  cases status with
  | empty => exact absurd rfl full
  | running => rfl
  | notReady =>
      simp only [Conditions.applies, unprepared, Bool.or_eq_true, Bool.not_eq_true',
        ← Bool.not_eq_true, bne_iff_ne] at applies ⊢
      exact applies.imp (Or.imp (mt better.primary) (mt better.ready)) (mt better.registered)
  | suspended =>
      simp only [Conditions.applies, suspends, Bool.and_eq_true, beq_iff_eq] at applies ⊢
      exact ⟨applies.1, better.downloadsSuspended applies.2⟩
  | lowDiskSpace =>
      simp only [Conditions.applies, lacksSpace, Bool.and_eq_true, Bool.or_eq_true,
        belowRequirement_iff] at applies ⊢
      exact ⟨applies.1, applies.2.imp better.ranOutOfSpace better.shortOfSpace⟩
  | noWifi =>
      cases queue with
      | upload =>
          simp only [Conditions.applies, lacksWifi, needsWifi, Bool.and_eq_true,
            bne_iff_ne] at applies ⊢
          exact ⟨mt better.cellularAllowed applies.1, mt better.wifi applies.2⟩
      | download =>
          simp only [Conditions.applies, lacksWifi, needsWifi, Bool.true_and,
            bne_iff_ne] at applies ⊢
          exact mt better.wifi applies
  | lowBattery =>
      simp only [Conditions.applies, lacksPower_iff] at applies ⊢
      exact applies.imp better.lowOnBattery better.lowPower

/-- The status of a queue is no worse in conditions that are no worse. -/
theorem status (better : after.AsGoodAs before) {queue : Queue}
    (same : after.empty.get queue = before.empty.get queue) :
    (after.status queue).AtMost (before.status queue) := by
  have sameEmpty : after.knownEmpty queue = before.knownEmpty queue := by
    rw [knownEmpty, knownEmpty, same]
  cases isEmpty : before.knownEmpty queue with
  | true =>
      rw [(before.status_eq_empty_iff queue).mpr isEmpty,
        (after.status_eq_empty_iff queue).mpr (sameEmpty.trans isEmpty)]
      exact .refl .empty
  | false =>
      have full : after.status queue ≠ .empty := by
        rw [Ne, status_eq_empty_iff, sameEmpty, isEmpty]
        decide
      exact atMost_status isEmpty (better.applies full (after.applies_status queue))

end AsGoodAs

/-! ## Single readings -/

/-- One reading gives way to another one that can only help: what may hold a queue back is
unknown from now on or less pressing, or what has to be known becomes known. -/
inductive EasesTo : Conditions → Conditions → Prop where
  | freeUnknown (conditions : Conditions) :
      EasesTo conditions { conditions with freeBytes := none }
  | requiredUnknown (conditions : Conditions) :
      EasesTo conditions { conditions with requiredBytes := none }
  | suspensionUnknown (conditions : Conditions) :
      EasesTo conditions { conditions with downloadsSuspended := none }
  | lowPowerUnknown (conditions : Conditions) :
      EasesTo conditions { conditions with lowPower := none }
  | levelUnknown (conditions : Conditions) :
      EasesTo conditions { conditions with batteryLevel := none }
  | levelNaN (conditions : Conditions) {level : BatteryLevel} (isNaN : level.isNaN = true) :
      EasesTo conditions { conditions with batteryLevel := some level }
  | levelRises {conditions : Conditions} {level higher : BatteryLevel}
      (known : conditions.batteryLevel = some level) (rises : level.below higher = true) :
      EasesTo conditions { conditions with batteryLevel := some higher }
  | freeRises {conditions : Conditions} {free more : UInt64}
      (known : conditions.freeBytes = some free) (rises : free ≤ more) :
      EasesTo conditions { conditions with freeBytes := some more }
  | requiredFalls {conditions : Conditions} {required less : UInt64}
      (known : conditions.requiredBytes = some required) (falls : less ≤ required) :
      EasesTo conditions { conditions with requiredBytes := some less }
  | registeredKnown (conditions : Conditions) :
      EasesTo { conditions with registered := none } conditions
  | wifiKnown (conditions : Conditions) : EasesTo { conditions with wifi := none } conditions
  | cellularKnown (conditions : Conditions) :
      EasesTo { conditions with cellularAllowed := none } conditions

namespace EasesTo

variable {after before : Conditions}

private theorem empty_eq (eases : before.EasesTo after) : after.empty = before.empty := by
  cases eases <;> rfl

private theorem asGoodAs (eases : before.EasesTo after) : after.AsGoodAs before := by
  have same := AsGoodAs.refl before
  cases eases with
  | freeUnknown =>
      refine { same with shortOfSpace := ?_ }
      rintro ⟨free, required, known, -⟩
      cases known
  | requiredUnknown =>
      refine { same with shortOfSpace := ?_ }
      rintro ⟨free, required, -, known, -⟩
      cases known
  | suspensionUnknown =>
      refine { same with downloadsSuspended := ?_ }
      intro known
      cases known
  | lowPowerUnknown =>
      refine { same with lowPower := ?_ }
      intro known
      cases known
  | levelUnknown =>
      refine { same with lowOnBattery := ?_ }
      rintro ⟨level, known, -⟩
      cases known
  | levelNaN _ isNaN =>
      refine { same with lowOnBattery := ?_ }
      rintro ⟨level, known, isLow⟩
      cases known
      simp [BatteryLevel.isLow, BatteryLevel.below, isNaN] at isLow
  | levelRises known rises =>
      refine { same with lowOnBattery := ?_ }
      rintro ⟨higher, found, isLow⟩
      cases found
      exact ⟨_, known, BatteryLevel.below_trans rises isLow⟩
  | freeRises known rises =>
      refine { same with shortOfSpace := ?_ }
      rintro ⟨more, required, found, requires, short⟩
      cases found
      exact ⟨_, required, known, requires, UInt64.lt_of_le_of_lt rises short⟩
  | requiredFalls known falls =>
      refine { same with shortOfSpace := ?_ }
      rintro ⟨free, less, isFree, found, short⟩
      cases found
      exact ⟨free, _, isFree, known, UInt64.lt_of_lt_of_le short falls⟩
  | registeredKnown =>
      refine { AsGoodAs.refl after with registered := ?_ }
      intro known
      cases known
  | wifiKnown =>
      refine { AsGoodAs.refl after with wifi := ?_ }
      intro known
      cases known
  | cellularKnown =>
      refine { AsGoodAs.refl after with cellularAllowed := ?_ }
      intro known
      cases known

end EasesTo

/-- Where something has to be known to hold, not to know it is as bad as to know that it does not
hold. -/
structure CountsUnknown (conditions : Conditions) (queue : Queue) : Prop where
  registered : ({ conditions with registered := none } : Conditions).status queue =
    ({ conditions with registered := some false } : Conditions).status queue
  wifi : ({ conditions with wifi := none } : Conditions).status queue =
    ({ conditions with wifi := some false } : Conditions).status queue
  cellularAllowed : ({ conditions with cellularAllowed := none } : Conditions).status queue =
    ({ conditions with cellularAllowed := some false } : Conditions).status queue

theorem countsUnknown (conditions : Conditions) (queue : Queue) :
    conditions.CountsUnknown queue := by
  constructor <;> cases queue <;> rfl

/-- Improving the conditions never makes the status of a queue worse, and what is unknown holds a
queue back only where it has to be known. -/
theorem status_no_worse (queue : Queue) :
    (∀ before after : Conditions, after.empty.get queue = before.empty.get queue →
      after.AsGoodAs before → (after.status queue).AtMost (before.status queue)) ∧
    (∀ before after : Conditions, before.EasesTo after →
      (after.status queue).AtMost (before.status queue)) ∧
    ∀ conditions : Conditions, conditions.CountsUnknown queue := by
  constructor
  · intro before after same better
    exact better.status same
  constructor
  · intro before after eases
    exact eases.asGoodAs.status (by rw [eases.empty_eq])
  · intro conditions
    exact conditions.countsUnknown queue

/-- Downloads lack space, wifi and power. With the free space unknown they are held back by the
wifi, and a level that cannot be read does not change that. -/
theorem status_no_worse_of_unknown_space :
    let before : Conditions :=
      { unread true with
        ready := true
        registered := some true
        batteryLevel := some ⟨0x3d4ccccd⟩
        freeBytes := some 100
        requiredBytes := some 500 }
    let between : Conditions := { before with freeBytes := none }
    let after : Conditions := { between with batteryLevel := some ⟨0x7fc00000⟩ }
    (between.empty.get .download = before.empty.get .download ∧ between.AsGoodAs before ∧
      before.status .download = .lowDiskSpace ∧ between.status .download = .noWifi ∧
        (between.status .download).AtMost (before.status .download)) ∧
      between.EasesTo after ∧ (after.status .download).AtMost (between.status .download) := by
  intro before between after
  have better : between.AsGoodAs before := (EasesTo.freeUnknown before).asGoodAs
  have eases : between.EasesTo after := .levelNaN between (by decide)
  constructor
  · exact ⟨rfl, better, rfl, rfl, (status_no_worse .download).1 before between rfl better⟩
  · exact ⟨eases, (status_no_worse .download).2.1 between after eases⟩

end Conditions

end TransferGate
