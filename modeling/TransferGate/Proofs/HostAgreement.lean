import TransferGate.Proofs.View

/-! # Readings agree

To whoever cares for one queue, a reading of the host does the same whether or not the hosts
differ in something that does not matter to the queue. This is so because what is read and does
not matter goes into fields that do not matter.
-/

namespace TransferGate

open Activity

variable {queue : Queue}

namespace Host

/-- Readings agree, and yield related values. -/
abbrev Agrees (queue : Queue) (related : Left → Right → Prop) (left : Activity Host Left)
    (right : Activity Host Right) : Prop :=
  Agree queue (fun host : Host => host.seenBy queue) related left right

theorem ask_agrees (question : Question) :
    Agrees queue (fun left right => question.isHiddenFrom queue = false → left = right)
      (ask question) (ask question) := by
  intro left right same
  rcases seenBy_eq_iff.mp same with ⟨sources, others⟩
  refine ⟨seenBy_eq_iff.mpr ⟨?_, others⟩, rfl, fun matters => ?_⟩
  · exact (left.sources.seenBy_read question queue).trans
      (sources ▸ (right.sources.seenBy_read question queue).symm)
  · exact (left.sources.answer_seenBy matters).trans
      (sources ▸ (right.sources.answer_seenBy matters).symm)

theorem ask_agrees_visibly {question : Question} (matters : question.isHiddenFrom queue = false) :
    Agrees queue (· = ·) (ask question) (ask question) :=
  (ask_agrees question).weaken fun _ _ equal => equal matters

private theorem seen_lookUp (lookup : Lookup) (host : Host) :
    seen queue ((lookUp lookup).run host).effects = [] := by
  rw [run_lookUp]
  cases (host.sources.lookUp lookup).1 <;> rfl

theorem lookUp_agrees (lookup : Lookup) :
    Agrees queue (fun left right => (Question.lookUp lookup).isHiddenFrom queue = false →
      left = right) (lookUp lookup) (lookUp lookup) := by
  intro left right same
  rcases ask_agrees (.lookUp lookup) left right same with ⟨after, -, answers⟩
  refine ⟨?_, by rw [seen_lookUp, seen_lookUp], fun matters => ?_⟩
  · rw [run_lookUp, run_lookUp]
    exact after
  · rw [run_lookUp, run_lookUp]
    exact congrArg Except.toOption (answers matters)

theorem lookUp_agrees_visibly {lookup : Lookup}
    (matters : (Question.lookUp lookup).isHiddenFrom queue = false) :
    Agrees queue (· = ·) (lookUp lookup) (lookUp lookup) :=
  (lookUp_agrees lookup).weaken fun _ _ equal => equal matters

theorem isLowPower_agrees : Agrees queue (· = ·) isLowPower isLowPower := by
  apply Agree.get.bind
  intro left right same
  rw [(seenBy_eq_iff.mp same).2.1]
  cases right.hasBattery with
  | false => exact .pure rfl
  | true =>
      apply (ask_agrees_visibly (by cases queue <;> rfl)).bind
      intro leftAnswer rightAnswer equal
      exact .pure (congrArg some equal)

theorem beginSession_agrees (reason : String) :
    Agrees queue (· = ·) (beginSession reason) (beginSession reason) := by
  apply Agree.get.bind
  intro left right same
  rcases seenBy_eq_iff.mp same with ⟨-, hasBattery, -, -, next⟩
  rw [hasBattery, next]
  cases right.hasBattery with
  | false => exact .pure rfl
  | true =>
      apply (ask_agrees (.beginBattery reason right.nextSession)).bind
      intro leftDone rightDone _
      apply Agree.bind
      · apply Agree.modify
        intro left right same
        rcases seenBy_eq_iff.mp same with ⟨sources, hasBattery, reason, requirement, -⟩
        exact seenBy_eq_iff.mpr ⟨sources, hasBattery, reason, requirement, rfl⟩
      · intro _ _ _
        exact .pure rfl

theorem beginBattery_agrees : Agrees queue (· = ·) beginBattery beginBattery := by
  apply Agree.get.bind
  intro left right same
  rw [(seenBy_eq_iff.mp same).2.2.1]
  exact beginSession_agrees right.batteryReason

theorem batteryLevel_agrees (session : Option Nat) :
    Agrees queue (· = ·) (batteryLevel session) (batteryLevel session) := by
  cases session with
  | none => exact .pure rfl
  | some session => exact ask_agrees_visibly (by cases queue <;> rfl)

theorem endBattery_agrees (session : Option Nat) :
    Agrees queue (fun _ _ => True) (endBattery session) (endBattery session) := by
  cases session with
  | none => exact .pure trivial
  | some session => exact (ask_agrees (.endBattery session)).weaken fun _ _ _ => trivial

theorem run_requiredBytes (host : Host) : requiredBytes.run host =
    match host.requirement.known with
    | some bytes => ⟨bytes, host, []⟩
    | none => computeRequirement.run host := by
  rw [requiredBytes, run_bind, run_get]
  cases host.requirement.known <;> rfl

private theorem requiredBytes_hidden (host : Host) :
    (requiredBytes.run host).state.seenBy .upload = host.seenBy .upload ∧
      seen .upload (requiredBytes.run host).effects = [] := by
  rw [run_requiredBytes]
  cases host.requirement.known <;> exact ⟨rfl, rfl⟩

theorem computeRequirement_agrees :
    Agrees .download (· = ·) computeRequirement computeRequirement := by
  have asked : Agrees .download (· = ·) (ask .maxDownload) (ask .maxDownload) :=
    ask_agrees_visibly rfl
  apply asked.bind
  rintro maxDownload _ rfl
  apply Agree.get.bind
  intro left right same
  have requirement : left.requirement = right.requirement := (seenBy_eq_iff.mp same).2.2.2.1
  rw [requirement]
  apply Agree.bind
  · apply Agree.modify
    intro left right same
    rcases seenBy_eq_iff.mp same with ⟨sources, hasBattery, reason, requirement, next⟩
    have sameRequirement : left.requirement = right.requirement := requirement
    exact seenBy_eq_iff.mpr ⟨sources, hasBattery, reason, by rw [sameRequirement], next⟩
  · intro _ _ _
    exact .pure rfl

theorem requiredBytes_agrees : Agrees queue (fun left right => queue = .download → left = right)
    requiredBytes requiredBytes := by
  cases queue with
  | upload =>
      intro left right same
      rcases requiredBytes_hidden left with ⟨leftSame, leftSilent⟩
      rcases requiredBytes_hidden right with ⟨rightSame, rightSilent⟩
      refine ⟨leftSame.trans (same.trans rightSame.symm), leftSilent.trans rightSilent.symm, ?_⟩
      intro isDownload
      cases isDownload
  | download =>
      apply Agree.get.bind
      intro left right same
      have requirement : left.requirement = right.requirement := (seenBy_eq_iff.mp same).2.2.2.1
      rw [requirement]
      cases right.requirement.known with
      | some bytes => exact .pure fun _ => rfl
      | none => exact computeRequirement_agrees.weaken fun _ _ equal _ => equal

theorem downloadsSuspended_agrees :
    Agrees queue (fun left right => queue = .download → left = right) downloadsSuspended
      downloadsSuspended := by
  apply (lookUp_agrees_visibly (by cases queue <;> rfl)).bind
  rintro opened _ rfl
  cases opened with
  | none => exact .pure fun _ => rfl
  | some _ =>
      apply (lookUp_agrees (.isSuspended .download)).bind
      intro left right equal
      apply (ask_agrees .closeQueues).bind
      intro _ _ _
      refine .pure fun isDownload => equal ?_
      rw [isDownload]
      rfl

theorem probeQueues_agrees :
    Agrees queue (fun left right => left.empty = right.empty ∧
      (queue = .download → left.downloadsSuspended = right.downloadsSuspended))
      probeQueues probeQueues := by
  apply (lookUp_agrees_visibly (by cases queue <;> rfl)).bind
  rintro opened _ rfl
  cases opened with
  | none => exact .pure ⟨rfl, fun _ => rfl⟩
  | some _ =>
      apply (lookUp_agrees_visibly (by cases queue <;> rfl)).bind
      rintro pending _ rfl
      apply (lookUp_agrees_visibly (by cases queue <;> rfl)).bind
      rintro ready _ rfl
      apply (lookUp_agrees (.isSuspended .download)).bind
      intro leftSuspended rightSuspended equal
      apply (ask_agrees .closeQueues).bind
      intro _ _ _
      refine .pure ⟨rfl, fun isDownload => equal ?_⟩
      rw [isDownload]
      rfl

def ChangeAlike (queue : Queue) (left right : Conditions → Conditions) : Prop :=
  ∀ first second : Conditions, first.seenBy queue = second.seenBy queue →
    (left first).seenBy queue = (right second).seenBy queue

theorem ChangeAlike.of_seen {change : Conditions → Conditions}
    (sees : ∀ conditions : Conditions,
      (change conditions).seenBy queue = (change (conditions.seenBy queue)).seenBy queue) :
    ChangeAlike queue change change := by
  intro first second same
  rw [sees first, sees second, same]

theorem ChangeAlike.of_hidden {left right : Conditions → Conditions}
    (leftHidden : ∀ conditions : Conditions,
      (left conditions).seenBy queue = conditions.seenBy queue)
    (rightHidden : ∀ conditions : Conditions,
      (right conditions).seenBy queue = conditions.seenBy queue) :
    ChangeAlike queue left right := by
  intro first second same
  rw [leftHidden, rightHidden, same]

theorem readFor_agrees (session : Option Nat) (signal : Signal) :
    Agrees queue (ChangeAlike queue) (readFor session signal) (readFor session signal) := by
  cases signal with
  | appReady =>
      apply (ask_agrees_visibly (by cases queue <;> rfl)).bind
      rintro ready _ rfl
      exact .pure (.of_seen fun _ => by cases queue <;> rfl)
  | registrationChanged =>
      apply (ask_agrees_visibly (by cases queue <;> rfl)).bind
      rintro registered _ rfl
      exact .pure (.of_seen fun _ => by cases queue <;> rfl)
  | cellularPreferenceChanged =>
      apply (lookUp_agrees .cellularAllowed).bind
      intro left right equal
      apply Agree.pure
      cases queue with
      | upload =>
          cases equal rfl
          exact .of_seen fun _ => rfl
      | download => exact .of_hidden (fun _ => rfl) fun _ => rfl
  | reachabilityChanged =>
      apply (ask_agrees_visibly (by cases queue <;> rfl)).bind
      rintro wifi _ rfl
      exact .pure (.of_seen fun _ => by cases queue <;> rfl)
  | batteryLevelChanged =>
      apply (batteryLevel_agrees session).bind
      rintro level _ rfl
      exact .pure (.of_seen fun _ => by cases queue <;> rfl)
  | lowPowerModeChanged =>
      apply isLowPower_agrees.bind
      rintro lowPower _ rfl
      exact .pure (.of_seen fun _ => by cases queue <;> rfl)
  | willEnterForeground =>
      apply (lookUp_agrees .freeSpace).bind
      intro left right equal
      apply Agree.pure
      cases queue with
      | upload => exact .of_hidden (fun _ => rfl) fun _ => rfl
      | download =>
          cases equal rfl
          exact .of_seen fun _ => rfl
  | downloadSuspensionChanged =>
      apply downloadsSuspended_agrees.bind
      intro left right equal
      apply Agree.pure
      cases queue with
      | upload => exact .of_hidden (fun _ => rfl) fun _ => rfl
      | download =>
          cases equal rfl
          exact .of_seen fun _ => rfl

theorem readAll_agrees (session : Option Nat) :
    Agrees queue (ChangeAlike queue) (readAll session) (readAll session) := by
  apply (ask_agrees_visibly (by cases queue <;> rfl)).bind
  rintro primary _ rfl
  apply (ask_agrees_visibly (by cases queue <;> rfl)).bind
  rintro ready _ rfl
  apply (ask_agrees_visibly (by cases queue <;> rfl)).bind
  rintro registered _ rfl
  apply downloadsSuspended_agrees.bind
  intro leftSuspended rightSuspended suspended
  apply (lookUp_agrees .cellularAllowed).bind
  intro leftAllowed rightAllowed allowed
  apply (ask_agrees_visibly (by cases queue <;> rfl)).bind
  rintro wifi _ rfl
  apply (batteryLevel_agrees session).bind
  rintro level _ rfl
  apply isLowPower_agrees.bind
  rintro lowPower _ rfl
  apply (lookUp_agrees .freeSpace).bind
  intro leftFree rightFree free
  apply requiredBytes_agrees.bind
  intro leftBytes rightBytes bytes
  apply Agree.pure
  intro first second same
  have empty : first.empty = second.empty := by
    rw [← first.empty_seenBy queue, same, second.empty_seenBy]
  cases queue with
  | upload =>
      cases allowed rfl
      simp [Conditions.seenBy, empty]
  | download =>
      cases suspended rfl
      cases free rfl
      cases bytes rfl
      have ranOut := congrArg Conditions.ranOutOfSpace same
      change first.ranOutOfSpace = second.ranOutOfSpace at ranOut
      simp [Conditions.seenBy, empty, ranOut]

end Host

namespace Controller

end Controller

end TransferGate
