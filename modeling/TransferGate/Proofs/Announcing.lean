import TransferGate.Proofs.Brackets

/-! # What may be announced

A status is *idle* if the queue is empty or the gate is not ready. Every other status
tells something about what is read only while observing, so it must not be announced
while nobody observes.

Conditions *at rest* have idle statuses only: no registration is known, or both queues
are known to be empty. Between operations a controller observes or is at rest, which is
part of `Controller.Calm`.
-/

namespace TransferGate

def Status.isIdle : Status → Bool
  | .empty => true
  | .notReady => true
  | _ => false

theorem Status.isIdle_iff {status : Status} :
    status.isIdle = true ↔ status = .empty ∨ status = .notReady := by
  cases status <;> simp [isIdle]

/-- Announces a status that is not idle. -/
def Effect.tellsObserved : Effect → Bool
  | .announced notice =>
      notice.kind == .queueStatusChanged && !notice.status.any Status.isIdle
  | _ => false

namespace Conditions

/-- Either nothing is known about the registration, or there is no work. -/
def AtRest (conditions : Conditions) : Prop :=
  conditions.registered = none ∨ ∀ queue, conditions.empty.get queue = some true

theorem status_of_empty {conditions : Conditions} {queue : Queue}
    (empty : conditions.empty.get queue = some true) : conditions.status queue = .empty := by
  simp [status, knownEmpty, empty]

theorem AtRest.isIdle {conditions : Conditions} (atRest : conditions.AtRest) (queue : Queue) :
    (conditions.status queue).isIdle = true := by
  rcases atRest with unknown | empty
  · have unprepared : conditions.unprepared = true := by simp [unprepared, unknown]
    rw [status, unprepared]
    cases conditions.knownEmpty queue <;> rfl
  · rw [status_of_empty (empty queue)]
    rfl

theorem AtRest.congr {before after : Conditions} (atRest : before.AtRest)
    (registered : after.registered = before.registered) (empty : after.empty = before.empty) :
    after.AtRest := by
  rw [AtRest, registered, empty]
  exact atRest

theorem AtRest.setEmpty {conditions : Conditions} (atRest : conditions.AtRest) (queue : Queue) :
    (conditions.setEmpty queue true).AtRest := by
  rcases atRest with unknown | empty
  · exact .inl unknown
  · refine .inr fun other => ?_
    by_cases same : other = queue
    · subst same
      exact PerQueue.get_set_same ..
    · exact (PerQueue.get_set_other _ _ same).trans (empty other)

theorem idle_changeEffects {before after : Conditions} (atRest : after.AtRest) :
    ∀ effect ∈ (before.changes after).flatMap Controller.changeEffects,
      effect.tellsObserved = false := by
  intro effect member
  rcases List.mem_flatMap.mp member with ⟨change, changed, told⟩
  rcases List.mem_filterMap.mp changed with ⟨queue, -, found⟩
  have becomes : change.becomes = after.status queue := by
    simp only [Option.ite_none_left_eq_some, Option.some.injEq] at found
    rw [← found.2]
  simp only [Controller.changeEffects, List.mem_cons, List.not_mem_nil, or_false] at told
  rcases told with rfl | rfl
  · rfl
  · simp [Effect.tellsObserved, Notice.statusChanged, becomes, atRest.isIdle queue]

end Conditions

namespace Controller

open Activity

/-! ## While nobody observes -/

def Rests (controller : Controller) : Prop :=
  controller.isObserving = false ∧ controller.conditions.AtRest

def resting : Law Controller where
  holds before record after :=
    before.Rests → after.Rests ∧ ∀ effect ∈ record, effect.tellsObserved = false
  idle _ rests := ⟨rests, by simp⟩
  join := by
    intro before between after earlier later first second rests
    rcases first rests with ⟨between, firstIdle⟩
    rcases second between with ⟨after, secondIdle⟩
    refine ⟨after, fun effect member => ?_⟩
    rcases List.mem_append.mp member with inFirst | inSecond
    · exact firstIdle effect inFirst
    · exact secondIdle effect inSecond

theorem resting_emit {effect : Effect} (idle : effect.tellsObserved = false) :
    Obeys resting (Activity.emit effect) :=
  .emit fun _ rests => ⟨rests, by simpa using idle⟩

theorem resting_onHost {Value : Type} {activity : Activity Host Value}
    (reads : Obeys Host.reading activity) : Obeys resting (onHost activity) := by
  refine fun controller rests => ⟨rests, fun effect member => ?_⟩
  have inquiry := (reads controller.host).inquiries effect member
  cases effect <;> first | rfl | cases inquiry

theorem resting_revise {change : Conditions → Conditions}
    (stays : ∀ conditions : Conditions, conditions.AtRest → (change conditions).AtRest) :
    Obeys resting (revise change) := by
  rintro controller ⟨notObserving, atRest⟩
  refine ⟨⟨notObserving, stays _ atRest⟩, fun effect member => ?_⟩
  rcases List.mem_cons.mp member with rfl | announced
  · rfl
  · exact Conditions.idle_changeEffects (stays _ atRest) effect announced

theorem resting_update {reading : Option Nat → Activity Host (Conditions → Conditions)}
    (reads : ∀ session, Obeys Host.reading (reading session))
    (stays : ∀ session host conditions, Conditions.AtRest conditions →
      (((reading session).run host).value conditions).AtRest) : Obeys resting (update reading) :=
  fun controller => update_holds (resting_onHost (reads _) controller) (resting_revise (stays _ _))

theorem resting_recordOutOfSpace (ranOut : Bool) : Obeys resting (recordOutOfSpace ranOut) := by
  apply Obeys.bind
  · apply resting_revise
    exact fun _ atRest => atRest.congr rfl rfl
  · exact fun _ => .pure _

theorem resting_readinessChanged : Obeys resting readinessChanged := by
  apply resting_update fun session => Host.readFor_reads session .appReady
  exact fun _ _ _ atRest => atRest.congr rfl rfl

theorem resting_freeSpaceChanged : Obeys resting freeSpaceChanged := by
  apply resting_update fun session => Host.readFor_reads session .willEnterForeground
  exact fun _ _ _ atRest => atRest.congr rfl rfl

theorem resting_stages : IdleStages resting where
  log _ := resting_emit rfl
  requiredBytes := resting_onHost Host.requiredBytes_reads
  freeSpace := resting_onHost (Host.lookUp_reads .freeSpace)
  replaceSources _ _ rests := ⟨rests, by simp [Host.replaceSources, Effect.tellsObserved]⟩
  recordOutOfSpace := resting_recordOutOfSpace
  readinessChanged := resting_readinessChanged
  freeSpaceChanged := resting_freeSpaceChanged
  reread _ _ observing rests := by
    rw [rests.1] at observing
    cases observing
  refresh _ observing rests := by
    rw [rests.1] at observing
    cases observing

theorem resting_lookAtQueues : Obeys resting lookAtQueues := by
  apply (resting_onHost Host.probeQueues_reads).bind
  intro probe
  apply Obeys.bind
  · apply resting_revise
    exact fun _ atRest => atRest.congr rfl rfl
  · exact fun _ => .pure _

/-! ## What is announced -/

def telling : Law Controller := guarding Effect.tellsObserved

def Settled (controller : Controller) : Prop := controller.isObserving = true ∨ controller.Rests

theorem tells_of_settled {before after : Controller} {record : List Effect}
    (settled : before.Settled) (isSteady : steady.holds before record after)
    (rests : resting.holds before record after) :
    after.Settled ∧ telling.holds before record after := by
  rcases settled with observing | restsBefore
  · refine ⟨.inl ?_, guarding_of_observing isSteady observing⟩
    rw [isObserving, isSteady.1]
    exact observing
  · rcases rests restsBefore with ⟨restsAfter, idle⟩
    exact ⟨.inr restsAfter, announcing_brackets.steady isSteady, Guarded.of_unneeding idle⟩

theorem telling_startObserving : Obeys telling startObserving := by
  intro controller
  have refreshed : telling.holds _ _ _ := guarding_of_observing
    (steady_refresh (isObserving_ensureObserving controller))
    (isObserving_ensureObserving controller)
  have ensured : telling.holds controller (ensureObserving.run controller).effects
      (ensureObserving.run controller).state := by
    rw [run_ensureObserving]
    cases observing : controller.isObserving with
    | true => exact telling.idle controller
    | false =>
        refine ⟨announcing_brackets.opening controller observing, Guarded.of_unneeding ?_⟩
        rw [run_openObservation, Host.run_beginBattery]
        cases controller.host.hasBattery <;>
          simp [Effect.tellsObserved, Notice.observationStarted]
  exact telling.join ensured refreshed

theorem telling_stopObserving : Obeys telling stopObserving := by
  intro controller
  cases held : controller.observation with
  | none =>
      rw [stopObserving, run_bind, run_get]
      simpa [held] using telling.idle controller
  | some observation =>
      have observing : controller.isObserving = true := by simp [isObserving, held]
      refine ⟨announcing_brackets.closing controller observing, Guarded.of_unneeding ?_⟩
      rw [run_stopObserving held, run_release, Host.run_endBattery]
      cases observation.session <;> simp [Effect.tellsObserved, Notice.observationStopped]

theorem telling_followWork (isEmpty : Bool) : Obeys telling (followWork isEmpty) := by
  apply Obeys.get.bind
  intro controller
  cases isEmpty <;> cases controller.conditions.allEmpty
  · exact .pure _
  · exact telling_startObserving
  · exact telling_stopObserving
  · exact .pure _

/-! ## Between operations -/

/-- What is true of a controller between operations, as long as it does not give up observing. -/
structure Calm (controller : Controller) : Prop where
  observesWork : controller.ObservesWork
  known : controller.isObserving = true →
    controller.conditions.registered.isSome = true ∧
      ∀ queue, (controller.conditions.empty.get queue).isSome = true
  atRest : controller.isObserving = false → controller.conditions.AtRest

theorem Calm.settled {controller : Controller} (calm : controller.Calm) : controller.Settled := by
  cases observing : controller.isObserving with
  | true => exact .inl observing
  | false => exact .inr ⟨observing, calm.atRest observing⟩

def remembering : Law Controller where
  holds before _ after := before.conditions.registered.isSome = true →
    after.conditions.registered.isSome = true
  idle _ := id
  join first second known := second (first known)

theorem conditions_stopObserving (controller : Controller) :
    (stopObserving.run controller).state.conditions = controller.conditions := by
  rw [stopObserving, run_bind, run_get]
  cases controller.observation <;> rfl

theorem remembering_stages : KeptStages remembering where
  log _ _ := id
  requiredBytes _ := id
  freeSpace _ := id
  replaceSources _ _ := id
  recordOutOfSpace _ _ := id
  readinessChanged _ := id
  freeSpaceChanged _ := id
  reread signal controller _ known := by
    change ((((Host.readFor controller.session? signal).run controller.host).value
      controller.conditions).registered.isSome) = true
    cases signal <;> first | exact known | rfl
  refresh _ _ _ := rfl
  lookAtQueues _ := id
  recordEmpty _ _ := id
  startObserving _ _ := rfl
  stopObserving controller known := by
    rw [conditions_stopObserving]
    exact known

theorem all_empty_of_known {controller : Controller} (observes : controller.ObservesWork)
    (notObserving : controller.isObserving = false)
    (known : ∀ queue, (controller.conditions.empty.get queue).isSome = true) :
    ∀ queue, controller.conditions.empty.get queue = some true := by
  intro queue
  rcases Option.isSome_iff_exists.mp (known queue) with ⟨isEmpty, recorded⟩
  cases isEmpty with
  | true => exact recorded
  | false =>
      have observing := observes.mpr ⟨queue, recorded⟩
      rw [notObserving] at observing
      cases observing

def calming : Law Controller where
  holds before record after := before.Calm → after.Calm ∧ telling.holds before record after
  idle controller calm := ⟨calm, telling.idle controller⟩
  join first second calm :=
    ⟨(second (first calm).1).1, telling.join (first calm).2 (second (first calm).1).2⟩

theorem calming_of_idle {operation : Operation} (idle : operation.decides = false) :
    Obeys calming operation.perform := by
  intro controller calm
  have goesOn : operation.givesUp = false := by
    cases operation <;> first | rfl | cases idle
  rcases idling_stages.operation idle controller with ⟨sameObserving, sameEmpty⟩
  obtain ⟨settled, tells⟩ := tells_of_settled calm.settled
    (steady_stages.operation idle controller) (resting_stages.operation idle controller)
  refine ⟨⟨calm.observesWork.perform goesOn, fun observing => ?_, fun notObserving => ?_⟩, tells⟩
  · rw [sameObserving] at observing
    rcases calm.known observing with ⟨registered, flags⟩
    refine ⟨remembering_stages.toIdleStages.operation idle controller registered, ?_⟩
    rw [sameEmpty]
    exact flags
  · rcases settled with observing | rests
    · rw [notObserving] at observing
      cases observing
    · exact rests.2

end Controller

end TransferGate
