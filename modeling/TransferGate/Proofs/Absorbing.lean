import TransferGate.Proofs.LookedUp

/-! # Lookups that fail

A lookup that fails is logged, and what it was about is unknown from then on; apart from that
nothing happens. Operations reply as they do otherwise, and queues that were opened are closed.
Whether the queues are empty is recorded by whoever begins, from one look at both of them.

What is shown for one operation adds up over runs. Two things are apart from that: whoever
recovers from a lag gives a warning of its own, and a caller who looks at free space does not
tell the controller.
-/

namespace TransferGate

open Activity

namespace Controller

/-! ## What the controller does -/

private theorem heeds_recorded {looks : List Look} {before after : Controller}
    {record : List Effect} (inquiries : ∀ effect ∈ record, effect.isInquiry = true)
    (absorbed : Absorbed looks record)
    (tells : after.conditions.lookedUp = before.conditions.lookedUp.after record) :
    Heeds looks before (record ++ .revised after.conditions ::
      (before.conditions.changes after.conditions).flatMap changeEffects) after := by
  let changes := before.conditions.changes after.conditions
  have revised : Heeds [] after (.revised after.conditions :: changes.flatMap changeEffects)
      after := by
    have announced : Heeds [] after _ after :=
      heeds_asides (aside_changeEffects changes) rfl
    refine ⟨⟨announced.known, ?_, announced.meanwhile⟩, ?_⟩
    · rintro conditions same
      cases same
      rfl
    · exact ⟨announced.absorbed.calls, announced.absorbed.warns⟩
  have read : Heeds looks before record after :=
    ⟨⟨tells, .of_unrevised fun conditions member => by cases inquiries _ member⟩, absorbed⟩
  simpa using read.append revised

theorem heeding_revise {change : Conditions → Conditions}
    (keeps : ∀ conditions, (change conditions).lookedUp = conditions.lookedUp) :
    Obeys heeding (revise change) := by
  intro controller
  have recorded : Heeds [] controller ([] ++ _) ((revise change).run controller).state :=
    heeds_recorded (by simp) ⟨rfl, rfl⟩ (keeps _)
  exact heeding_of_heeds recorded

theorem heeding_onHost {Value : Type} {activity : Activity Host Value}
    (simply : Obeys Host.askingSimply activity) : Obeys heeding (onHost activity) := by
  intro controller
  refine heeding_of_heeds ⟨⟨?_, ?_⟩, .of_simply (simply controller.host)⟩
  · exact (LookedUp.after_of_simply _ (simply controller.host)).symm
  · refine .of_unrevised fun conditions member => ?_
    rcases simply controller.host _ member with ⟨exchange, impossible, -⟩
    cases impossible

theorem heeding_update {reading : Option Nat → Activity Host (Conditions → Conditions)}
    (reads : ∀ session, Obeys Host.reading (reading session))
    (absorbs : ∀ session, Obeys Host.absorbing (reading session))
    (tells : ∀ session, Host.Tells (reading session)) : Obeys heeding (update reading) := by
  intro controller
  rcases absorbs controller.session? controller.host with ⟨looks, unmeasured, absorbed⟩
  refine ⟨looks, unmeasured, ?_⟩
  have recorded : Heeds looks controller _ ((update reading).run controller).state :=
    heeds_recorded (reads controller.session? controller.host).inquiries absorbed
      (tells controller.session? controller.host controller.conditions)
  simpa [update] using recorded

theorem heeding_reread (signal : Signal) : Obeys heeding (reread signal) :=
  heeding_update (fun session => Host.readFor_reads session signal)
    (fun session => Host.readFor_absorbs session signal) fun session =>
    Host.tells_readFor session signal

theorem heeding_refresh : Obeys heeding refresh :=
  heeding_update Host.readAll_reads Host.readAll_absorbs Host.tells_readAll

theorem heeding_recordOutOfSpace (ranOut : Bool) : Obeys heeding (recordOutOfSpace ranOut) :=
  Obeys.bind (heeding_revise fun _ => rfl) fun _ => .pure _

theorem heeding_replaceSources (change : Sources → Sources) :
    Obeys heeding (onHost (Host.replaceSources change)) := fun _ =>
  heeding_of_heeds (heeds_asides (by simp [Host.replaceSources, isAside, Effect.isQuiet]) rfl)

theorem heeding_stages : CoreStages heeding where
  requiredBytes := heeding_onHost Host.requiredBytes_simply
  replaceSources := heeding_replaceSources
  recordOutOfSpace := heeding_recordOutOfSpace
  readinessChanged := heeding_reread .appReady
  freeSpaceChanged := heeding_reread .willEnterForeground
  reread signal controller _ := heeding_reread signal controller
  refresh controller _ := heeding_refresh controller

theorem heeding_openObservation : Obeys heeding openObservation :=
  (heeding_emit rfl).bind fun _ => (heeding_onHost Host.beginBattery_simply).bind fun _ =>
    Obeys.bind (heeding_modify fun _ => rfl) fun _ =>
      (heeding_emit rfl).bind fun _ => heeding_emit rfl

theorem heeding_release (observation : Observation) : Obeys heeding (release observation) :=
  Obeys.bind (heeding_modify fun _ => rfl) fun _ =>
    (heeding_onHost (Host.endBattery_simply _)).bind fun _ => heeding_emit rfl

theorem heeding_stopObserving : Obeys heeding stopObserving :=
  stopObserving_obeys heeding_release (heeding_emit rfl) (heeding_emit rfl)

theorem heeding_followWork (isEmpty : Bool) : Obeys heeding (followWork isEmpty) :=
  followWork_obeys (startObserving_obeys heeding_openObservation heeding_refresh)
    heeding_stopObserving isEmpty

theorem heeding_emptied (queue : Queue) : Obeys heeding (emptied queue) :=
  Obeys.bind (heeding_revise fun _ => rfl) fun _ => stopIfAllEmpty_obeys heeding_stopObserving

theorem heeding_shutDown : Obeys heeding shutDown :=
  (heeding_emit rfl).bind fun _ => heeding_stopObserving

private theorem heeds_lookAtQueues (controller : Controller) :
    Heeds [.probe controller.host.sources.measured] controller
      (lookAtQueues.run controller).effects (lookAtQueues.run controller).state := by
  have inquiries := (Host.probeQueues_reads controller.host).inquiries
  have absorbed : Absorbed [.probe controller.host.sources.measured] _ := Look.absorbed _
  have known := Host.after_probeQueues controller.conditions.lookedUp controller.host
  rw [← Host.effects_probeQueues] at absorbed
  have recorded : Heeds _ controller _ (lookAtQueues.run controller).state :=
    heeds_recorded inquiries absorbed known.symm
  simpa [lookAtQueues] using recorded

private theorem heeds_begin (queue : Queue) (controller : Controller) :
    ∃ others, (∀ look ∈ others, look.isProbe = false) ∧
      Heeds (.probe controller.host.sources.measured :: others) controller
        ((Controller.begin queue).run controller).effects
        ((Controller.begin queue).run controller).state := by
  have rest (probe : QueueProbe) : Obeys heeding (do
      followWork probe.allEmpty
      let _ ← revise (recordProbe probe)
      currentStatus queue) :=
    (heeding_followWork _).bind fun _ => Obeys.bind (heeding_revise fun _ => rfl) fun _ =>
      currentStatus_obeys queue
  obtain ⟨others, unmeasured, heeds⟩ :=
    rest (lookAtQueues.run controller).value (lookAtQueues.run controller).state
  refine ⟨others, unmeasured, ?_⟩
  have both := (heeds_lookAtQueues controller).append heeds
  simpa [Controller.begin, observeIfNeeded, recordProbe] using both

private theorem empty_begin (queue : Queue) (controller : Controller) :
    ((Controller.begin queue).run controller).state.conditions.empty =
      let empty := emptyIn controller.host.sources.measured
      ⟨some empty.upload, some empty.download⟩ := by
  rw [Sources.emptyIn_measured, ← Host.empty_probeQueues]
  rfl

/-! ## Operations -/

namespace Operation

def missed? : Operation → Option Nat
  | .recover missed => some missed
  | _ => none

/-- The reply, given the controller after the operation. -/
def replyIn (after : Controller) : Operation → Option Reply
  | .serve (.status queue) => some (.status (after.status queue))
  | .serve (.begin queue) => some (.status (after.status queue))
  | .serve .retry => some .done
  | .serve (.emptied _) => some .done
  | .serve .refreshSpace => some (.status (after.status .download))
  | .serve .outOfSpace => some (.status (after.status .download))
  | .serve .conditions => some (.conditions after.conditions)
  | .serve .isObserving => some (.observing after.isObserving)
  | .jobFailed .download failure =>
      if failure.isOutOfSpace then some (.status (after.status .download)) else none
  | _ => none

/-- These are looks that the operation takes. Only whoever begins measures the queues, before
anything else, and what was found empty counts as empty afterwards. -/
def Takes (looks : List Look) (after : Controller) : Operation → Prop
  | .serve (.begin _) => ∃ opened others, looks = .probe opened :: others ∧
      (∀ look ∈ others, look.isProbe = false) ∧
      after.conditions.empty = ⟨some (emptyIn opened).upload, some (emptyIn opened).download⟩
  | _ => ∀ look ∈ looks, look.isProbe = false

private theorem value_eq_replyIn (operation : Operation) (controller : Controller) :
    (operation.perform.run controller).value =
      operation.replyIn (operation.perform.run controller).state := by
  cases operation with
  | serve request => cases request <;> rfl
  | jobFailed queue failure =>
      cases queue with
      | upload => rfl
      | download =>
          rw [perform, Controller.jobFailed, replyIn]
          cases failure.isOutOfSpace <;> rfl
  | _ => rfl

private theorem takes_of_unmeasured {operation : Operation} {looks : List Look} {after : Controller}
    (unmeasured : ∀ look ∈ looks, look.isProbe = false)
    (other : ∀ queue, operation ≠ .serve (.begin queue)) : operation.Takes looks after := by
  cases operation with
  | serve request =>
      cases request with
      | begin queue => exact absurd rfl (other queue)
      | _ => exact unmeasured
  | _ => exact unmeasured

end Operation

theorem heeding_operation {operation : Operation} (unlagged : operation.missed? = none)
    (inside : operation ≠ .lookAtSpace) (other : ∀ queue, operation ≠ .serve (.begin queue)) :
    Obeys heeding operation.perform := by
  rcases operation.cases_of_decides with idle | ⟨queue, rfl⟩ | ⟨queue, rfl⟩ | rfl | rfl
  · refine heeding_stages.operation (fun missed same => ?_) (fun same => absurd same inside) idle
    rw [same] at unlagged
    cases unlagged
  · exact absurd rfl (other queue)
  · exact ((heeding_emptied queue).bind fun _ => .pure _).map _
  · exact heeding_shutDown.map _
  · exact (discard_obeys heeding_release).map _

/-- What an operation does if lookups fail. -/
structure AbsorbsFailures (operation : Operation) (before : Controller)
    (performed : Outcome Controller (Option Reply)) : Prop where
  replies : performed.value = operation.replyIn performed.state
  looks : ∃ looks, queueCalls performed.effects = looks.flatMap Look.calls ∧
    operation.Takes looks performed.state
  warns : warnings performed.effects =
    operation.missed?.toList.map LogLine.observationLagged ++
      (failedLookups performed.effects).map lineOf
  upToDate : operation ≠ .lookAtSpace → UpToDate before performed.effects performed.state

theorem Heeds.absorbsFailures {looks : List Look} {operation : Operation} {before : Controller}
    {performed : Outcome Controller (Option Reply)}
    (heeds : Heeds looks before performed.effects performed.state)
    (replies : performed.value = operation.replyIn performed.state)
    (takes : operation.Takes looks performed.state) (unlagged : operation.missed? = none) :
    AbsorbsFailures operation before performed where
  replies := replies
  looks := ⟨looks, heeds.absorbed.calls, takes⟩
  warns := by
    rw [unlagged]
    exact heeds.absorbed.warns
  upToDate _ := heeds.toUpToDate

theorem absorbsFailures_recover (missed : Nat) (controller : Controller) :
    AbsorbsFailures (.recover missed) controller
      ((Operation.recover missed).perform.run controller) := by
  rcases heeding_stages.refreshIfObserving controller with ⟨looks, unmeasured, heeds⟩
  have run : (Operation.recover missed).perform.run controller =
      ⟨none, (refreshIfObserving.run controller).state,
        .logged (.observationLagged missed) :: (refreshIfObserving.run controller).effects⟩ := by
    simp [Operation.perform, recover]
  rw [run]
  exact {
    replies := rfl
    looks := ⟨looks, heeds.absorbed.calls, unmeasured⟩
    warns := congrArg (List.cons (LogLine.observationLagged missed)) heeds.absorbed.warns
    upToDate := fun _ => ⟨heeds.known, fun _ impossible => (by cases impossible), heeds.meanwhile⟩ }

theorem absorbsFailures_lookAtSpace (controller : Controller) :
    AbsorbsFailures .lookAtSpace controller (Operation.lookAtSpace.perform.run controller) := by
  have absorbs : Obeys Host.absorbing (Host.requiredBytes >>= fun _ => Host.freeSpace) :=
    (Host.absorbing_of_simply Host.requiredBytes_simply).bind fun _ => Host.lookUp_absorbs rfl
  rcases absorbs controller.host with ⟨looks, unmeasured, absorbed⟩
  have effects : (Operation.lookAtSpace.perform.run controller).effects =
      ((Host.requiredBytes >>= fun _ => Host.freeSpace).run controller.host).effects := by
    simp [Operation.perform]
  rw [← effects] at absorbed
  exact {
    replies := rfl
    looks := ⟨looks, absorbed.calls, unmeasured⟩
    warns := absorbed.warns
    upToDate := fun impossible => absurd rfl impossible }

theorem absorbsFailures (operation : Operation) (controller : Controller) :
    AbsorbsFailures operation controller (operation.perform.run controller) := by
  have replies := operation.value_eq_replyIn controller
  by_cases aside : operation = .lookAtSpace
  · subst aside
    exact absorbsFailures_lookAtSpace controller
  by_cases begins : ∃ queue, operation = .serve (.begin queue)
  · rcases begins with ⟨queue, rfl⟩
    rcases heeds_begin queue controller with ⟨others, unmeasured, heeds⟩
    have performed : Heeds (.probe controller.host.sources.measured :: others) controller
        ((Operation.serve (.begin queue)).perform.run controller).effects
        ((Operation.serve (.begin queue)).perform.run controller).state := by
      simpa [Operation.perform, serve] using heeds
    refine performed.absorbsFailures replies ⟨_, others, rfl, unmeasured, ?_⟩ rfl
    exact empty_begin queue controller
  · have other (queue : Queue) (same : operation = .serve (.begin queue)) := begins ⟨queue, same⟩
    cases unlagged : operation.missed? with
    | some missed =>
        cases operation <;> cases unlagged
        exact absorbsFailures_recover missed controller
    | none =>
        rcases heeding_operation unlagged aside other controller with ⟨looks, unmeasured, heeds⟩
        exact heeds.absorbsFailures replies (Operation.takes_of_unmeasured unmeasured other) unlagged

/-! ## Runs -/

def isLagLine (line : LogLine) : Bool :=
  line.message == (LogLine.observationLagged 0).message

private theorem isLagLine_lineOf (failed : Lookup × ReadFailure) :
    isLagLine (lineOf failed) = false := by
  rcases failed with ⟨lookup, failure⟩
  cases lookup <;> simp [isLagLine, lineOf, Lookup.failureLine, LogLine.observationLagged]

def looking : Law Controller where
  holds _ record _ := ∃ looks : List Look, queueCalls record = looks.flatMap Look.calls
  idle _ := ⟨[], rfl⟩
  join := by
    rintro before between after first second ⟨looks, earlier⟩ ⟨others, later⟩
    exact ⟨looks ++ others, by rw [queueCalls_append, earlier, later, List.flatMap_append]⟩

def warning (kind : LogLine → Bool) : Law Controller where
  holds _ record _ := (warnings record).filter kind = (failedLookups record).map lineOf
  idle _ := rfl
  join first second := by
    rw [warnings_append, failedLookups_append, List.filter_append, first, second, List.map_append]

/-- What a run does if lookups fail. -/
structure RunAbsorbsFailures (before : Controller) (operations : List Operation) : Prop where
  looks : ∃ looks : List Look, queueCalls (before.recordOf operations) = looks.flatMap Look.calls
  /-- The warnings are the failed lookups, but for those about missed signals. -/
  warns : (warnings (before.recordOf operations)).filter (fun line => !isLagLine line) =
    (failedLookups (before.recordOf operations)).map lineOf
  unlagged : (∀ operation ∈ operations, operation.missed? = none) →
    warnings (before.recordOf operations) =
      (failedLookups (before.recordOf operations)).map lineOf
  upToDate : (∀ operation ∈ operations, operation ≠ .lookAtSpace) →
    UpToDate before (before.recordOf operations) (before.following operations)

private theorem filter_lineOf (failed : List (Lookup × ReadFailure)) :
    (failed.map lineOf).filter (fun line => !isLagLine line) = failed.map lineOf := by
  apply List.filter_eq_self.mpr
  intro line member
  rcases List.mem_map.mp member with ⟨one, -, rfl⟩
  rw [isLagLine_lineOf]
  rfl

private theorem warning_operation (operation : Operation) :
    Obeys (warning fun line => !isLagLine line) operation.perform := by
  intro controller
  have warns := (absorbsFailures operation controller).warns
  have lagged : (operation.missed?.toList.map LogLine.observationLagged).filter
      (fun line => !isLagLine line) = [] := by
    cases operation.missed? <;> rfl
  change (warnings _).filter _ = _
  rw [warns, List.filter_append, lagged, filter_lineOf, List.nil_append]

theorem runAbsorbsFailures (controller : Controller) (operations : List Operation) :
    RunAbsorbsFailures controller operations := by
  have looks : Obeys looking (performAll operations) :=
    performAll_obeys fun operation _ controller => by
      rcases (absorbsFailures operation controller).looks with ⟨looks, calls, -⟩
      exact ⟨looks, calls⟩
  have upToDate (inside : ∀ operation ∈ operations, operation ≠ .lookAtSpace) :
      Obeys keepingUpToDate (performAll operations) :=
    performAll_obeys fun operation member controller =>
      (absorbsFailures operation controller).upToDate (inside operation member)
  refine ⟨looks controller, ?_, fun unlagged => ?_, fun inside => upToDate inside controller⟩
  · exact performAll_obeys (fun operation _ => warning_operation operation) controller
  · have warns : Obeys (warning fun _ => true) (performAll operations) :=
      performAll_obeys fun operation member controller => by
        have warned := (absorbsFailures operation controller).warns
        rw [unlagged operation member] at warned
        change (warnings _).filter _ = _
        rw [warned, List.filter_true]
        rfl
    have whole := warns controller
    change (warnings _).filter _ = _ at whole
    rwa [List.filter_true] at whole

/-- Lookups may fail at any time. No operation fails for it; every look at the queues is carried to
its end; every failure is logged once, in order; and what was not found out is unknown. -/
theorem failures_absorbed :
    (∀ (operation : Operation) (controller : Controller),
      AbsorbsFailures operation controller (operation.perform.run controller)) ∧
    ∀ (controller : Controller) (operations : List Operation),
      RunAbsorbsFailures controller operations :=
  ⟨absorbsFailures, runAbsorbsFailures⟩

/-- Uploads cannot be measured, downloads can. The second look at the queues does not even begin,
and free space and the preference cannot be read either: downloads run all the same. -/
theorem failures_absorbed_of_broken_store :
    let failure : ReadFailure := .store "disk error"
    let sources := { Sources.calm with
      queues := ⟨.ok (), [.error failure]⟩
      pending := .both (.always (.error failure))
      ready := .both (.always (.ok true))
      cellularAllowed := .always (.error failure)
      freeSpace := .always (.error failure) }
    let controller := (create.run (.create {} sources true)).value
    let operations : List Operation := [.serve (.begin .download), .serve .retry]
    warnings (controller.recordOf operations) =
      ([.pendingCount .upload 1, .openQueues, .cellularAllowed, .freeSpace, .freeSpace] :
        List Lookup).map (fun lookup => lookup.failureLine failure) ∧
    (controller.following operations).conditions.lookedUp = ⟨none, none, none⟩ ∧
    (controller.following operations).conditions.empty = ⟨some true, some false⟩ ∧
    (controller.following operations).status .download = .running ∧
    RunAbsorbsFailures controller operations := by
  intro failure sources controller operations
  have absorbs := failures_absorbed.2 controller operations
  exact ⟨by decide +kernel, by decide +kernel, by decide +kernel, by decide +kernel, absorbs⟩

end Controller

end TransferGate
