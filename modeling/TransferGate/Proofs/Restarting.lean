import TransferGate.Proofs.Measuring
import TransferGate.Proofs.Monitoring
import TransferGate.Proofs.Staleness

/-! # Beginning afresh

A controller that has recorded no work and finds some begins to observe. Whatever it did
before, nothing of that is left then but whether space ran out and the requirement that its
host keeps: everything else it reads again, after it has taken its seat on the bus and
opened a battery session, and what it says first is that it observes.

The last part needs an invariant. The look at the queues records first whether downloads
are suspended, and that changes no status because the controller is at rest: if it knows of
a registration at all, it has looked at the queues, so that both are known to be empty.
This is `Controller.KnowsQueues`.
-/

namespace TransferGate

open Activity

def Sources.finds (sources : Sources) : PerQueue Bool :=
  match sources.queues.current with
  | .error _ => .both true
  | .ok _ =>
      ⟨(sources.lookUp (.pendingCount .upload 1)).1.toOption.getD 0 == 0,
        !(sources.lookUp (.hasReadyWork .download)).1.toOption.getD false⟩

namespace Host

theorem empty_probeQueues (host : Host) :
    (probeQueues.run host).value.empty = host.sources.finds := by
  rw [probeQueues, run_bind, run_lookUp, Sources.finds]
  cases opened : host.sources.queues.current with
  | error _ => simp only [Sources.lookUp, opened, Except.toOption, run_pure]
  | ok _ =>
      simp only [Sources.lookUp, opened, Except.toOption, run_bind, run_pure]
      have pending (host : Host) := value_lookUp (.pendingCount .upload 1) host
      have ready (host : Host) := value_lookUp (.hasReadyWork .download) host
      rw [pending, ready, state_lookUp]
      rfl

theorem value_probeQueues (host : Host) :
    (probeQueues.run host).value = ⟨host.sources.finds, host.sources.currentSuspension⟩ := by
  rw [← empty_probeQueues]
  exact congrArg (QueueProbe.mk _) (suspension_probeQueues host)

namespace Alike

variable {before between after : Host}

theorem trans (first : Alike before between) (second : Alike between after) :
    Alike before after :=
  ⟨second.sources.trans first.sources, second.hasBattery.trans first.hasBattery,
    second.required.trans first.required⟩

private theorem of_reading {Value : Type} {activity : Activity Host Value}
    (reads : Obeys reading activity) (spares : Obeys frugal activity) {host : Host}
    (constant : host.sources.changesLeft = 0) :
    Alike host (activity.run host).state := by
  have sources := (reads host).sources_of_constant constant
  exact ⟨sources, (reads host).hasBattery, required_congr sources (spares host).1⟩

private theorem facet_of_sessions {left right : Host} (alike : Alike left right)
    {leftSession rightSession : Option Nat} (sessions : leftSession.isSome = rightSession.isSome)
    (facet : Facet) : right.facet rightSession facet = left.facet leftSession facet := by
  rw [alike.facet]
  cases facet with
  | about signal =>
      cases signal with
      | batteryLevelChanged =>
          cases leftSession <;> cases rightSession <;> first | rfl | cases sessions
      | _ => rfl
  | _ => rfl

end Alike

private theorem isSome_beginBattery (host : Host) :
    (beginBattery.run host).value.isSome = host.hasBattery := by
  rw [run_beginBattery]
  cases host.hasBattery <;> rfl

end Host

namespace Controller

/-! ## Who knows of a registration has looked at the queues -/

/-- Whoever observes or knows of a registration knows of both queues whether they are empty. -/
def KnowsQueues (controller : Controller) : Prop :=
  controller.isObserving = true ∨ controller.conditions.registered.isSome = true →
    ∀ queue, (controller.conditions.empty.get queue).isSome = true

def unknowing : Law Controller where
  holds before _ after :=
    after.isObserving = true ∨ after.conditions.registered.isSome = true →
      before.isObserving = true ∨ before.conditions.registered.isSome = true
  idle _ := id
  join first second := first ∘ second

theorem unknowing_stages : IdleStages unknowing where
  log _ _ := id
  requiredBytes _ := id
  freeSpace _ := id
  replaceSources _ _ := id
  recordOutOfSpace _ _ := id
  readinessChanged _ := id
  freeSpaceChanged _ := id
  reread _ _ observing _ := .inl observing
  refresh _ observing _ := .inl observing

theorem conditions_discard (controller : Controller) :
    (discard.run controller).state.conditions = controller.conditions := by
  rw [discard, run_bind, run_get]
  cases controller.observation <;> rfl

private theorem KnowsQueues.of_resting {before after : Controller} (knows : before.KnowsQueues)
    (conditions : after.conditions = before.conditions) (resting : after.isObserving = false) :
    after.KnowsQueues := by
  intro learnt
  rw [resting, conditions] at learnt
  rw [conditions]
  exact knows (.inr (by simpa using learnt))

private theorem KnowsQueues.emptied {controller : Controller} (knows : controller.KnowsQueues)
    (queue : Queue) : ((emptied queue).run controller).state.KnowsQueues := by
  have conditions := conditions_emptied queue controller
  intro learnt other
  rw [conditions]
  refine isSome_setEmpty (knows ?_ other)
  refine learnt.imp (fun observing => ?_) fun registered => ?_
  · rcases (emptied_right controller queue).mp observing with ⟨someWork, wasEmpty | wasObserving⟩
    · rw [conditions] at someWork
      rw [allEmpty_setEmpty someWork] at wasEmpty
      cases wasEmpty
    · exact wasObserving
  · rw [conditions] at registered
    exact registered

def knowing : Law Controller where
  holds before _ after := before.KnowsQueues → after.KnowsQueues
  idle _ := id
  join first second := second ∘ first

theorem knowing_operation (operation : Operation) : Obeys knowing operation.perform := by
  intro controller knows
  rcases operation.cases_of_decides with idle | ⟨queue, rfl⟩ | ⟨queue, rfl⟩ | rfl | rfl
  · intro learnt
    rw [(idling_stages.operation idle controller).2]
    exact knows (unknowing_stages.operation idle controller learnt)
  · exact fun _ => known_begin controller queue
  · exact knows.emptied queue
  · exact knows.of_resting (conditions_stopObserving controller)
      (isObserving_stopObserving controller)
  · exact knows.of_resting (conditions_discard controller) (isObserving_discard controller)

theorem knowsQueues_following (host : Host) (operations : List Operation) :
    ((create.run host).value.following operations).KnowsQueues := by
  apply performAll_obeys (fun operation _ => knowing_operation operation) _
  intro learnt
  simp [create, isObserving, Conditions.unread] at learnt

private theorem KnowsQueues.atRest {controller : Controller} (knows : controller.KnowsQueues)
    (noWork : controller.conditions.allEmpty = true) : controller.conditions.AtRest := by
  cases registered : controller.conditions.registered with
  | none => exact .inl registered
  | some _ =>
      refine .inr fun queue => ?_
      have known := knows (.inr (by rw [registered]; rfl)) queue
      have isEmpty := List.all_eq_true.mp noWork queue (Queue.mem_all queue)
      rcases Option.isSome_iff_exists.mp known with ⟨empty, recorded⟩
      rw [recorded, Option.getD_some] at isEmpty
      rw [recorded, isEmpty]

end Controller

private theorem Conditions.AtRest.changes_suspension {conditions : Conditions}
    (atRest : conditions.AtRest) (suspended : Option Bool) :
    conditions.changes { conditions with downloadsSuspended := suspended } = [] := by
  have same (queue : Queue) : conditions.status queue =
      Conditions.status { conditions with downloadsSuspended := suspended } queue := by
    rcases atRest with unknown | empty
    · simp [Conditions.status, Conditions.knownEmpty, Conditions.unprepared, unknown]
    · rw [Conditions.status_of_empty (empty queue), Conditions.status_of_empty]
      exact empty queue
  simp [Conditions.changes, ← same]

namespace Controller

/-! ## How observing begins -/

/-- The record first tells that observing began. All questions but those of the look at the queues
are asked after a seat was taken and a battery session was begun. -/
structure BeginsAfresh (before : Controller) (record : List Effect) : Prop where
  first : (record.filterMap Effect.notice?).head? = some .observationStarted
  order :
    let probed := Host.probeQueues.run before.host
    let begun := Host.beginBattery.run probed.state
    let read := (Host.readAll begun.value).run begun.state
    ∃ looked behind,
      record = probed.effects ++ .revised looked :: .attached :: (begun.effects ++
        .logged .observationStarted :: .announced .observationStarted ::
          (read.effects ++ behind)) ∧
      behind.filterMap Effect.question? = []

def renewed (controller : Controller) : Conditions :=
  let probed := Host.probeQueues.run controller.host
  let begun := Host.beginBattery.run probed.state
  recordProbe probed.value (((Host.readAll begun.value).run begun.state).value
    { controller.conditions with downloadsSuspended := probed.value.downloadsSuspended })

variable {controller : Controller}

/-- A controller that rests and finds work where none was recorded reads everything again. -/
theorem begin_afresh (resting : controller.isObserving = false)
    (noWork : controller.conditions.allEmpty = true) (atRest : controller.conditions.AtRest)
    (work : (Host.probeQueues.run controller.host).value.allEmpty = false) (queue : Queue) :
    let outcome := (Controller.begin queue).run controller
    outcome.state.isObserving = true ∧ outcome.state.conditions = controller.renewed ∧
      BeginsAfresh controller outcome.effects := by
  rcases controller with ⟨conditions, observation, host⟩
  obtain rfl : observation = none := by simpa [isObserving] using resting
  intro outcome
  let probed := Host.probeQueues.run host
  let begun := Host.beginBattery.run probed.state
  let read := (Host.readAll begun.value).run begun.state
  let looked := { conditions with downloadsSuspended := probed.value.downloadsSuspended }
  let reading := (revise read.value).run ⟨looked, some ⟨begun.value⟩, read.state⟩
  let recording := (revise (recordProbe probed.value)).run reading.state
  have stillNoWork : looked.allEmpty = true := (allEmpty_congr rfl).trans noWork
  have unchanged : conditions.changes looked = [] := atRest.changes_suspension _
  have run : outcome = ⟨recording.state.status queue, recording.state,
      probed.effects ++ .revised looked :: .attached :: (begun.effects ++
        .logged .observationStarted :: .announced .observationStarted ::
          (read.effects ++ (reading.effects ++ recording.effects)))⟩ := by
    have looks : lookAtQueues.run ⟨conditions, none, host⟩ =
        ⟨probed.value, ⟨looked, none, probed.state⟩, probed.effects ++ [.revised looked]⟩ := by
      simp [lookAtQueues, probed, looked, unchanged]
    have follows : (followWork probed.value.allEmpty).run ⟨looked, none, probed.state⟩ =
        startObserving.run ⟨looked, none, probed.state⟩ := by
      simp [followWork, probed, work, stillNoWork]
    have starts : startObserving.run ⟨looked, none, probed.state⟩ =
        ⟨(), reading.state, .attached :: (begun.effects ++
          .logged .observationStarted :: .announced .observationStarted ::
            (read.effects ++ reading.effects))⟩ := by
      simp [startObserving, ensureObserving, run_openObservation, refresh, update, session?, begun,
        read, reading]
    simp only [outcome, Controller.begin, observeIfNeeded, currentStatus, run_bind, run_map,
      run_get, run_pure, looks, follows, starts]
    simp [recording, recordProbe]
  rw [run]
  refine ⟨rfl, rfl, ?_, looked, reading.effects ++ recording.effects, rfl, ?_⟩
  · have silentProbe := Effect.notices_of_isInquiry (Host.probeQueues_reads host).inquiries
    have silentBattery := Effect.notices_of_isInquiry
      (Host.beginBattery_reads probed.state).inquiries
    simp only [List.filterMap_append, List.filterMap_cons, Effect.notice?]
    rw [silentProbe, silentBattery]
    rfl
  · rw [List.filterMap_append, questions_revise, questions_revise, List.append_nil]

/-! ## Whatever came before -/

/-- Neither has recorded work. They remember the same about space, and their hosts go on giving the
same answers, among them that there is work. -/
structure BeginAlike (left right : Controller) : Prop where
  leftIdle : left.conditions.allEmpty = true
  rightIdle : right.conditions.allEmpty = true
  ranOutOfSpace : left.conditions.ranOutOfSpace = right.conditions.ranOutOfSpace
  requirement : left.host.requirement.known = right.host.requirement.known
  multiplier : left.host.requirement.known = none →
    left.host.requirement.multiplier = right.host.requirement.multiplier
  hasBattery : left.host.hasBattery = right.host.hasBattery
  sources : left.host.sources = right.host.sources
  constant : left.host.sources.changesLeft = 0
  work : (Host.probeQueues.run left.host).value.allEmpty = false

private theorem facet_renewed (constant : controller.host.sources.changesLeft = 0) (facet : Facet) :
    controller.renewed.facet facet = controller.host.facet
      (Host.beginBattery.run (Host.probeQueues.run controller.host).state).value facet := by
  have probed := Host.Alike.of_reading Host.probeQueues_reads Host.probeQueues_frugal constant
  have begun := Host.Alike.of_reading Host.beginBattery_reads Host.beginBattery_frugal
    (probed.sources ▸ constant)
  have stillConstant := (probed.trans begun).sources ▸ constant
  have recorded (probe : QueueProbe) (conditions : Conditions) :
      (recordProbe probe conditions).facet facet = conditions.facet facet := by
    cases facet with
    | about signal => cases signal <;> rfl
    | _ => rfl
  rw [renewed, recorded, Host.facet_readAll stillConstant, (probed.trans begun).facet]

private theorem BeginAlike.renewed {left right : Controller} (alike : BeginAlike left right) :
    left.renewed = right.renewed := by
  have hosts : Host.Alike left.host right.host := by
    refine ⟨alike.sources.symm, alike.hasBattery.symm, ?_⟩
    rw [Host.required, Host.required, ← alike.requirement, ← alike.sources]
    cases unknown : left.host.requirement.known with
    | none => rw [Requirement.bytesFor, Requirement.bytesFor, alike.multiplier unknown]
    | some bytes => rfl
  have probed (controller : Controller) :
      (Host.probeQueues.run controller.host).state.hasBattery = controller.host.hasBattery :=
    (Host.probeQueues_reads controller.host).hasBattery
  refine Conditions.eq_of_facets (fun facet => ?_) ?_ alike.ranOutOfSpace
  · rw [facet_renewed alike.constant, facet_renewed (alike.sources ▸ alike.constant)]
    refine (hosts.facet_of_sessions ?_ facet).symm
    rw [Host.isSome_beginBattery, Host.isSome_beginBattery, probed, probed, alike.hasBattery]
  · simp only [Controller.renewed, recordProbe, Host.empty_probeQueues, alike.sources]

/-- Two controllers with any histories that have recorded no work and find some, and whose hosts
give the same constant answers, observe with the same conditions from then on. Each of them says
first that it observes, and it has taken its seat and opened its battery session before it reads
anything again. -/
theorem restart_forgets (leftSettings rightSettings : Settings) (leftSources rightSources : Sources)
    (leftBattery rightBattery : Bool) (leftPast rightPast : List Operation)
    (leftQueue rightQueue : Queue) :
    let left :=
      (create.run (.create leftSettings leftSources leftBattery)).value.following leftPast
    let right :=
      (create.run (.create rightSettings rightSources rightBattery)).value.following rightPast
    BeginAlike left right →
      let leftBegun := (Controller.begin leftQueue).run left
      let rightBegun := (Controller.begin rightQueue).run right
      leftBegun.state.isObserving = true ∧ rightBegun.state.isObserving = true ∧
        leftBegun.state.conditions = rightBegun.state.conditions ∧
        BeginsAfresh left leftBegun.effects ∧ BeginsAfresh right rightBegun.effects := by
  intro left right alike leftBegun rightBegun
  have afresh (host : Host) (past : List Operation) (queue : Queue) :
      let controller := (create.run host).value.following past
      controller.conditions.allEmpty = true →
        (Host.probeQueues.run controller.host).value.allEmpty = false →
          let begun := (Controller.begin queue).run controller
          begun.state.isObserving = true ∧ begun.state.conditions = controller.renewed ∧
            BeginsAfresh controller begun.effects := by
    intro controller noWork work
    have observes := isObserving_following (create_resting host) (create_noWork host) past
    refine begin_afresh ?_ noWork ((knowsQueues_following host past).atRest noWork) work queue
    rw [← Bool.not_eq_true, observes]
    simp [controller, noWork]
  have rightWork : (Host.probeQueues.run right.host).value.allEmpty = false := by
    rw [Host.value_probeQueues, ← alike.sources, ← Host.value_probeQueues]
    exact alike.work
  obtain ⟨leftObserves, leftRenewed, leftOrder⟩ :=
    afresh _ leftPast leftQueue alike.leftIdle alike.work
  obtain ⟨rightObserves, rightRenewed, rightOrder⟩ :=
    afresh _ rightPast rightQueue alike.rightIdle rightWork
  refine ⟨leftObserves, rightObserves, ?_, leftOrder, rightOrder⟩
  exact leftRenewed.trans (alike.renewed.trans rightRenewed.symm)

/-- A controller whose host was only asked for the requirement, and one that observed a host without
network until its queue was emptied, begin alike. -/
theorem restart_forgets_of_emptied :
    let asked : List Operation := [.requiredBytes]
    let observed : List Operation := [.replaceSources fun sources =>
      { sources with wifi := .always false }, .serve (.begin .upload), .serve (.emptied .upload),
      .replaceSources fun _ => .calm, .receive (.signal .reachabilityChanged)]
    let left := (create.run (.create {} .calm true)).value.following asked
    let right := (create.run (.create {} .calm true)).value.following observed
    BeginAlike left right ∧
      ((Controller.begin .upload).run left).state.conditions =
        ((Controller.begin .download).run right).state.conditions := by
  intro asked observed left right
  have alike : BeginAlike left right :=
    ⟨rfl, rfl, rfl, rfl, fun _ => rfl, rfl, rfl, rfl, rfl⟩
  have begins := restart_forgets {} {} .calm .calm true true asked observed .upload .download
    alike
  exact ⟨alike, begins.2.2.1⟩

end Controller

end TransferGate
