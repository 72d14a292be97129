import TransferGate.Proofs.Announcing

/-! # Admission

In the middle of an operation that stops observing, a controller may neither observe nor be at
rest. Then it is not announced how the queues stand before they are recorded as empty, so in
runs as well a status that is not idle is only told while somebody observes.
-/

namespace TransferGate

namespace Controller

open Activity

/-! ## Looking at the queues -/

def followed (controller : Controller) : Controller :=
  ((followWork (lookAtQueues.run controller).value.allEmpty).run
    (lookAtQueues.run controller).state).state

theorem isObserving_followed {controller : Controller} (observes : controller.ObservesWork) :
    controller.followed.isObserving = true ↔
      (lookAtQueues.run controller).value.allEmpty = false := by
  have idles := lookAtQueues_idles controller
  have work : WorkWhileObserving (lookAtQueues.run controller).state := by
    intro observing
    rw [idles.1] at observing
    rw [allEmpty_congr idles.2]
    exact (hasWork_iff controller).mp (observes.mp observing)
  rw [followed, isObserving_followWork work, idles.1, allEmpty_congr idles.2]
  have either : controller.conditions.allEmpty = true ∨ controller.isObserving = true := by
    cases someWork : controller.conditions.allEmpty with
    | true => exact .inl rfl
    | false => exact .inr (observes.mpr ((hasWork_iff controller).mpr someWork))
  exact and_iff_left either

private theorem registered_followed {controller : Controller} (calm : controller.Calm)
    (observing : controller.followed.isObserving = true) :
    controller.followed.conditions.registered.isSome = true := by
  have someWork := (isObserving_followed calm.observesWork).mp observing
  rw [followed, followWork, run_bind, run_get, someWork]
  cases noWork : (lookAtQueues.run controller).state.conditions.allEmpty with
  | true => rfl
  | false =>
      have sameWork := allEmpty_congr (lookAtQueues_idles controller).2
      rw [noWork] at sameWork
      have wasObserving := calm.observesWork.mpr ((hasWork_iff controller).mpr sameWork.symm)
      exact (calm.known wasObserving).1

def recordProbe (probe : QueueProbe) (conditions : Conditions) : Conditions :=
  { conditions with empty := ⟨some probe.empty.upload, some probe.empty.download⟩ }

private theorem atRest_of_allEmpty (conditions : Conditions) {probe : QueueProbe}
    (allEmpty : probe.allEmpty = true) : (recordProbe probe conditions).AtRest := by
  right
  intro queue
  have each := List.all_eq_true.mp allEmpty queue (Queue.mem_all queue)
  cases queue <;> exact congrArg some each

theorem telling_recordProbe {controller : Controller} (calm : controller.Calm) :
    telling.holds controller.followed
      ((revise (recordProbe (lookAtQueues.run controller).value)).run controller.followed).effects
      ((revise (recordProbe (lookAtQueues.run controller).value)).run controller.followed).state := by
  have isSteady := steady_revise (recordProbe (lookAtQueues.run controller).value)
    controller.followed
  cases observing : controller.followed.isObserving with
  | true => exact guarding_of_observing isSteady observing
  | false =>
      have allEmpty : (lookAtQueues.run controller).value.allEmpty = true := by
        by_contra someWork
        rw [Bool.not_eq_true, ← isObserving_followed calm.observesWork, observing] at someWork
        cases someWork
      refine ⟨announcing_brackets.steady isSteady, Guarded.of_unneeding fun effect member => ?_⟩
      rcases List.mem_cons.mp member with rfl | announced
      · rfl
      · exact Conditions.idle_changeEffects (atRest_of_allEmpty _ allEmpty) effect announced

theorem telling_begin {controller : Controller} (calm : controller.Calm) (queue : Queue) :
    telling.holds controller ((Controller.begin queue).run controller).effects
      ((Controller.begin queue).run controller).state := by
  have looked := (tells_of_settled calm.settled (steady_lookAtQueues controller)
    (resting_lookAtQueues controller)).2
  have follows := telling_followWork (lookAtQueues.run controller).value.allEmpty
    (lookAtQueues.run controller).state
  have recorded := telling.join (telling_recordProbe calm) (telling.idle _)
  exact telling.join (telling.join looked (telling.join follows recorded)) (telling.idle _)

theorem known_begin (controller : Controller) (queue other : Queue) :
    (((Controller.begin queue).run controller).state.conditions.empty.get other).isSome = true := by
  cases other <;> rfl

theorem calming_begin (queue : Queue) : Obeys calming (Controller.begin queue) := by
  intro controller calm
  have observes : ((Controller.begin queue).run controller).state.ObservesWork :=
    calm.observesWork.perform (show (Operation.serve (.begin queue)).givesUp = false from rfl)
  refine ⟨⟨observes, fun observing => ?_, fun notObserving => ?_⟩, telling_begin calm queue⟩
  · exact ⟨registered_followed calm observing, known_begin controller queue⟩
  · exact .inr (all_empty_of_known observes notObserving (known_begin controller queue))

/-! ## Hearing that a queue is empty -/

theorem conditions_emptied (queue : Queue) (controller : Controller) :
    ((emptied queue).run controller).state.conditions =
      controller.conditions.setEmpty queue true := by
  rw [emptied, stopIfAllEmpty]
  simp only [run_bind, run_revise, run_get]
  cases (controller.conditions.setEmpty queue true).allEmpty with
  | true => exact conditions_stopObserving _
  | false => rfl

theorem isSome_setEmpty {conditions : Conditions} {queue other : Queue}
    (known : (conditions.empty.get other).isSome = true) :
    ((conditions.setEmpty queue true).empty.get other).isSome = true := by
  cases queue <;> cases other <;> first | rfl | exact known

theorem telling_emptied {controller : Controller} (settled : controller.Settled) (queue : Queue) :
    telling.holds controller ((emptied queue).run controller).effects
      ((emptied queue).run controller).state := by
  have recorded := (tells_of_settled settled
    (steady_revise (fun conditions => conditions.setEmpty queue true) controller)
    (resting_revise (fun _ atRest => atRest.setEmpty queue) controller)).2
  have stops : Obeys telling stopIfAllEmpty := by
    apply Obeys.get.bind
    intro after
    cases after.conditions.allEmpty with
    | true => exact telling_stopObserving
    | false => exact .pure _
  exact telling.join recorded (stops _)

theorem calming_emptied (queue : Queue) : Obeys calming (emptied queue) := by
  intro controller calm
  have observes : ((emptied queue).run controller).state.ObservesWork :=
    calm.observesWork.perform (show (Operation.serve (.emptied queue)).givesUp = false from rfl)
  have conditions := conditions_emptied queue controller
  have wasObserving (observing : ((emptied queue).run controller).state.isObserving = true) :
      controller.isObserving = true := by
    have someWork := (hasWork_iff _).mp (observes.mp observing)
    rw [conditions] at someWork
    exact calm.observesWork.mpr ((hasWork_iff controller).mpr (allEmpty_setEmpty someWork))
  have flags (observing : controller.isObserving = true) (other : Queue) :
      (((emptied queue).run controller).state.conditions.empty.get other).isSome = true := by
    rw [conditions]
    exact isSome_setEmpty ((calm.known observing).2 other)
  refine ⟨⟨observes, fun observing => ⟨?_, flags (wasObserving observing)⟩, fun resting => ?_⟩,
    telling_emptied calm.settled queue⟩
  · rw [conditions]
    exact (calm.known (wasObserving observing)).1
  · cases observing : controller.isObserving with
    | true => exact .inr (all_empty_of_known observes resting (flags observing))
    | false =>
        rw [conditions]
        exact (calm.atRest observing).setEmpty queue

/-! ## Runs -/

theorem calming_obeys {operation : Operation} (goesOn : operation.givesUp = false) :
    Obeys calming operation.perform := by
  rcases operation.cases_of_decides with idle | ⟨queue, rfl⟩ | ⟨queue, rfl⟩ | rfl | rfl
  · exact calming_of_idle idle
  · exact ((calming_begin queue).map _).map _
  · exact ((calming_emptied queue).bind fun _ => .pure _).map _
  · cases goesOn
  · cases goesOn

private theorem calm_create (host : Host) : (create.run host).value.Calm where
  observesWork := observesWork_create host
  known observing := by cases observing
  atRest _ := .inl rfl

private theorem Calm.empty {controller : Controller} (calm : controller.Calm)
    (known : controller.conditions.registered.isSome = true)
    (notObserving : controller.isObserving = false) (queue : Queue) :
    controller.status queue = .empty := by
  rcases calm.atRest notObserving with unknown | empty
  · rw [unknown] at known
    cases known
  · exact Conditions.status_of_empty (empty queue)

theorem remembering_obeys {operation : Operation} (goesOn : operation.givesUp = false) :
    Obeys remembering operation.perform := by
  apply remembering_stages.operation
  cases operation <;> first | rfl | cases goesOn

/-- What the record of a run shows about admission, with the controller at its end. `observed`
says that the controller observed at some point of the run. -/
structure AdmitsObserved (record : List Effect) (observed : Prop) (last : Controller) : Prop where
  announced : ∀ ahead effect behind, record = ahead ++ effect :: behind →
    effect.tellsObserved = true → Underway ahead
  idle : last.isObserving = false → ∀ queue,
    last.status queue = .empty ∨ last.status queue = .notReady
  empty : last.isObserving = false → observed → ∀ queue, last.status queue = .empty

theorem admitsObserved {host : Host} {record : List Effect} {observed : Prop} {last : Controller}
    (calms : calming.holds (create.run host).value record last)
    (remembers : observed → last.conditions.registered.isSome = true) :
    AdmitsObserved record observed last := by
  rcases calms (calm_create host) with ⟨calm, -, guarded⟩
  constructor
  · intro ahead effect behind split tells
    exact underway_of_underwayAll (guarded.at_split split tells)
  · intro notObserving queue
    exact Status.isIdle_iff.mp ((calm.atRest notObserving).isIdle queue)
  · intro notObserving wasObserving
    exact calm.empty (remembers wasObserving) notObserving

theorem Calm.following {controller : Controller} (calm : controller.Calm)
    {operations : List Operation} (goOn : ∀ operation ∈ operations, operation.givesUp = false) :
    (controller.following operations).Calm :=
  (performAll_obeys (fun operation member => calming_obeys (goOn operation member)) controller
    calm).1

end Controller

namespace Effect

private theorem underway_of_isForeign (before : Bool) {effect : Effect}
    (foreign : effect.isForeign = true) : effect.underway before = before := by
  cases effect with
  | announced notice =>
      rcases notice with ⟨kind⟩
      cases kind <;> first | rfl | cases foreign
  | _ => first | rfl | cases foreign

private theorem tellsObserved_of_isForeign {effect : Effect} (foreign : effect.isForeign = true) :
    effect.tellsObserved = false := by
  cases effect with
  | announced notice =>
      rcases notice with ⟨kind⟩
      cases kind <;> first | rfl | cases foreign
  | _ => rfl

end Effect

namespace Gate

open Controller

theorem calming_ignores : Ignores calming where
  foreign controller effect foreign calm := by
    refine ⟨calm, (Effect.underway_of_isForeign _ foreign).symm, Guarded.of_unneeding ?_⟩
    simpa using Effect.tellsObserved_of_isForeign foreign
  signal controller signal calm := by
    refine ⟨calm, rfl, Guarded.of_unneeding ?_⟩
    simp [Effect.tellsObserved, Notice.signal]

theorem remembering_ignores : Ignores remembering where
  foreign _ _ _ := id
  signal _ _ := id

private theorem running_of_append {gate : Gate} {first second : List Move}
    (running : (gate.following (first ++ second)).server ≠ .stopped) :
    (gate.following first).server ≠ .stopped := by
  induction second using List.reverseRecOn with
  | nil => simpa using running
  | append_singleton second move induction =>
      rw [← List.append_assoc, following_concat, server_perform] at running
      exact induction fun stopped => running (phaseAfter_of_stopped stopped move)

end Gate

open Controller

/-- A status other than empty or not ready is announced only while observing is under way, and
while nobody observes no queue has such a status; once there was observing, both queues are empty
then. So it is in runs without giving up, and in a gate as long as the server has not stopped. -/
theorem admission_observed :
    (∀ (host : Host) (operations : List Operation),
      (∀ operation ∈ operations, operation.givesUp = false) →
      let created := (create.run host).value
      AdmitsObserved (created.recordOf operations)
        (∃ first second, operations = first ++ second ∧
          (created.following first).isObserving = true)
        (created.following operations)) ∧
    ∀ (settings : Settings) (host : Host) (subscribers : List Subscriber) (attached : Bool)
      (built : Outcome Gate Unit) (moves : List Gate.Move),
      Gate.build settings host subscribers attached = .ok built →
      (built.state.following moves).server ≠ .stopped →
      AdmitsObserved (built.state.recordOf moves)
        (∃ first second, moves = first ++ second ∧
          (built.state.following first).controller.isObserving = true)
        (built.state.following moves).controller := by
  constructor
  · intro host operations goOn
    apply admitsObserved
    · exact performAll_obeys (fun operation member => calming_obeys (goOn operation member)) _
    · rintro ⟨first, second, rfl, observing⟩
      have calm := (calm_create host).following fun operation member =>
        goOn operation (List.mem_append_left second member)
      rw [following_append]
      exact performAll_obeys (fun operation member => remembering_obeys
        (goOn operation (List.mem_append_right first member))) _ (calm.known observing).1
  · intro settings host subscribers attached built moves succeeds running
    have fresh := Gate.fresh_of_build succeeds
    have calms := Gate.calming_ignores.follow (fun _ => calming_obeys) fresh.sound
    have remembers := @Gate.Ignores.follow _ Gate.remembering_ignores fun _ => remembering_obeys
    rw [fresh.controller] at calms
    apply admitsObserved (calms moves running)
    rintro ⟨first, second, rfl, observing⟩
    have wasRunning := Gate.running_of_append running
    have calm := (calms first wasRunning (calm_create host)).1
    rcases fresh.sound.follow first with ⟨more, sound⟩
    rw [Gate.following_append] at running ⊢
    exact remembers sound second running (calm.known observing).1

/-- A controller that has observed and is told that its queue was emptied holds both queues for
empty; and a gate that is asked to look at its queues admits uploads. -/
theorem admission_observed_of_emptied :
    (∃ operations : List Operation,
      (∀ operation ∈ operations, operation.givesUp = false) ∧
        ∀ queue, ((create.run (.create {} .calm true)).value.following operations).status queue =
          .empty) ∧
      ∃ built, Gate.build {} (.create {} .calm true) [] false = .ok built ∧
        let moves : List Gate.Move := [.send (.begin .upload), .turn .server, .turn .server]
        (built.state.following moves).server ≠ .stopped ∧
          (built.state.following moves).controller.status .upload = .running ∧
          AdmitsObserved (built.state.recordOf moves)
            (∃ first second, moves = first ++ second ∧
              (built.state.following first).controller.isObserving = true)
            (built.state.following moves).controller := by
  constructor
  · have observed := admission_observed.1 (.create {} .calm true)
      [.serve (.begin .upload), .serve (.emptied .upload)] (by simp [Operation.givesUp])
    exact ⟨_, by simp [Operation.givesUp], observed.empty rfl ⟨[_], [_], rfl, rfl⟩⟩
  · exact ⟨_, rfl, by decide, rfl, admission_observed.2 {} _ [] false _ _ rfl (by decide)⟩

end TransferGate
