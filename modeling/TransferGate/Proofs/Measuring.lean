import TransferGate.Proofs.Admission
import TransferGate.Proofs.Chronicle

/-! # Queues that were measured as empty

A look at the queues is recorded in two steps, and reading everything may come in between.
Only the last step records emptiness. Until then a queue that was just measured as empty
still counts as what was recorded of it before, so that its status may be announced as
anything but empty, `running` included.

What this comes to is bounded: at most two statuses are announced in passing, the last one
announced is that the queue is empty, and nothing at all is announced for a queue that was
known to be empty already.
-/

namespace TransferGate

private theorem statusesFor_of_plain {record : List Effect}
    (plain : ∀ effect ∈ record, effect.isPlain = true) (queue : Queue) :
    statusesFor queue record = [] :=
  List.filterMap_eq_nil_iff.mpr fun effect member =>
    effect.statusFor?_of_isPlain (plain effect member) queue

namespace Controller

open Activity

/-! ## What is told in passing -/

/-- Emptiness was neither recorded nor told of, and at most so many statuses were told for each
queue, none for queues that are known to be empty. -/
structure Passes (limit : Nat) (before : Controller) (record : List Effect) (after : Controller) :
    Prop where
  empty : after.conditions.empty = before.conditions.empty
  other : ∀ queue, .empty ∉ statusesFor queue record
  few : ∀ queue, (statusesFor queue record).length ≤ limit
  silent : ∀ queue, before.conditions.knownEmpty queue = true → statusesFor queue record = []

namespace Passes

variable {limit more : Nat} {before between after : Controller} {record first second : List Effect}

theorem widen (passes : Passes limit before record after) (wider : limit ≤ more) :
    Passes more before record after :=
  ⟨passes.empty, passes.other, fun queue => (passes.few queue).trans wider, passes.silent⟩

theorem join (earlier : Passes limit before first between)
    (later : Passes more between second after) :
    Passes (limit + more) before (first ++ second) after where
  empty := later.empty.trans earlier.empty
  other queue := by
    rw [statusesFor_append, List.mem_append]
    exact fun told => told.elim (earlier.other queue) (later.other queue)
  few queue := by
    rw [statusesFor_append, List.length_append]
    exact Nat.add_le_add (earlier.few queue) (later.few queue)
  silent queue known := by
    have still : between.conditions.knownEmpty queue = true := by
      rw [Conditions.knownEmpty, earlier.empty]
      exact known
    rw [statusesFor_append, earlier.silent queue known, later.silent queue still]
    rfl

private theorem of_plain (same : after.conditions.empty = before.conditions.empty)
    (plain : ∀ effect ∈ record, effect.isPlain = true) : Passes 0 before record after := by
  refine ⟨same, fun queue => ?_, fun queue => ?_, fun queue _ => ?_⟩ <;>
    simp [statusesFor_of_plain plain]

end Passes

theorem passes_onHost {Value : Type} {activity : Activity Host Value}
    (reads : Obeys Host.reading activity) (controller : Controller) :
    Passes 0 controller ((onHost activity).run controller).effects
      ((onHost activity).run controller).state :=
  .of_plain rfl fun effect member =>
    Effect.isPlain_of_isInquiry ((reads controller.host).inquiries effect member)

private theorem statusesFor_revise (change : Conditions → Conditions) (controller : Controller)
    (queue : Queue) :
    statusesFor queue ((revise change).run controller).effects =
      if controller.conditions.status queue = (change controller.conditions).status queue then []
      else [(change controller.conditions).status queue] :=
  Conditions.statusesFor_changes _ _ queue

theorem passes_revise (change : Conditions → Conditions) {controller : Controller}
    (keeps : (change controller.conditions).empty = controller.conditions.empty) :
    Passes 1 controller ((revise change).run controller).effects
      ((revise change).run controller).state := by
  have sameKnown (queue : Queue) : (change controller.conditions).knownEmpty queue =
      controller.conditions.knownEmpty queue := by
    rw [Conditions.knownEmpty, keeps, Conditions.knownEmpty]
  refine ⟨keeps, fun queue told => ?_, fun queue => ?_, fun queue known => ?_⟩
  · rw [statusesFor_revise] at told
    split at told
    · cases told
    · next differs =>
        -- Who is empty afterwards was empty before, so that there was nothing to tell.
        have isEmpty := (List.mem_singleton.mp told).symm
        have wasEmpty := (Conditions.status_eq_empty_iff _ queue).mp isEmpty
        rw [sameKnown, ← Conditions.status_eq_empty_iff] at wasEmpty
        exact differs (wasEmpty.trans isEmpty.symm)
  · rw [statusesFor_revise]
    split <;> simp
  · have wasEmpty := (Conditions.status_eq_empty_iff _ queue).mpr known
    have isEmpty := (Conditions.status_eq_empty_iff _ queue).mpr ((sameKnown queue).trans known)
    rw [statusesFor_revise, if_pos (wasEmpty.trans isEmpty.symm)]

theorem passes_lookAtQueues (controller : Controller) :
    Passes 1 controller (lookAtQueues.run controller).effects
      (lookAtQueues.run controller).state := by
  have recorded : Passes 1 ((onHost Host.probeQueues).run controller).state _ _ :=
    passes_revise (fun conditions => { conditions with
      downloadsSuspended := (Host.probeQueues.run controller.host).value.downloadsSuspended }) rfl
  simpa [lookAtQueues] using (passes_onHost Host.probeQueues_reads controller).join recorded

theorem passes_refresh (controller : Controller) :
    Passes 1 controller (refresh.run controller).effects (refresh.run controller).state := by
  let reading := Host.readAll controller.session?
  have recorded : Passes 1 ((onHost reading).run controller).state _ _ :=
    passes_revise (reading.run controller.host).value rfl
  simpa [refresh, update] using (passes_onHost (Host.readAll_reads _) controller).join recorded

theorem passes_openObservation (controller : Controller) :
    Passes 0 controller (openObservation.run controller).effects
      (openObservation.run controller).state := by
  refine .of_plain rfl fun effect member => ?_
  rw [run_openObservation, List.mem_cons, List.mem_append] at member
  rcases member with rfl | begun | ending
  · rfl
  · exact Effect.isPlain_of_isInquiry
      ((Host.beginBattery_reads controller.host).inquiries effect begun)
  · simp only [List.mem_cons, List.not_mem_nil, or_false] at ending
    rcases ending with rfl | rfl <;> rfl

theorem passes_startObserving (controller : Controller) :
    Passes 1 controller (startObserving.run controller).effects
      (startObserving.run controller).state := by
  have ensured : Passes 0 controller (ensureObserving.run controller).effects
      (ensureObserving.run controller).state := by
    rw [run_ensureObserving]
    cases controller.isObserving with
    | true => exact .of_plain rfl (by simp)
    | false => exact passes_openObservation controller
  exact ensured.join (passes_refresh _)

theorem passes_stopObserving (controller : Controller) :
    Passes 0 controller (stopObserving.run controller).effects
      (stopObserving.run controller).state := by
  refine .of_plain (empty_stopObserving controller) fun effect member => ?_
  cases held : controller.observation with
  | none => simp [stopObserving, held] at member
  | some observation =>
      simp only [run_stopObserving held, run_release, List.mem_append, List.mem_cons,
        List.not_mem_nil, or_false] at member
      rcases member with (ended | rfl) | rfl | rfl
      · exact Effect.isPlain_of_isInquiry
          ((Host.endBattery_reads observation.session controller.host).inquiries effect ended)
      all_goals rfl

theorem passes_followWork (isEmpty : Bool) (controller : Controller) :
    Passes 1 controller ((followWork isEmpty).run controller).effects
      ((followWork isEmpty).run controller).state := by
  have nothing : Passes 1 controller [] controller :=
    (Passes.of_plain rfl (by simp)).widen (Nat.zero_le 1)
  rw [followWork, run_bind, run_get]
  cases isEmpty <;> cases controller.conditions.allEmpty
  · exact nothing
  · exact passes_startObserving controller
  · exact (passes_stopObserving controller).widen (Nat.zero_le 1)
  · exact nothing

/-! ## Measured as empty -/

/-- What is told of a queue and how it stands when it was measured as empty. -/
structure EndsEmpty (queue : Queue) (before : Controller) (record : List Effect)
    (after : Controller) : Prop where
  status : after.status queue = .empty
  silent : before.conditions.knownEmpty queue = true → statusesFor queue record = []
  /-- The news that the queue is empty comes last, behind two passing statuses at most. -/
  last : before.conditions.knownEmpty queue = false → ∃ passing,
    statusesFor queue record = passing ++ [.empty] ∧ .empty ∉ passing ∧ passing.length ≤ 2

theorem Passes.endsEmpty {queue : Queue} {before between : Controller} {record : List Effect}
    (passes : Passes 2 before record between) {probe : QueueProbe}
    (measured : probe.empty.get queue = true) :
    EndsEmpty queue before
      (record ++ ((revise (recordProbe probe)).run between).effects)
      ((revise (recordProbe probe)).run between).state := by
  have known : (recordProbe probe between.conditions).empty.get queue = some true := by
    cases queue <;> exact congrArg some measured
  have isEmpty : (recordProbe probe between.conditions).status queue = .empty :=
    Conditions.status_of_empty known
  have sameKnown : between.conditions.knownEmpty queue = before.conditions.knownEmpty queue := by
    rw [Conditions.knownEmpty, passes.empty, Conditions.knownEmpty]
  refine ⟨isEmpty, fun wasKnown => ?_, fun unknown => ?_⟩
  · have wasEmpty := (Conditions.status_eq_empty_iff _ queue).mpr (sameKnown.trans wasKnown)
    rw [statusesFor_append, passes.silent queue wasKnown, statusesFor_revise,
      if_pos (wasEmpty.trans isEmpty.symm)]
    rfl
  · have differs : between.conditions.status queue ≠
        (recordProbe probe between.conditions).status queue := by
      intro same
      have wasEmpty := (Conditions.status_eq_empty_iff _ queue).mp (same.trans isEmpty)
      rw [sameKnown, unknown] at wasEmpty
      cases wasEmpty
    refine ⟨statusesFor queue record, ?_, passes.other queue, passes.few queue⟩
    rw [statusesFor_append, statusesFor_revise, if_neg differs, isEmpty]

/-- Whoever measures a queue as empty ends up with announcing that it is, unless this was known
already; statuses that are announced for it in passing are at most two. -/
theorem measured_empty_ends_empty (asked measured : Queue) (controller : Controller)
    (empty : (Host.probeQueues.run controller.host).value.empty.get measured = true) :
    EndsEmpty measured controller ((Controller.begin asked).run controller).effects
      ((Controller.begin asked).run controller).state := by
  have passes := (passes_lookAtQueues controller).join
    (passes_followWork (lookAtQueues.run controller).value.allEmpty _)
  have ends := passes.endsEmpty empty
  have record : ((Controller.begin asked).run controller).effects =
      ((lookAtQueues.run controller).effects ++
        ((followWork (lookAtQueues.run controller).value.allEmpty).run
          (lookAtQueues.run controller).state).effects) ++
        ((revise (recordProbe (lookAtQueues.run controller).value)).run
          controller.followed).effects := by
    simp only [Controller.begin, observeIfNeeded, currentStatus, run_bind, run_map, run_get,
      run_pure, List.append_nil, List.append_assoc]
    rfl
  rw [record]
  exact ends

/-- Downloads have no work and are announced as running all the same, because uploads have some. -/
theorem measured_empty_ends_empty_of_uploads :
    let controller := (create.run (.create {} .calm true)).value
    (Host.probeQueues.run controller.host).value.empty.get .download = true ∧
      EndsEmpty .download controller ((Controller.begin .upload).run controller).effects
        ((Controller.begin .upload).run controller).state :=
  ⟨rfl, measured_empty_ends_empty .upload .download _ rfl⟩

/-- It is not so that a queue just measured as empty is never announced as running. -/
theorem measured_empty_announced_running :
    ¬∀ (settings : Settings) (sources : Sources) (hasBattery : Bool) (operations : List Operation)
      (asked measured : Queue),
      let controller :=
        (create.run (.create settings sources hasBattery)).value.following operations
      (Host.probeQueues.run controller.host).value.empty.get measured = true →
        .running ∉ statusesFor measured ((Controller.begin asked).run controller).effects := by
  intro silent
  have untold := silent {} .calm true [] .upload .download rfl
  revert untold
  decide +kernel

end Controller

end TransferGate
