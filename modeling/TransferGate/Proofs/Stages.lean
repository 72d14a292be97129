import TransferGate.Proofs.Operation

/-! # Laws of operations

What every operation does can be proved in two ways.

* `Stages` asks for a law of the stages of which operations consist, as they occur:
  everything is read again only while observing, for instance. As long as the
  controller is not discarded, `KeptStages` is enough, and `IdleStages` for operations
  that do not decide about observing. `CoreStages` leaves out what is logged, for laws that
  depend on it.
* `Elements` asks for a law of much smaller steps, but in any state and in any
  order. It implies `Stages`.
-/

namespace TransferGate

namespace Controller

open Activity

structure CoreStages (law : Law Controller) : Prop where
  requiredBytes : Obeys law (onHost Host.requiredBytes)
  replaceSources : ∀ change, Obeys law (onHost (Host.replaceSources change))
  recordOutOfSpace : ∀ ranOut, Obeys law (recordOutOfSpace ranOut)
  readinessChanged : Obeys law readinessChanged
  freeSpaceChanged : Obeys law freeSpaceChanged
  reread : ∀ signal controller, controller.isObserving = true →
    law.holds controller ((reread signal).run controller).effects
      ((reread signal).run controller).state
  refresh : ∀ controller, controller.isObserving = true →
    law.holds controller (refresh.run controller).effects (refresh.run controller).state

structure IdleStages (law : Law Controller) : Prop extends CoreStages law where
  log : ∀ line, Obeys law (Activity.log line)
  freeSpace : Obeys law (onHost Host.freeSpace)

structure KeptStages (law : Law Controller) : Prop extends IdleStages law where
  lookAtQueues : Obeys law lookAtQueues
  recordEmpty : ∀ change : PerQueue (Option Bool) → PerQueue (Option Bool), Obeys law
    (revise fun conditions => { conditions with empty := change conditions.empty })
  startObserving : Obeys law startObserving
  stopObserving : Obeys law stopObserving

/-- The law holds of everything of which operations consist. -/
structure Stages (law : Law Controller) : Prop extends KeptStages law where
  discard : Obeys law discard

theorem update_holds {law : Law Controller}
    {reading : Option Nat → Activity Host (Conditions → Conditions)} {controller : Controller}
    (reads : law.holds controller ((onHost (reading controller.session?)).run controller).effects
      ((onHost (reading controller.session?)).run controller).state)
    (revises : Obeys law (revise ((reading controller.session?).run controller.host).value)) :
    law.holds controller ((update reading).run controller).effects
      ((update reading).run controller).state :=
  law.join (law.idle controller) (law.join reads (law.join (revises _) (law.idle _)))

theorem performAll_obeys {law : Law Controller} {operations : List Operation}
    (each : ∀ operation ∈ operations, Obeys law operation.perform) :
    Obeys law (performAll operations) := by
  induction operations with
  | nil => exact .pure _
  | cons operation rest induction =>
      exact (each operation (List.mem_cons_self ..)).bind fun _ =>
        induction fun other member => each other (List.mem_cons_of_mem _ member)

theorem currentStatus_obeys {law : Law Controller} (queue : Queue) :
    Obeys law (currentStatus queue) :=
  Obeys.get.map _

/-! ### What stages consist of -/

section

variable {law : Law Controller}

theorem startObserving_obeys (opens : Obeys law openObservation) (refreshes : Obeys law refresh) :
    Obeys law startObserving := by
  refine (Obeys.get.bind fun controller => ?_).bind fun _ => refreshes
  cases controller.observation with
  | none => exact opens
  | some _ => exact .pure _

theorem stopObserving_obeys (releases : ∀ observation, Obeys law (release observation))
    (logs : Obeys law (Activity.log .observationStopped))
    (announces : Obeys law (Activity.announce .observationStopped)) :
    Obeys law stopObserving := by
  apply Obeys.get.bind
  intro controller
  cases controller.observation with
  | none => exact .pure _
  | some observation => exact (releases observation).bind fun _ => logs.bind fun _ => announces

theorem discard_obeys (releases : ∀ observation, Obeys law (release observation)) :
    Obeys law discard := by
  apply Obeys.get.bind
  intro controller
  cases controller.observation with
  | none => exact .pure _
  | some observation => exact releases observation

theorem followWork_obeys (starts : Obeys law startObserving) (stops : Obeys law stopObserving)
    (isEmpty : Bool) : Obeys law (followWork isEmpty) := by
  apply Obeys.get.bind
  intro controller
  cases isEmpty <;> cases controller.conditions.allEmpty
  · exact .pure _
  · exact starts
  · exact stops
  · exact .pure _

theorem stopIfAllEmpty_obeys (stops : Obeys law stopObserving) : Obeys law stopIfAllEmpty := by
  apply Obeys.get.bind
  intro controller
  cases controller.conditions.allEmpty
  · exact .pure _
  · exact stops

end

namespace CoreStages

variable {law : Law Controller}

theorem retry (stages : CoreStages law) : Obeys law retry :=
  stages.freeSpaceChanged.bind fun _ => stages.recordOutOfSpace false

theorem outOfSpace (stages : CoreStages law) : Obeys law outOfSpace :=
  (stages.recordOutOfSpace true).bind fun _ => currentStatus_obeys .download

theorem jobFailed (stages : CoreStages law) (queue : Queue) (failure : Failure) :
    Obeys law (jobFailed queue failure) := by
  rcases jobFailed_cases queue failure with nothing | ⟨-, ranOut⟩
  · rw [nothing]
    exact .pure _
  · rw [ranOut]
    exact stages.outOfSpace.map _

theorem refreshSpace (stages : CoreStages law) : Obeys law refreshSpace :=
  stages.freeSpaceChanged.bind fun _ => currentStatus_obeys .download

theorem rereadIfObserving (stages : CoreStages law) (signal : Signal) :
    Obeys law (rereadIfObserving signal) := by
  intro controller
  rw [Controller.rereadIfObserving, run_bind, run_get]
  cases observing : controller.isObserving with
  | false => simpa [observing] using law.idle controller
  | true => simpa [observing] using stages.reread signal controller observing

theorem receive (stages : CoreStages law) (kind : EventKind) : Obeys law (receive kind) := by
  cases kind with
  | signal signal =>
      cases signal with
      | appReady => exact stages.readinessChanged
      | _ => exact stages.rereadIfObserving _
  | _ => exact .pure _

theorem refreshIfObserving (stages : CoreStages law) : Obeys law refreshIfObserving := by
  intro controller
  rw [Controller.refreshIfObserving, run_bind, run_get]
  cases observing : controller.isObserving with
  | false => simpa [observing] using law.idle controller
  | true => simpa [observing] using stages.refresh controller observing

theorem serve (stages : CoreStages law) {request : Request}
    (idle : (Operation.serve request).decides = false) : Obeys law (serve request) := by
  cases request with
  | status queue => exact (currentStatus_obeys queue).map _
  | retry => exact stages.retry.bind fun _ => .pure _
  | refreshSpace => exact stages.refreshSpace.map _
  | outOfSpace => exact stages.outOfSpace.map _
  | conditions => exact Obeys.get.map _
  | isObserving => exact Obeys.get.map _
  | begin queue => cases idle
  | emptied queue => cases idle

/-- Recovering writes a line, and a look at free space passes the controller by: what the law
says about these two has to be known besides. -/
theorem operation (stages : CoreStages law) {operation : Operation}
    (recovers : ∀ missed, operation = .recover missed → Obeys law (recover missed))
    (aside : operation = .lookAtSpace → Obeys law operation.perform)
    (idle : operation.decides = false) : Obeys law operation.perform := by
  cases operation with
  | serve request => exact (stages.serve idle).map _
  | jobFailed queue failure => exact (stages.jobFailed queue failure).map _
  | freeSpaceChanged => exact stages.freeSpaceChanged.map _
  | readinessChanged => exact stages.readinessChanged.map _
  | receive kind => exact (stages.receive kind).map _
  | recover missed => exact (recovers missed rfl).map _
  | requiredBytes => exact stages.requiredBytes.map _
  | lookAtSpace => exact aside rfl
  | replaceSources change => exact (stages.replaceSources change).map _
  | shutDown => cases idle
  | discard => cases idle

end CoreStages

namespace IdleStages

variable {law : Law Controller}

theorem recover (stages : IdleStages law) (missed : Nat) : Obeys law (recover missed) :=
  (stages.log _).bind fun _ => stages.refreshIfObserving

theorem lookAtSpace (stages : IdleStages law) : Obeys law Operation.lookAtSpace.perform :=
  stages.requiredBytes.bind fun _ => stages.freeSpace.bind fun _ => .pure _

theorem operation (stages : IdleStages law) {operation : Operation}
    (idle : operation.decides = false) : Obeys law operation.perform := by
  refine stages.toCoreStages.operation (fun missed _ => stages.recover missed) ?_ idle
  rintro rfl
  exact stages.lookAtSpace

theorem weaken {weaker : Law Controller} (stages : IdleStages law)
    (weakens : ∀ {before record after}, law.holds before record after →
      weaker.holds before record after) : IdleStages weaker where
  log line controller := weakens (stages.log line controller)
  requiredBytes controller := weakens (stages.requiredBytes controller)
  freeSpace controller := weakens (stages.freeSpace controller)
  replaceSources change controller := weakens (stages.replaceSources change controller)
  recordOutOfSpace ranOut controller := weakens (stages.recordOutOfSpace ranOut controller)
  readinessChanged controller := weakens (stages.readinessChanged controller)
  freeSpaceChanged controller := weakens (stages.freeSpaceChanged controller)
  reread signal controller observing := weakens (stages.reread signal controller observing)
  refresh controller observing := weakens (stages.refresh controller observing)

end IdleStages

namespace KeptStages

variable {law : Law Controller}

theorem followWork (stages : KeptStages law) (isEmpty : Bool) : Obeys law (followWork isEmpty) :=
  followWork_obeys stages.startObserving stages.stopObserving isEmpty

theorem observeIfNeeded (stages : KeptStages law) : Obeys law observeIfNeeded :=
  stages.lookAtQueues.bind fun probe => (stages.followWork _).bind fun _ =>
    (stages.recordEmpty fun _ => ⟨some probe.empty.upload, some probe.empty.download⟩).bind
      fun _ => .pure _

theorem begin (stages : KeptStages law) (queue : Queue) : Obeys law (begin queue) :=
  stages.observeIfNeeded.bind fun _ => currentStatus_obeys queue

theorem stopIfAllEmpty (stages : KeptStages law) : Obeys law stopIfAllEmpty :=
  stopIfAllEmpty_obeys stages.stopObserving

theorem emptied (stages : KeptStages law) (queue : Queue) : Obeys law (emptied queue) :=
  (stages.recordEmpty fun empty => empty.set queue (some true)).bind fun _ =>
    stages.stopIfAllEmpty

theorem shutDown (stages : KeptStages law) : Obeys law shutDown :=
  (stages.log _).bind fun _ => stages.stopObserving

theorem serve (stages : KeptStages law) (request : Request) : Obeys law (serve request) := by
  cases request with
  | begin queue => exact (stages.begin queue).map _
  | emptied queue => exact (stages.emptied queue).bind fun _ => .pure _
  | _ => exact stages.toIdleStages.serve rfl

theorem operation (stages : KeptStages law) {operation : Operation}
    (kept : operation.discards = false) : Obeys law operation.perform := by
  rcases operation.cases_of_decides with idle | ⟨queue, rfl⟩ | ⟨queue, rfl⟩ | rfl | rfl
  · exact stages.toIdleStages.operation idle
  · exact (stages.serve (.begin queue)).map _
  · exact (stages.serve (.emptied queue)).map _
  · exact stages.shutDown.map _
  · cases kept

theorem run (stages : KeptStages law) {operations : List Operation}
    (kept : ∀ operation ∈ operations, operation.discards = false) :
    Obeys law (performAll operations) :=
  performAll_obeys fun operation member => stages.operation (kept operation member)

end KeptStages

namespace Stages

variable {law : Law Controller}

theorem operation (stages : Stages law) (operation : Operation) :
    Obeys law operation.perform := by
  cases kept : operation.discards with
  | false => exact stages.toKeptStages.operation kept
  | true =>
      cases operation with
      | discard => exact stages.discard.map _
      | _ => cases kept

theorem run (stages : Stages law) (operations : List Operation) :
    Obeys law (performAll operations) :=
  performAll_obeys fun operation _ => stages.operation operation

end Stages

/-- The law holds of the elementary steps, whatever the state. -/
structure Elements (law : Law Controller) : Prop where
  remark : ∀ controller effect, effect.isRemark = true → law.holds controller [effect] controller
  read : ∀ {Value : Type} (activity : Activity Host Value),
    Obeys Host.reading activity → Obeys law (onHost activity)
  replaceSources : ∀ change, Obeys law (onHost (Host.replaceSources change))
  revise : ∀ change, Obeys law (revise change)
  openObservation : Obeys law openObservation
  release : ∀ observation, Obeys law (release observation)

namespace Elements

variable {law : Law Controller}

theorem update (elements : Elements law)
    {reading : Option Nat → Activity Host (Conditions → Conditions)}
    (reads : ∀ session, Obeys Host.reading (reading session)) : Obeys law (update reading) :=
  Obeys.get.bind fun _ => (elements.read _ (reads _)).bind fun _ =>
    (elements.revise _).bind fun _ => .pure _

theorem reread (elements : Elements law) (signal : Signal) : Obeys law (reread signal) :=
  elements.update fun session => Host.readFor_reads session signal

theorem refresh (elements : Elements law) : Obeys law refresh :=
  elements.update Host.readAll_reads

theorem startObserving (elements : Elements law) : Obeys law startObserving :=
  startObserving_obeys elements.openObservation elements.refresh

theorem stopObserving (elements : Elements law) : Obeys law stopObserving :=
  stopObserving_obeys elements.release (.emit fun controller => elements.remark controller _ rfl)
    (.emit fun controller => elements.remark controller _ rfl)

theorem discard (elements : Elements law) : Obeys law discard := discard_obeys elements.release

theorem stages (elements : Elements law) : Stages law where
  log line controller := elements.remark controller (.logged line) rfl
  requiredBytes := elements.read _ Host.requiredBytes_reads
  freeSpace := elements.read _ (Host.lookUp_reads .freeSpace)
  replaceSources := elements.replaceSources
  lookAtQueues := (elements.read _ Host.probeQueues_reads).bind fun _ =>
    (elements.revise _).bind fun _ => .pure _
  recordEmpty _ := elements.revise _
  recordOutOfSpace _ := (elements.revise _).bind fun _ => .pure _
  readinessChanged := elements.reread .appReady
  freeSpaceChanged := elements.reread .willEnterForeground
  reread signal controller _ := elements.reread signal controller
  refresh controller _ := elements.refresh controller
  startObserving := elements.startObserving
  stopObserving := elements.stopObserving
  discard := elements.discard

end Elements

end Controller

end TransferGate
