import TransferGate.Proofs.Looks

/-! # Beginning again

Whoever begins may begin again at any time. As long as the host gives the same answers, nothing
comes of it but another look at the queues: everything that would be recorded is recorded
already, so that nothing changes and there is nothing to announce. `UpToQueues` is what the first
time leaves behind, and all that the second time needs, whatever the controller did before.

For which queue somebody begins makes no difference but for the status in the end.
-/

namespace TransferGate

open Activity

namespace Host

/-! ## Looking leaves a constant host alone -/

def unmindful : Law Host where
  holds before _ after := ∃ sources, after = { before with sources := sources }
  idle host := ⟨host.sources, rfl⟩
  join := by
    rintro before between after first second ⟨_, rfl⟩ ⟨sources, rfl⟩
    exact ⟨sources, rfl⟩

theorem ask_unmindful (question : Question) : Obeys unmindful (ask question) := fun _ => ⟨_, rfl⟩

theorem lookUp_unmindful (lookup : Lookup) : Obeys unmindful (lookUp lookup) := fun host =>
  ⟨_, state_lookUp lookup host⟩

theorem probeQueues_unmindful : Obeys unmindful probeQueues :=
  probeQueues_obeys (fun lookup _ => lookUp_unmindful lookup) (ask_unmindful _)

theorem state_probeQueues {host : Host} (constant : host.sources.changesLeft = 0) :
    (probeQueues.run host).state = host := by
  rcases probeQueues_unmindful host with ⟨sources, state⟩
  have same := (probeQueues_reads host).sources_of_constant constant
  rw [state] at same
  rw [state, show sources = host.sources from same]

end Host

namespace Controller

/-! ## What is up to date -/

/-- The conditions say of the queues what a look at them would find now. -/
structure UpToQueues (controller : Controller) : Prop where
  empty : controller.conditions.empty =
    ⟨some controller.host.sources.finds.upload, some controller.host.sources.finds.download⟩
  suspended : controller.conditions.downloadsSuspended =
    controller.host.sources.currentSuspension

private theorem run_revise_of_same {change : Conditions → Conditions} {controller : Controller}
    (same : change controller.conditions = controller.conditions) :
    (revise change).run controller = ⟨[], controller, [.revised controller.conditions]⟩ := by
  rw [run_revise, same, Conditions.changes_self]
  rfl

private theorem UpToQueues.allEmpty {controller : Controller} (upToQueues : controller.UpToQueues) :
    controller.conditions.allEmpty = (Host.probeQueues.run controller.host).value.allEmpty := by
  rw [← allEmpty_probe controller.conditions, Host.empty_probeQueues, ← upToQueues.empty]

theorem UpToQueues.run_begin {controller : Controller} (upToQueues : controller.UpToQueues)
    (constant : controller.host.sources.changesLeft = 0) (queue : Queue) :
    (Controller.begin queue).run controller =
      ⟨controller.status queue, controller,
        (Look.probe controller.host.sources.measured).record ++
          [.revised controller.conditions, .revised controller.conditions]⟩ := by
  let probe := (Host.probeQueues.run controller.host).value
  have suspended : { controller.conditions with
      downloadsSuspended := probe.downloadsSuspended } = controller.conditions := by
    have found : probe.downloadsSuspended = controller.conditions.downloadsSuspended := by
      rw [Host.suspension_probeQueues]
      exact upToQueues.suspended.symm
    rw [found]
  have empty : recordProbe probe controller.conditions = controller.conditions := by
    rw [recordProbe, Host.empty_probeQueues, ← upToQueues.empty]
  have looks : lookAtQueues.run controller =
      ⟨probe, controller, (Look.probe controller.host.sources.measured).record ++
        [.revised controller.conditions]⟩ := by
    rw [lookAtQueues, run_bind, run_onHost, Host.state_probeQueues constant, run_bind,
      run_revise_of_same suspended, Host.effects_probeQueues]
    rfl
  have follows : (followWork probe.allEmpty).run controller = ⟨(), controller, []⟩ := by
    rw [followWork, run_bind, run_get, upToQueues.allEmpty]
    cases probe.allEmpty <;> rfl
  have records : (revise fun conditions => { conditions with
      empty := ⟨some probe.empty.upload, some probe.empty.download⟩ }).run controller =
        ⟨[], controller, [.revised controller.conditions]⟩ := run_revise_of_same empty
  have observes : observeIfNeeded.run controller =
      ⟨(), controller, (Look.probe controller.host.sources.measured).record ++
        [.revised controller.conditions, .revised controller.conditions]⟩ := by
    simp only [observeIfNeeded, run_bind, looks, follows, records, run_pure]
    simp
  rw [Controller.begin, run_bind, observes]
  simp [currentStatus]

/-! ## What the first time leaves behind -/

private theorem suspension_refresh (controller : Controller) :
    (refresh.run controller).state.conditions.downloadsSuspended =
      controller.host.sources.currentSuspension := by
  have read : (((Host.readAll controller.session?).run controller.host).value
      controller.conditions).about .downloadSuspensionChanged =
        controller.host.current .downloadSuspensionChanged :=
    Host.about_readAll _ (by simp) _
  rw [refresh, state_update]
  simpa only [Conditions.about, Host.current, Sources.current] using read

private theorem sources_ensureObserving {controller : Controller}
    (constant : controller.host.sources.changesLeft = 0) :
    (ensureObserving.run controller).state.host.sources = controller.host.sources := by
  rw [run_ensureObserving]
  cases controller.isObserving with
  | true => rfl
  | false => exact lasting_openObservation controller constant

private theorem suspension_followWork {controller : Controller}
    (constant : controller.host.sources.changesLeft = 0)
    (recorded : controller.conditions.downloadsSuspended =
      controller.host.sources.currentSuspension) (isEmpty : Bool) :
    ((followWork isEmpty).run controller).state.conditions.downloadsSuspended =
      controller.host.sources.currentSuspension := by
  rw [followWork, run_bind, run_get]
  cases isEmpty <;> cases controller.conditions.allEmpty
  · exact recorded
  · have refreshed := suspension_refresh (ensureObserving.run controller).state
    rw [sources_ensureObserving constant] at refreshed
    exact refreshed
  · change (stopObserving.run controller).state.conditions.downloadsSuspended = _
    rw [conditions_stopObserving]
    exact recorded
  · exact recorded

theorem upToQueues_begin {controller : Controller}
    (constant : controller.host.sources.changesLeft = 0) (queue : Queue) :
    ((Controller.begin queue).run controller).state.UpToQueues := by
  let looked := (lookAtQueues.run controller).state
  have sources : ((Controller.begin queue).run controller).state.host.sources =
      controller.host.sources := (lasting_serve (.begin queue)) controller constant
  have lookedSources : looked.host.sources = controller.host.sources :=
    (Host.probeQueues_reads controller.host).sources_of_constant constant
  have recorded : looked.conditions.downloadsSuspended = looked.host.sources.currentSuspension := by
    rw [lookedSources]
    exact Host.suspension_probeQueues controller.host
  constructor
  · rw [sources, ← Host.empty_probeQueues]
    rfl
  · rw [sources, ← lookedSources]
    exact suspension_followWork (lookedSources ▸ constant) recorded _

/-! ## Beginning twice -/

/-- What comes of beginning when nothing has happened since the last time. -/
structure Repeats (queue : Queue) (before : Controller) (again : Outcome Controller Status) :
    Prop where
  state : again.state = before
  value : again.value = before.status queue
  asks : again.effects.filterMap Effect.exchange? =
    (Look.probe before.host.sources.measured).calls
  silent : again.effects.filterMap Effect.notice? = []
  bus : ∀ bus : Bus Seat, bus.absorbAll again.effects = bus

private theorem UpToQueues.repeats {controller : Controller} (upToQueues : controller.UpToQueues)
    (constant : controller.host.sources.changesLeft = 0) (queue : Queue) :
    Repeats queue controller ((Controller.begin queue).run controller) := by
  have inquiries := (Host.probeQueues_reads controller.host).inquiries
  rw [Host.effects_probeQueues] at inquiries
  rw [upToQueues.run_begin constant]
  constructor
  · rfl
  · rfl
  · rw [List.filterMap_append, Look.record, exchanges_flatMap_record]
    exact List.append_nil _
  · rw [List.filterMap_append, Effect.notices_of_isInquiry inquiries]
    rfl
  · intro bus
    rw [Bus.absorbAll_append, bus.absorbAll_of_isInquiry inquiries]
    rfl

/-- After somebody has begun, any number of further beginnings changes nothing. -/
theorem following_begins {controller : Controller}
    (constant : controller.host.sources.changesLeft = 0) (first : Queue) (others : List Queue) :
    let begun := ((Controller.begin first).run controller).state
    begun.following (others.map fun queue => .serve (.begin queue)) = begun := by
  intro begun
  have sources : begun.host.sources = controller.host.sources :=
    (lasting_serve (.begin first)) controller constant
  induction others with
  | nil => rfl
  | cons queue rest induction =>
      have same := ((upToQueues_begin constant first).repeats (sources ▸ constant) queue).state
      have once : begun.following [.serve (.begin queue)] = begun := same
      rw [List.map_cons, ← List.singleton_append, following_append, once, induction]

/-- As long as the host gives the same answers, beginning again, for whichever queue, looks at the
queues once more and does nothing else. With any host, it makes no difference but for the reply for
which queue somebody begins. -/
theorem begin_repeats :
    (∀ (controller : Controller), controller.host.sources.changesLeft = 0 →
      ∀ first again : Queue,
      let begun := ((Controller.begin first).run controller).state
      Repeats again begun ((Controller.begin again).run begun)) ∧
    ∀ (controller : Controller) (left right : Queue),
      ((Controller.begin left).run controller).state =
        ((Controller.begin right).run controller).state ∧
      ((Controller.begin left).run controller).effects =
        ((Controller.begin right).run controller).effects ∧
      ((Controller.begin left).run controller).value =
        ((Controller.begin right).run controller).state.status left := by
  refine ⟨fun controller constant first again => ?_, fun controller left right => ⟨rfl, rfl, rfl⟩⟩
  refine (upToQueues_begin constant first).repeats ?_ again
  have sources := lasting_serve (.begin first) controller constant
  exact (congrArg Sources.changesLeft sources).trans constant

/-- A controller was shut down while there was work, and its host cannot tell whether downloads are
suspended: it begins for downloads, and once more for uploads. -/
theorem begin_repeats_of_shut_down :
    let sources := { Sources.calm with
      pending := .both (.always (.error (.store "disk error")))
      ready := .both (.always (.ok true))
      suspended := .both (.always (.error (.store "disk error"))) }
    let controller := (create.run (.create {} sources true)).value.following
      [.serve (.begin .upload), .shutDown]
    let begun := ((Controller.begin .download).run controller).state
    begun.isObserving = false ∧ begun.conditions.empty = ⟨some true, some false⟩ ∧
      controller.host.sources.changesLeft = 0 ∧
      Repeats .upload begun ((Controller.begin .upload).run begun) := by
  intro sources controller begun
  have constant : controller.host.sources.changesLeft = 0 := by decide +kernel
  exact ⟨by decide +kernel, by decide +kernel, constant,
    begin_repeats.1 controller constant .download .upload⟩

end Controller

end TransferGate
