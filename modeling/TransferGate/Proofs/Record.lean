import TransferGate.Proofs.Stages

/-! # What a record tells

Whoever knows how a controller was at the beginning, and reads the record of what
was done with it, knows what has become of the sources of its host and whether it
observes.
-/

namespace TransferGate

namespace Effect

def signal? : Effect → Option Signal
  | .announced notice =>
      match notice.kind with
      | .signal signal => some signal
      | _ => none
  | _ => none

def observing (before : Bool) : Effect → Bool
  | .attached => true
  | .detached => false
  | _ => before

def observingAll (before : Bool) (record : List Effect) : Bool := record.foldl observing before

@[simp] theorem observingAll_nil (before : Bool) : observingAll before [] = before := rfl

@[simp] theorem observingAll_cons (before : Bool) (effect : Effect) (record : List Effect) :
    observingAll before (effect :: record) = observingAll (effect.observing before) record := rfl

@[simp] theorem observingAll_append (before : Bool) (first second : List Effect) :
    observingAll before (first ++ second) = observingAll (observingAll before first) second :=
  List.foldl_append

def keepsSeat : Effect → Bool
  | .attached => false
  | .detached => false
  | _ => true

private theorem observingAll_of_keepsSeat (before : Bool) {record : List Effect}
    (keeps : ∀ effect ∈ record, effect.keepsSeat = true) : observingAll before record = before := by
  induction record with
  | nil => rfl
  | cons effect rest induction =>
      have restKeeps := induction fun other member => keeps other (List.mem_cons_of_mem _ member)
      have headKeeps := keeps effect (List.mem_cons_self ..)
      cases effect <;> first | exact restKeeps | cases headKeeps

private theorem keepsSeat_of_isInquiry {effect : Effect} (inquiry : effect.isInquiry = true) :
    effect.keepsSeat = true := by
  cases effect <;> first | rfl | cases inquiry

private theorem keepsSeat_of_isPassing {effect : Effect} (passing : effect.isPassing = true) :
    effect.keepsSeat = true := by
  cases effect <;> first | rfl | cases passing

def answer? : Effect → Option (Nat × Reply)
  | .answered ticket reply => some (ticket, reply)
  | _ => none

def isInner : Effect → Bool
  | .announced notice => !notice.kind.isSignal
  | .answered _ _ => false
  | .relayed _ => false
  | .queued _ _ => false
  | .delivered _ _ => false
  | _ => true

private theorem isInner_of_isInquiry {effect : Effect} (inquiry : effect.isInquiry = true) :
    effect.isInner = true := by
  cases effect <;> first | rfl | cases inquiry

private theorem isInner_of_isRemark {effect : Effect} (remark : effect.isRemark = true) :
    effect.isInner = true := by
  cases effect with
  | announced notice =>
      rw [isRemark, Bool.and_eq_true] at remark
      exact remark.1
  | logged line => rfl
  | _ => cases remark

theorem answer?_of_isInner {effect : Effect} (inner : effect.isInner = true) :
    effect.answer? = none := by
  cases effect <;> first | rfl | cases inner

theorem signal?_of_isInner {effect : Effect} (inner : effect.isInner = true) :
    effect.signal? = none := by
  cases effect with
  | announced notice =>
      rw [isInner, Bool.not_eq_true'] at inner
      simp only [signal?]
      split
      · next signal kind => simp [kind, EventKind.isSignal] at inner
      · rfl
  | _ => rfl

theorem signal?_of_isPassing {effect : Effect} (passing : effect.isPassing = true) :
    effect.signal? = none := by
  cases effect with
  | announced notice =>
      simp only [isPassing, isRemark, Bool.and_eq_true, Bool.not_eq_true'] at passing
      simp only [signal?]
      split
      · next signal kind => simp [kind, EventKind.isSignal] at passing
      · rfl
  | _ => rfl

end Effect

theorem Sources.after_of_isPassing (sources : Sources) {effect : Effect}
    (passing : effect.isPassing = true) : sources.after effect = sources := by
  cases effect <;> first | rfl | cases passing

theorem Controller.mem_changeEffects {effect : Effect} {changes : List Conditions.StatusChange}
    (member : effect ∈ changes.flatMap changeEffects) :
    (∃ line, effect = .logged line) ∨
      ∃ queue status, effect = .announced (.statusChanged queue status) := by
  rcases List.mem_flatMap.mp member with ⟨change, -, inChange⟩
  simp only [changeEffects, List.mem_cons, List.not_mem_nil, or_false] at inChange
  rcases inChange with rfl | rfl
  · exact .inl ⟨_, rfl⟩
  · exact .inr ⟨_, _, rfl⟩

private theorem Sources.afterAll_changeEffects (sources : Sources)
    (changes : List Conditions.StatusChange) :
    sources.afterAll (changes.flatMap Controller.changeEffects) = sources := by
  induction changes with
  | nil => rfl
  | cons change rest induction =>
      rw [List.flatMap_cons, afterAll_append]
      exact induction

namespace Controller

open Activity

theorem run_openObservation (controller : Controller) :
    openObservation.run controller =
      ⟨(), { controller with
          observation := some ⟨(Host.beginBattery.run controller.host).value⟩
          host := (Host.beginBattery.run controller.host).state },
        .attached :: ((Host.beginBattery.run controller.host).effects ++
          [.logged .observationStarted, .announced .observationStarted])⟩ := rfl

theorem run_release (observation : Observation) (controller : Controller) :
    (release observation).run controller =
      ⟨(), { controller with
          observation := none
          host := ((Host.endBattery observation.session).run controller.host).state },
        ((Host.endBattery observation.session).run controller.host).effects ++ [.detached]⟩ := rfl

def tellingSources : Law Controller where
  holds before record after := after.host.sources = before.host.sources.afterAll record
  idle _ := rfl
  join first second := by rw [second, first, Sources.afterAll_append]

theorem tellingSources_passing (controller : Controller) {effect : Effect}
    (passing : effect.isPassing = true) : tellingSources.holds controller [effect] controller :=
  (controller.host.sources.after_of_isPassing passing).symm

theorem tellingSources_elements : Elements tellingSources where
  remark controller _ remark :=
    tellingSources_passing controller (Effect.isPassing_of_isRemark remark)
  read _ reads controller := (reads controller.host).sources
  replaceSources _ _ := rfl
  revise change controller := by
    have announced := controller.host.sources.afterAll_changeEffects
      (controller.conditions.changes (change controller.conditions))
    exact announced.symm
  openObservation controller := by
    have begun := (Host.beginBattery_reads controller.host).sources
    simpa [tellingSources, run_openObservation, Sources.after] using begun
  release observation controller := by
    have ended := (Host.endBattery_reads observation.session controller.host).sources
    simpa [tellingSources, run_release, Sources.after] using ended

def tellingObservation : Law Controller where
  holds before record after :=
    after.isObserving = Effect.observingAll before.isObserving record
  idle _ := rfl
  join first second := by rw [second, first, Effect.observingAll_append]

theorem tellingObservation_passing (controller : Controller) {effect : Effect}
    (passing : effect.isPassing = true) : tellingObservation.holds controller [effect] controller :=
  (Effect.observingAll_of_keepsSeat controller.isObserving (by
    simpa using Effect.keepsSeat_of_isPassing passing)).symm

theorem tellingObservation_elements : Elements tellingObservation where
  remark controller _ remark :=
    tellingObservation_passing controller (Effect.isPassing_of_isRemark remark)
  read _ reads controller :=
    (Effect.observingAll_of_keepsSeat controller.isObserving fun effect member =>
      Effect.keepsSeat_of_isInquiry ((reads controller.host).inquiries effect member)).symm
  replaceSources _ _ := rfl
  revise change controller := by
    refine (Effect.observingAll_of_keepsSeat controller.isObserving fun effect member => ?_).symm
    rcases List.mem_cons.mp member with rfl | announced
    · rfl
    · rcases mem_changeEffects announced with ⟨line, rfl⟩ | ⟨queue, status, rfl⟩ <;> rfl
  openObservation controller := by
    have begun := Effect.observingAll_of_keepsSeat true fun effect member =>
      Effect.keepsSeat_of_isInquiry
        ((Host.beginBattery_reads controller.host).inquiries effect member)
    simp [tellingObservation, run_openObservation, Effect.observing, begun, isObserving]
  release observation controller := by
    simp [tellingObservation, run_release, Effect.observing, isObserving]

def inner : Law Controller := .recording fun effect => effect.isInner = true

theorem inner_elements : Elements inner where
  remark _ _ remark := by simpa [inner, Law.recording] using Effect.isInner_of_isRemark remark
  read _ reads controller effect member :=
    Effect.isInner_of_isInquiry ((reads controller.host).inquiries effect member)
  replaceSources _ _ := by simp [inner, Law.recording, Host.replaceSources, Effect.isInner]
  revise change controller effect member := by
    rcases List.mem_cons.mp member with rfl | announced
    · rfl
    · rcases mem_changeEffects announced with ⟨line, rfl⟩ | ⟨queue, status, rfl⟩ <;> rfl
  openObservation controller := by
    intro effect member
    rw [run_openObservation, List.mem_cons, List.mem_append] at member
    rcases member with rfl | begun | ending
    · rfl
    · exact Effect.isInner_of_isInquiry
        ((Host.beginBattery_reads controller.host).inquiries effect begun)
    · simp only [List.mem_cons, List.not_mem_nil, or_false] at ending
      rcases ending with rfl | rfl <;> rfl
  release observation controller := by
    intro effect member
    rw [run_release, List.mem_append, List.mem_singleton] at member
    rcases member with ended | rfl
    · exact Effect.isInner_of_isInquiry
        ((Host.endBattery_reads observation.session controller.host).inquiries effect ended)
    · rfl

end Controller

end TransferGate
