import TransferGate.Proofs.Observing
import TransferGate.Proofs.SignalValue

/-! # One value while the controller works

`Controller.tracking` says what may become of the value of a signal while the
controller works: either it is left alone, or it is renewed by a reading. `Signalled`
says that every change of the source was followed by the signal.
-/

namespace TransferGate

def Effect.attaches : Effect → Bool
  | .attached => true
  | _ => false

/-- Every change of what the signal is about was followed by the signal. For an observed signal
only the changes since observing began count. -/
def Signalled (hasBattery : Bool) (signal : Signal) (sources : Sources) (record : List Effect) :
    Prop :=
  ∀ before effect after, record = before ++ effect :: after →
    (sources.afterAll (before ++ [effect])).current hasBattery signal ≠
      (sources.afterAll before).current hasBattery signal →
    (signal.isObserved = true → after.any Effect.attaches = false) →
    ∃ later ∈ after, later.signal? = some signal

namespace Signalled

variable {hasBattery : Bool} {signal : Signal} {sources : Sources}

theorem nil : Signalled hasBattery signal sources [] := by
  intro before effect after split
  simp at split

theorem cons_iff {effect : Effect} {rest : List Effect} :
    Signalled hasBattery signal sources (effect :: rest) ↔
      ((sources.after effect).current hasBattery signal ≠ sources.current hasBattery signal →
        (signal.isObserved = true → rest.any Effect.attaches = false) →
        ∃ later ∈ rest, later.signal? = some signal) ∧
      Signalled hasBattery signal (sources.after effect) rest := by
  constructor
  · intro signalled
    refine ⟨signalled [] effect rest rfl, fun before other after split => ?_⟩
    exact signalled (effect :: before) other after (congrArg (effect :: ·) split)
  · rintro ⟨first, others⟩ before other after split
    cases before with
    | nil =>
        rcases List.cons.inj split with ⟨rfl, rfl⟩
        exact first
    | cons head before =>
        rcases List.cons.inj split with ⟨rfl, restSplit⟩
        exact others before other after restSplit

instance decidable : (sources : Sources) → (record : List Effect) →
    Decidable (Signalled hasBattery signal sources record)
  | _, [] => isTrue nil
  | sources, effect :: rest =>
      have := decidable (sources.after effect) rest
      decidable_of_iff' _ cons_iff

theorem of_append {first second : List Effect}
    (signalled : Signalled hasBattery signal sources (first ++ second)) :
    Signalled hasBattery signal (sources.afterAll first) second := by
  induction first generalizing sources with
  | nil => exact signalled
  | cons effect rest induction => exact induction (cons_iff.mp signalled).2

theorem of_append_left {first second : List Effect}
    (signalled : Signalled hasBattery signal sources (first ++ second))
    (unsaid : ∀ effect ∈ second, effect.signal? ≠ some signal)
    (goesOn : signal.isObserved = true → second.any Effect.attaches = false) :
    Signalled hasBattery signal sources first := by
  intro before effect after split changes sinceThen
  have longer : first ++ second = before ++ effect :: (after ++ second) := by simp [split]
  obtain ⟨later, member, said⟩ := signalled before effect (after ++ second) longer changes
    fun observed => by rw [List.any_append, sinceThen observed, goesOn observed]; rfl
  rcases List.mem_append.mp member with inAfter | inSecond
  · exact ⟨later, inAfter, said⟩
  · exact absurd said (unsaid later inSecond)

theorem unchanged {record : List Effect} (signalled : Signalled hasBattery signal sources record)
    (unsaid : ∀ effect ∈ record, effect.signal? ≠ some signal)
    (goesOn : signal.isObserved = true → record.any Effect.attaches = false) :
    (sources.afterAll record).current hasBattery signal = sources.current hasBattery signal := by
  induction record generalizing sources with
  | nil => rfl
  | cons effect rest induction =>
      rcases cons_iff.mp signalled with ⟨first, others⟩
      have restUnsaid := fun other member => unsaid other (List.mem_cons_of_mem effect member)
      have restGoesOn (observed : signal.isObserved = true) :
          rest.any Effect.attaches = false := by
        have all := goesOn observed
        rw [List.any_cons, Bool.or_eq_false_iff] at all
        exact all.2
      refine (induction others restUnsaid restGoesOn).trans ?_
      by_contra changes
      rcases first changes restGoesOn with ⟨later, member, said⟩
      exact restUnsaid later member said

end Signalled

namespace Controller

open Activity

/-! ## Leaving alone and renewing -/

/-- There is a battery session while observing, if there is a battery manager. -/
def Equipped (controller : Controller) : Prop :=
  controller.isObserving = true → controller.host.Equipped controller.session?

def equipping : Law Controller where
  holds before record after :=
    after.host.sources = before.host.sources.afterAll record ∧
      after.host.hasBattery = before.host.hasBattery ∧ (before.Equipped → after.Equipped)
  idle _ := ⟨rfl, rfl, id⟩
  join first second :=
    ⟨tellingSources.join first.1 second.1, second.2.1.trans first.2.1,
      fun equipped => second.2.2 (first.2.2 equipped)⟩

private theorem hasBattery_beginBattery (host : Host) :
    (Host.beginBattery.run host).value.isSome = (Host.beginBattery.run host).state.hasBattery := by
  rw [(Host.beginBattery_reads host).hasBattery]
  cases known : host.hasBattery <;> simp [Host.beginBattery, Host.beginSession, known]

theorem equipping_elements : Elements equipping where
  remark controller effect remark :=
    ⟨tellingSources_elements.remark controller effect remark, rfl, id⟩
  read activity reads controller :=
    ⟨tellingSources_elements.read activity reads controller, (reads controller.host).hasBattery,
      fun equipped observing => (equipped observing).trans (reads controller.host).hasBattery.symm⟩
  replaceSources change controller :=
    ⟨tellingSources_elements.replaceSources change controller, rfl, id⟩
  revise change controller := ⟨tellingSources_elements.revise change controller, rfl, id⟩
  openObservation controller :=
    ⟨tellingSources_elements.openObservation controller,
      (Host.beginBattery_reads controller.host).hasBattery,
      fun _ _ => hasBattery_beginBattery controller.host⟩
  release observation controller :=
    ⟨tellingSources_elements.release observation controller,
      (Host.endBattery_reads observation.session controller.host).hasBattery,
      fun _ observing => by cases observing⟩

/-- The value is left alone, and observing does not begin. -/
def Leaves (signal : Signal) (before : Controller) (record : List Effect) (after : Controller) :
    Prop :=
  after.conditions.about signal = before.conditions.about signal ∧
    (signal.isObserved = true → record.any Effect.attaches = false)

/-- The value is what a reading has yielded at some point, and observing has not begun since. -/
def Renews (signal : Signal) (before : Controller) (record : List Effect) (after : Controller) :
    Prop :=
  ∃ first second, record = first ++ second ∧
    after.conditions.about signal =
      (before.host.sources.afterAll first).current before.host.hasBattery signal ∧
    (signal.isObserved = true → second.any Effect.attaches = false)

def tracking (signal : Signal) : Law Controller where
  holds before record after :=
    equipping.holds before record after ∧
      (before.Equipped → Leaves signal before record after ∨ Renews signal before record after)
  idle controller := ⟨equipping.idle controller, fun _ => .inl ⟨rfl, fun _ => rfl⟩⟩
  join := by
    rintro before between after earlier later ⟨firstEquips, first⟩ ⟨secondEquips, second⟩
    refine ⟨equipping.join firstEquips secondEquips, fun equipped => ?_⟩
    rcases firstEquips with ⟨sources, hasBattery, stays⟩
    rcases second (stays equipped) with ⟨same, goesOn⟩ | ⟨ahead, behind, rfl, read, goesOn⟩
    · rcases first equipped with ⟨wasSame, wentOn⟩ | ⟨ahead, behind, rfl, read, wentOn⟩
      · refine .inl ⟨same.trans wasSame, fun observed => ?_⟩
        rw [List.any_append, wentOn observed, goesOn observed]
        rfl
      · refine .inr ⟨ahead, behind ++ later, List.append_assoc .., same.trans read, ?_⟩
        intro observed
        rw [List.any_append, wentOn observed, goesOn observed]
        rfl
    · refine .inr ⟨earlier ++ ahead, behind, (List.append_assoc ..).symm, ?_, goesOn⟩
      rw [read, sources, hasBattery, Sources.afterAll_append]

/-! Observing does not begin by the way. -/

def quiet : Law Controller := .recording fun effect => effect.attaches = false

theorem any_attaches {record : List Effect} (quiet : ∀ effect ∈ record, effect.attaches = false) :
    record.any Effect.attaches = false := by
  simpa using quiet

theorem onHost_quiet {Value : Type} {activity : Activity Host Value}
    (reads : Obeys Host.reading activity) : Obeys quiet (onHost activity) := by
  intro controller effect member
  have inquiry := (reads controller.host).inquiries effect member
  cases effect <;> first | rfl | cases inquiry

theorem revise_quiet (change : Conditions → Conditions) : Obeys quiet (revise change) := by
  intro controller effect member
  rcases List.mem_cons.mp member with rfl | announced
  · rfl
  · rcases mem_changeEffects announced with ⟨line, rfl⟩ | ⟨queue, status, rfl⟩ <;> rfl

theorem update_quiet {reading : Option Nat → Activity Host (Conditions → Conditions)}
    (reads : ∀ session, Obeys Host.reading (reading session)) : Obeys quiet (update reading) :=
  Obeys.get.bind fun _ => (onHost_quiet (reads _)).bind fun _ =>
    (revise_quiet _).bind fun _ => .pure _

theorem emit_quiet {effect : Effect} (unattached : effect.attaches = false) :
    Obeys quiet (Activity.emit effect) :=
  .emit fun _ => by simpa [quiet, Law.recording] using unattached

theorem release_quiet (observation : Observation) : Obeys quiet (release observation) :=
  Obeys.bind (.modify fun controller => quiet.idle controller) fun _ =>
    (onHost_quiet (Host.endBattery_reads _)).bind fun _ => emit_quiet rfl

theorem stopObserving_quiet : Obeys quiet stopObserving := by
  apply Obeys.get.bind
  intro controller
  cases controller.observation with
  | none => exact .pure _
  | some observation =>
      exact (release_quiet observation).bind fun _ => (emit_quiet rfl).bind fun _ => emit_quiet rfl

theorem discard_quiet : Obeys quiet discard := by
  apply Obeys.get.bind
  intro controller
  cases controller.observation with
  | none => exact .pure _
  | some observation => exact release_quiet observation

/-! The stages of operations. -/

section

variable {signal : Signal} {controller : Controller}

theorem renews_update {reading : Option Nat → Activity Host (Conditions → Conditions)}
    (reads : ∀ session, Obeys Host.reading (reading session))
    (about : (((reading controller.session?).run controller.host).value
      controller.conditions).about signal = controller.host.current signal) :
    Renews signal controller ((update reading).run controller).effects
      ((update reading).run controller).state :=
  ⟨[], _, rfl, about, fun _ => any_attaches (update_quiet reads controller)⟩

theorem leaves_update {reading : Option Nat → Activity Host (Conditions → Conditions)}
    (reads : ∀ session, Obeys Host.reading (reading session))
    (about : (((reading controller.session?).run controller.host).value
      controller.conditions).about signal = controller.conditions.about signal) :
    Leaves signal controller ((update reading).run controller).effects
      ((update reading).run controller).state :=
  ⟨about, fun _ => any_attaches (update_quiet reads controller)⟩

theorem renews_reread (fit : signal = .batteryLevelChanged →
      controller.host.Equipped controller.session?) :
    Renews signal controller ((reread signal).run controller).effects
      ((reread signal).run controller).state :=
  renews_update (fun session => Host.readFor_reads session signal) (Host.about_readFor signal fit _)

theorem tracks_reread {other : Signal} (fit : other = .batteryLevelChanged →
      controller.Equipped → controller.host.Equipped controller.session?) :
    (tracking signal).holds controller ((reread other).run controller).effects
      ((reread other).run controller).state := by
  refine ⟨equipping_elements.reread other controller, fun equipped => ?_⟩
  by_cases same : signal = other
  · subst same
    exact .inr (renews_reread fun isLevel => fit isLevel equipped)
  · refine .inl (leaves_update (fun session => Host.readFor_reads session other) ?_)
    exact Host.about_readFor_other _ _ same _

theorem renews_refresh (fit : controller.host.Equipped controller.session?) :
    Renews signal controller (refresh.run controller).effects (refresh.run controller).state :=
  renews_update Host.readAll_reads (Host.about_readAll signal (fun _ => fit) _)

theorem tracks_refresh (observing : controller.isObserving = true) :
    (tracking signal).holds controller (refresh.run controller).effects
      (refresh.run controller).state :=
  ⟨equipping_elements.refresh controller,
    fun equipped => .inr (renews_refresh (equipped observing))⟩

theorem leaves_revise {change : Conditions → Conditions}
    (about : (change controller.conditions).about signal = controller.conditions.about signal) :
    Leaves signal controller ((revise change).run controller).effects
      ((revise change).run controller).state :=
  ⟨about, fun _ => any_attaches (revise_quiet change controller)⟩

theorem leaves_onHost {Value : Type} {activity : Activity Host Value}
    (reads : Obeys Host.reading activity) :
    Leaves signal controller ((onHost activity).run controller).effects
      ((onHost activity).run controller).state :=
  ⟨rfl, fun _ => any_attaches (onHost_quiet reads controller)⟩

private theorem equipping_ensureObserving (controller : Controller) :
    equipping.holds controller (ensureObserving.run controller).effects
      (ensureObserving.run controller).state := by
  have obeys : Obeys equipping ensureObserving := by
    apply Obeys.get.bind
    intro controller
    cases controller.observation with
    | none => exact equipping_elements.openObservation
    | some observation => exact .pure _
  exact obeys controller

theorem tracks_startObserving (controller : Controller) :
    (tracking signal).holds controller (startObserving.run controller).effects
      (startObserving.run controller).state := by
  refine ⟨equipping_elements.startObserving controller, fun equipped => .inr ?_⟩
  rcases equipping_ensureObserving controller with ⟨sources, hasBattery, stays⟩
  have observing := isObserving_ensureObserving controller
  obtain ⟨ahead, behind, record, read, goesOn⟩ : Renews signal _ _ _ :=
    renews_refresh (stays equipped observing)
  refine ⟨(ensureObserving.run controller).effects ++ ahead, behind, ?_, ?_, goesOn⟩
  · rw [startObserving, run_bind, record, List.append_assoc]
  · rw [startObserving, run_bind, read, sources, hasBattery, Sources.afterAll_append]

theorem tracks_lookAtQueues (controller : Controller) :
    (tracking signal).holds controller (lookAtQueues.run controller).effects
      (lookAtQueues.run controller).state := by
  refine ⟨equipping_elements.stages.lookAtQueues controller, fun _ => ?_⟩
  have goesOn : (lookAtQueues.run controller).effects.any Effect.attaches = false :=
    any_attaches (((onHost_quiet Host.probeQueues_reads).bind fun _ =>
      (revise_quiet _).bind fun _ => .pure _) controller)
  by_cases suspension : signal = .downloadSuspensionChanged
  · subst suspension
    exact .inr ⟨[], _, rfl, Host.suspension_probeQueues controller.host, fun _ => goesOn⟩
  · refine .inl ⟨?_, fun _ => goesOn⟩
    cases signal <;> first | rfl | exact absurd rfl suspension

theorem leaves_stopObserving (controller : Controller) :
    Leaves signal controller (stopObserving.run controller).effects
      (stopObserving.run controller).state := by
  refine ⟨?_, fun _ => any_attaches (stopObserving_quiet controller)⟩
  rw [stopObserving, run_bind, run_get]
  cases controller.observation <;> rfl

theorem leaves_discard (controller : Controller) :
    Leaves signal controller (discard.run controller).effects (discard.run controller).state := by
  refine ⟨?_, fun _ => any_attaches (discard_quiet controller)⟩
  rw [discard, run_bind, run_get]
  cases controller.observation <;> rfl

end

theorem tracking_passing (signal : Signal) (controller : Controller) {effect : Effect}
    (passing : effect.isPassing = true) :
    (tracking signal).holds controller [effect] controller := by
  refine ⟨⟨tellingSources_passing controller passing, rfl, id⟩, fun _ => .inl ⟨rfl, fun _ => ?_⟩⟩
  cases effect <;> first | rfl | cases passing

theorem tracks_onHost {signal : Signal} {Value : Type} {activity : Activity Host Value}
    (reads : Obeys Host.reading activity) : Obeys (tracking signal) (onHost activity) :=
  fun controller =>
    ⟨equipping_elements.read activity reads controller, fun _ => .inl (leaves_onHost reads)⟩

theorem tracking_stages (signal : Signal) : Stages (tracking signal) where
  log _ controller := tracking_passing signal controller rfl
  requiredBytes := tracks_onHost Host.requiredBytes_reads
  freeSpace := tracks_onHost (Host.lookUp_reads .freeSpace)
  replaceSources change controller :=
    ⟨equipping_elements.replaceSources change controller, fun _ => .inl ⟨rfl, fun _ => rfl⟩⟩
  lookAtQueues := tracks_lookAtQueues
  recordEmpty change controller := by
    refine ⟨equipping_elements.revise _ controller, fun _ => .inl (leaves_revise ?_)⟩
    cases signal <;> rfl
  recordOutOfSpace ranOut controller := by
    refine ⟨equipping_elements.stages.toKeptStages.recordOutOfSpace ranOut controller, fun _ => .inl ?_⟩
    have goesOn := ((revise_quiet fun conditions =>
      { conditions with ranOutOfSpace := ranOut }).bind fun _ => .pure ()) controller
    refine ⟨?_, fun _ => any_attaches goesOn⟩
    cases signal <;> rfl
  readinessChanged _ := tracks_reread fun isLevel => by cases isLevel
  freeSpaceChanged _ := tracks_reread fun isLevel => by cases isLevel
  reread _ _ observing := tracks_reread fun _ equipped => equipped observing
  refresh _ observing := tracks_refresh observing
  startObserving := tracks_startObserving
  stopObserving controller :=
    ⟨equipping_elements.stopObserving controller, fun _ => .inl (leaves_stopObserving controller)⟩
  discard controller :=
    ⟨equipping_elements.discard controller, fun _ => .inl (leaves_discard controller)⟩

theorem tracking_allows (signal : Signal) : Gate.Allows (tracking signal) where
  stages := tracking_stages signal
  foreign controller _ foreign :=
    tracking_passing signal controller (Effect.isPassing_of_isForeign foreign)
  signal _ _ := ⟨⟨rfl, rfl, id⟩, fun _ => .inl ⟨rfl, fun _ => rfl⟩⟩

end Controller

end TransferGate
