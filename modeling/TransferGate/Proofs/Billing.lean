import TransferGate.Proofs.Agreement
import TransferGate.Proofs.GateRun

/-! # Who makes the requirement known

The first to ask for the space requirement makes the host tell the size of the largest
download. `Host.Billed` ties what the host keeps to the limits in the record so far, and
`Conditions.InStep` ties the conditions to them. A complete reading is the only one that
makes the requirement known to the conditions, and observing always begins with one.
-/

namespace TransferGate

open Activity

namespace Effect

def limit? : Effect → Option UInt64
  | .asked ⟨.maxDownload, answer⟩ => some answer
  | _ => none

def beginsObserving : Effect → Bool
  | .announced notice => notice.kind == .observationStarted
  | _ => false

end Effect

def limitsIn (record : List Effect) : List UInt64 := record.filterMap Effect.limit?

def everObserved (record : List Effect) : Bool := record.any Effect.beginsObserving

@[simp] theorem limitsIn_append (first second : List Effect) :
    limitsIn (first ++ second) = limitsIn first ++ limitsIn second :=
  List.filterMap_append

@[simp] theorem everObserved_append (first second : List Effect) :
    everObserved (first ++ second) = (everObserved first || everObserved second) :=
  List.any_append

/-! ## The host -/

namespace Host

/-- What the host keeps follows from the limits it has told. -/
structure Billed (multiplier : UInt64) (limits : List UInt64) (host : Host) : Prop where
  once : limits.length ≤ 1
  factor : host.requirement.multiplier = multiplier
  known : host.requirement.known = limits.head?.map (saturatingMul · multiplier)

def frugal : Law Host where
  holds before record after :=
    after.requirement = before.requirement ∧ limitsIn record = []
  idle _ := ⟨rfl, rfl⟩
  join first second :=
    ⟨second.1.trans first.1, by rw [limitsIn_append, first.2, second.2, List.append_nil]⟩

def billing (multiplier : UInt64) : Law Host where
  holds before record after := ∀ limits, Billed multiplier limits before →
    Billed multiplier (limits ++ limitsIn record) after
  idle host limits billed := by simpa [limitsIn] using billed
  join first second limits billed := by
    rw [limitsIn_append, ← List.append_assoc]
    exact second _ (first limits billed)

theorem billing_of_frugal {before after : Host} {record : List Effect} (multiplier : UInt64)
    (spares : frugal.holds before record after) :
    (billing multiplier).holds before record after := by
  intro limits billed
  rw [spares.2, List.append_nil]
  exact ⟨billed.once, spares.1 ▸ billed.factor, spares.1 ▸ billed.known⟩

/-! ### Readings that spare the requirement -/

theorem ask_frugal {question : Question} (other : question ≠ .maxDownload) :
    Obeys frugal (ask question) := by
  intro host
  refine ⟨rfl, ?_⟩
  cases question <;> first | rfl | exact absurd rfl other

theorem log_frugal (line : LogLine) : Obeys frugal (Activity.log line) := fun _ => ⟨rfl, rfl⟩

theorem lookUp_frugal (lookup : Lookup) : Obeys frugal (lookUp lookup) := by
  apply (ask_frugal (by simp)).bind
  intro answer
  cases answer with
  | ok value => exact .pure _
  | error failure => exact (log_frugal _).bind fun _ => .pure _

theorem isLowPower_frugal : Obeys frugal isLowPower := isLowPower_obeys (ask_frugal (by simp))

theorem batteryLevel_frugal (session : Option Nat) : Obeys frugal (batteryLevel session) :=
  batteryLevel_obeys (fun _ => ask_frugal (by simp)) session

theorem beginBattery_frugal : Obeys frugal beginBattery :=
  beginBattery_obeys (fun _ _ => ask_frugal (by simp)) fun _ => .modify fun _ => ⟨rfl, rfl⟩

theorem endBattery_frugal (session : Option Nat) : Obeys frugal (endBattery session) :=
  endBattery_obeys (fun _ => ask_frugal (by simp)) session

theorem downloadsSuspended_frugal : Obeys frugal downloadsSuspended :=
  downloadsSuspended_obeys (lookUp_frugal _) (lookUp_frugal _) (ask_frugal (by simp))

theorem probeQueues_frugal : Obeys frugal probeQueues :=
  probeQueues_obeys (fun lookup _ => lookUp_frugal lookup) (ask_frugal (by simp))

theorem readFor_frugal (session : Option Nat) (signal : Signal) :
    Obeys frugal (readFor session signal) := by
  cases signal with
  | appReady => exact (ask_frugal (by simp)).bind fun _ => .pure _
  | registrationChanged => exact (ask_frugal (by simp)).bind fun _ => .pure _
  | cellularPreferenceChanged => exact (lookUp_frugal _).bind fun _ => .pure _
  | reachabilityChanged => exact (ask_frugal (by simp)).bind fun _ => .pure _
  | batteryLevelChanged => exact (batteryLevel_frugal session).bind fun _ => .pure _
  | lowPowerModeChanged => exact isLowPower_frugal.bind fun _ => .pure _
  | willEnterForeground => exact (lookUp_frugal _).bind fun _ => .pure _
  | downloadSuspensionChanged => exact downloadsSuspended_frugal.bind fun _ => .pure _

/-! ### Readings of the requirement -/

theorem requiredBytes_bills (multiplier : UInt64) : Obeys (billing multiplier) requiredBytes := by
  intro host limits billed
  rw [run_requiredBytes]
  have known := billed.known
  cases limits with
  | nil =>
      rw [List.head?_nil, Option.map_none] at known
      rw [known, ← billed.factor]
      exact ⟨Nat.le_refl 1, rfl, rfl⟩
  | cons limit others =>
      rw [List.head?_cons, Option.map_some] at known
      rw [known]
      simpa [limitsIn] using billed

theorem known_requiredBytes (host : Host) :
    (requiredBytes.run host).state.requirement.known = some (requiredBytes.run host).value := by
  rw [run_requiredBytes]
  cases known : host.requirement.known with
  | none => rfl
  | some bytes => exact known

theorem readAll_bills (multiplier : UInt64) (session : Option Nat) :
    Obeys (billing multiplier) (readAll session) := by
  have spared {Value : Type} {activity : Activity Host Value} (spares : Obeys frugal activity) :
      Obeys (billing multiplier) activity := fun host => billing_of_frugal multiplier (spares host)
  exact (spared (ask_frugal (by simp))).bind fun _ => (spared (ask_frugal (by simp))).bind fun _ =>
    (spared (ask_frugal (by simp))).bind fun _ => (spared downloadsSuspended_frugal).bind fun _ =>
    (spared (lookUp_frugal _)).bind fun _ => (spared (ask_frugal (by simp))).bind fun _ =>
    (spared (batteryLevel_frugal session)).bind fun _ => (spared isLowPower_frugal).bind fun _ =>
    (spared (lookUp_frugal _)).bind fun _ => (requiredBytes_bills multiplier).bind fun _ => .pure _

theorem requiredBytes_readAll (host : Host) (session : Option Nat) (conditions : Conditions) :
    (((readAll session).run host).value conditions).requiredBytes =
      ((readAll session).run host).state.requirement.known :=
  (known_requiredBytes _).symm

end Host

/-! ## The conditions -/

theorem Conditions.belowRequirement_of_requiredBytes {conditions : Conditions} {bytes : UInt64}
    (required : conditions.requiredBytes = some bytes) :
    conditions.belowRequirement = Gate.isShort conditions.freeBytes bytes := by
  rw [belowRequirement, required, Gate.isShort]
  cases conditions.freeBytes <;> rfl

/-- The conditions know the requirement, registration and wifi exactly if observing began at some
time, and the requirement they know follows from a limit that was told. -/
structure Conditions.InStep (multiplier : UInt64) (limits : List UInt64) (begun : Bool)
    (conditions : Conditions) : Prop where
  required : conditions.requiredBytes.isSome = begun
  registered : conditions.registered.isSome = begun
  wifi : conditions.wifi.isSome = begun
  billed : ∀ bytes, conditions.requiredBytes = some bytes →
    ∃ limit ∈ limits, bytes = saturatingMul limit multiplier

namespace Conditions.InStep

variable {multiplier : UInt64} {limits : List UInt64} {begun : Bool} {conditions : Conditions}

theorem unread (primary : Bool) : (Conditions.unread primary).InStep multiplier limits false :=
  ⟨rfl, rfl, rfl, by simp [Conditions.unread]⟩

private theorem of_same {other : Conditions} (inStep : conditions.InStep multiplier limits begun)
    (required : other.requiredBytes = conditions.requiredBytes)
    (registered : other.registered = conditions.registered)
    (wifi : other.wifi = conditions.wifi) : other.InStep multiplier limits begun :=
  ⟨required ▸ inStep.required, registered ▸ inStep.registered, wifi ▸ inStep.wifi,
    required ▸ inStep.billed⟩

theorem later (inStep : conditions.InStep multiplier limits begun) (more : List UInt64) :
    conditions.InStep multiplier (limits ++ more) begun where
  required := inStep.required
  registered := inStep.registered
  wifi := inStep.wifi
  billed bytes known := by
    rcases inStep.billed bytes known with ⟨limit, member, same⟩
    exact ⟨limit, List.mem_append_left _ member, same⟩

private theorem readFor (inStep : conditions.InStep multiplier limits begun) {signal : Signal}
    (plain : begun = true ∨ signal = .appReady ∨ signal = .willEnterForeground)
    (session : Option Nat) (host : Host) :
    (((Host.readFor session signal).run host).value conditions).InStep multiplier limits begun := by
  cases signal with
  | registrationChanged =>
      have watched : begun = true := by simpa using plain
      exact ⟨inStep.required, watched.symm, inStep.wifi, inStep.billed⟩
  | reachabilityChanged =>
      have watched : begun = true := by simpa using plain
      exact ⟨inStep.required, inStep.registered, watched.symm, inStep.billed⟩
  | _ => exact ⟨inStep.required, inStep.registered, inStep.wifi, inStep.billed⟩

private theorem readAll {host : Host} (session : Option Nat) (conditions : Conditions)
    (billed : Host.Billed multiplier limits ((Host.readAll session).run host).state) :
    (((Host.readAll session).run host).value conditions).InStep multiplier limits true := by
  refine ⟨rfl, rfl, rfl, fun bytes known => ?_⟩
  rw [Host.requiredBytes_readAll, billed.known] at known
  rcases Option.map_eq_some_iff.mp known with ⟨limit, first, same⟩
  exact ⟨limit, List.mem_of_head? first, same.symm⟩

end Conditions.InStep

/-! ## The controller -/

namespace Controller

structure Informed (multiplier : UInt64) (limits : List UInt64) (begun : Bool)
    (controller : Controller) : Prop where
  billed : controller.host.Billed multiplier limits
  inStep : controller.conditions.InStep multiplier limits begun
  observing : controller.isObserving = true → begun = true

/-- Everybody stays informed, and in between the conditions never get out of step. -/
def informing (multiplier : UInt64) : Law Controller where
  holds before record after := ∀ limits begun, Informed multiplier limits begun before →
    Informed multiplier (limits ++ limitsIn record) (begun || everObserved record) after ∧
      ∀ conditions, .revised conditions ∈ record →
        ∃ known, conditions.InStep multiplier (limits ++ limitsIn record) known
  idle _ limits begun informed := by simpa [limitsIn, everObserved] using informed
  join {before between after first second} firstInforms secondInforms limits begun informed := by
    rcases firstInforms limits begun informed with ⟨informedBetween, firstRevised⟩
    rcases secondInforms _ _ informedBetween with ⟨informedAfter, secondRevised⟩
    rw [limitsIn_append, everObserved_append, ← List.append_assoc, ← Bool.or_assoc]
    refine ⟨informedAfter, fun conditions member => ?_⟩
    rcases List.mem_append.mp member with inFirst | inSecond
    · rcases firstRevised conditions inFirst with ⟨known, inStep⟩
      exact ⟨known, inStep.later _⟩
    · exact secondRevised conditions inSecond

variable {multiplier : UInt64}

private theorem informing_of_silent {before after : Controller} {record : List Effect}
    (conditions : after.conditions = before.conditions)
    (observing : after.isObserving = true → before.isObserving = true)
    (bills : (Host.billing multiplier).holds before.host record after.host)
    (silent : everObserved record = false)
    (unrevised : ∀ conditions, .revised conditions ∉ record) :
    (informing multiplier).holds before record after := by
  intro limits begun informed
  rw [silent, Bool.or_false]
  refine ⟨⟨bills limits informed.billed, ?_, informed.observing ∘ observing⟩, ?_⟩
  · rw [conditions]
    exact informed.inStep.later _
  · intro revised member
    exact absurd member (unrevised revised)

private theorem everObserved_of_isInquiry {record : List Effect}
    (inquiries : ∀ effect ∈ record, effect.isInquiry = true) : everObserved record = false := by
  refine List.any_eq_false.mpr fun effect member => Bool.not_eq_true _ ▸ ?_
  have inquiry := inquiries effect member
  cases effect <;> first | rfl | cases inquiry

theorem onHost_informs {Value : Type} {activity : Activity Host Value}
    (reads : Obeys Host.reading activity) (bills : Obeys (Host.billing multiplier) activity) :
    Obeys (informing multiplier) (onHost activity) := by
  intro controller
  have inquiries := (reads controller.host).inquiries
  refine informing_of_silent rfl id (bills controller.host) (everObserved_of_isInquiry inquiries) ?_
  intro conditions member
  cases inquiries _ member

theorem onHost_informs_of_frugal {Value : Type} {activity : Activity Host Value}
    (reads : Obeys Host.reading activity) (spares : Obeys Host.frugal activity) :
    Obeys (informing multiplier) (onHost activity) :=
  onHost_informs reads fun host => Host.billing_of_frugal multiplier (spares host)

theorem Informed.keeps {limits : List UInt64} {begun : Bool} {controller : Controller}
    (informed : Informed multiplier limits begun controller) {bytes : UInt64}
    (recorded : controller.conditions.requiredBytes = some bytes) :
    controller.host.requirement.known = some bytes := by
  rcases informed.inStep.billed bytes recorded with ⟨limit, member, rfl⟩
  obtain ⟨only, single⟩ := List.length_eq_one_iff.mp
    (Nat.le_antisymm informed.billed.once (List.length_pos_of_mem member))
  rw [single] at member
  rw [informed.billed.known, single, List.mem_singleton.mp member]
  rfl

/-! ### Revisions -/

private theorem limitsIn_changeEffects (changes : List Conditions.StatusChange) :
    limitsIn (changes.flatMap changeEffects) = [] := by
  apply List.filterMap_eq_nil_iff.mpr
  intro effect member
  rcases mem_changeEffects member with ⟨line, rfl⟩ | ⟨queue, status, rfl⟩ <;> rfl

private theorem everObserved_changeEffects (changes : List Conditions.StatusChange) :
    everObserved (changes.flatMap changeEffects) = false := by
  apply List.any_eq_false.mpr
  intro effect member
  rcases mem_changeEffects member with ⟨line, rfl⟩ | ⟨queue, status, rfl⟩ <;>
    simp [Effect.beginsObserving, Notice.statusChanged]

theorem revise_informs {change : Conditions → Conditions} {controller : Controller}
    (keeps : ∀ limits begun, Informed multiplier limits begun controller →
      (change controller.conditions).InStep multiplier limits begun) :
    (informing multiplier).holds controller ((revise change).run controller).effects
      ((revise change).run controller).state := by
  intro limits begun informed
  have inStep := keeps limits begun informed
  have limitless : limitsIn ((revise change).run controller).effects = [] :=
    limitsIn_changeEffects _
  have silent : everObserved ((revise change).run controller).effects = false :=
    everObserved_changeEffects _
  rw [limitless, silent, List.append_nil, Bool.or_false]
  refine ⟨⟨informed.billed, inStep, informed.observing⟩, fun conditions member => ?_⟩
  rcases List.mem_cons.mp member with revised | announced
  · cases revised
    exact ⟨begun, inStep⟩
  · rcases mem_changeEffects announced with ⟨line, other⟩ | ⟨queue, status, other⟩ <;> cases other

private theorem revise_informs_of_apart {change : Conditions → Conditions}
    (apart : ∀ conditions limits begun, conditions.InStep multiplier limits begun →
      (change conditions).InStep multiplier limits begun) :
    Obeys (informing multiplier) (revise change) := fun controller =>
  revise_informs fun limits begun informed => apart controller.conditions limits begun informed.inStep

theorem reread_informs {signal : Signal} {controller : Controller}
    (plain : controller.isObserving = true ∨ signal = .appReady ∨ signal = .willEnterForeground) :
    (informing multiplier).holds controller ((reread signal).run controller).effects
      ((reread signal).run controller).state := by
  have reads : Obeys (informing multiplier) (onHost (Host.readFor controller.session? signal)) :=
    onHost_informs_of_frugal (Host.readFor_reads _ signal) (Host.readFor_frugal _ signal)
  refine (informing multiplier).join ((informing multiplier).idle controller)
    ((informing multiplier).join (reads controller)
      ((informing multiplier).join (revise_informs fun limits begun informed => ?_)
        ((informing multiplier).idle _)))
  exact informed.inStep.readFor (plain.imp_left informed.observing) _ _

theorem refresh_informs {limits : List UInt64} {controller : Controller}
    (billed : controller.host.Billed multiplier limits) :
    let outcome := refresh.run controller
    Informed multiplier (limits ++ limitsIn outcome.effects) true outcome.state ∧
      ∀ conditions, .revised conditions ∈ outcome.effects →
        ∃ known, conditions.InStep multiplier (limits ++ limitsIn outcome.effects) known := by
  intro outcome
  let reading := (Host.readAll controller.session?).run controller.host
  let changes := controller.conditions.changes (reading.value controller.conditions)
  have record : outcome.effects =
      reading.effects ++ .revised (reading.value controller.conditions) ::
        changes.flatMap changeEffects := by
    simp [outcome, reading, changes, refresh, update]
  have limitsOf : limitsIn outcome.effects = limitsIn reading.effects := by
    rw [record, limitsIn_append]
    exact (congrArg _ (limitsIn_changeEffects changes)).trans (List.append_nil _)
  have billedAfter := Host.readAll_bills multiplier controller.session? controller.host limits billed
  have inStep := Conditions.InStep.readAll controller.session? controller.conditions billedAfter
  rw [limitsOf]
  refine ⟨⟨billedAfter, inStep, fun _ => rfl⟩, fun conditions member => ⟨true, ?_⟩⟩
  rw [record] at member
  rcases List.mem_append.mp member with read | revised
  · cases (Host.readAll_reads controller.session? controller.host).inquiries _ read
  · rcases List.mem_cons.mp revised with same | announced
    · cases same
      exact inStep
    · rcases mem_changeEffects announced with ⟨line, other⟩ | ⟨queue, status, other⟩ <;> cases other

/-! ### Stages -/

theorem startObserving_informs : Obeys (informing multiplier) startObserving := by
  intro controller limits begun informed
  cases observing : controller.observation with
  | some observation =>
      have already : begun = true := informed.observing (by rw [isObserving, observing]; rfl)
      have same : startObserving.run controller = refresh.run controller := by
        simp [startObserving, ensureObserving, observing]
      rw [same, already, Bool.true_or]
      exact refresh_informs informed.billed
  | none =>
      let opened := (openObservation.run controller).state
      have same : startObserving.run controller =
          ⟨(), (refresh.run opened).state,
            (openObservation.run controller).effects ++ (refresh.run opened).effects⟩ := by
        simp [startObserving, ensureObserving, observing, opened]
      rcases Host.beginBattery_frugal controller.host with ⟨unbilled, unasked⟩
      have limitless : limitsIn (openObservation.run controller).effects = [] := by
        simp only [run_openObservation]
        exact (limitsIn_append _ _).trans (by rw [unasked]; rfl)
      have begins : everObserved (openObservation.run controller).effects = true := by
        simp only [run_openObservation]
        exact (everObserved_append _ _).trans (Bool.or_true _)
      have billed : opened.host.Billed multiplier limits :=
        ⟨informed.billed.once, unbilled ▸ informed.billed.factor, unbilled ▸ informed.billed.known⟩
      rcases refresh_informs billed with ⟨refreshed, revised⟩
      rw [same]
      simp only [limitsIn_append, everObserved_append, limitless, begins, List.nil_append,
        Bool.true_or, Bool.or_true]
      refine ⟨refreshed, fun conditions member => ?_⟩
      rcases List.mem_append.mp member with inOpening | inRefresh
      · rw [run_openObservation, List.mem_cons, List.mem_append] at inOpening
        rcases inOpening with other | begun | ending
        · cases other
        · cases (Host.beginBattery_reads controller.host).inquiries _ begun
        · simp at ending
      · exact revised conditions inRefresh

theorem emit_informs {effect : Effect} (limitless : effect.limit? = none)
    (silent : effect.beginsObserving = false) (unrevised : ∀ conditions, effect ≠ .revised conditions)
    (controller : Controller) : (informing multiplier).holds controller [effect] controller := by
  have unasked : limitsIn [effect] = [] := by simp [limitsIn, limitless]
  refine informing_of_silent rfl id ?_ (by simp [everObserved, silent]) ?_
  · exact Host.billing_of_frugal multiplier ⟨rfl, unasked⟩
  · intro conditions member
    exact unrevised conditions (List.mem_singleton.mp member).symm

theorem release_informs (observation : Observation) :
    Obeys (informing multiplier) (release observation) := by
  refine Obeys.bind (.modify fun controller => ?_) fun _ =>
    (onHost_informs_of_frugal (Host.endBattery_reads _) (Host.endBattery_frugal _)).bind fun _ =>
      .emit (emit_informs rfl rfl (by simp))
  exact informing_of_silent rfl (by simp [isObserving])
    ((Host.billing multiplier).idle controller.host) rfl (by simp)

theorem stopObserving_informs : Obeys (informing multiplier) stopObserving := by
  apply Obeys.get.bind
  intro controller
  cases controller.observation with
  | none => exact .pure _
  | some observation =>
      exact (release_informs observation).bind fun _ =>
        Obeys.bind (.emit (emit_informs rfl rfl (by simp))) fun _ =>
          .emit (emit_informs rfl rfl (by simp))

theorem discard_informs : Obeys (informing multiplier) discard := by
  apply Obeys.get.bind
  intro controller
  cases controller.observation with
  | none => exact .pure _
  | some observation => exact release_informs observation

theorem replaceSources_informs (change : Sources → Sources) :
    Obeys (informing multiplier) (onHost (Host.replaceSources change)) := by
  intro controller
  have spares : Host.frugal.holds controller.host
      ((Host.replaceSources change).run controller.host).effects
      ((Host.replaceSources change).run controller.host).state := ⟨rfl, rfl⟩
  refine informing_of_silent rfl id (Host.billing_of_frugal multiplier spares) rfl ?_
  simp [Host.replaceSources]

theorem informing_stages (multiplier : UInt64) : Stages (informing multiplier) where
  log line := emit_informs rfl rfl (by simp)
  requiredBytes := onHost_informs Host.requiredBytes_reads (Host.requiredBytes_bills multiplier)
  freeSpace := onHost_informs_of_frugal (Host.lookUp_reads _) (Host.lookUp_frugal _)
  replaceSources := replaceSources_informs
  recordOutOfSpace ranOut := by
    refine Obeys.bind (revise_informs_of_apart ?_) fun _ => .pure _
    exact fun _ _ _ inStep => inStep.of_same rfl rfl rfl
  readinessChanged controller := reread_informs (.inr (.inl rfl))
  freeSpaceChanged controller := reread_informs (.inr (.inr rfl))
  reread signal controller observing := reread_informs (.inl observing)
  refresh controller observing limits begun informed := by
    rw [informed.observing observing, Bool.true_or]
    exact refresh_informs informed.billed
  lookAtQueues := by
    refine (onHost_informs_of_frugal Host.probeQueues_reads Host.probeQueues_frugal).bind
      fun probe => Obeys.bind (revise_informs_of_apart ?_) fun _ => .pure _
    exact fun _ _ _ inStep => inStep.of_same rfl rfl rfl
  recordEmpty change := revise_informs_of_apart fun _ _ _ inStep =>
    inStep.of_same rfl rfl rfl
  startObserving := startObserving_informs
  stopObserving := stopObserving_informs
  discard := discard_informs

end Controller

end TransferGate
