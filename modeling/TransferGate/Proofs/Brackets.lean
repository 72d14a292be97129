import TransferGate.Proofs.Observing

/-! # Where observing begins and ends

Operations begin to observe in one way and end it in two. Whatever else they do is
steady: it changes nothing about observing, and unless the controller observes it asks
plain questions only. `Brackets` is what a law needs so that it holds of all operations.

Observing is *under way* from the notice that it started until the seat of the
observation is left. `Controller.announcing` says that a controller observes exactly if
the record shows observing under way.
-/

namespace TransferGate

namespace Effect

/-- Neither begins nor ends to observe, and asks none but the allowed questions. -/
def isSteady (allowed : Question → Bool) : Effect → Bool
  | .asked exchange => allowed exchange.question
  | .logged _ => true
  | .revised _ => true
  | .replaced _ => true
  | .announced notice => notice.kind == .queueStatusChanged
  | _ => false

private theorem isSteady_mono {allowed wider : Question → Bool}
    (widens : ∀ question, allowed question = true → wider question = true) {effect : Effect}
    (steady : effect.isSteady allowed = true) : effect.isSteady wider = true := by
  cases effect with
  | asked exchange => exact widens _ steady
  | _ => exact steady

theorem keepsSeat_of_isSteady {allowed : Question → Bool} {effect : Effect}
    (steady : effect.isSteady allowed = true) : effect.keepsSeat = true := by
  cases effect <;> first | rfl | cases steady

def underway (before : Bool) : Effect → Bool
  | .announced notice =>
      match notice.kind with
      | .observationStarted => true
      | .observationStopped => false
      | _ => before
  | .detached => false
  | _ => before

def underwayAll (before : Bool) (record : List Effect) : Bool := record.foldl underway before

@[simp] theorem underwayAll_nil (before : Bool) : underwayAll before [] = before := rfl

@[simp] theorem underwayAll_cons (before : Bool) (effect : Effect) (record : List Effect) :
    underwayAll before (effect :: record) = underwayAll (effect.underway before) record := rfl

@[simp] theorem underwayAll_append (before : Bool) (first second : List Effect) :
    underwayAll before (first ++ second) = underwayAll (underwayAll before first) second :=
  List.foldl_append

private theorem underway_of_isSteady (before : Bool) {allowed : Question → Bool} {effect : Effect}
    (steady : effect.isSteady allowed = true) : effect.underway before = before := by
  cases effect with
  | announced notice =>
      have kind : notice.kind = .queueStatusChanged := by simpa [isSteady] using steady
      simp [underway, kind]
  | detached => cases steady
  | _ => rfl

private theorem underwayAll_of_isSteady (before : Bool) {allowed : Question → Bool}
    {record : List Effect} (steady : ∀ effect ∈ record, effect.isSteady allowed = true) :
    underwayAll before record = before := by
  induction record with
  | nil => rfl
  | cons effect rest induction =>
      rw [underwayAll_cons, underway_of_isSteady before (steady effect (List.mem_cons_self ..))]
      exact induction fun other member => steady other (List.mem_cons_of_mem _ member)

def endsObserving : Effect → Bool
  | .announced notice => notice.kind == .observationStopped
  | .detached => true
  | _ => false

end Effect

/-- The record says that observing started, and nothing after that ended it. -/
def Underway (record : List Effect) : Prop :=
  ∃ ahead notice behind, record = ahead ++ .announced notice :: behind ∧
    notice.kind = .observationStarted ∧ ∀ effect ∈ behind, effect.endsObserving = false

theorem underway_of_underwayAll {record : List Effect}
    (underway : Effect.underwayAll false record = true) : Underway record := by
  induction record using List.reverseRecOn with
  | nil => cases underway
  | append_singleton record last induction =>
      -- The last effect starts observing, or ends it, or leaves it as it was.
      have going (wasUnderway : Effect.underwayAll false record = true)
          (goesOn : last.endsObserving = false) : Underway (record ++ [last]) := by
        rcases induction wasUnderway with ⟨ahead, notice, behind, rfl, started, goOn⟩
        refine ⟨ahead, notice, behind ++ [last], by simp, started, ?_⟩
        simpa [or_imp, forall_and, goesOn] using goOn
      rw [Effect.underwayAll_append] at underway
      cases last with
      | announced notice =>
          cases kind : notice.kind with
          | observationStarted => exact ⟨record, notice, [], rfl, kind, by simp⟩
          | observationStopped => simp [Effect.underway, kind] at underway
          | _ =>
              apply going
              · simpa [Effect.underway, kind] using underway
              · simp [Effect.endsObserving, kind]
      | detached => cases underway
      | _ => exact going underway rfl

/-- Whatever needs observing to be under way happens while it is. -/
def Guarded (needs : Effect → Bool) : Bool → List Effect → Prop
  | _, [] => True
  | underway, effect :: rest =>
      (needs effect = true → underway = true) ∧ Guarded needs (effect.underway underway) rest

namespace Guarded

variable {needs : Effect → Bool} {underway : Bool} {record : List Effect}

theorem append_iff {first second : List Effect} :
    Guarded needs underway (first ++ second) ↔
      Guarded needs underway first ∧ Guarded needs (Effect.underwayAll underway first) second := by
  induction first generalizing underway with
  | nil => simp [Guarded]
  | cons effect rest induction => simp [Guarded, induction, and_assoc]

theorem of_unneeding (unneeding : ∀ effect ∈ record, needs effect = false) :
    Guarded needs underway record := by
  induction record generalizing underway with
  | nil => trivial
  | cons effect rest induction =>
      have headUnneeding := unneeding effect (List.mem_cons_self ..)
      refine ⟨fun needed => ?_, induction fun other member => ?_⟩
      · rw [headUnneeding] at needed
        cases needed
      · exact unneeding other (List.mem_cons_of_mem _ member)

private theorem of_keeps (keeps : ∀ effect ∈ record, effect.underway true = true) :
    Guarded needs true record := by
  induction record with
  | nil => trivial
  | cons effect rest induction =>
      refine ⟨fun _ => rfl, ?_⟩
      rw [keeps effect (List.mem_cons_self ..)]
      exact induction fun other member => keeps other (List.mem_cons_of_mem _ member)

theorem at_split (guarded : Guarded needs underway record) {ahead behind : List Effect}
    {effect : Effect} (split : record = ahead ++ effect :: behind) (needed : needs effect = true) :
    Effect.underwayAll underway ahead = true := by
  rw [split, append_iff] at guarded
  exact guarded.2.1 needed

end Guarded

structure Host.KeepsBattery (before after : Host) : Prop where
  hasBattery : after.hasBattery = before.hasBattery
  batteryReason : after.batteryReason = before.batteryReason
  nextSession : after.nextSession = before.nextSession

theorem Host.KeepsBattery.trans {before between after : Host}
    (second : between.KeepsBattery after) (first : before.KeepsBattery between) :
    before.KeepsBattery after :=
  ⟨second.hasBattery.trans first.hasBattery, second.batteryReason.trans first.batteryReason,
    second.nextSession.trans first.nextSession⟩

namespace Host

open Activity

def asking (allowed : Bool → Question → Bool) : Law Host where
  holds before record after :=
    before.KeepsBattery after ∧
      ∀ effect ∈ record, effect.isSteady (allowed before.hasBattery) = true
  idle _ := ⟨⟨rfl, rfl, rfl⟩, by simp⟩
  join := by
    rintro before between after first second ⟨firstKeeps, firstSteady⟩ ⟨secondKeeps, secondSteady⟩
    refine ⟨secondKeeps.trans firstKeeps, fun effect member => ?_⟩
    rcases List.mem_append.mp member with inFirst | inSecond
    · exact firstSteady effect inFirst
    · rw [← firstKeeps.hasBattery]
      exact secondSteady effect inSecond

theorem asking_admits (allowed : Bool → Question → Bool) :
    Admits (fun hasBattery question => allowed hasBattery question = true) (asking allowed) where
  ask question host isAllowed := ⟨⟨rfl, rfl, rfl⟩, by simpa [Effect.isSteady] using isAllowed⟩
  log line host := ⟨⟨rfl, rfl, rfl⟩, by simp [Effect.isSteady]⟩
  keepRequirement bytes host := ⟨⟨rfl, rfl, rfl⟩, by simp⟩

theorem run_beginBattery (host : Host) : beginBattery.run host =
    if host.hasBattery then
      ⟨some host.nextSession, { host with nextSession := host.nextSession + 1 },
        [.asked ⟨.beginBattery host.batteryReason host.nextSession, ()⟩]⟩
    else ⟨none, host, []⟩ := by
  rcases host with ⟨sources, hasBattery⟩
  cases hasBattery <;> rfl

theorem run_endBattery (session : Option Nat) (host : Host) : (endBattery session).run host =
    ⟨(), host, (session.map fun opened => .asked ⟨.endBattery opened, ()⟩).toList⟩ := by
  cases session <;> rfl

end Host

namespace Controller

open Activity

variable {Value : Type}

/-! ## What is steady -/

def mayAsk (controller : Controller) (question : Question) : Bool :=
  question.isPlain ||
    controller.isObserving && question.isWatching controller.session? controller.host.hasBattery

private theorem mayAsk_of_isPlain (controller : Controller) {question : Question}
    (plain : question.isPlain = true) : controller.mayAsk question = true := by
  simp [mayAsk, plain]

private theorem mayAsk_of_isRead {controller : Controller}
    (observing : controller.isObserving = true) {question : Question}
    (read : question.isRead controller.session? controller.host.hasBattery = true) :
    controller.mayAsk question = true := by
  rw [mayAsk, observing, Bool.true_and]
  exact read

private theorem mayAsk_congr {before after : Controller}
    (observation : after.observation = before.observation)
    (battery : before.host.KeepsBattery after.host) : after.mayAsk = before.mayAsk := by
  funext question
  simp only [mayAsk, isObserving, session?, observation, battery.hasBattery]

/-- Nothing changes about observing, and nothing is asked that may not be asked. -/
def steady : Law Controller where
  holds before record after :=
    after.observation = before.observation ∧ before.host.KeepsBattery after.host ∧
      ∀ effect ∈ record, effect.isSteady before.mayAsk = true
  idle _ := ⟨rfl, ⟨rfl, rfl, rfl⟩, by simp⟩
  join := by
    rintro before between after first second ⟨firstSame, firstKeeps, firstSteady⟩
      ⟨secondSame, secondKeeps, secondSteady⟩
    refine ⟨secondSame.trans firstSame, secondKeeps.trans firstKeeps, fun effect member => ?_⟩
    rcases List.mem_append.mp member with inFirst | inSecond
    · exact firstSteady effect inFirst
    · rw [← mayAsk_congr firstSame firstKeeps]
      exact secondSteady effect inSecond

theorem steady_emit {effect : Effect} (calm : effect.isSteady Question.isPlain = true) :
    Obeys steady (Activity.emit effect) := by
  intro controller
  refine ⟨rfl, ⟨rfl, rfl, rfl⟩, ?_⟩
  simpa using Effect.isSteady_mono (fun _ => controller.mayAsk_of_isPlain) calm

theorem steady_revise (change : Conditions → Conditions) : Obeys steady (revise change) := by
  intro controller
  refine ⟨rfl, ⟨rfl, rfl, rfl⟩, fun effect member => ?_⟩
  rcases List.mem_cons.mp member with rfl | announced
  · rfl
  · rcases mem_changeEffects announced with ⟨line, rfl⟩ | ⟨queue, status, rfl⟩ <;> rfl

theorem steady_onHost {activity : Activity Host Value} {controller : Controller}
    {allowed : Bool → Question → Bool} (asks : Obeys (Host.asking allowed) activity)
    (may : ∀ question, allowed controller.host.hasBattery question = true →
      controller.mayAsk question = true) :
    steady.holds controller ((onHost activity).run controller).effects
      ((onHost activity).run controller).state := by
  rcases asks controller.host with ⟨keeps, effects⟩
  exact ⟨rfl, keeps, fun effect member => Effect.isSteady_mono may (effects effect member)⟩

def askingPlainly : Law Host := Host.asking fun _ question => question.isPlain

theorem steady_plainly {activity : Activity Host Value} (asks : Obeys askingPlainly activity) :
    Obeys steady (onHost activity) :=
  fun controller => steady_onHost asks fun _ => controller.mayAsk_of_isPlain

theorem askingPlainly_admits :
    Host.Admits (fun _ question => question.isPlain = true) askingPlainly :=
  Host.asking_admits _

theorem steady_rereadPlainly {signal : Signal}
    (plainly : ∀ session, Obeys askingPlainly (Host.readFor session signal)) :
    Obeys steady (reread signal) :=
  fun controller => update_holds (steady_plainly (plainly _) controller) (steady_revise _)

theorem steady_read {controller : Controller} (observing : controller.isObserving = true)
    {activity : Activity Host Value}
    (reads : Obeys (Host.asking fun hasBattery question =>
      question.isRead controller.session? hasBattery) activity) :
    steady.holds controller ((onHost activity).run controller).effects
      ((onHost activity).run controller).state :=
  steady_onHost reads fun _ => mayAsk_of_isRead observing

theorem steady_reread {controller : Controller} (observing : controller.isObserving = true)
    (signal : Signal) :
    steady.holds controller ((reread signal).run controller).effects
      ((reread signal).run controller).state :=
  update_holds (steady_read observing
    ((Host.asking_admits _).readFor (fun _ _ read => read) signal)) (steady_revise _)

theorem steady_refresh {controller : Controller} (observing : controller.isObserving = true) :
    steady.holds controller (refresh.run controller).effects (refresh.run controller).state :=
  update_holds (steady_read observing ((Host.asking_admits _).readAll fun _ _ read => read))
    (steady_revise _)

theorem steady_stages : IdleStages steady where
  log _ := steady_emit rfl
  requiredBytes := steady_plainly (askingPlainly_admits.requiredBytes fun _ _ plain => plain)
  freeSpace := steady_plainly (askingPlainly_admits.lookUp fun _ => rfl)
  replaceSources change controller :=
    ⟨rfl, ⟨rfl, rfl, rfl⟩, by simp [Host.replaceSources, Effect.isSteady]⟩
  recordOutOfSpace _ := (steady_revise _).bind fun _ => .pure _
  readinessChanged := steady_rereadPlainly fun _ =>
    (askingPlainly_admits.question fun _ => rfl).bind fun _ => .pure _
  freeSpaceChanged := steady_rereadPlainly fun _ =>
    (askingPlainly_admits.lookUp fun _ => rfl).bind fun _ => .pure _
  reread signal _ observing := steady_reread observing signal
  refresh _ observing := steady_refresh observing

theorem steady_lookAtQueues : Obeys steady lookAtQueues :=
  (steady_plainly (askingPlainly_admits.probeQueues fun _ _ plain => plain)).bind fun _ =>
    (steady_revise _).bind fun _ => .pure _

/-! ## Laws of operations -/

structure Brackets (law : Law Controller) : Prop where
  steady : ∀ {before record after}, Controller.steady.holds before record after →
    law.holds before record after
  opening : ∀ controller, controller.isObserving = false →
    law.holds controller (openObservation.run controller).effects
      (openObservation.run controller).state
  closing : ∀ controller, controller.isObserving = true →
    law.holds controller (stopObserving.run controller).effects
      (stopObserving.run controller).state

theorem run_ensureObserving (controller : Controller) : ensureObserving.run controller =
    if controller.isObserving then ⟨(), controller, []⟩ else openObservation.run controller := by
  rw [ensureObserving, run_bind, run_get]
  cases observation : controller.observation <;> simp [isObserving, observation]

namespace Brackets

variable {law : Law Controller}

private theorem startObserving (brackets : Brackets law) : Obeys law startObserving := by
  intro controller
  have refreshed := brackets.steady (steady_refresh (isObserving_ensureObserving controller))
  have ensured : law.holds controller (ensureObserving.run controller).effects
      (ensureObserving.run controller).state := by
    rw [run_ensureObserving]
    cases observing : controller.isObserving with
    | true => exact law.idle controller
    | false => exact brackets.opening controller observing
  exact law.join ensured refreshed

private theorem stopObserving (brackets : Brackets law) : Obeys law stopObserving := by
  intro controller
  cases observing : controller.isObserving with
  | true => exact brackets.closing controller observing
  | false =>
      have resting : controller.observation = none := by simpa [isObserving] using observing
      rw [Controller.stopObserving, run_bind, run_get]
      simpa [resting] using law.idle controller

theorem keptStages (brackets : Brackets law) : KeptStages law where
  toIdleStages := steady_stages.weaken brackets.steady
  lookAtQueues controller := brackets.steady (steady_lookAtQueues controller)
  recordEmpty _ controller := brackets.steady (steady_revise _ controller)
  startObserving := brackets.startObserving
  stopObserving := brackets.stopObserving

theorem stages (brackets : Brackets law)
    (discarding : ∀ controller, controller.isObserving = true →
      law.holds controller (discard.run controller).effects (discard.run controller).state) :
    Stages law where
  toKeptStages := brackets.keptStages
  discard controller := by
    cases observing : controller.isObserving with
    | true => exact discarding controller observing
    | false =>
        have resting : controller.observation = none := by simpa [isObserving] using observing
        rw [Controller.discard, run_bind, run_get]
        simpa [resting] using law.idle controller

end Brackets

/-! ## Observing under way -/

def announcing : Law Controller where
  holds before record after :=
    after.isObserving = Effect.underwayAll before.isObserving record
  idle controller := (Effect.underwayAll_nil controller.isObserving).symm
  join first second := by rw [second, first, Effect.underwayAll_append]

private theorem underwayAll_openObservation (before : Bool) (controller : Controller) :
    Effect.underwayAll before (openObservation.run controller).effects = true := by
  rw [run_openObservation]
  simp [Effect.underway, Notice.observationStarted]

theorem run_stopObserving {controller : Controller} {observation : Observation}
    (observing : controller.observation = some observation) :
    stopObserving.run controller =
      ⟨(), ((release observation).run controller).state,
        ((release observation).run controller).effects ++
          [.logged .observationStopped, .announced .observationStopped]⟩ := by
  rw [stopObserving, run_bind, run_get]
  simp [observing]

theorem run_discard {controller : Controller} {observation : Observation}
    (observing : controller.observation = some observation) :
    discard.run controller = (release observation).run controller := by
  rw [discard, run_bind, run_get]
  simp [observing]

private theorem underwayAll_release (before : Bool) (observation : Observation)
    (controller : Controller) :
    Effect.underwayAll before ((release observation).run controller).effects = false := by
  rw [run_release]
  simp [Effect.underway]

theorem announcing_brackets : Brackets announcing where
  steady := by
    rintro before record after ⟨same, -, steady⟩
    change after.isObserving = _
    rw [Effect.underwayAll_of_isSteady _ steady, isObserving, isObserving, same]
  opening controller _ := (underwayAll_openObservation _ controller).symm
  closing controller observing := by
    rcases Option.isSome_iff_exists.mp observing with ⟨observation, held⟩
    rw [run_stopObserving held]
    simp [announcing, Effect.underway, Notice.observationStopped, run_release, isObserving]

theorem announcing_stages : Stages announcing :=
  announcing_brackets.stages fun controller observing => by
    rcases Option.isSome_iff_exists.mp observing with ⟨observation, held⟩
    rw [run_discard held]
    exact (underwayAll_release _ observation controller).symm

def guarding (needs : Effect → Bool) : Law Controller where
  holds before record after :=
    announcing.holds before record after ∧ Guarded needs before.isObserving record
  idle controller := ⟨announcing.idle controller, trivial⟩
  join := by
    rintro before between after first second ⟨firstAnnounces, firstGuarded⟩
      ⟨secondAnnounces, secondGuarded⟩
    refine ⟨announcing.join firstAnnounces secondAnnounces,
      Guarded.append_iff.mpr ⟨firstGuarded, ?_⟩⟩
    rw [← firstAnnounces]
    exact secondGuarded

theorem guarding_of_observing {needs : Effect → Bool} {before after : Controller}
    {record : List Effect} (isSteady : steady.holds before record after)
    (observing : before.isObserving = true) : (guarding needs).holds before record after := by
  refine ⟨announcing_brackets.steady isSteady, ?_⟩
  rw [observing]
  apply Guarded.of_keeps
  exact fun effect member => Effect.underway_of_isSteady true (isSteady.2.2 effect member)

end Controller

end TransferGate
