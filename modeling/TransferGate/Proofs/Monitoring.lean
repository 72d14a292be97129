import TransferGate.Proofs.Sessions

/-! # Monitoring

While it observes, a controller asks about registration, reachability, the cellular preference and
the battery. All this is bracketed as the sessions are: the notices that observing started and
stopped alternate, and what is asked only while observing is asked while observing is under way.
-/

namespace TransferGate

namespace Controller

open Activity

/-! ## What is watched -/

def watching : Law Controller := guarding (Effect.asks Question.isWatched)

private theorem watching_of_steady {before after : Controller} {record : List Effect}
    (isSteady : steady.holds before record after) : watching.holds before record after := by
  cases observing : before.isObserving with
  | true => exact guarding_of_observing isSteady observing
  | false =>
      refine ⟨announcing_brackets.steady isSteady, Guarded.of_unneeding fun effect member => ?_⟩
      cases asked : effect.question? with
      | none => simp [Effect.asks, asked]
      | some question =>
          have may := mayAsk_of_question? (isSteady.2.2 effect member) asked
          rw [mayAsk, observing, Bool.false_and, Bool.or_false] at may
          simp [Effect.asks, asked, Question.isWatched_of_isPlain may]

private theorem unwatched_release (observation : Observation) (controller : Controller) :
    ∀ effect ∈ ((release observation).run controller).effects,
      effect.asks Question.isWatched = false := by
  rw [run_release, Host.run_endBattery]
  cases observation.session <;>
    simp [Effect.asks, Effect.question?, Question.isWatched]

theorem watching_brackets : Brackets watching where
  steady := watching_of_steady
  opening controller resting := by
    refine ⟨announcing_brackets.opening controller resting, Guarded.of_unneeding ?_⟩
    rw [run_openObservation, Host.run_beginBattery]
    cases controller.host.hasBattery <;> simp [Effect.asks, Effect.question?, Question.isWatched]
  closing controller observing := by
    refine ⟨announcing_brackets.closing controller observing, Guarded.of_unneeding ?_⟩
    rcases Option.isSome_iff_exists.mp observing with ⟨observation, held⟩
    intro effect member
    rw [run_stopObserving held, List.mem_append] at member
    rcases member with released | said
    · exact unwatched_release observation controller effect released
    · simp only [List.mem_cons, List.not_mem_nil, or_false] at said
      rcases said with rfl | rfl <;> rfl

theorem watching_stages : Stages watching :=
  watching_brackets.stages fun controller observing => by
    rcases Option.isSome_iff_exists.mp observing with ⟨observation, held⟩
    refine ⟨announcing_stages.discard controller, Guarded.of_unneeding ?_⟩
    rw [run_discard held]
    exact unwatched_release observation controller

/-! ## What is announced -/

def alternating : Law Controller where
  holds before record after := ∀ rounds, ∃ later,
    alternation rounds before.isObserving ++ observationKinds record =
      alternation later after.isObserving
  idle _ rounds := ⟨rounds, by simp [observationKinds]⟩
  join first second rounds := by
    rcases first rounds with ⟨between, firstKinds⟩
    rcases second between with ⟨later, secondKinds⟩
    refine ⟨later, ?_⟩
    rw [observationKinds_append, ← List.append_assoc, firstKinds, secondKinds]

theorem observationKinds_of_isSteady {allowed : Question → Bool} {record : List Effect}
    (steady : ∀ effect ∈ record, effect.isSteady allowed = true) :
    observationKinds record = [] := by
  apply List.eq_nil_iff_forall_not_mem.mpr
  intro kind member
  rcases List.mem_filter.mp member with ⟨said, isObservation⟩
  rcases List.mem_map.mp said with ⟨notice, isNotice, rfl⟩
  rcases List.mem_filterMap.mp isNotice with ⟨effect, inRecord, announces⟩
  have isSteady := steady effect inRecord
  cases effect with
  | announced announcement =>
      cases announces
      have isStatus : notice.kind = .queueStatusChanged := by
        simpa [Effect.isSteady] using isSteady
      rw [isStatus] at isObservation
      cases isObservation
  | _ => cases announces

private theorem alternation_started (rounds : Nat) :
    alternation rounds false ++ [.observationStarted] = alternation rounds true := by
  simp [alternation]

private theorem alternation_stopped (rounds : Nat) :
    alternation rounds true ++ [.observationStopped] = alternation (rounds + 1) false := by
  simp [alternation, List.replicate_succ', List.flatten_append]

theorem alternating_brackets : Brackets alternating where
  steady := by
    rintro before record after ⟨observation, -, effects⟩ rounds
    refine ⟨rounds, ?_⟩
    rw [observationKinds_of_isSteady effects, List.append_nil, isObserving, isObserving,
      observation]
  opening controller resting rounds := by
    refine ⟨rounds, ?_⟩
    have said : observationKinds (openObservation.run controller).effects =
        [.observationStarted] := by
      rw [run_openObservation, Host.run_beginBattery]
      cases controller.host.hasBattery <;> rfl
    rw [said, resting, alternation_started]
    rfl
  closing controller observing rounds := by
    refine ⟨rounds + 1, ?_⟩
    rcases Option.isSome_iff_exists.mp observing with ⟨observation, held⟩
    have said : observationKinds (stopObserving.run controller).effects =
        [.observationStopped] := by
      rw [run_stopObserving held, run_release, Host.run_endBattery]
      cases observation.session <;> rfl
    rw [said, observing, alternation_stopped, run_stopObserving held]
    rfl

/-! ## Whole runs -/

/-- What the record of a run shows, with the controller at its end. -/
structure Monitors (hasBattery : Bool) (reason : String) (record : List Effect)
    (last : Controller) : Prop where
  sessions : hasBattery = true →
    SessionHistory reason (sessionQuestions record) last.session? last.host.nextSession
  isOpen : hasBattery = true → last.session?.isSome = last.isObserving
  watched : ∀ ahead effect behind, record = ahead ++ effect :: behind →
    effect.asks Question.isWatched = true → Underway ahead
  noBattery : hasBattery = false →
    (∀ effect ∈ record, effect.asks Question.isBattery = false) ∧
      last.conditions.batteryLevel = none ∧ last.conditions.lowPower = none

theorem equipped_create (host : Host) : (create.run host).value.Equipped :=
  fun observing => by cases observing

private theorem about_of_tracking {controller after : Controller} {record : List Effect}
    {signal : Signal} (tracked : (tracking signal).holds controller record after)
    (equipped : controller.Equipped) {value : signal.Value}
    (recorded : controller.conditions.about signal = value)
    (never : ∀ sources : Sources, sources.current controller.host.hasBattery signal = value) :
    after.conditions.about signal = value := by
  rcases tracked.2 equipped with ⟨same, -⟩ | ⟨first, second, -, read, -⟩
  · exact same.trans recorded
  · exact read.trans (never _)

theorem monitors (settings : Settings) (sources : Sources) (hasBattery : Bool)
    (operations : List Operation) :
    let built := create.run (.create settings sources hasBattery)
    Monitors hasBattery settings.batteryReason (built.effects ++ built.value.recordOf operations)
      (built.value.following operations) := by
  intro built
  have equipped : built.value.Equipped := equipped_create _
  have keeps : KeepsSessions built.value _ _ := keepingSessions_stages.run operations built.value
  have watches := (watching_stages.run operations built.value).2
  constructor
  · intro fitted
    exact keeps.history equipped fitted [] (.closed [])
  · intro fitted
    exact isSome_session? (keeps.equipped equipped) (keeps.hasBattery.trans fitted)
  · intro ahead effect behind split asks
    apply underway_of_underwayAll
    have guarded : Guarded (Effect.asks Question.isWatched) false
        (built.effects ++ built.value.recordOf operations) :=
      Guarded.append_iff.mpr ⟨⟨fun watched => watched, trivial⟩, watches⟩
    exact guarded.at_split split asks
  · intro without
    have unfitted : built.value.host.hasBattery = false := without
    refine ⟨fun effect member => ?_, ?_, ?_⟩
    · rcases List.mem_append.mp member with building | inRun
      · cases List.mem_singleton.mp building
        rfl
      · exact keeps.silent equipped without effect inRun
    · have tracked := (tracking_stages .batteryLevelChanged).run operations built.value
      exact about_of_tracking tracked equipped rfl fun sources => by
        simp [Sources.current, unfitted]
    · have tracked := (tracking_stages .lowPowerModeChanged).run operations built.value
      exact about_of_tracking tracked equipped rfl fun sources => by
        simp [Sources.current, unfitted]

end Controller

open Controller

/-- Whatever is done with a controller: sessions follow one another, one is open exactly while
observing, and at the end all have ended; observing is announced in turns; and what is watched is
asked about while observing is under way. Without a battery manager nobody asks for one. -/
theorem monitoring_bracketed (settings : Settings) (sources : Sources) (hasBattery : Bool)
    (operations : List Operation)
    (kept : ∀ operation ∈ operations, operation.discards = false) :
    let built := create.run (.create settings sources hasBattery)
    let record := built.effects ++ built.value.recordOf operations
    let last := built.value.following operations
    let wholeRecord := built.effects ++ built.value.recordOf (operations ++ [.discard])
    Monitors hasBattery settings.batteryReason record last ∧
      (∃ rounds, observationKinds record = alternation rounds last.isObserving) ∧
      Monitors hasBattery settings.batteryReason wholeRecord
        (built.value.following (operations ++ [.discard])) ∧
      (hasBattery = true → ∃ readings,
        sessionQuestions wholeRecord = endedSessions settings.batteryReason readings) := by
  intro built record last wholeRecord
  have discarded := monitors settings sources hasBattery (operations ++ [.discard])
  refine ⟨monitors settings sources hasBattery operations, ?_, discarded, fun fitted => ?_⟩
  · exact alternating_brackets.keptStages.run kept built.value 0
  · have resting : (built.value.following (operations ++ [.discard])).isObserving = false := by
      rw [following_concat]
      exact isObserving_discard last
    have history := discarded.sessions fitted
    rw [session?_of_resting resting] at history
    exact history.ended

/-- A controller that gives up observing, hears that its queue is empty and then finds work again
opens a second session. -/
theorem monitoring_bracketed_of_reopened : ∃ operations : List Operation,
    (∀ operation ∈ operations, operation.discards = false) ∧
      ((create.run (.create {} .calm true)).value.following operations).session? = some 1 ∧
      ∃ readings, sessionQuestions ((create.run (.create {} .calm true)).effects ++
        (create.run (.create {} .calm true)).value.recordOf (operations ++ [.discard])) =
          endedSessions "BackupDownloadQueue" readings :=
  ⟨[.serve (.begin .upload), .shutDown, .serve (.emptied .upload), .serve (.begin .upload)],
    by simp [Operation.discards], rfl,
    (monitoring_bracketed {} .calm true _ (by simp [Operation.discards])).2.2.2 rfl⟩

end TransferGate
