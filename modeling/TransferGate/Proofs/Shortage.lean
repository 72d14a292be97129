import TransferGate.Proofs.ShortageRecord

/-! # Shortage of space

Whether a shortage is on record is a matter of history alone, of whether a report has come
after the last retry. Until then downloads are held back.
-/

namespace TransferGate

namespace Controller

open Activity

/-! ## Runs of a controller -/

/-- After these operations, and during the next one, the conditions remember a shortage as
history demands. -/
structure RemembersShortage (controller : Controller) (operations : List Operation) : Prop where
  recorded : (controller.following operations).conditions.ranOutOfSpace = true ↔
    Outstanding Operation.reportsShortage Operation.retries operations
  /-- The next operation changes the record once at most. -/
  meanwhile : ∀ (operation : Operation) (first second : List Effect),
    (controller.following operations).recordOf [operation] = first ++ second →
      let before := (controller.following operations).conditions
      let after := (controller.following (operations ++ [operation])).conditions
      (before.afterAll first).ranOutOfSpace = before.ranOutOfSpace ∨
        (before.afterAll first).ranOutOfSpace = after.ranOutOfSpace
  held : ∀ (operation : Operation) (first second : List Effect),
    (controller.following operations).recordOf [operation] = first ++ second →
      let conditions := (controller.following operations).conditions.afterAll first
      conditions.ranOutOfSpace = true →
        conditions.status .download ∈ [.empty, .notReady, .suspended, .lowDiskSpace]
  reply : ∀ operation : Operation, operation.reportsShortage = true →
    (operation.perform.run (controller.following operations)).value =
      some (.status ((controller.following
        (operations ++ [operation])).conditions.downloadObstacle?.getD .lowDiskSpace))

private theorem following_singleton (controller : Controller) (operation : Operation) :
    controller.following [operation] = (operation.perform.run controller).state := rfl

theorem recorded_following {controller : Controller}
    (fresh : controller.conditions.ranOutOfSpace = false) (operations : List Operation) :
    (controller.following operations).conditions.ranOutOfSpace = true ↔
      Outstanding Operation.reportsShortage Operation.retries operations := by
  induction operations using List.reverseRecOn with
  | nil =>
      rw [show controller.following [] = controller from rfl, fresh]
      exact iff_of_false Bool.false_ne_true not_outstanding_nil
  | append_singleton operations operation induction =>
      have turns := turnsShortage_operation operation (controller.following operations)
      rw [following_append, following_singleton, turns.1, Operation.shortage,
        outstanding_concat_iff, ← induction]
      simp

theorem remembersShortage {controller : Controller}
    (fresh : controller.conditions.ranOutOfSpace = false) (operations : List Operation) :
    controller.RemembersShortage operations where
  recorded := recorded_following fresh operations
  meanwhile operation first second split := by
    rw [Gate.recordOf_singleton] at split
    rw [following_append, following_singleton]
    exact (turnsShortage_operation operation _).meanwhile split
  held _ _ _ _ := Conditions.held_back_of_shortage
  reply operation reports := by
    have same : (controller.following (operations ++ [operation])).conditions.downloadObstacle? =
        (controller.following operations).conditions.downloadObstacle? := by
      rw [following_append, following_singleton, perform_of_reportsShortage reports, run_map]
      rfl
    rw [value_of_reportsShortage reports, same]

end Controller

/-! ## Runs of a gate -/

namespace Gate

open Controller (Operation TurnsShortage)

namespace Step

def reportsShortage (step : Step) : Bool :=
  step.served?.map Ticketed.request == some .outOfSpace

def retries (step : Step) : Bool :=
  step.served?.map Ticketed.request == some .retry

private theorem operations_serverTask (task : ServerTask) : task.operations = [] ∨
    ∃ operation, task.operations = [operation] ∧
      ∀ queue failure, operation ≠ .jobFailed queue failure := by
  cases task with
  | start => exact .inr ⟨_, rfl, by simp⟩
  | stop => exact .inr ⟨_, rfl, by simp⟩
  | serve request rest => exact .inr ⟨_, rfl, by simp⟩
  | lifecycle receipt bus =>
      cases receipt with
      | lagged missed => exact .inr ⟨_, rfl, by simp⟩
      | event event =>
          simp only [ServerTask.operations]
          split
          · exact .inr ⟨_, rfl, by simp⟩
          · exact .inl rfl
  | observed receipt bus =>
      cases receipt with
      | lagged missed => exact .inr ⟨_, rfl, by simp⟩
      | event event =>
          simp only [ServerTask.operations]
          cases event.kind.observedSignal? with
          | none => exact .inl rfl
          | some signal => exact .inr ⟨_, rfl, by simp⟩

private theorem operations_cases (step : Step) : step.operations = [] ∨
    ∃ operation, step.operations = [operation] ∧
      ∀ queue failure, operation ≠ .jobFailed queue failure := by
  rcases step with ⟨before, move⟩
  cases move with
  | turn choice =>
      cases choice with
      | server =>
          simp only [operations, Move.operations]
          cases before.serverTask? with
          | none => exact .inl rfl
          | some task => exact operations_serverTask task
      | _ => exact .inl rfl
  | quickCheck => exact .inr ⟨_, rfl, by simp⟩
  | requiredBytes => exact .inr ⟨_, rfl, by simp⟩
  | changeSources change => exact .inr ⟨_, rfl, by simp⟩
  | abandon => exact .inr ⟨_, rfl, by simp⟩
  | _ => exact .inl rfl

def shortage (step : Step) (before : Bool) : Bool :=
  step.reportsShortage || !step.retries && before

theorem shortage_of_operation {step : Step} {operation : Operation}
    (single : step.operations = [operation])
    (noJob : ∀ queue failure, operation ≠ .jobFailed queue failure) (before : Bool) :
    step.shortage before = operation.shortage before := by
  have served : operation.request? = step.served?.map Ticketed.request := by
    have requests := step.request?_operations
    rw [single] at requests
    cases asked : operation.request? <;> cases served : step.served? <;>
      simp [asked, served] at requests ⊢
    exact requests
  rw [shortage, reportsShortage, retries, ← served, Operation.shortage]
  cases operation with
  | serve request => cases request <;> rfl
  | jobFailed queue failure => exact absurd rfl (noJob queue failure)
  | _ => rfl

private theorem shortage_of_idle {step : Step} (idle : step.operations = []) (before : Bool) :
    step.shortage before = before := by
  have served : step.served? = none := by
    have requests := step.request?_operations
    rw [idle] at requests
    cases served : step.served? with
    | none => rfl
    | some request => simp [served] at requests
  rw [shortage, reportsShortage, retries, served]
  rfl

private theorem revised_of_effects {step : Step} {log : List Event} (sound : step.before.Sound log)
    {conditions : Conditions} (member : .revised conditions ∈ step.effects) :
    .revised conditions ∈ step.before.controller.recordOf step.operations := by
  rcases step with ⟨before, move⟩
  cases publishes : move.signal? with
  | some signal =>
      cases signal?_eq_some publishes
      simp [effects, outcome, run_publish_signal] at member
  | none =>
      obtain ⟨ahead, behind, record, foreignAhead, foreignBehind⟩ :=
        (acts_perform sound.keeps sound.observing publishes).record
      rw [Move.controller_base] at record
      rw [effects, outcome, record, List.append_assoc, List.mem_append, List.mem_append] at member
      rcases member with inAhead | inRecord | inBehind
      · cases foreignAhead _ inAhead
      · exact inRecord
      · cases foreignBehind _ inBehind

theorem turnsShortage {step : Step} {log : List Event} (sound : step.before.Sound log) :
    TurnsShortage (step.shortage step.before.controller.conditions.ranOutOfSpace)
      step.before.controller step.effects step.after.controller := by
  have after : step.after.controller = step.before.controller.following step.operations :=
    controller_perform sound step.move
  have revised (conditions : Conditions) (member : .revised conditions ∈ step.effects) :=
    revised_of_effects sound member
  rcases step.operations_cases with idle | ⟨operation, single, noJob⟩
  · rw [idle] at after revised
    rw [shortage_of_idle idle, after]
    exact ⟨rfl, fun conditions member => nomatch revised conditions member⟩
  · rw [single] at after revised
    have turns := Controller.turnsShortage_operation operation step.before.controller
    rw [shortage_of_operation single noJob, after]
    refine ⟨turns.1, fun conditions member => turns.2 conditions ?_⟩
    rw [← recordOf_singleton]
    exact revised conditions member

private theorem reply_of_reports {step : Step} {ticket : Nat}
    (served : step.served? = some ⟨ticket, .outOfSpace⟩) :
    (step.serving ⟨ticket, .outOfSpace⟩).value =
      .status (step.after.controller.conditions.downloadObstacle?.getD .lowDiskSpace) := by
  rw [(of_served served).1]
  exact congrArg Reply.status (Conditions.status_of_shortage rfl)

end Step

/-- After these moves, and during the next one, the conditions remember a shortage as history
demands. -/
structure RemembersShortage (gate : Gate) (moves : List Move) : Prop where
  recorded : (gate.following moves).controller.conditions.ranOutOfSpace = true ↔
    Outstanding Step.reportsShortage Step.retries (gate.steps moves)
  meanwhile : ∀ (move : Move) (first second : List Effect),
    (gate.following moves).recordOf [move] = first ++ second →
      let before := (gate.following moves).controller.conditions
      let after := (gate.following (moves ++ [move])).controller.conditions
      (before.afterAll first).ranOutOfSpace = before.ranOutOfSpace ∨
        (before.afterAll first).ranOutOfSpace = after.ranOutOfSpace
  held : ∀ (move : Move) (first second : List Effect),
    (gate.following moves).recordOf [move] = first ++ second →
      let conditions := (gate.following moves).controller.conditions.afterAll first
      conditions.ranOutOfSpace = true →
        conditions.status .download ∈ [.empty, .notReady, .suspended, .lowDiskSpace]
  jobs : ∀ (queue : Queue) (failure : Failure),
    (⟨gate.following moves, .jobFailed queue failure⟩ : Step).sent? =
      if queue = .download ∧ failure.isOutOfSpace = true then
        some ⟨(gate.following moves).nextTicket, .outOfSpace⟩
      else none
  reply : ∀ ticket, (⟨gate.following moves, .turn .server⟩ : Step).served? =
      some ⟨ticket, .outOfSpace⟩ →
    (⟨gate.following moves, .turn .server⟩ : Step).answers =
      [(ticket, .status ((gate.following (moves ++ [.turn .server])).controller.conditions
        |>.downloadObstacle?.getD .lowDiskSpace))]

private theorem sent?_jobFailed (gate : Gate) (queue : Queue) (failure : Failure) :
    (⟨gate, .jobFailed queue failure⟩ : Step).sent? =
      if queue = .download ∧ failure.isOutOfSpace = true then some ⟨gate.nextTicket, .outOfSpace⟩
      else none := by
  have ticket : ((send .outOfSpace).run gate).value = gate.nextTicket := by
    cases closed : gate.isClosed with
    | true => rw [run_send_closed closed]
    | false => rw [run_send_open closed]
  have sends (needed : Bool) : ((sendIf needed .outOfSpace).run gate).value =
      if needed then some gate.nextTicket else none := by
    cases needed with
    | true => exact congrArg some ticket
    | false => rfl
  simp only [Step.sent?, Step.outcome, Move.perform, jobFailed_eq, Activity.run_map, sends]
  cases queue <;> cases failure.isOutOfSpace <;> rfl

theorem recorded_following {gate : Gate} {log : List Event} (sound : gate.Sound log)
    (fresh : gate.controller.conditions.ranOutOfSpace = false) (moves : List Move) :
    (gate.following moves).controller.conditions.ranOutOfSpace = true ↔
      Outstanding Step.reportsShortage Step.retries (gate.steps moves) := by
  induction moves using List.reverseRecOn with
  | nil =>
      rw [following_nil, fresh]
      exact iff_of_false Bool.false_ne_true not_outstanding_nil
  | append_singleton moves move induction =>
      rcases sound.follow moves with ⟨more, soundBefore⟩
      have turns := @Step.turnsShortage ⟨gate.following moves, move⟩ _ soundBefore
      rw [steps_concat, outstanding_concat_iff, ← induction, following_concat]
      refine (Eq.congr_left turns.1).trans ?_
      simp [Step.shortage]

theorem remembersShortage {gate : Gate} {log : List Event} (sound : gate.Sound log)
    (fresh : gate.controller.conditions.ranOutOfSpace = false) (moves : List Move) :
    gate.RemembersShortage moves where
  recorded := recorded_following sound fresh moves
  meanwhile move first second split := by
    rcases sound.follow moves with ⟨more, soundBefore⟩
    rw [recordOf_cons, recordOf_nil, List.append_nil] at split
    rw [following_concat]
    exact (@Step.turnsShortage ⟨gate.following moves, move⟩ _ soundBefore).meanwhile split
  held _ _ _ _ := Conditions.held_back_of_shortage
  jobs := sent?_jobFailed _
  reply ticket served := by
    rw [Step.answers_of_served served, Step.reply_of_reports served, following_concat]
    rfl

end Gate

/-! ## The history of shortages -/

/-- A shortage is recorded exactly from a report to the next retry, and all that time downloads
are held back. -/
theorem shortage_remembered :
    (∀ conditions : Conditions, conditions.ranOutOfSpace = true →
      conditions.status .download = conditions.downloadObstacle?.getD .lowDiskSpace) ∧
    (∀ (host : Host) (operations : List Controller.Operation),
      (Controller.create.run host).value.RemembersShortage operations) ∧
    ∀ (settings : Settings) (host : Host) (subscribers : List Subscriber) (attached : Bool)
      (built : Outcome Gate Unit) (moves : List Gate.Move),
      Gate.build settings host subscribers attached = .ok built →
        built.state.RemembersShortage moves := by
  refine ⟨fun conditions => Conditions.status_of_shortage,
    fun host operations => Controller.remembersShortage rfl operations, ?_⟩
  intro settings host subscribers attached built moves succeeds
  have fresh := Gate.fresh_of_build succeeds
  exact Gate.remembersShortage fresh.sound (by rw [fresh.controller]; rfl) moves

/-- Downloads are held back after a report, and possible again after the retry. -/
theorem shortage_remembered_of_report :
    let sources := { Sources.calm with ready := .both (.always (.ok true)) }
    ∃ built, Gate.build {} (.create {} sources true) [] false = .ok built ∧
      let reported : List Gate.Move := [.send (.begin .download), .turn .server, .turn .server,
        .send .outOfSpace, .turn .server, .publish (.signal .appReady), .turn .server]
      let retried := reported ++ [.send .retry, .turn .server]
      Gate.answers (built.state.steps reported) =
          [(0, .status .running), (1, .status .lowDiskSpace)] ∧
        Outstanding Gate.Step.reportsShortage Gate.Step.retries (built.state.steps reported) ∧
        ¬Outstanding Gate.Step.reportsShortage Gate.Step.retries (built.state.steps retried) := by
  intro sources
  refine ⟨_, rfl, by decide +kernel, ?_, fun outstanding => ?_⟩
  · exact (shortage_remembered.2.2 {} (.create {} sources true) [] false _ _ rfl).recorded.mp
      (by decide +kernel)
  · have recorded := (shortage_remembered.2.2 {} (.create {} sources true) [] false _ _
      rfl).recorded.mpr outstanding
    exact absurd recorded (by decide +kernel)

end TransferGate
