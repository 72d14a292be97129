import TransferGate.Proofs.Monitoring
import TransferGate.Proofs.Relaying
import TransferGate.Proofs.Requests

/-! # How the server leaves

A cancelled server does what is left of its `ServerPhase`, which is at most a first look
at readiness and then to leave; requests and events are none of it. When it leaves it
gives up whatever it held for observing. After that nothing is done for anybody, and
nothing is held.
-/

namespace TransferGate

open Activity
open Controller (Operation)

namespace Gate

/-! ## Cancellations -/

def Move.cancels (gate : Gate) : Move → Bool
  | .cancel => true
  | .cancelParent => gate.attached
  | .turn .server =>
      match gate.serverTask? with
      | some .stop => true
      | _ => false
  | _ => false

def Move.cancelsParent : Move → Bool
  | .cancelParent => true
  | _ => false

private theorem cancelled_perform (move : Move) (gate : Gate) :
    (move.perform.run gate).state.cancelled = (gate.cancelled || move.cancels gate) := by
  refine (congrArg Standing.cancelled (standing_perform move gate)).trans ?_
  cases move with
  | cancel => exact (Bool.or_true _).symm
  | cancelParent => rfl
  | turn choice =>
      cases choice with
      | server =>
          simp only [Move.standing, Move.cancels]
          cases gate.serverTask? with
          | none => exact (Bool.or_false _).symm
          | some task =>
              cases task with
              | stop => exact (Bool.or_true _).symm
              | _ => exact (Bool.or_false _).symm
      | relay stopFirst =>
          rcases gate.standing_relayTurn stopFirst with ⟨relay, fanout, stands⟩
          rw [stands]
          exact (Bool.or_false _).symm
      | _ => exact (Bool.or_false _).symm
  | _ => exact (Bool.or_false _).symm

private theorem parentCancelled_perform (move : Move) (gate : Gate) :
    (move.perform.run gate).state.parentCancelled =
      (gate.parentCancelled || move.cancelsParent) := by
  refine (congrArg Standing.parentCancelled (standing_perform move gate)).trans ?_
  cases move with
  | cancelParent => exact (Bool.or_true _).symm
  | turn choice =>
      cases choice with
      | server =>
          rcases gate.standing_serverTurn with ⟨cancelled, stands⟩
          rw [stands]
          exact (Bool.or_false _).symm
      | relay stopFirst =>
          rcases gate.standing_relayTurn stopFirst with ⟨relay, fanout, stands⟩
          rw [stands]
          exact (Bool.or_false _).symm
      | _ => exact (Bool.or_false _).symm
  | _ => exact (Bool.or_false _).symm

theorem cancelled_of_steps (gate : Gate) (moves : List Move) :
    (gate.following moves).cancelled =
      (gate.cancelled || (gate.steps moves).any fun step => step.move.cancels step.before) := by
  induction moves generalizing gate with
  | nil => exact (Bool.or_false _).symm
  | cons move rest induction =>
      rw [following_cons, induction, cancelled_perform, steps, List.any_cons, Bool.or_assoc]

theorem parentCancelled_of_steps (gate : Gate) (moves : List Move) :
    (gate.following moves).parentCancelled =
      (gate.parentCancelled || (gate.steps moves).any fun step => step.move.cancelsParent) := by
  induction moves generalizing gate with
  | nil => exact (Bool.or_false _).symm
  | cons move rest induction =>
      rw [following_cons, induction, parentCancelled_perform, steps, List.any_cons, Bool.or_assoc]

theorem cancelled_following {gate : Gate} (cancelled : gate.cancelled = true)
    (moves : List Move) : (gate.following moves).cancelled = true := by
  rw [cancelled_of_steps, cancelled, Bool.true_or]

/-! ## What a cancelled server still does -/

/-- What the server still does with the controller once it is cancelled. -/
def lastOperations : ServerPhase → List Operation
  | .starting => [.readinessChanged, .shutDown]
  | .serving => [.shutDown]
  | .stopped => []

def Move.isServerTurn : Move → Bool
  | .turn .server => true
  | _ => false

def Step.serverOperations (step : Step) : List Operation :=
  if step.move.isServerTurn then step.operations else []

private theorem serverTask?_of_cancelled {gate : Gate} (cancelled : gate.cancelled = true) :
    gate.serverTask? =
      match gate.server with
      | .starting => some .start
      | .serving => some .stop
      | .stopped => none := by
  unfold serverTask?
  cases gate.server <;> simp [cancelled]

/-- What a step of a cancelled gate leaves of the server. -/
structure Step.Refrains (step : Step) : Prop where
  served : step.served? = none
  receipt : step.move.receipt? step.before = none
  last : ∃ rest, lastOperations step.before.server = step.serverOperations ++ rest ∧
    lastOperations step.after.server <+: rest
  progress : (lastOperations step.after.server).length ≤
    (lastOperations step.before.server).length - if step.move.isServerTurn then 1 else 0

theorem Step.refrains {step : Step} (cancelled : step.before.cancelled = true) :
    step.Refrains := by
  rcases step with ⟨before, move⟩
  have server : (Step.after ⟨before, move⟩).server = move.phaseAfter before :=
    server_perform move before
  have task := serverTask?_of_cancelled cancelled
  have other (served : Step.served? ⟨before, move⟩ = none)
      (receipt : move.receipt? before = none) (noTurn : move.isServerTurn = false)
      (same : move.phaseAfter before = before.server) : Step.Refrains ⟨before, move⟩ := by
    refine ⟨served, receipt, ⟨lastOperations before.server, ?_, ?_⟩, ?_⟩
    · simp [Step.serverOperations, noTurn]
    · simp only [server, same, List.prefix_rfl]
    · simp [server, same, noTurn]
  cases move with
  | abandon =>
      refine ⟨rfl, rfl, ⟨lastOperations before.server, rfl, ?_⟩, ?_⟩
      · rw [server]
        exact List.nil_prefix
      · rw [server]
        exact Nat.zero_le _
  | turn choice =>
      cases choice with
      | server =>
          have served : Step.served? ⟨before, .turn .server⟩ = none := by
            cases phase : before.server <;> simp only [phase] at task <;> simp [Step.served?, task]
          have receipt : Move.receipt? before (.turn .server) = none := by
            cases phase : before.server <;> simp only [phase] at task <;> simp [Move.receipt?, task]
          have operations : lastOperations before.server =
              Step.serverOperations ⟨before, .turn .server⟩ ++
                lastOperations (Step.after ⟨before, .turn .server⟩).server := by
            rw [server]
            cases phase : before.server <;> simp only [phase] at task <;>
              simp [lastOperations, Step.serverOperations, Move.isServerTurn, Step.operations,
                Move.operations, Move.phaseAfter, task, ServerTask.operations, phase]
          have shorter : (lastOperations (Step.after ⟨before, .turn .server⟩).server).length ≤
              (lastOperations before.server).length - 1 := by
            rw [server]
            cases phase : before.server <;> simp only [phase] at task <;>
              simp [lastOperations, Move.phaseAfter, task, phase]
          exact ⟨served, receipt, ⟨_, operations, List.prefix_rfl⟩, shorter⟩
      | _ => exact other rfl rfl rfl rfl
  | _ => exact other rfl rfl rfl rfl

/-- A cancelled gate works on nothing more, and it takes few turns of the server until it is
closed. -/
structure Refrains (gate : Gate) (moves : List Move) : Prop where
  operations : (gate.steps moves).flatMap Step.serverOperations <+: lastOperations gate.server
  nothing : ∀ step ∈ gate.steps moves,
    step.served? = none ∧ step.move.receipt? step.before = none
  closed : (lastOperations gate.server).length ≤ moves.countP Move.isServerTurn →
    (gate.following moves).isClosed = true

theorem isClosed_of_lastOperations {gate : Gate}
    (nothing : (lastOperations gate.server).length ≤ 0) : gate.isClosed = true := by
  unfold isClosed
  cases phase : gate.server with
  | stopped => rfl
  | _ => simp [phase, lastOperations] at nothing

theorem refrains {gate : Gate} (cancelled : gate.cancelled = true) (moves : List Move) :
    gate.Refrains moves := by
  induction moves generalizing gate with
  | nil => exact ⟨List.nil_prefix, by simp [steps], isClosed_of_lastOperations⟩
  | cons move rest induction =>
      have now := @Step.refrains ⟨gate, move⟩ cancelled
      have later : (move.perform.run gate).state.Refrains rest :=
        induction (cancelled_following cancelled [move])
      refine ⟨?_, ?_, fun enough => later.closed ?_⟩
      · rcases now.last with ⟨left, now, next⟩
        rw [steps, List.flatMap_cons, now]
        exact (List.prefix_append_right_inj _).mpr (later.operations.trans next)
      · intro step member
        rcases List.mem_cons.mp member with rfl | inRest
        · exact ⟨now.served, now.receipt⟩
        · exact later.nothing step inRest
      · have progress := now.progress
        rw [List.countP_cons] at enough
        simp only [Step.after, Step.outcome] at progress
        omega

/-! ## The last turn -/

structure Leaves (gate : Gate) (step : Step) : Prop where
  notices : step.effects.filterMap Effect.notice? =
    if gate.controller.isObserving then [.observationStopped] else []
  questions : step.effects.filterMap Effect.question? =
    gate.controller.session?.toList.map Question.endBattery
  refusals : step.answers = (gate.line ++ gate.door).map refusal
  conditions : step.after.controller.conditions = gate.controller.conditions
  released : step.after.controller.observation = none
  seats : step.after.bus.cursor? .lifecycle = none ∧ step.after.bus.cursor? .observation = none
  nobody : step.after.line = [] ∧ step.after.door = []
  cancelled : step.after.cancelled = true
  closed : step.after.isClosed = true

end Gate

namespace Controller

/-- What is held for observing is given up once, and nothing else happens. -/
structure GivesUp (controller : Controller) (outcome : Outcome Controller Unit) : Prop where
  notices : outcome.effects.filterMap Effect.notice? =
    if controller.isObserving then [.observationStopped] else []
  questions : outcome.effects.filterMap Effect.question? =
    controller.session?.toList.map Question.endBattery
  conditions : outcome.state.conditions = controller.conditions
  released : outcome.state.observation = none

private theorem shutDown_givesUp (controller : Controller) :
    GivesUp controller (shutDown.run controller) := by
  rw [shutDown, run_bind]
  cases held : controller.observation with
  | none =>
      have nothing : stopObserving.run controller = ⟨(), controller, []⟩ := by
        rw [stopObserving, run_bind, run_get]
        simp [held]
      simp only [Activity.run_log, nothing]
      refine ⟨?_, ?_, rfl, held⟩
      · simp [Effect.notice?, isObserving, held]
      · simp [Effect.question?, session?, held]
  | some observation =>
      simp only [Activity.run_log, run_stopObserving held, run_release, Host.run_endBattery]
      rcases observation with ⟨session⟩
      refine ⟨?_, ?_, rfl, rfl⟩
      · rw [isObserving, held]
        cases session <;> rfl
      · rw [session?, held]
        cases session <;> rfl

theorem released_discard (controller : Controller) :
    (discard.run controller).state.observation = none := by
  cases held : controller.observation with
  | none =>
      rw [discard, run_bind, run_get]
      simp [held]
  | some observation =>
      rw [run_discard held]
      rfl

/-! ## Controllers that do not observe -/

def dormant : Law Controller where
  holds before record after := before.observation = none →
    after.observation = none ∧ sessionQuestions record = [] ∧ observationKinds record = []
  idle _ free := ⟨free, rfl, rfl⟩
  join := by
    intro before between after first second firstRests secondRests free
    rcases firstRests free with ⟨firstFree, firstSessions, firstKinds⟩
    rcases secondRests firstFree with ⟨secondFree, secondSessions, secondKinds⟩
    refine ⟨secondFree, ?_, ?_⟩
    · rw [sessionQuestions_append, firstSessions, secondSessions, List.nil_append]
    · rw [observationKinds_append, firstKinds, secondKinds, List.nil_append]

private theorem dormant_of_steady {before after : Controller} {record : List Effect}
    (isSteady : steady.holds before record after) : dormant.holds before record after := by
  intro free
  rcases isSteady with ⟨same, -, effects⟩
  refine ⟨same.trans free, List.eq_nil_iff_forall_not_mem.mpr fun question member => ?_,
    observationKinds_of_isSteady effects⟩
  rcases sessionQuestions_of_steady effects question member with ⟨opened, session, -⟩
  simp [session?, free] at session

theorem dormant_operation {operation : Operation}
    (idle : operation.decides = false ∨ operation = .discard) :
    Obeys dormant operation.perform := by
  rcases idle with undecided | rfl
  · exact (steady_stages.weaken dormant_of_steady).operation undecided
  · intro controller free
    rw [Operation.perform, run_map, discard, run_bind, run_get]
    simp [free, sessionQuestions, observationKinds]

theorem dormant_ignores : Gate.Ignores dormant where
  foreign controller effect foreign free := by
    refine ⟨free, ?_, ?_⟩
    · cases effect <;> first | rfl | cases foreign
    · cases effect with
      | announced notice =>
          rcases notice with ⟨kind⟩
          cases kind <;> first | rfl | cases foreign
      | _ => rfl
  signal controller signal free := ⟨free, rfl, rfl⟩

end Controller

namespace Gate

open Controller (dormant)

private theorem filterMap_refusals {Result : Type} (pick : Effect → Option Result)
    (silent : ∀ ticket reply, pick (.answered ticket reply) = none) (requests : List Ticketed) :
    (requests.map fun waiting => Effect.answered waiting.ticket .closed).filterMap pick = [] := by
  simp [List.filterMap_map, silent]

theorem leaves {gate : Gate} {log : List Event} (sound : gate.Sound log)
    (stops : gate.serverTask? = some .stop) : Leaves gate ⟨gate, .turn .server⟩ := by
  rcases sound.perform (.turn .server) with ⟨more, soundAfter, -⟩
  have run := Step.run_serverTurn stops
  simp only [doServerTask, run_stopServer] at run
  have givesUp := Controller.shutDown_givesUp gate.controller
  have answering := Step.answers_of_operation .shutDown gate.controller
  simp only [Operation.perform, run_map] at answering
  rw [run] at soundAfter
  constructor
  · rw [Step.effects, Step.outcome, run, List.filterMap_append, givesUp.notices,
      List.filterMap_cons]
    simp only [Effect.notice?]
    rw [filterMap_refusals _ fun _ _ => rfl, List.append_nil]
  · rw [Step.effects, Step.outcome, run, List.filterMap_append, givesUp.questions,
      List.filterMap_cons]
    simp only [Effect.question?]
    rw [filterMap_refusals _ fun _ _ => rfl, List.append_nil]
  · rw [Step.answers, Step.effects, Step.outcome, run, List.filterMap_append, answering,
      List.nil_append, List.filterMap_cons]
    exact Step.answers_refused _
  · rw [Step.after, Step.outcome, run]
    exact givesUp.conditions
  · rw [Step.after, Step.outcome, run]
    exact givesUp.released
  · rw [Step.after, Step.outcome, run]
    have dormant : (Controller.shutDown.run gate.controller).state.isObserving = false := by
      rw [Controller.isObserving, givesUp.released]
      rfl
    exact ⟨Bus.cursor?_leave_self _ _, by simpa using soundAfter.observing.trans dormant⟩
  · rw [Step.after, Step.outcome, run]
    exact ⟨rfl, rfl⟩
  · rw [Step.after, Step.outcome, run]
  · rw [Step.after, Step.outcome, run]
    rfl

/-! ## A closed gate -/

/-- The server has left, nobody waits for it, and nothing is held for observing. -/
structure Deserted (gate : Gate) : Prop where
  closed : gate.isClosed = true
  line : gate.line = []
  door : gate.door = []
  released : gate.controller.observation = none

theorem operations_of_closed {gate : Gate} (closed : gate.isClosed = true) (move : Move) :
    ∀ operation ∈ move.operations gate, operation.decides = false ∨ operation = .discard := by
  have stopped : gate.server = .stopped := by simpa [isClosed] using closed
  cases move with
  | turn choice =>
      cases choice with
      | server => simp [Move.operations, serverTask?, stopped]
      | _ => simp [Move.operations]
  | _ => simp [Move.operations, Operation.decides]

structure StaysDeserted (gate : Gate) (moves : List Move) : Prop where
  deserted : (gate.following moves).Deserted
  sessions : sessionQuestions (gate.recordOf moves) = []
  kinds : observationKinds (gate.recordOf moves) = []
  served : served (gate.steps moves) = []
  answers : answers (gate.steps moves) = (sent (gate.steps moves)).map refusal

private theorem Deserted.step {gate : Gate} (deserted : gate.Deserted) (move : Move) :
    let step : Step := ⟨gate, move⟩
    step.after.isClosed = true ∧ step.after.line = [] ∧ step.after.door = [] ∧
      step.served? = none ∧ step.answers = step.sent?.toList.map refusal := by
  have stopped : gate.server = .stopped := by simpa [isClosed] using deserted.closed
  intro step
  have closes (isStopped : step.after.server = .stopped) : step.after.isClosed = true := by
    simp [isClosed, isStopped]
  cases step.handles with
  | nothing sent served answers line door nextTicket server =>
      refine ⟨closes (server.mpr stopped), line.trans deserted.line, door.trans deserted.door,
        served, ?_⟩
      rw [answers, sent]
      rfl
  | refuses request closed sent served answers line door nextTicket server =>
      refine ⟨closes server, line.trans deserted.line, door.trans deserted.door, served, ?_⟩
      rw [answers, sent]
      rfl
  | stops sent served answers line door nextTicket server =>
      refine ⟨closes server, line, door, served, ?_⟩
      rw [answers, sent]
      change ((gate.line ++ gate.door).map _) = _
      rw [deserted.line, deserted.door]
      rfl
  | accepts request running => exact absurd stopped running
  | serves request running => exact absurd stopped running
  | comesIn first sent served answers line door =>
      have impossible := deserted.door.symm.trans door
      cases impossible

theorem Deserted.staysDeserted {gate : Gate} {log : List Event} (deserted : gate.Deserted)
    (sound : gate.Sound log) (moves : List Move) : gate.StaysDeserted moves := by
  induction moves generalizing gate log with
  | nil => exact ⟨deserted, rfl, rfl, rfl, rfl⟩
  | cons move rest induction =>
      rcases sound.perform move with ⟨more, soundAfter, -⟩
      rcases deserted.step move with ⟨closed, line, door, notServed, answered⟩
      obtain ⟨released, sessions, kinds⟩ := Controller.dormant_ignores.perform sound
        (Controller.performAll_obeys fun operation member =>
          Controller.dormant_operation (operations_of_closed deserted.closed move operation member))
        deserted.released
      have later : (move.perform.run gate).state.StaysDeserted rest :=
        induction ⟨closed, line, door, released⟩ soundAfter
      refine ⟨later.deserted, ?_, ?_, ?_, ?_⟩
      · rw [recordOf_cons, sessionQuestions_append, sessions, later.sessions, List.nil_append]
      · rw [recordOf_cons, observationKinds_append, kinds, later.kinds, List.nil_append]
      · have laterServed := later.served
        rw [served] at laterServed ⊢
        rw [steps, List.filterMap_cons, notServed, laterServed]
      · have laterAnswers := later.answers
        rw [answers, sent] at laterAnswers ⊢
        rw [steps, List.flatMap_cons, answered, laterAnswers, List.filterMap_cons]
        cases (Step.sent? ⟨gate, move⟩) <;> rfl

end Gate

end TransferGate
