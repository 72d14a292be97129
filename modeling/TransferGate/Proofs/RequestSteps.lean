import TransferGate.Proofs.GateRun

/-! # What a step means for requests

A request enters the line when it is sent or, if the line is full then, when its
caller comes in from the door. It leaves the line when the server works on it, or when
the server stops. `Gate.Step.Handles` lists what a step can mean for requests.
-/

namespace TransferGate

open Controller (Operation)

namespace Gate

open Activity

/-- A move at the moment when it was made. -/
structure Step where
  before : Gate
  move : Move

namespace Step

def outcome (step : Step) : Outcome Gate (Option Ticketed) := step.move.perform.run step.before

def after (step : Step) : Gate := step.outcome.state

def effects (step : Step) : List Effect := step.outcome.effects

def sent? (step : Step) : Option Ticketed := step.outcome.value

def entered (step : Step) : List Ticketed := step.after.line.drop step.before.line.length

/-- The request that the server worked on. -/
def served? (step : Step) : Option Ticketed :=
  match step.move with
  | .turn .server =>
      match step.before.serverTask? with
      | some (.serve request _) => some request
      | _ => none
  | _ => none

/-- What the controller does when it serves the request in the state before the step. -/
def serving (step : Step) (request : Ticketed) : Outcome Controller Reply :=
  (Controller.serve request.request).run step.before.controller

def answers (step : Step) : List (Nat × Reply) := step.effects.filterMap Effect.answer?

def operations (step : Step) : List Operation := step.move.operations step.before

end Step

def steps (gate : Gate) : List Move → List Step
  | [] => []
  | move :: rest => ⟨gate, move⟩ :: steps (move.perform.run gate).state rest

theorem steps_append (gate : Gate) (first second : List Move) :
    gate.steps (first ++ second) = gate.steps first ++ (gate.following first).steps second := by
  induction first generalizing gate with
  | nil => rfl
  | cons move rest induction => exact congrArg _ (induction (move.perform.run gate).state)

theorem steps_concat (gate : Gate) (moves : List Move) (move : Move) :
    gate.steps (moves ++ [move]) = gate.steps moves ++ [⟨gate.following moves, move⟩] :=
  gate.steps_append moves [move]

theorem before_of_mem_steps {gate : Gate} {moves : List Move} {step : Step}
    (member : step ∈ gate.steps moves) : ∃ earlier, step.before = gate.following earlier := by
  induction moves generalizing gate with
  | nil => cases member
  | cons move rest induction =>
      rcases List.mem_cons.mp member with rfl | inRest
      · exact ⟨[], rfl⟩
      · rcases induction inRest with ⟨earlier, before⟩
        exact ⟨move :: earlier, before⟩

/-! ## One step -/

namespace Step

/-- What a step can mean for requests. -/
inductive Handles (step : Step) : Prop where
  | nothing (sent : step.sent? = none) (served : step.served? = none) (answers : step.answers = [])
      (line : step.after.line = step.before.line) (door : step.after.door = step.before.door)
      (nextTicket : step.after.nextTicket = step.before.nextTicket)
      (server : step.after.server = .stopped ↔ step.before.server = .stopped)
  | accepts (request : Request) (running : step.before.server ≠ .stopped)
      (sent : step.sent? = some ⟨step.before.nextTicket, request⟩) (served : step.served? = none)
      (answers : step.answers = [])
      (waits : step.after.line = step.before.line ++ [⟨step.before.nextTicket, request⟩] ∧
          step.after.door = step.before.door ∨
        step.after.line = step.before.line ∧
          step.after.door = step.before.door ++ [⟨step.before.nextTicket, request⟩])
      (nextTicket : step.after.nextTicket = step.before.nextTicket + 1)
      (server : step.after.server ≠ .stopped)
  | refuses (request : Request) (closed : step.before.server = .stopped)
      (sent : step.sent? = some ⟨step.before.nextTicket, request⟩) (served : step.served? = none)
      (answers : step.answers = [(step.before.nextTicket, .closed)])
      (line : step.after.line = step.before.line) (door : step.after.door = step.before.door)
      (nextTicket : step.after.nextTicket = step.before.nextTicket + 1)
      (server : step.after.server = .stopped)
  | comesIn (first : Ticketed) (sent : step.sent? = none) (served : step.served? = none)
      (answers : step.answers = []) (line : step.after.line = step.before.line ++ [first])
      (door : step.before.door = first :: step.after.door)
      (nextTicket : step.after.nextTicket = step.before.nextTicket)
      (server : step.after.server = step.before.server)
  | serves (request : Ticketed) (running : step.before.server ≠ .stopped)
      (sent : step.sent? = none) (served : step.served? = some request)
      (answers : step.answers = [(request.ticket, (step.serving request).value)])
      (line : step.before.line = request :: step.after.line)
      (door : step.after.door = step.before.door)
      (nextTicket : step.after.nextTicket = step.before.nextTicket)
      (server : step.after.server ≠ .stopped)
  | stops (sent : step.sent? = none) (served : step.served? = none)
      (answers : step.answers = (step.before.line ++ step.before.door).map fun waiting =>
        (waiting.ticket, .closed))
      (line : step.after.line = []) (door : step.after.door = [])
      (nextTicket : step.after.nextTicket = step.before.nextTicket)
      (server : step.after.server = .stopped)

private theorem no_answers {effects : List Effect}
    (none : ∀ effect ∈ effects, effect.answer? = none) :
    effects.filterMap Effect.answer? = [] :=
  List.filterMap_eq_nil_iff.mpr none

theorem answers_of_operation (operation : Operation) (controller : Controller) :
    (operation.perform.run controller).effects.filterMap Effect.answer? = [] :=
  no_answers fun effect member => Effect.answer?_of_isInner
    (Controller.inner_elements.stages.operation operation controller effect member)

theorem handles_sendIf {step : Step} (needed : Bool) (request : Request) (gate : Gate)
    {ahead : List Effect}
    (sent : step.sent? = ((sendIf needed request).run gate).value.map (Ticketed.mk · request))
    (served : step.served? = none) (state : step.after = ((sendIf needed request).run gate).state)
    (effects : step.effects = ahead ++ ((sendIf needed request).run gate).effects)
    (unanswering : ahead.filterMap Effect.answer? = [])
    (line : gate.line = step.before.line) (door : gate.door = step.before.door)
    (nextTicket : gate.nextTicket = step.before.nextTicket)
    (server : gate.server = step.before.server) : step.Handles := by
  cases needed with
  | false =>
      have noAnswers : step.answers = [] := by simp [answers, effects, sendIf, unanswering]
      refine .nothing (by simp [sent, sendIf]) served noAnswers ?_ ?_ ?_ ?_ <;>
        simp [state, sendIf, line, door, nextTicket, server]
  | true =>
      simp only [sendIf, run_map] at sent state effects
      cases closed : gate.isClosed with
      | true =>
          rw [run_send_closed closed] at sent state effects
          have stopped : step.before.server = .stopped := by
            rw [← server]
            simpa [isClosed] using closed
          refine .refuses request stopped ?_ served ?_ ?_ ?_ ?_ ?_
          · simp [sent, nextTicket]
          · simp [answers, effects, unanswering, Effect.answer?, nextTicket]
          all_goals simp [state, line, door, nextTicket, server, stopped]
      | false =>
          rw [run_send_open closed] at sent state effects
          have running : step.before.server ≠ .stopped := by
            rw [← server]
            simpa [isClosed] using closed
          have entering : step.after.nextTicket = step.before.nextTicket + 1 ∧
              step.after.server = step.before.server := by
            rw [state, enqueue]
            split <;> simp [nextTicket, server]
          refine .accepts request running ?_ served ?_ ?_ entering.1 ?_
          · simp [sent, nextTicket]
          · simp [answers, effects, unanswering]
          · rw [state, enqueue]
            split
            · exact .inl (by simp [line, door, nextTicket])
            · exact .inr (by simp [line, door, nextTicket])
          · rw [entering.2]
            exact running

private theorem handles_of_run {before next : Gate} {move : Move} {record : List Effect}
    (run : move.perform.run before = ⟨none, next, record⟩) (served : served? ⟨before, move⟩ = none)
    (answers : record.filterMap Effect.answer? = [])
    (same : (next.line, next.door, next.nextTicket) =
      (before.line, before.door, before.nextTicket))
    (server : next.server = .stopped ↔ before.server = .stopped) : Handles ⟨before, move⟩ := by
  simp only [Prod.mk.injEq] at same
  have outcomeIs : outcome ⟨before, move⟩ = ⟨none, next, record⟩ := run
  apply Handles.nothing
  · rw [sent?, outcomeIs]
  · exact served
  · rw [Step.answers, effects, outcomeIs]
    exact answers
  · rw [after, outcomeIs]
    exact same.1
  · rw [after, outcomeIs]
    exact same.2.1
  · rw [after, outcomeIs]
    exact same.2.2
  · rw [after, outcomeIs]
    exact server

private theorem handles_of_unchanged {before : Gate} {move : Move}
    (unchanged : move.perform.run before = ⟨none, before, []⟩)
    (served : served? ⟨before, move⟩ = none) : Handles ⟨before, move⟩ :=
  handles_of_run unchanged served rfl rfl .rfl

theorem answers_refused (requests : List Ticketed) :
    (requests.map fun waiting => Effect.answered waiting.ticket .closed).filterMap Effect.answer? =
      requests.map fun waiting => (waiting.ticket, Reply.closed) := by
  induction requests with
  | nil => rfl
  | cons request rest induction => simp [Effect.answer?, induction]

theorem answers_readinessChanged (controller : Controller) :
    (Controller.readinessChanged.run controller).effects.filterMap Effect.answer? = [] := by
  simpa [Operation.perform] using answers_of_operation .readinessChanged controller

theorem answers_handleLifecycle (receipt : Receipt) (gate : Gate) :
    ((handleLifecycle receipt).run gate).effects.filterMap Effect.answer? = [] := by
  cases receipt with
  | lagged missed =>
      simpa [handleLifecycle, Effect.answer?] using answers_readinessChanged gate.controller
  | event event =>
      simp only [handleLifecycle]
      split
      · exact answers_readinessChanged gate.controller
      · rfl

theorem answers_handleObserved (receipt : Receipt) (gate : Gate) :
    ((handleObserved receipt).run gate).effects.filterMap Effect.answer? = [] := by
  cases receipt with
  | lagged missed =>
      simpa [handleObserved, Operation.perform] using
        answers_of_operation (.recover missed) gate.controller
  | event event =>
      simp only [handleObserved]
      cases event.kind.observedSignal? with
      | none => rfl
      | some signal =>
          exact no_answers fun effect member => Effect.answer?_of_isInner
            (Controller.inner_elements.reread signal gate.controller effect member)

theorem requests_handleLifecycle (receipt : Receipt) (gate : Gate) :
    let after := ((handleLifecycle receipt).run gate).state
    (after.line, after.door, after.nextTicket) = (gate.line, gate.door, gate.nextTicket) := by
  cases receipt with
  | lagged missed => rfl
  | event event =>
      simp only [handleLifecycle]
      split <;> rfl

theorem requests_handleObserved (receipt : Receipt) (gate : Gate) :
    let after := ((handleObserved receipt).run gate).state
    (after.line, after.door, after.nextTicket) = (gate.line, gate.door, gate.nextTicket) := by
  cases receipt with
  | lagged missed => rfl
  | event event =>
      simp only [handleObserved]
      cases event.kind.observedSignal? <;> rfl

theorem run_serverTurn {gate : Gate} {task : ServerTask} (found : gate.serverTask? = some task) :
    (Move.turn .server).perform.run gate =
      ⟨none, ((doServerTask task).run gate).state, ((doServerTask task).run gate).effects⟩ := by
  simp [Move.perform, turn, serverTurn, found]

theorem handles_serverTurn (before : Gate) : Handles ⟨before, .turn .server⟩ := by
  cases found : before.serverTask? with
  | none =>
      refine handles_of_unchanged ?_ (by simp [served?, found])
      simp [Move.perform, turn, serverTurn, found]
  | some task =>
      have run := run_serverTurn found
      have sent : sent? ⟨before, .turn .server⟩ = none := by simp [sent?, outcome, run]
      have state : after ⟨before, .turn .server⟩ = ((doServerTask task).run before).state := by
        simp [after, outcome, run]
      have record : effects ⟨before, .turn .server⟩ = ((doServerTask task).run before).effects := by
        simp [effects, outcome, run]
      cases due_of_serverTask? found with
      | start starting =>
          refine handles_of_run run (by simp [served?, found]) ?_ rfl ?_
          · simpa [doServerTask] using answers_readinessChanged before.controller
          · rw [server_doServerTask]
            simp [starting]
      | stop serving reason =>
          simp only [doServerTask, run_stopServer] at state record
          refine .stops sent (by simp [served?, found]) ?_ ?_ ?_ ?_ ?_ <;> try rw [state]
          have shuttingDown := answers_of_operation .shutDown before.controller
          simp only [Operation.perform, run_map] at shuttingDown
          rw [answers, record, List.filterMap_append, shuttingDown, List.nil_append,
            List.filterMap_cons]
          exact answers_refused _
      | @serve serving goesOn request rest waiting =>
          rw [run_serve] at state record
          have working := answers_of_operation (.serve request.request) before.controller
          simp only [Operation.perform, run_map] at working
          refine .serves request (by simp [serving]) sent (by simp [served?, found]) ?_ ?_ ?_ ?_ ?_
          · rw [answers, record, List.filterMap_append, working]
            rfl
          all_goals simp [state, waiting, serving]
      | @lifecycle serving goesOn nobody receipt bus received =>
          refine handles_of_run run (by simp [served?, found]) ?_ ?_ ?_
          · exact answers_handleLifecycle receipt _
          · exact requests_handleLifecycle receipt _
          · rw [server_doServerTask]
      | @observed serving goesOn nobody nothing receipt bus received =>
          refine handles_of_run run (by simp [served?, found]) ?_ ?_ ?_
          · exact answers_handleObserved receipt _
          · exact requests_handleObserved receipt _
          · rw [server_doServerTask]

theorem answers_doRelayTask (task : RelayTask) (gate : Gate) :
    ((doRelayTask task).run gate).effects.filterMap Effect.answer? = [] := by
  cases task with
  | close => rfl
  | leave => rfl
  | pass receipt bus =>
      cases receipt with
      | lagged missed => rfl
      | event event =>
          exact no_answers fun effect member => by
            rcases List.mem_cons.mp member with rfl | offered
            · rfl
            · exact Effect.answer?_of_isHanding (Fanout.emit_hands event gate.fanout effect offered)

theorem requests_doRelayTask (task : RelayTask) (gate : Gate) :
    let after := ((doRelayTask task).run gate).state
    (after.line, after.door, after.nextTicket) = (gate.line, gate.door, gate.nextTicket) ∧
      after.server = gate.server := by
  cases task with
  | pass receipt bus => cases receipt <;> exact ⟨rfl, rfl⟩
  | _ => exact ⟨rfl, rfl⟩

theorem handles_relayTurn (before : Gate) (stopFirst : Bool) :
    Handles ⟨before, .turn (.relay stopFirst)⟩ := by
  cases found : before.relayTask? stopFirst with
  | none =>
      refine handles_of_unchanged ?_ rfl
      simp [Move.perform, turn, relayTurn, found]
  | some task =>
      have run : (Move.turn (.relay stopFirst)).perform.run before =
          ⟨none, ((doRelayTask task).run before).state,
            ((doRelayTask task).run before).effects⟩ := by
        simp [Move.perform, turn, relayTurn, found]
      rcases requests_doRelayTask task before with ⟨same, server⟩
      apply handles_of_run run rfl (answers_doRelayTask task before) same
      rw [server]

theorem handles_doorTurn (before : Gate) : Handles ⟨before, .turn .door⟩ := by
  have run : (Move.turn .door).perform.run before =
      ⟨none, (doorTurn.run before).state, (doorTurn.run before).effects⟩ := by
    simp [Move.perform, turn]
  rw [run_doorTurn] at run
  cases waiting : before.door with
  | nil => exact handles_of_unchanged (by simpa [waiting] using run) rfl
  | cons first rest =>
      by_cases hasRoom : before.line.length < before.room
      · simp only [waiting, if_pos hasRoom] at run
        refine .comesIn first ?_ rfl ?_ ?_ ?_ ?_ ?_ <;>
          simp [sent?, answers, effects, after, outcome, run, waiting]
      · exact handles_of_unchanged (by simpa [waiting, hasRoom] using run) rfl

theorem handles_abandon (before : Gate) : Handles ⟨before, .abandon⟩ := by
  have run : Move.abandon.perform.run before =
      ⟨none, (abandon.run before).state, (abandon.run before).effects⟩ := by
    simp [Move.perform]
  rw [run_abandon] at run
  have discarding := answers_of_operation .discard before.controller
  simp only [Operation.perform, run_map] at discarding
  refine .stops ?_ rfl ?_ ?_ ?_ ?_ ?_ <;> simp only [sent?, answers, effects, after, outcome, run]
  rw [List.filterMap_append, discarding, List.nil_append, answers_refused]

theorem handles (step : Step) : step.Handles := by
  rcases step with ⟨before, move⟩
  cases move with
  | send request =>
      have run : (Move.send request).perform.run before =
          ⟨((sendIf true request).run before).value.map (Ticketed.mk · request),
            ((sendIf true request).run before).state,
            ((sendIf true request).run before).effects⟩ := by
        simp [Move.perform, sendIf]
      refine handles_sendIf true request before ?_ rfl ?_ ?_ List.filterMap_nil rfl rfl rfl rfl <;>
        simp only [sent?, effects, after, outcome, run]
      rfl
  | quickCheck =>
      rcases run_quickCheck before with ⟨short, run⟩
      rw [run_bind] at run
      refine handles_sendIf short .refreshSpace
        ((onController Operation.lookAtSpace.perform).run before).state ?_ rfl ?_ ?_
        (answers_of_operation .lookAtSpace before.controller) rfl rfl rfl rfl <;>
        simp only [sent?, effects, after, outcome, Move.perform, run_map, run]
      rfl
  | jobFailed queue failure =>
      refine handles_sendIf (queue == .download && failure.isOutOfSpace) .outOfSpace before ?_ rfl
        ?_ ?_ List.filterMap_nil rfl rfl rfl rfl <;>
        simp only [sent?, effects, after, outcome, Move.perform, run_map, jobFailed_eq]
      rfl
  | publish kind => cases kind <;> exact handles_of_run rfl rfl rfl rfl .rfl
  | requiredBytes =>
      have run : Move.requiredBytes.perform.run before =
          ⟨none, (requiredBytes.run before).state, (requiredBytes.run before).effects⟩ := by
        simp [Move.perform]
      refine handles_of_run run rfl ?_ rfl .rfl
      simpa [requiredBytes, onHost, Operation.perform] using
        answers_of_operation .requiredBytes before.controller
  | hear =>
      cases received : before.bus.receive .outside with
      | none => exact handles_of_unchanged (by simp [Move.perform, hear, received]) rfl
      | some result =>
          have run : Move.hear.perform.run before =
              ⟨none, { before with bus := result.2 }, []⟩ := by
            simp [Move.perform, hear, received, changeBus]
          exact handles_of_run run rfl rfl rfl .rfl
  | abandon => exact handles_abandon before
  | turn choice =>
      cases choice with
      | door => exact handles_doorTurn before
      | server => exact handles_serverTurn before
      | relay stopFirst => exact handles_relayTurn before stopFirst
      | worker index =>
          have run : (Move.turn (.worker index)).perform.run before =
              ⟨none, ((onFanout (Fanout.workerTurn index)).run before).state,
                ((onFanout (Fanout.workerTurn index)).run before).effects⟩ := by
            simp [Move.perform, turn]
          refine handles_of_run run rfl (no_answers fun effect member => ?_) rfl .rfl
          exact Effect.answer?_of_isHanding
            (Fanout.workerTurn_hands index before.fanout effect member)
  | _ => exact handles_of_run rfl rfl rfl rfl .rfl

end Step

end Gate

end TransferGate
