import TransferGate.Proofs.Agenda

/-! # Working off the agenda

If the agenda has one operation at most, and the receivers are not too far behind, the order in
which the server prefers things does not matter, and nothing is lost on the bus. So turns of
the gate come to an end with what the agenda says.
-/

namespace TransferGate

open Activity Controller

namespace Gate

/-! ## What the server does next -/

def ShowsSame (left right : List Effect) : Prop :=
  left.filterMap Effect.exchange? = right.filterMap Effect.exchange? ∧
    left.filterMap Effect.notice? = right.filterMap Effect.notice?

theorem ShowsSame.refl (record : List Effect) : ShowsSame record record := ⟨rfl, rfl⟩

theorem ShowsSame.append {first second third fourth : List Effect}
    (left : ShowsSame first second) (right : ShowsSame third fourth) :
    ShowsSame (first ++ third) (second ++ fourth) := by
  simp only [ShowsSame, List.filterMap_append, left.1, left.2, right.1, right.2, and_self]

/-- What was done is the beginning of what was to be done, and so are the replies. -/
structure Advances (before : Gate) (log : List Event) (record : List Effect) (after : Gate)
    (afterLog : List Event) : Prop where
  tidy : after.Tidy afterLog
  replies : before.expected = record.filterMap Effect.answer? ++ after.expected
  work : ∃ operations, before.opening ++ before.agenda log =
      operations ++ (after.opening ++ after.agenda afterLog) ∧
    after.controller = before.controller.following operations ∧
    ShowsSame record (before.controller.recordOf operations)

theorem Advances.refl {gate : Gate} {log : List Event} (tidy : gate.Tidy log) :
    Advances gate log [] gate log :=
  ⟨tidy, rfl, [], rfl, rfl, .refl _⟩

theorem Advances.trans {before between after : Gate} {log betweenLog afterLog : List Event}
    {first second : List Effect} (earlier : Advances before log first between betweenLog)
    (later : Advances between betweenLog second after afterLog) :
    Advances before log (first ++ second) after afterLog := by
  rcases earlier.work with ⟨done, agenda, controller, shows⟩
  rcases later.work with ⟨more, rest, moreController, moreShows⟩
  refine ⟨later.tidy, ?_, done ++ more, ?_, ?_, ?_⟩
  · rw [earlier.replies, later.replies, List.filterMap_append, List.append_assoc]
  · rw [agenda, rest, List.append_assoc]
  · rw [moreController, controller, Controller.following_append]
  · rw [Controller.recordOf_append, ← controller]
    exact shows.append moreShows

/-- How much the server has to do until it waits. An operation counts for more than what it may
announce to both receivers. -/
def effort (gate : Gate) (log : List Event) : Nat :=
  gate.opening.length + 15 * (gate.agenda log).length + (gate.bus.unread log .lifecycle).length +
    (gate.bus.unread log .observation).length

def Progresses (gate : Gate) (log : List Event) (outcome : Outcome Gate (Option Ticketed)) : Prop :=
  ∃ afterLog, Advances gate log outcome.effects outcome.state afterLog ∧
    outcome.state.effort afterLog < gate.effort log

private theorem status_of_unregistered {conditions : Conditions}
    (unregistered : conditions.registered = none) (queue : Queue) :
    conditions.status queue = if conditions.knownEmpty queue then .empty else .notReady := by
  have unprepared : conditions.unprepared = true := by
    simp [Conditions.unprepared, unregistered]
  rw [Conditions.status, unprepared]
  rfl

theorem effects_readinessChanged {controller : Controller}
    (unregistered : controller.conditions.registered = none) :
    ∃ ready, (Controller.readinessChanged.run controller).effects =
      [.asked ⟨.isAppReady, ready⟩, .revised { controller.conditions with ready := ready }] := by
  let ready := (controller.host.sources.read .isAppReady).1
  let after : Conditions := { controller.conditions with ready := ready }
  have noChange : controller.conditions.changes after = [] := by
    apply List.filterMap_eq_nil_iff.mpr
    intro queue _
    apply if_pos
    rw [status_of_unregistered unregistered,
      status_of_unregistered (show after.registered = none from unregistered)]
    rfl
  have run : (Controller.readinessChanged.run controller).effects =
      .asked ⟨.isAppReady, ready⟩ :: .revised after ::
        ((controller.conditions.changes after).flatMap changeEffects ++ []) := rfl
  rw [noChange] at run
  exact ⟨ready, run⟩

theorem progresses_start {gate : Gate} {log : List Event} (tidy : gate.Tidy log)
    (starting : gate.server = .starting) :
    Progresses gate log ((Move.turn .server).perform.run gate) := by
  have found : gate.serverTask? = some .start := by rw [serverTask?, starting]
  rcases tidy.sound.perform (.turn .server) with ⟨_, soundAfter, -⟩
  rw [Step.run_serverTurn found] at soundAfter ⊢
  rcases effects_readinessChanged (tidy.unregistered starting) with ⟨ready, effects⟩
  have state : ((doServerTask .start).run gate).state =
      { gate with
        server := .serving
        controller := (Controller.readinessChanged.run gate.controller).state
        bus := gate.bus } := by
    simp [doServerTask, effects]
    rfl
  have opening : gate.opening = [.readinessChanged] := if_pos starting
  have record : ((doServerTask .start).run gate).effects =
      gate.controller.recordOf [.readinessChanged] := by
    simp [doServerTask, recordOf_singleton, Operation.perform]
  -- Only the shape of the gate afterwards counts from here on, not the record that led to it.
  generalize ((doServerTask .start).run gate).state = after at state soundAfter ⊢
  have sameAgenda : after.agenda log = gate.agenda log := by rw [state]; rfl
  have opened : after.opening = [] := by simp [Gate.opening, state]
  have tidyAfter := tidy.skips tidy.base state sameAgenda ⟨_, soundAfter⟩
  have controller : after.controller = gate.controller.following [.readinessChanged] := by
    rw [state]
    rfl
  refine ⟨log, ⟨tidyAfter, ?_, [.readinessChanged], ?_, controller, ?_⟩, ?_⟩
  · have noAnswers := Step.answers_of_operation .readinessChanged gate.controller
    have sameLine : after.line = gate.line := by rw [state]
    rw [record, recordOf_singleton, noAnswers, Gate.expected, Gate.expected, opening, opened,
      sameLine, controller]
    rfl
  · rw [opening, opened, sameAgenda, List.nil_append]
  · rw [record]
    exact .refl _
  · have sameBus : after.bus = gate.bus := by rw [state]
    rw [effort, effort, opening, opened, sameAgenda, sameBus, List.length_nil, List.length_singleton]
    omega

private theorem Works.progresses {gate after : Gate} {log : List Event} {operation : Operation}
    {base : Bus Seat} (works : Works gate log operation base after) (tidy : gate.Tidy log)
    {answers : List (Nat × Reply)} (expected : gate.expected = answers) :
    Progresses gate log ⟨none, after, (operation.perform.run gate.controller).effects ++
      answers.map fun answer => .answered answer.1 answer.2⟩ := by
  rcases tidy.works works with ⟨more, tidyAfter, done, room⟩
  have opening : gate.opening = [] := by simp [Gate.opening, works.serving]
  have opened : after.opening = [] := by simp [Gate.opening, works.state, works.serving]
  have line : after.line = [] := by rw [works.state]
  refine ⟨log ++ more, ⟨tidyAfter, ?_, [operation], ?_, ?_, ?_⟩, ?_⟩
  · have noAnswers := Step.answers_of_operation operation gate.controller
    have told : (answers.map fun answer => Effect.answered answer.1 answer.2).filterMap
        Effect.answer? = answers := by
      rw [List.filterMap_map]
      exact List.filterMap_some
    rw [List.filterMap_append, noAnswers, told, expected, Gate.expected, line]
    exact (List.append_nil _).symm
  · rw [opening, opened, works.only, done]
    rfl
  · rw [works.state]
    rfl
  · have asides : ShowsSame (answers.map fun answer => .answered answer.1 answer.2) [] := by
      constructor <;> (rw [List.filterMap_map]; exact List.filterMap_eq_nil_iff.mpr fun _ _ => rfl)
    exact (ShowsSame.refl _).append asides
  · have lifecycleRoom := room .lifecycle
    have observationRoom := room .observation
    rw [effort, effort, opening, opened, works.only, done, List.length_nil, List.length_singleton]
    simp only
    omega

private theorem progresses_of_signal {gate after : Gate} {log : List Event} (tidy : gate.Tidy log)
    (serving : gate.server = .serving) (nobody : gate.line = []) {operation : Operation}
    {bus : Bus Seat} (isBase : Base gate log bus)
    (first : gate.agenda log = operation ::
      ((bus.unread log .lifecycle).flatMap Event.onLifecycle ++
        (bus.unread log .observation).flatMap Event.onObservation))
    (few : AnnouncesAtMost 7 operation.perform)
    (state : after =
      { gate with
        controller := (operation.perform.run gate.controller).state
        bus := bus.absorbAll (operation.perform.run gate.controller).effects })
    (sound : ∃ some, after.Sound some) :
    Progresses gate log ⟨none, after, (operation.perform.run gate.controller).effects⟩ := by
  have others := tidy.nothing_else first
  rw [others] at first
  rcases List.append_eq_nil_iff.mp others with ⟨lifecycle, observation⟩
  have works : Works gate log operation bus after :=
    ⟨isBase, serving, first, few, lifecycle, observation, by rw [state, ← nobody], sound⟩
  have expected : gate.expected = [] := by
    rw [Gate.expected, nobody]
    rfl
  have progresses := works.progresses tidy expected
  rw [List.map_nil, List.append_nil] at progresses
  exact progresses

theorem progresses_serve {gate : Gate} {log : List Event} (tidy : gate.Tidy log)
    (serving : gate.server = .serving) {request : Ticketed} {rest : List Ticketed}
    (waiting : gate.line = request :: rest) :
    Progresses gate log ((Move.turn .server).perform.run gate) := by
  have found : gate.serverTask? = some (.serve request rest) := by
    simp [serverTask?, serving, tidy.cancelled, waiting]
  rcases tidy.sound.perform (.turn .server) with ⟨_, soundAfter, -⟩
  rw [Step.run_serverTurn found, run_serve] at soundAfter ⊢
  have first : gate.agenda log = .serve request.request ::
      (rest.map (fun request => .serve request.request) ++
        ((gate.bus.unread log .lifecycle).flatMap Event.onLifecycle ++
          (gate.bus.unread log .observation).flatMap Event.onObservation)) := by
    rw [agenda, waiting]
    rfl
  have others := tidy.nothing_else first
  rw [others] at first
  rcases List.append_eq_nil_iff.mp others with ⟨noRest, noSignals⟩
  rcases List.append_eq_nil_iff.mp noSignals with ⟨lifecycle, observation⟩
  have alone : rest = [] := List.map_eq_nil_iff.mp noRest
  subst alone
  have few : AnnouncesAtMost 7 (Operation.serve request.request).perform :=
    (announces_serve request.request).map
  have run : (Operation.serve request.request).perform.run gate.controller =
      ⟨some ((Controller.serve request.request).run gate.controller).value,
        ((Controller.serve request.request).run gate.controller).state,
        ((Controller.serve request.request).run gate.controller).effects⟩ := by
    simp [Operation.perform]
  have expected : gate.expected = [(request.ticket,
      ((Controller.serve request.request).run gate.controller).value)] := by
    have opening : gate.opening = [] := by simp [Gate.opening, serving]
    rw [Gate.expected, opening, waiting]
    rfl
  have works : Works gate log (.serve request.request) gate.bus _ :=
    ⟨tidy.base, serving, first, few, lifecycle, observation, by rw [run], _, soundAfter⟩
  have progresses := works.progresses tidy expected
  rw [run] at progresses
  exact progresses

private theorem progresses_of_skip {gate after : Gate} {log : List Event} (tidy : gate.Tidy log)
    (serving : gate.server = .serving) {seat : Seat} {receipt : Receipt} {bus : Bus Seat}
    (received : gate.bus.receive seat = some (receipt, bus))
    (member : seat ∈ serverSeats)
    (state : after = { gate with bus := bus }) (same : after.agenda log = gate.agenda log)
    (sound : ∃ some, after.Sound some) : Progresses gate log ⟨none, after, []⟩ := by
  rcases tidy.receive member received with ⟨base, ⟨event, -, ahead⟩, -⟩
  have served : after = { gate with server := .serving, bus := bus } := by rw [state, ← serving]
  have tidyAfter := tidy.skips base served same sound
  have opened : after.opening = gate.opening := by rw [state]; rfl
  have expected : after.expected = gate.expected := by rw [state]; rfl
  refine ⟨log, ⟨tidyAfter, expected.symm, [], ?_, ?_, .refl _⟩, ?_⟩
  · rw [opened, same, List.nil_append]
  · rw [state]
    rfl
  · have moved : after.bus = bus := by rw [state]
    have lifecycle := base.fewer .lifecycle
    have observation := base.fewer .observation
    rw [effort, effort, opened, same, moved]
    simp only [serverSeats, List.mem_cons, List.not_mem_nil, or_false] at member
    rcases member with rfl | rfl <;> (rw [ahead, List.length_cons]; omega)

private theorem run_lifecycle_of_ready (gate : Gate) (bus : Bus Seat) {event : Event}
    (ready : event.kind = .signal .appReady) :
    (doServerTask (.lifecycle (.event event) bus)).run gate =
      ⟨(), { gate with
        controller := (Operation.readinessChanged.perform.run gate.controller).state
        bus := bus.absorbAll (Operation.readinessChanged.perform.run gate.controller).effects },
        (Operation.readinessChanged.perform.run gate.controller).effects⟩ := by
  simp [doServerTask, changeBus, handleLifecycle, ready, Operation.perform]

theorem progresses_lifecycle {gate : Gate} {log : List Event} (tidy : gate.Tidy log)
    (serving : gate.server = .serving) (nobody : gate.line = []) {receipt : Receipt}
    {bus : Bus Seat} (received : gate.bus.receive .lifecycle = some (receipt, bus)) :
    Progresses gate log ((Move.turn .server).perform.run gate) := by
  have found : gate.serverTask? = some (.lifecycle receipt bus) := by
    simp [serverTask?, signalTask?, serving, tidy.cancelled, nobody, tidy.handles, received]
  rcases tidy.sound.perform (.turn .server) with ⟨_, soundAfter, -⟩
  rw [Step.run_serverTurn found] at soundAfter ⊢
  obtain ⟨base, ⟨event, rfl, ahead⟩, elsewhere⟩ := tidy.receive (by decide) received
  have observation := elsewhere .observation (by decide)
  by_cases ready : event.kind = .signal .appReady
  · have honoured : event.onLifecycle = [.readinessChanged] := if_pos ready
    have first : gate.agenda log = .readinessChanged ::
        ((bus.unread log .lifecycle).flatMap Event.onLifecycle ++
          (bus.unread log .observation).flatMap Event.onObservation) := by
      rw [agenda, nobody, ahead, List.flatMap_cons, honoured, observation]
      rfl
    have few : AnnouncesAtMost 7 Operation.readinessChanged.perform :=
      (announces_reread .appReady).map.weaken (by decide)
    rw [run_lifecycle_of_ready gate bus ready] at soundAfter ⊢
    exact progresses_of_signal tidy serving nobody base first few rfl ⟨_, soundAfter⟩
  · have ignored : event.onLifecycle = [] := if_neg ready
    have run : (doServerTask (.lifecycle (.event event) bus)).run gate =
        ⟨(), { gate with bus := bus }, []⟩ := by
      simp [doServerTask, changeBus, handleLifecycle]
    rw [run] at soundAfter ⊢
    refine progresses_of_skip tidy serving received (by decide) rfl ?_ ⟨_, soundAfter⟩
    rw [agenda, agenda, ahead, List.flatMap_cons, ignored, observation]
    rfl

private theorem run_observed_of_observing {gate : Gate} (bus : Bus Seat) {event : Event}
    {signal : Signal} (observed : event.kind.observedSignal? = some signal)
    (observing : gate.controller.isObserving = true) :
    (doServerTask (.observed (.event event) bus)).run gate =
      ⟨(), { gate with
        controller := ((Operation.receive (.signal signal)).perform.run gate.controller).state
        bus := bus.absorbAll
          ((Operation.receive (.signal signal)).perform.run gate.controller).effects },
        ((Operation.receive (.signal signal)).perform.run gate.controller).effects⟩ := by
  have rereads := run_receive_of_observing observing (isObserved_of_observedSignal? observed).2
  simp [doServerTask, changeBus, handleObserved, observed, Operation.perform, rereads]

theorem progresses_observed {gate : Gate} {log : List Event} (tidy : gate.Tidy log)
    (serving : gate.server = .serving) (nobody : gate.line = [])
    (nothing : gate.bus.receive .lifecycle = none) {receipt : Receipt} {bus : Bus Seat}
    (received : gate.bus.receive .observation = some (receipt, bus)) :
    Progresses gate log ((Move.turn .server).perform.run gate) := by
  have found : gate.serverTask? = some (.observed receipt bus) := by
    simp [serverTask?, signalTask?, serving, tidy.cancelled, nobody, tidy.handles, nothing,
      received]
  rcases tidy.sound.perform (.turn .server) with ⟨_, soundAfter, -⟩
  rw [Step.run_serverTurn found] at soundAfter ⊢
  obtain ⟨base, ⟨event, rfl, ahead⟩, elsewhere⟩ := tidy.receive (by decide) received
  have read : gate.bus.unread log .lifecycle = [] := tidy.sound.keeps.unread_of_nothing nothing
  have lifecycle := elsewhere .lifecycle (by decide)
  rw [read] at lifecycle
  cases observed : event.kind.observedSignal? with
  | some signal =>
      have honoured : event.onObservation = [.receive (.signal signal)] := by
        rw [Event.onObservation, observed]
        rfl
      have observing : gate.controller.isObserving = true := by
        rcases Bus.cursor?_of_receive received with ⟨cursor, seated⟩
        rw [← tidy.sound.observing, seated]
        rfl
      have first : gate.agenda log = .receive (.signal signal) ::
          ((bus.unread log .lifecycle).flatMap Event.onLifecycle ++
            (bus.unread log .observation).flatMap Event.onObservation) := by
        rw [agenda, nobody, read, lifecycle, ahead, List.flatMap_cons, honoured]
        rfl
      have few : AnnouncesAtMost 7 (Operation.receive (.signal signal)).perform :=
        (announces_receive (.signal signal)).map.weaken (by decide)
      rw [run_observed_of_observing bus observed observing] at soundAfter ⊢
      exact progresses_of_signal tidy serving nobody base first few rfl ⟨_, soundAfter⟩
  | none =>
      have ignored : event.onObservation = [] := by
        rw [Event.onObservation, observed]
        rfl
      have run : (doServerTask (.observed (.event event) bus)).run gate =
          ⟨(), { gate with bus := bus }, []⟩ := by
        simp [doServerTask, changeBus, handleObserved, observed]
      rw [run] at soundAfter ⊢
      refine progresses_of_skip tidy serving received (by decide) rfl ?_ ⟨_, soundAfter⟩
      rw [agenda, agenda, ahead, List.flatMap_cons, ignored, lifecycle, read]
      rfl

theorem progresses_serverTurn {gate : Gate} {log : List Event} (tidy : gate.Tidy log)
    {task : ServerTask} (found : gate.serverTask? = some task) :
    Progresses gate log ((Move.turn .server).perform.run gate) := by
  cases due_of_serverTask? found with
  | start starting => exact progresses_start tidy starting
  | stop serving reason =>
      rcases reason with cancelled | ⟨-, alone, -⟩
      · rw [tidy.cancelled] at cancelled
        cases cancelled
      · exact absurd alone tidy.handles
  | serve serving goesOn waiting => exact progresses_serve tidy serving waiting
  | lifecycle serving goesOn nobody received =>
      exact progresses_lifecycle tidy serving nobody received
  | observed serving goesOn nobody nothing received =>
      exact progresses_observed tidy serving nobody nothing received

/-! ## Until nothing is left to do -/

/-- No task has anything to do. -/
def IsQuiet (gate : Gate) : Prop := ∀ choice, ((turn choice).run gate).value = false

private theorem advances_turn {gate : Gate} {log : List Event} (tidy : gate.Tidy log)
    (choice : Turn) :
    ∃ afterLog, Advances gate log ((Move.turn choice).perform.run gate).effects
      ((Move.turn choice).perform.run gate).state afterLog := by
  by_cases isServer : choice = .server
  · subst isServer
    cases found : gate.serverTask? with
    | some task =>
        rcases progresses_serverTurn tidy found with ⟨afterLog, advances, -⟩
        exact ⟨afterLog, advances⟩
    | none =>
        have run : (Move.turn .server).perform.run gate = ⟨none, gate, []⟩ := by
          simp [Move.perform, turn, serverTurn, found]
        rw [run]
        exact ⟨log, .refl tidy⟩
  · have run : (Move.turn choice).perform.run gate = ⟨none, gate, []⟩ := by
      simp [Move.perform, tidy.idle isServer]
    rw [run]
    exact ⟨log, .refl tidy⟩

theorem advances_turns {gate : Gate} {log : List Event} (tidy : gate.Tidy log)
    (turns : List Turn) : ∃ afterLog, Advances gate log (gate.recordOf (turns.map .turn))
      (gate.following (turns.map .turn)) afterLog := by
  induction turns generalizing gate log with
  | nil => exact ⟨log, .refl tidy⟩
  | cons choice rest induction =>
      rcases advances_turn tidy choice with ⟨between, first⟩
      rcases induction first.tidy with ⟨afterLog, others⟩
      exact ⟨afterLog, first.trans others⟩

theorem isQuiet_iff {gate : Gate} (undisturbed : gate.Undisturbed) :
    gate.IsQuiet ↔ gate.serverTask? = none := by
  constructor
  · intro quiet
    have server := quiet .server
    cases found : gate.serverTask? with
    | none => rfl
    | some task => simp [turn, serverTurn, found] at server
  · intro nothing choice
    by_cases isServer : choice = .server
    · subst isServer
      simp [turn, serverTurn, nothing]
    · rw [undisturbed.idle isServer]

/-- The tasks come to rest, however little each of them does at a time. -/
theorem quiet_reachable {gate : Gate} {log : List Event} (tidy : gate.Tidy log) :
    ∃ turns : List Turn, (gate.following (turns.map .turn)).IsQuiet := by
  -- The effort carries the induction: a turn of the server that does something lowers it.
  generalize left : gate.effort log = amount
  induction amount using Nat.strongRecOn generalizing gate log with
  | ind amount induction =>
      cases found : gate.serverTask? with
      | none => exact ⟨[], (isQuiet_iff tidy.toUndisturbed).mpr found⟩
      | some task =>
          rcases progresses_serverTurn tidy found with ⟨afterLog, advances, less⟩
          rw [left] at less
          rcases induction _ less advances.tidy rfl with ⟨turns, quiet⟩
          exact ⟨.server :: turns, quiet⟩

/-- A gate whose tasks are at rest, between two things that happen to it. -/
structure Rests (gate : Gate) (log : List Event) : Prop extends Tidy gate log where
  line : gate.line = []
  read : ∀ seat ∈ serverSeats, gate.bus.unread log seat = []

/-- When no task has anything to do, the agenda is done and the backlogs are read. -/
theorem rests_of_quiet {gate : Gate} {log : List Event} (tidy : gate.Tidy log)
    (quiet : gate.IsQuiet) : gate.Rests log ∧ gate.opening = [] ∧ gate.agenda log = [] := by
  have nothing := (isQuiet_iff tidy.toUndisturbed).mp quiet
  cases server : gate.server with
  | starting =>
      rw [serverTask?, server] at nothing
      cases nothing
  | stopped => exact absurd server tidy.running
  | serving =>
      have line : gate.line = [] := by
        cases waiting : gate.line with
        | nil => rfl
        | cons request rest =>
            simp [serverTask?, server, tidy.cancelled, waiting] at nothing
      have signals : gate.signalTask? = none := by
        simpa [serverTask?, server, tidy.cancelled, line, tidy.handles] using nothing
      have lifecycle : gate.bus.receive .lifecycle = none := by
        cases received : gate.bus.receive .lifecycle with
        | none => rfl
        | some receipt => simp [signalTask?, received] at signals
      have observation : gate.bus.receive .observation = none := by
        simpa [signalTask?, lifecycle] using signals
      have readLifecycle := tidy.sound.keeps.unread_of_nothing lifecycle
      have readObservation := tidy.sound.keeps.unread_of_nothing observation
      refine ⟨⟨tidy, line, ?_⟩, ?_, ?_⟩
      · intro seat member
        simp only [serverSeats, List.mem_cons, List.not_mem_nil, or_false] at member
        rcases member with rfl | rfl <;> assumption
      · simp [opening, server]
      · rw [agenda, line, readLifecycle, readObservation]
        rfl

end Gate

end TransferGate
