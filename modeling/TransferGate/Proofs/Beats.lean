import TransferGate.Proofs.Waiting

/-! # Beats

Beats are moves and readings of a wait in any order, and a wait that is given up after some receipts
is made of beats. What waits end with is what has been read on the seat of the server and matters,
and each such receipt is dealt with in the beat that reads it.
-/

namespace TransferGate

namespace Gate

open Activity

theorem acts_waitOn {gate : Gate} {log : List Event} (sound : gate.Sound log) {receipt : Receipt}
    {bus : Bus Seat} (found : gate.awaited? = some (receipt, bus)) :
    Acts { gate with bus := bus } (ServerTask.observed receipt bus).operations []
      (waitOn.run gate).effects (waitOn.run gate).state := by
  rcases Bus.cursor?_of_receive (awaited?_eq_some found).2 with ⟨cursor, seated⟩
  have observing := sound.observing
  rw [seated] at observing
  rw [run_waitOn found, run_observed]
  exact acts_handleObserved receipt bus observing.symm

namespace Beat

private theorem begins (beat : Beat) (gate : Gate) :
    (beat.receipt? gate = none ∧ beat.base gate = gate.bus) ∨
      ∃ seat receipt, beat.receipt? gate = some (seat, receipt) ∧
        gate.bus.receive seat = some (receipt, beat.base gate) := by
  cases beat with
  | makes move => exact base_receives move gate
  | waitOn =>
      cases found : gate.awaited? with
      | none => exact .inl ⟨by simp [receipt?, found], by simp [base, found]⟩
      | some received =>
          refine .inr ⟨.observation, received.1, by simp [receipt?, found], ?_⟩
          simpa [base, found] using (awaited?_eq_some found).2

variable {gate : Gate} {log : List Event}

theorem receives (beat : Beat) (gate : Gate) : gate.bus.Receives (beat.base gate) := by
  rcases beat.begins gate with ⟨-, same⟩ | ⟨seat, receipt, -, received⟩
  · exact .inl same
  · exact .inr ⟨seat, receipt, received⟩

theorem absorbs (sound : gate.Sound log) (beat : Beat) :
    Bus.Absorbs (beat.seats gate) (beat.base gate) (beat.perform.run gate).effects
      (beat.perform.run gate).state.bus := by
  cases beat with
  | makes move =>
      rw [perform, run_map]
      exact absorbs_perform sound move
  | waitOn =>
      cases found : gate.awaited? with
      | none =>
          rw [perform, run_waitOn_idle found, base, found]
          exact .of_absorbAll _ _ _
      | some received =>
          rw [base, found]
          exact (acts_waitOn sound found).bus

private theorem tells_observation (sound : gate.Sound log) (beat : Beat) :
    Controller.tellingObservation.holds gate.controller (beat.perform.run gate).effects
      (beat.perform.run gate).state.controller := by
  cases beat with
  | makes move =>
      rw [perform, run_map]
      exact tellingObservation_allows.perform sound move
  | waitOn =>
      cases found : gate.awaited? with
      | none =>
          rw [perform, run_waitOn_idle found]
          exact Controller.tellingObservation.idle _
      | some received =>
          have held := tellingObservation_allows.toIgnores.acts (acts_waitOn sound found)
            (tellingObservation_allows.stages.run _)
          exact held

theorem observation_notMem_seats (beat : Beat) (gate : Gate) :
    .observation ∉ beat.seats gate := by
  cases beat with
  | makes move => exact Gate.observation_notMem_seats move gate
  | waitOn => exact List.not_mem_nil

private theorem server_waitOn (gate : Gate) :
    (Gate.waitOn.run gate).state.server = gate.server := by
  cases found : gate.awaited? with
  | none => rw [run_waitOn_idle found]
  | some received => rw [run_waitOn found, server_doServerTask]

theorem goesOn {beat : Beat} (goesOn : (beat.perform.run gate).state.server ≠ .stopped) :
    gate.server ≠ .stopped ∧ .lifecycle ∉ beat.seats gate := by
  cases beat with
  | makes move =>
      rw [perform, run_map] at goesOn
      exact goesOn_of_perform goesOn
  | waitOn =>
      rw [perform, server_waitOn] at goesOn
      exact ⟨goesOn, List.not_mem_nil⟩

theorem sound (sound : gate.Sound log) (beat : Beat) :
    ∃ more, (beat.perform.run gate).state.Sound (log ++ more) := by
  rcases sound.absorbs (beat.receives gate) (beat.absorbs sound)
    (beat.observation_notMem_seats gate) (beat.tells_observation sound) goesOn with
    ⟨more, soundAfter, -⟩
  exact ⟨more, soundAfter⟩

theorem released (sound : gate.Sound log)
    (released : gate.isClosed = true → gate.controller.observation = none) {beat : Beat}
    (closed : (beat.perform.run gate).state.isClosed = true) :
    (beat.perform.run gate).state.controller.observation = none := by
  cases beat with
  | makes move =>
      rw [perform, run_map] at closed ⊢
      exact released_perform sound released closed
  | waitOn =>
      rw [isClosed, perform, server_waitOn] at closed
      cases found : gate.awaited? with
      | none =>
          rw [perform, run_waitOn_idle found]
          exact released closed
      | some received =>
          rw [(awaited?_eq_some found).1] at closed
          cases closed

end Beat

private theorem serverTask?_of_receipt? {gate : Gate} {move : Move} {receipt : Receipt}
    (found : move.receipt? gate = some (.observation, receipt)) :
    move = .turn .server ∧ ∃ bus, gate.serverTask? = some (.observed receipt bus) := by
  unfold Move.receipt? at found
  split at found
  · refine ⟨rfl, ?_⟩
    split at found
    · cases found
    · next bus task =>
        cases found
        exact ⟨bus, task⟩
    · cases found
  · cases found

namespace Moment

variable {moment : Moment}

structure Reads (moment : Moment) (receipt : Receipt) (bus : Bus Seat) : Prop where
  serving : moment.before.server = .serving
  received : moment.before.bus.receive .observation = some (receipt, bus)
  base : moment.beat.base moment.before = bus
  outcome : moment.outcome = (handleObserved receipt).run { moment.before with bus := bus }

theorem reads {receipt : Receipt} (received : moment.received? = some receipt) :
    ∃ bus, moment.Reads receipt bus := by
  rcases moment with ⟨gate, beat⟩
  have found : beat.receipt? gate = some (.observation, receipt) := by
    unfold received? at received
    split at received
    · next found =>
        cases received
        exact found
    · cases received
  cases beat with
  | makes move =>
      rcases serverTask?_of_receipt? found with ⟨rfl, bus, task⟩
      have run : (Beat.makes (.turn .server)).perform.run gate =
          (handleObserved receipt).run { gate with bus := bus } := by
        rw [Beat.perform, run_map, Step.run_serverTurn task]
        rfl
      cases due_of_serverTask? task with
      | observed serving goesOn nobody nothing onSeat =>
          refine ⟨bus, serving, onSeat, ?_, run⟩
          simp [Beat.base, Move.base, task, ServerTask.bus]
  | waitOn =>
      cases awaits : gate.awaited? with
      | none => simp [Beat.receipt?, awaits] at found
      | some next =>
          rcases next with ⟨other, bus⟩
          simp only [Beat.receipt?, awaits, Option.map_some, Option.some.injEq, Prod.mk.injEq,
            true_and] at found
          subst found
          rcases awaited?_eq_some awaits with ⟨serving, onSeat⟩
          refine ⟨bus, serving, onSeat, ?_, run_waitOn awaits⟩
          simp [Beat.base, awaits]

theorem cursor?_base_of_unread (nothing : moment.received? = none) :
    (moment.beat.base moment.before).cursor? .observation =
      moment.before.bus.cursor? .observation := by
  rcases moment.beat.begins moment.before with ⟨-, same⟩ | ⟨seat, receipt, found, received⟩
  · rw [same]
  · -- What was read was read on the other seat of the server.
    apply Bus.cursor?_of_receive_other received
    rintro rfl
    simp [received?, found] at nothing

def Does (moment : Moment) (activity : Activity Controller Unit) : Prop :=
  moment.effects = (activity.run moment.before.controller).effects ∧
    moment.after.controller = (activity.run moment.before.controller).state

private theorem Reads.does {receipt : Receipt} {bus : Bus Seat} (reads : moment.Reads receipt bus)
    {activity : Activity Controller Unit} (handles : handleObserved receipt = onController activity) :
    moment.Does activity := by
  rw [Does, effects, after, reads.outcome, handles]
  exact ⟨rfl, rfl⟩

/-- What has to be said of a single beat. -/
structure Proper (moment : Moment) : Prop where
  observing : moment.received?.isSome = true → moment.before.controller.isObserving = true
  /-- What is read is what the bus has next, and the server handles it. -/
  handles : ∀ receipt, moment.received? = some receipt → ∃ bus, moment.Reads receipt bus
  gap : ∀ missed, moment.received? = some (.lagged missed) →
    0 < missed ∧ moment.before.bus.backlog .observation = moment.before.bus.slots + missed
  /-- A signal that counts has its source read again. -/
  signal : ∀ event signal, moment.received? = some (.event event) →
    event.kind.observedSignal? = some signal →
    moment.Does (Controller.reread signal)
  /-- After a gap, all sources are read again. -/
  lagged : ∀ missed, moment.received? = some (.lagged missed) →
    moment.Does (Controller.recover missed)
  skips : ∀ receipt, moment.received? = some receipt → receipt.matters = false →
    moment.Does (pure ())

theorem proper {log : List Event} (sound : moment.before.Sound log) : moment.Proper where
  observing somewhat := by
    rcases Option.isSome_iff_exists.mp somewhat with ⟨receipt, received⟩
    rcases reads received with ⟨bus, reads⟩
    rcases Bus.cursor?_of_receive reads.received with ⟨cursor, seated⟩
    rw [← sound.observing, seated]
    rfl
  handles _ received := reads received
  gap missed received := by
    rcases reads received with ⟨bus, reads⟩
    rcases Bus.cursor?_of_receive reads.received with ⟨cursor, seated⟩
    have length := Bus.missed_of_receive seated reads.received
    have backlog : moment.before.bus.backlog .observation = moment.before.bus.sent - cursor := by
      rw [Bus.backlog, seated]
    rcases sound.keeps.receive seated reads.received with ⟨event, isEvent, -⟩ | ⟨-, -, behind, -⟩
    · cases isEvent
    · omega
  signal event signal received observed := by
    rcases reads received with ⟨bus, reads⟩
    apply reads.does
    simp only [handleObserved, observed]
  lagged missed received := by
    rcases reads received with ⟨bus, reads⟩
    exact reads.does rfl
  skips receipt received skipped := by
    rcases reads received with ⟨bus, reads⟩
    have run := run_observed_of_skipped skipped bus moment.before
    rw [run_observed] at run
    rw [Does, effects, after, reads.outcome, run]
    exact ⟨rfl, rfl⟩

theorem Proper.keepsSeat (proper : moment.Proper) {receipt : Receipt}
    (received : moment.received? = some receipt) :
    ∀ effect ∈ moment.effects, effect.keepsSeat = true := by
  have observing := proper.observing (by rw [received]; rfl)
  have steadily {activity : Activity Controller Unit} (does : moment.Does activity)
      (steady : Controller.steady.holds moment.before.controller
        (activity.run moment.before.controller).effects
        (activity.run moment.before.controller).state) :
      ∀ effect ∈ moment.effects, effect.keepsSeat = true := by
    intro effect member
    rw [does.1] at member
    exact Effect.keepsSeat_of_isSteady (steady.2.2 effect member)
  cases receipt with
  | lagged missed =>
      exact steadily (proper.lagged missed received) (Controller.steady_stages.recover missed _)
  | event event =>
      cases observed : event.kind.observedSignal? with
      | some signal =>
          exact steadily (proper.signal event signal received observed)
            (Controller.steady_reread observing signal)
      | none =>
          have skipped : (Receipt.event event).matters = false := by
            simp [Receipt.matters, Event.isObserved, observed]
          exact steadily (proper.skips _ received skipped) (Controller.steady.idle _)

end Moment

end Gate

end TransferGate
