import Mathlib.Data.List.Induction
import TransferGate.Proofs.Tracking

/-! # Nothing is missed

Signals carry no value, and the bus may lose them before they are received. Still,
when the server has received everything, the conditions hold what a reading would
yield, provided every change was signalled.

The invariant of a run is that a value is up to date, or its signal is still in the
log, or readiness has not been read for the first time. A signal that is lost stays in
the log, ahead of the cursor of a receiver that will be told that it lags.
-/

namespace TransferGate

/-! ## What the server receives -/

def Signal.seat : Signal → Seat
  | .appReady => .lifecycle
  | _ => .observation

private theorem Signal.seat_of_isObserved {signal : Signal} (observed : signal.isObserved = true) :
    signal.seat = .observation := by
  cases signal <;> first | rfl | cases observed

/-- The receipt tells that the signal may have been sent. -/
def Receipt.MayTell (signal : Signal) : Receipt → Prop
  | .event received => received.kind = .signal signal
  | .lagged _ => True

private theorem Sources.afterAll_of_isPassing (sources : Sources) {record : List Effect}
    (passing : ∀ effect ∈ record, effect.isPassing = true) : sources.afterAll record = sources := by
  induction record with
  | nil => rfl
  | cons effect rest induction =>
      rw [afterAll_cons, sources.after_of_isPassing (passing effect (List.mem_cons_self ..))]
      exact induction fun other member => passing other (List.mem_cons_of_mem _ member)

private theorem any_attaches_of_isPassing {record : List Effect}
    (passing : ∀ effect ∈ record, effect.isPassing = true) :
    record.any Effect.attaches = false := by
  apply Controller.any_attaches
  intro effect member
  have isPassing := passing effect member
  cases effect <;> first | rfl | cases isPassing

namespace Gate

open Controller

private theorem Acts.renews {before after : Gate} {operation : Operation} {seats : List Seat}
    {effects : List Effect} (acts : Acts before [operation] seats effects after) {signal : Signal}
    (renews : Renews signal before.controller (operation.perform.run before.controller).effects
      (operation.perform.run before.controller).state) :
    Renews signal before.controller effects after.controller := by
  rcases acts.passing with ⟨ahead, behind, record, passingAhead, passingBehind⟩
  rcases renews with ⟨first, second, split, read, goesOn⟩
  rw [recordOf_singleton, split] at record
  refine ⟨ahead ++ first, second ++ behind, by simp [record], ?_, fun observed => ?_⟩
  · rw [acts.controller, Sources.afterAll_append,
      Sources.afterAll_of_isPassing _ passingAhead]
    exact read
  · rw [List.any_append, goesOn observed, any_attaches_of_isPassing passingBehind]
    rfl

theorem renews_readinessChanged (controller : Controller) :
    Renews .appReady controller (Operation.readinessChanged.perform.run controller).effects
      (Operation.readinessChanged.perform.run controller).state := by
  simp only [Operation.perform, Activity.run_map]
  exact renews_reread fun isLevel => by cases isLevel

theorem renews_receive {controller : Controller} (observing : controller.isObserving = true)
    (equipped : controller.Equipped) {signal : Signal} (observed : signal.isObserved = true) :
    Renews signal controller ((Operation.receive (.signal signal)).perform.run controller).effects
      ((Operation.receive (.signal signal)).perform.run controller).state := by
  simp only [Operation.perform, Activity.run_map, run_receive_of_observing observing observed]
  exact renews_reread fun _ => equipped observing

theorem renews_recover {controller : Controller} (observing : controller.isObserving = true)
    (equipped : controller.Equipped) (missed : Nat) (signal : Signal) :
    Renews signal controller ((Operation.recover missed).perform.run controller).effects
      ((Operation.recover missed).perform.run controller).state := by
  obtain ⟨first, second, record, read, goesOn⟩ : Renews signal _ _ _ :=
    renews_refresh (equipped observing)
  refine ⟨.logged (.observationLagged missed) :: first, second, ?_, ?_, goesOn⟩
  · simp [Operation.perform, recover, refreshIfObserving, observing, record]
  · simp [Operation.perform, recover, refreshIfObserving, observing, read, Sources.after]

private theorem renews_of_operations {gate : Gate} {log : List Event} (sound : gate.Sound log)
    {operation : Operation} (operations : Move.operations gate (.turn .server) = [operation])
    {signal : Signal}
    (renews : Renews signal gate.controller (operation.perform.run gate.controller).effects
      (operation.perform.run gate.controller).state) :
    Renews signal gate.controller ((Move.turn .server).perform.run gate).effects
      ((Move.turn .server).perform.run gate).state.controller := by
  have silent : (Move.turn .server).signal? = none := rfl
  have acts := acts_perform sound.keeps sound.observing silent
  rw [operations] at acts
  exact acts.renews renews

private theorem renews_of_start {gate : Gate} {log : List Event} (sound : gate.Sound log)
    (starts : gate.serverTask? = some .start) :
    Renews .appReady gate.controller ((Move.turn .server).perform.run gate).effects
      ((Move.turn .server).perform.run gate).state.controller := by
  refine renews_of_operations sound ?_ (renews_readinessChanged gate.controller)
  simp [Move.operations, starts, ServerTask.operations]

private theorem renews_of_receipt {gate : Gate} {log : List Event} (sound : gate.Sound log)
    (equipped : gate.controller.Equipped) {move : Move} {signal : Signal} {receipt : Receipt}
    (received : move.receipt? gate = some (signal.seat, receipt)) (tells : receipt.MayTell signal) :
    Renews signal gate.controller (move.perform.run gate).effects
      (move.perform.run gate).state.controller := by
  unfold Move.receipt? at received
  split at received
  · split at received
    · next first bus found =>
        simp only [Option.some.injEq, Prod.mk.injEq] at received
        rcases received with ⟨onSeat, rfl⟩
        have isReadiness : signal = .appReady := by
          cases signal <;> first | rfl | cases onSeat
        subst isReadiness
        refine renews_of_operations sound ?_ (renews_readinessChanged gate.controller)
        cases first with
        | event event =>
            simp only [Move.operations, found, ServerTask.operations, Option.map_some,
              Option.getD_some, if_pos (show event.kind = .signal .appReady from tells)]
        | lagged missed => simp [Move.operations, found, ServerTask.operations]
    · next first bus found =>
        simp only [Option.some.injEq, Prod.mk.injEq] at received
        rcases received with ⟨onSeat, rfl⟩
        have observed : signal.isObserved = true := by
          cases signal <;> first | rfl | cases onSeat
        have observing : gate.controller.isObserving = true := by
          cases due_of_serverTask? found with
          | observed serving goesOn nobody nothing received =>
              rcases Bus.cursor?_of_receive received with ⟨cursor, seated⟩
              rw [← sound.observing, seated]
              rfl
        cases first with
        | event event =>
            refine renews_of_operations sound ?_ (renews_receive observing equipped observed)
            have kind : event.kind = .signal signal := tells
            simp [Move.operations, found, ServerTask.operations, kind, EventKind.observedSignal?,
              observed]
        | lagged missed =>
            refine renews_of_operations sound ?_ (renews_recover observing equipped missed signal)
            simp [Move.operations, found, ServerTask.operations]
    · cases received
  · cases received

private theorem unsaid {gate : Gate} {log : List Event} (sound : gate.Sound log) {move : Move}
    {signal : Signal} (other : move.signal? ≠ some signal) :
    ∀ effect ∈ (move.perform.run gate).effects, effect.signal? ≠ some signal := by
  intro effect member said
  cases publishes : move.signal? with
  | some published =>
      cases signal?_eq_some publishes
      rw [run_publish_signal, List.mem_singleton] at member
      subst member
      cases said
      exact other rfl
  | none =>
      obtain ⟨ahead, behind, record, passingAhead, passingBehind⟩ :=
        (acts_perform sound.keeps sound.observing publishes).passing
      rw [record, List.mem_append, List.mem_append] at member
      have nothing : effect.signal? = none := by
        rcases member with (inAhead | inside) | inBehind
        · exact Effect.signal?_of_isPassing (passingAhead effect inAhead)
        · exact Effect.signal?_of_isInner (inner_elements.stages.run _ _ effect inside)
        · exact Effect.signal?_of_isPassing (passingBehind effect inBehind)
      rw [nothing] at said
      cases said

/-! ## The invariant -/

/-- The signal is in the log ahead of the receiver that waits for it. -/
def Pending (gate : Gate) (log : List Event) (signal : Signal) : Prop :=
  ∃ cursor, gate.bus.cursor? signal.seat = some cursor ∧
    ∃ event ∈ log.drop cursor, event.kind = .signal signal

/-- The server cares for the signal. -/
def Watches (gate : Gate) (signal : Signal) : Prop :=
  gate.server ≠ .stopped ∧ (signal.isObserved = true → gate.controller.isObserving = true)

/-- The value is up to date, or something will bring it up to date. -/
def Covered (gate : Gate) (log : List Event) (signal : Signal) : Prop :=
  gate.controller.conditions.about signal = gate.controller.host.current signal ∨
    gate.Pending log signal ∨ (signal = .appReady ∧ gate.server = .starting)

/-- The value of the signal keeps up with its source since the source was `start`. -/
structure KeepsUp (signal : Signal) (start : Sources) (record : List Effect) (gate : Gate)
    (log : List Event) : Prop where
  sound : gate.Sound log
  sources : gate.controller.host.sources = start.afterAll record
  equipped : gate.controller.Equipped
  covered : gate.Watches signal →
    Signalled gate.controller.host.hasBattery signal start record → gate.Covered log signal

private theorem isSome_seat {gate : Gate} {log : List Event} (sound : gate.Sound log)
    {signal : Signal}
    (watches : gate.Watches signal) : (gate.bus.cursor? signal.seat).isSome = true := by
  cases observed : signal.isObserved with
  | true =>
      rw [Signal.seat_of_isObserved observed, sound.observing]
      exact watches.2 observed
  | false =>
      cases signal <;> first | exact sound.seated watches.1 | cases observed

private theorem pending_of_publish {gate : Gate} {log more : List Event} {signal : Signal}
    (sound : gate.Sound log) (watches : gate.Watches signal)
    (sent : more.map Event.toNotice = [.signal signal]) :
    Pending { gate with bus := gate.bus.publish (.signal signal) } (log ++ more) signal := by
  rcases Option.isSome_iff_exists.mp (isSome_seat sound watches) with ⟨cursor, seated⟩
  refine ⟨cursor, (gate.bus.cursor?_publish _ _).trans seated, ?_⟩
  rcases List.map_eq_singleton_iff.mp sent with ⟨event, rfl, kind⟩
  refine ⟨event, ?_, congrArg Notice.kind kind⟩
  rw [List.drop_append_of_le_length (sound.keeps.cursor?_le seated)]
  exact List.mem_append_right _ (List.mem_singleton_self event)

private theorem pending_base {gate : Gate} {log : List Event} (sound : gate.Sound log) {move : Move}
    {signal : Signal} (pending : gate.Pending log signal)
    (ignored : ∀ receipt, move.receipt? gate = some (signal.seat, receipt) →
      ¬receipt.MayTell signal) : (move.base gate).Pending log signal := by
  rcases pending with ⟨cursor, seated, event, ahead, kind⟩
  rcases base_receives move gate with ⟨-, same⟩ | ⟨seat, receipt, found, received⟩
  · exact ⟨cursor, by rw [same, seated], event, ahead, kind⟩
  · by_cases onSeat : seat = signal.seat
    · subst onSeat
      rcases sound.keeps.receive seated received with
        ⟨first, rfl, isFirst, moved⟩ | ⟨missed, rfl, -, -⟩
      · refine ⟨cursor + 1, ?_, event, ?_, kind⟩
        · rw [moved, Bus.cursor?_moveTo_self]
        · have inside := (List.getElem?_eq_some_iff.mp isFirst).1
          rw [List.drop_eq_getElem_cons inside, List.mem_cons] at ahead
          rcases ahead with rfl | later
          · have tells : (Receipt.event first).MayTell signal := by
              rw [← (List.getElem?_eq_some_iff.mp isFirst).2]
              exact kind
            exact absurd tells (ignored _ found)
          · exact later
      · exact absurd trivial (ignored _ found)
    · refine ⟨cursor, ?_, event, ahead, kind⟩
      rw [Bus.cursor?_of_receive_other received (Ne.symm onSeat), seated]

private theorem keepsSeat_of_observing {before : Bool} {record : List Effect}
    (observing : Effect.observingAll before record = true)
    (goesOn : record.any Effect.attaches = false) :
    before = true ∧ ∀ effect ∈ record, effect.keepsSeat = true := by
  induction record generalizing before with
  | nil => exact ⟨observing, by simp⟩
  | cons effect rest induction =>
      rw [List.any_cons, Bool.or_eq_false_iff] at goesOn
      rcases induction observing goesOn.2 with ⟨was, keeps⟩
      have keepsHead : effect.keepsSeat = true ∧ before = true := by
        cases effect with
        | attached => cases goesOn.1
        | detached => cases was
        | _ => exact ⟨rfl, was⟩
      refine ⟨keepsHead.2, fun other member => ?_⟩
      rcases List.mem_cons.mp member with rfl | inRest
      · exact keepsHead.1
      · exact keeps other inRest

private theorem cursor?_seat {gate : Gate} {log : List Event} (sound : gate.Sound log) {move : Move}
    {signal : Signal} (watches : (move.perform.run gate).state.Watches signal)
    (goesOn : signal.isObserved = true →
      (move.perform.run gate).effects.any Effect.attaches = false) :
    (move.perform.run gate).state.bus.cursor? signal.seat =
      (move.base gate).bus.cursor? signal.seat := by
  have absorbs := absorbs_perform sound move
  cases observed : signal.isObserved with
  | true =>
      have told := tellingObservation_allows.perform sound move
      have keeps := (keepsSeat_of_observing (told.symm.trans (watches.2 observed))
        (goesOn observed)).2
      rw [Signal.seat_of_isObserved observed]
      exact absorbs.cursor?_of_keepsSeat (observation_notMem_seats move gate) keeps
  | false =>
      have running := watches.1
      rw [server_perform] at running
      have isReadiness : signal = .appReady := by
        cases signal <;> first | rfl | cases observed
      subst isReadiness
      exact absorbs.cursor? (lifecycle_notMem_seats running) (by decide)

private theorem watches_before {gate : Gate} {log : List Event} (sound : gate.Sound log)
    {move : Move} {signal : Signal} (watches : (move.perform.run gate).state.Watches signal)
    (goesOn : signal.isObserved = true →
      (move.perform.run gate).effects.any Effect.attaches = false) : gate.Watches signal := by
  constructor
  · intro stopped
    exact watches.1 ((server_perform move gate).trans (phaseAfter_of_stopped stopped move))
  · intro observed
    have told := tellingObservation_allows.perform sound move
    exact (keepsSeat_of_observing (told.symm.trans (watches.2 observed)) (goesOn observed)).1

private theorem starting_perform {gate : Gate} {move : Move} (starting : gate.server = .starting)
    (running : (move.perform.run gate).state.server ≠ .stopped)
    (notNow : ¬(move = .turn .server)) : (move.perform.run gate).state.server = .starting := by
  rw [server_perform] at running ⊢
  cases move with
  | abandon => exact absurd rfl running
  | turn choice => cases choice <;> first | exact starting | exact absurd rfl notNow
  | _ => exact starting

private theorem fresh_of_renews {signal : Signal} {start : Sources} {record : List Effect}
    {gate : Gate} {log : List Event} (keepsUp : KeepsUp signal start record gate log) {move : Move}
    (renews : Renews signal gate.controller (move.perform.run gate).effects
      (move.perform.run gate).state.controller)
    (silent : ∀ effect ∈ (move.perform.run gate).effects, effect.signal? ≠ some signal)
    (signalled : Signalled gate.controller.host.hasBattery signal start
      (record ++ (move.perform.run gate).effects)) :
    (move.perform.run gate).state.controller.conditions.about signal =
      (move.perform.run gate).state.controller.host.current signal := by
  rcases renews with ⟨first, second, split, read, goesOn⟩
  rcases (tracking_allows signal).perform keepsUp.sound move with ⟨⟨sources, hasBattery, -⟩, -⟩
  rw [split] at signalled sources silent
  rw [← List.append_assoc] at signalled
  have same := signalled.of_append.unchanged
    (fun effect member => silent effect (List.mem_append_right _ member)) goesOn
  rw [read, Host.current, sources, hasBattery, keepsUp.sources, ← Sources.afterAll_append,
    ← Sources.afterAll_append, ← List.append_assoc,
    Sources.afterAll_append start (record ++ first) second, same]

private theorem covered_of_leaves {signal : Signal} {start : Sources} {record : List Effect}
    {gate : Gate} {log more : List Event} (keepsUp : KeepsUp signal start record gate log)
    {move : Move}
    (leaves : Leaves signal gate.controller (move.perform.run gate).effects
      (move.perform.run gate).state.controller)
    (silent : ∀ effect ∈ (move.perform.run gate).effects, effect.signal? ≠ some signal)
    (signalled : Signalled gate.controller.host.hasBattery signal start
      (record ++ (move.perform.run gate).effects))
    (watches : (move.perform.run gate).state.Watches signal)
    (ignored : ∀ receipt, move.receipt? gate = some (signal.seat, receipt) →
      ¬receipt.MayTell signal)
    (notFirst : ¬(move = .turn .server ∧ gate.server = .starting ∧ signal = .appReady)) :
    (move.perform.run gate).state.Covered (log ++ more) signal := by
  rcases leaves with ⟨same, goesOn⟩
  rcases (tracking_allows signal).perform keepsUp.sound move with ⟨⟨told, hasBattery, -⟩, -⟩
  have watched := watches_before keepsUp.sound watches goesOn
  rcases keepsUp.covered watched (signalled.of_append_left silent goesOn) with
    fresh | pending | ⟨isReadiness, starting⟩
  · left
    have unchanged := signalled.of_append.unchanged silent goesOn
    rw [← keepsUp.sources, ← told] at unchanged
    rw [same, fresh, Host.current, Host.current, hasBattery, unchanged]
  · right; left
    rcases pending_base keepsUp.sound pending ignored with ⟨cursor, seated, event, ahead, kind⟩
    refine ⟨cursor, (cursor?_seat keepsUp.sound watches goesOn).trans seated, event, ?_, kind⟩
    rw [List.drop_append]
    exact List.mem_append_left _ ahead
  · right; right
    refine ⟨isReadiness, starting_perform starting watches.1 fun now => ?_⟩
    exact notFirst ⟨now, starting, isReadiness⟩

theorem KeepsUp.perform {signal : Signal} {start : Sources} {record : List Effect} {gate : Gate}
    {log : List Event} (keepsUp : KeepsUp signal start record gate log) (move : Move) :
    ∃ more, KeepsUp signal start (record ++ (move.perform.run gate).effects)
      (move.perform.run gate).state (log ++ more) := by
  rcases keepsUp.sound.perform move with ⟨more, soundAfter, notices⟩
  rcases (tracking_allows signal).perform keepsUp.sound move with ⟨⟨told, hasBattery, stays⟩, about⟩
  refine ⟨more, soundAfter, ?_, stays keepsUp.equipped, fun watches signalled => ?_⟩
  · rw [told, keepsUp.sources, Sources.afterAll_append]
  rw [hasBattery] at signalled
  by_cases publishes : move.signal? = some signal
  · cases signal?_eq_some publishes
    have watched : gate.Watches signal := watches
    have sent := notices .lifecycle (by simp [Move.seats]) (by decide)
      (keepsUp.sound.seated watched.1)
    exact .inr (.inl (pending_of_publish keepsUp.sound watched sent))
  have silent := unsaid keepsUp.sound publishes
  by_cases receives : ∃ receipt, move.receipt? gate = some (signal.seat, receipt) ∧
      receipt.MayTell signal
  · rcases receives with ⟨receipt, received, tells⟩
    have renews := renews_of_receipt keepsUp.sound keepsUp.equipped received tells
    exact .inl (fresh_of_renews keepsUp renews silent signalled)
  by_cases first : move = .turn .server ∧ gate.server = .starting ∧ signal = .appReady
  · rcases first with ⟨rfl, starting, rfl⟩
    have renews := renews_of_start keepsUp.sound (by simp [serverTask?, starting])
    exact .inl (fresh_of_renews keepsUp renews silent signalled)
  rcases about keepsUp.equipped with leaves | renews
  · refine covered_of_leaves keepsUp leaves silent signalled watches ?_ first
    exact fun receipt received tells => receives ⟨receipt, received, tells⟩
  · exact .inl (fresh_of_renews keepsUp renews silent signalled)

theorem KeepsUp.follow {signal : Signal} {start : Sources} {gate : Gate} {log : List Event}
    (keepsUp : KeepsUp signal start [] gate log) (moves : List Move) :
    ∃ more, KeepsUp signal start (gate.recordOf moves) (gate.following moves) (log ++ more) := by
  induction moves using List.reverseRecOn with
  | nil => exact ⟨[], by simpa using keepsUp⟩
  | append_singleton moves move induction =>
      rcases induction with ⟨before, keepsUpBefore⟩
      rcases keepsUpBefore.perform move with ⟨more, keepsUpAfter⟩
      rw [following_concat, recordOf_concat]
      exact ⟨before ++ more, by simpa using keepsUpAfter⟩

private theorem keepsUp_of_fresh {host : Host} {built : Outcome Gate Unit}
    (fresh : Fresh host built) (signal : Signal) :
    KeepsUp signal built.state.controller.host.sources [] built.state [] where
  sound := fresh.sound
  sources := rfl
  equipped observing := by
    rw [fresh.controller] at observing
    cases observing
  covered watches _ := by
    cases observed : signal.isObserved with
    | true =>
        have observing := watches.2 observed
        rw [fresh.controller] at observing
        cases observing
    | false =>
        refine .inr (.inr ⟨?_, fresh.server⟩)
        cases signal <;> first | rfl | cases observed

/-- When the server of a gate has received everything, whatever it watches is recorded as a
reading would yield it now, provided every change was signalled. -/
theorem fresh_of_drained {settings : Settings} {host : Host} {subscribers : List Subscriber}
    {attached : Bool} {built : Outcome Gate Unit}
    (succeeds : build settings host subscribers attached = .ok built) (moves : List Move)
    (serving : (built.state.following moves).server = .serving)
    (lifecycle : (built.state.following moves).bus.receive .lifecycle = none)
    (observation : (built.state.following moves).bus.receive .observation = none)
    (signal : Signal)
    (watched : signal.isObserved = true →
      (built.state.following moves).controller.isObserving = true)
    (signalled : Signalled host.hasBattery signal built.state.controller.host.sources
      (built.state.recordOf moves)) :
    (built.state.following moves).controller.conditions.about signal =
      (built.state.following moves).controller.host.current signal := by
  have fresh := fresh_of_build succeeds
  rcases (keepsUp_of_fresh fresh signal).follow moves with ⟨log, keepsUp⟩
  have hasBattery : (built.state.following moves).controller.host.hasBattery = host.hasBattery := by
    rcases (tracking_allows signal).follow fresh.sound moves with ⟨⟨-, same, -⟩, -⟩
    rw [same, fresh.controller]
    rfl
  have watches : (built.state.following moves).Watches signal := ⟨by simp [serving], watched⟩
  rw [← hasBattery] at signalled
  rcases keepsUp.covered watches signalled with upToDate | pending | ⟨-, starting⟩
  · exact upToDate
  · rcases pending with ⟨cursor, seated, event, ahead, -⟩
    have nothing : (built.state.following moves).bus.receive signal.seat = none := by
      cases signal <;> assumption
    have read := keepsUp.sound.keeps.cursor_of_receive_none seated nothing
    rw [read, List.drop_length] at ahead
    cases ahead
  · rw [serving] at starting
    cases starting

/-- A bus with one slot loses the signal that wifi is gone, and still the gate finds out. -/
theorem fresh_of_drained_lost :
    ∃ built, build { busCapacity := 1 } (.create {} .calm true) [] false = .ok built ∧
      let moves : List Move := [.send (.begin .upload), .turn .server, .turn .server,
        .changeSources fun sources => { sources with wifi := .always false },
        .publish (.signal .reachabilityChanged), .publish (.signal .lowPowerModeChanged),
        .turn .server, .turn .server, .turn .server, .turn .server]
      let gate := built.state.following moves
      gate.server = .serving ∧ gate.controller.isObserving = true ∧
        Signalled true .reachabilityChanged built.state.controller.host.sources
          (built.state.recordOf moves) ∧
        gate.controller.host.current .reachabilityChanged = some false ∧
        gate.controller.conditions.about .reachabilityChanged =
          gate.controller.host.current .reachabilityChanged := by
  refine ⟨_, rfl, rfl, rfl, by decide, rfl, ?_⟩
  refine fresh_of_drained (show build { busCapacity := 1 } (.create {} .calm true) [] false = _
    from rfl) _ rfl rfl rfl .reachabilityChanged (fun _ => rfl) ?_
  change Signalled true _ _ _
  decide

end Gate

end TransferGate
