import TransferGate.Proofs.LastHandle

/-! # How a gate is stopped

A gate stops when it is cancelled, by itself or through its parent, and when its last
handle is gone. In the first case the server works on nothing more. In the second it
works on all requests before it leaves. Either way the relay stops listening.
-/

namespace TransferGate

open Activity

namespace Gate

/-! ## The relay -/

def Move.isRelayTurn : Move → Bool
  | .turn (.relay _) => true
  | _ => false

theorem relay_perform (move : Move) (gate : Gate) :
    (move.perform.run gate).state.relay = (move.standing gate).relay :=
  congrArg Standing.relay (standing_perform move gate)

private theorem relayTask?_of_cancelled {gate : Gate} (cancelled : gate.cancelled = true)
    (listening : gate.relay = .listening) (stopFirst : Bool) :
    gate.relayTask? stopFirst = some .close ∨
      stopFirst = false ∧ ∃ receipt bus, gate.relayTask? stopFirst = some (.pass receipt bus) := by
  unfold relayTask? listenTask?
  simp only [listening, cancelled, Bool.true_and, if_true]
  cases stopFirst with
  | true => exact .inl rfl
  | false =>
      cases gate.bus.receive .relay with
      | none => exact .inl rfl
      | some received => exact .inr ⟨rfl, _, _, rfl⟩

theorem unlistening_perform {gate : Gate} (unlistening : gate.relay ≠ .listening) (move : Move) :
    (move.perform.run gate).state.relay ≠ .listening := by
  rw [relay_perform]
  cases move with
  | abandon =>
      simp only [Move.standing]
      split <;> simp
  | turn choice =>
      cases choice with
      | server =>
          rcases gate.standing_serverTurn with ⟨cancelled, stands⟩
          rw [stands]
          exact unlistening
      | relay stopFirst =>
          rw [Move.standing]
          cases gate.relayTask? stopFirst with
          | none => exact unlistening
          | some task =>
              cases task with
              | close => exact RelayPhase.noConfusion
              | leave => exact RelayPhase.noConfusion
              | pass receipt bus => cases receipt <;> exact unlistening
      | _ => exact unlistening
  | _ => exact unlistening

theorem relayTask?_of_unlistening {gate : Gate} (unlistening : gate.relay ≠ .listening)
    (stopFirst : Bool) :
    gate.relayTask? stopFirst = none ∨ gate.relayTask? stopFirst = some .leave := by
  unfold relayTask?
  cases phase : gate.relay with
  | listening => exact absurd phase unlistening
  | absent => exact .inl rfl
  | ended => exact .inl rfl
  | closing => cases gate.fanout.isDrained <;> simp

end Gate

def Effect.relayed? : Effect → Option Event
  | .relayed event => some event
  | _ => none

namespace Gate

theorem unrelayed_elsewhere {move : Move} (elsewhere : move.isRelayTurn = false) (gate : Gate) :
    (move.perform.run gate).effects.filterMap Effect.relayed? = [] := by
  apply List.filterMap_eq_nil_iff.mpr
  intro effect member
  cases relays : move.relays with
  | false =>
      have aloof := Aloof.perform relays gate effect member
      cases effect <;> first | rfl | cases aloof
  | true =>
      cases move with
      | turn choice =>
          cases choice with
          | worker index =>
              simp only [Move.perform, run_map] at member
              have handing := Fanout.workerTurn_hands index gate.fanout effect member
              cases effect <;> first | rfl | cases handing
          | relay stopFirst => cases elsewhere
          | _ => cases relays
      | _ => cases relays

private theorem unrelayed_perform {gate : Gate} (unlistening : gate.relay ≠ .listening)
    (move : Move) :
    (move.perform.run gate).effects.filterMap Effect.relayed? = [] := by
  cases isTurn : move.isRelayTurn with
  | false => exact unrelayed_elsewhere isTurn gate
  | true =>
      cases move with
      | turn choice =>
          cases choice with
          | relay stopFirst =>
              rcases relayTask?_of_unlistening unlistening stopFirst with idle | leaves
              · rw [run_relayTurn_idle idle]
                rfl
              · rw [run_relayTurn leaves]
                rfl
          | _ => cases isTurn
      | _ => cases isTurn

theorem unrelayed_following {gate : Gate} (unlistening : gate.relay ≠ .listening)
    (moves : List Move) : (gate.following moves).relay ≠ .listening ∧
      (gate.recordOf moves).filterMap Effect.relayed? = [] := by
  induction moves generalizing gate with
  | nil => exact ⟨unlistening, rfl⟩
  | cons move rest induction =>
      have later := induction (unlistening_perform unlistening move)
      rw [recordOf_cons, List.filterMap_append, unrelayed_perform unlistening, later.2]
      exact ⟨later.1, rfl⟩

theorem length_unread {bus : Bus Seat} {log : List Event} (keeps : bus.Keeps log) (seat : Seat) :
    (bus.unread log seat).length = bus.backlog seat := by
  unfold Bus.unread Bus.backlog
  cases bus.cursor? seat with
  | none => rfl
  | some cursor => rw [List.length_drop, keeps.sent]

private theorem backlog_perform {gate : Gate} {log : List Event} (sound : gate.Sound log)
    (cancelled : gate.cancelled = true) (listening : gate.relay = .listening) (move : Move) :
    (move.perform.run gate).state.relay ≠ .listening ∨
      ((move.perform.run gate).state.bus.backlog .relay + if move.isRelayTurn then 1 else 0) ≤
        gate.bus.backlog .relay +
          ((move.perform.run gate).effects.filterMap Effect.notice?).length := by
  rcases sound.reads move with ⟨more, soundAfter, reads⟩
  rw [← length_unread sound.keeps, ← length_unread soundAfter.keeps]
  -- A turn of the relay that passes nothing on closes it.
  have quiet (idle : ∀ stopFirst, move = .turn (.relay stopFirst) → ∀ receipt bus,
      gate.relayTask? stopFirst ≠ some (.pass receipt bus)) :
      (move.perform.run gate).state.relay ≠ .listening ∨ move.isRelayTurn = false := by
    cases isTurn : move.isRelayTurn with
    | false => exact .inr rfl
    | true =>
        cases move with
        | turn choice =>
            cases choice with
            | relay stopFirst =>
                rcases relayTask?_of_cancelled cancelled listening stopFirst with
                  closes | ⟨-, receipt, bus, passes⟩
                · refine .inl ?_
                  rw [relay_perform, Move.standing, closes]
                  exact RelayPhase.noConfusion
                · exact absurd passes (idle stopFirst rfl receipt bus)
            | _ => cases isTurn
        | _ => cases isTurn
  cases reads with
  | gone idle free =>
      rcases quiet idle with closed | noTurn
      · exact .inl closed
      · rw [Bus.unread_of_free free, noTurn]
        exact .inr (Nat.zero_le _)
  | waits idle notices unread =>
      rcases quiet idle with closed | noTurn
      · exact .inl closed
      · rw [unread, noTurn, ← notices, List.length_append, List.length_map]
        exact .inr (Nat.le_refl _)
  | takes stopFirst isTurn receipt bus found notices taken something read event unread =>
      have positive : 0 < taken.length := List.length_pos_iff.mpr something
      have isRelayTurn : move.isRelayTurn = true := by rw [isTurn]; rfl
      rw [unread, read, isRelayTurn, ← notices, List.length_append, List.length_append,
        List.length_map, if_pos rfl]
      exact .inr (by omega)

/-- It takes no more turns than there is to read until a relay stops listening to a cancelled
gate. -/
theorem unlistening_of_turns {gate : Gate} {log : List Event} (sound : gate.Sound log)
    (cancelled : gate.cancelled = true) (moves : List Move)
    (enough : gate.bus.backlog .relay + ((gate.recordOf moves).filterMap Effect.notice?).length <
      moves.countP Move.isRelayTurn) : (gate.following moves).relay ≠ .listening := by
  induction moves generalizing gate log with
  | nil => exact absurd enough (Nat.not_lt_zero _)
  | cons move rest induction =>
      by_cases listening : gate.relay = .listening
      · rcases sound.perform move with ⟨more, soundAfter, -⟩
        rcases backlog_perform sound cancelled listening move with closed | fewer
        · exact (unrelayed_following closed rest).1
        · apply induction soundAfter (cancelled_following cancelled [move])
          rw [recordOf_cons, List.filterMap_append, List.length_append, List.countP_cons] at enough
          omega
      · exact (unrelayed_following listening (move :: rest)).1

/-! ## Stopping -/

theorem abandon_or_stop_of_closes {gate : Gate} {move : Move} (isOpen : gate.isClosed = false)
    (closes : (move.perform.run gate).state.isClosed = true) :
    move = .abandon ∨ move = .turn .server ∧ gate.serverTask? = some .stop := by
  rw [isClosed, server_perform] at closes
  cases move with
  | abandon => exact .inl rfl
  | turn choice =>
      cases choice with
      | server =>
          refine .inr ⟨rfl, ?_⟩
          cases found : gate.serverTask? with
          | none =>
              apply absurd closes
              simpa [Move.phaseAfter, isClosed, found] using isOpen
          | some task =>
              cases task with
              | stop => rfl
              | start => simp [Move.phaseAfter, found] at closes
              | _ =>
                  apply absurd closes
                  simpa [Move.phaseAfter, isClosed, found] using isOpen
      | _ => exact absurd closes (by simpa [Move.phaseAfter, isClosed] using isOpen)
  | _ => exact absurd closes (by simpa [Move.phaseAfter, isClosed] using isOpen)

theorem released_perform {gate : Gate} {log : List Event} (sound : gate.Sound log)
    (released : gate.isClosed = true → gate.controller.observation = none) {move : Move}
    (closed : (move.perform.run gate).state.isClosed = true) :
    (move.perform.run gate).state.controller.observation = none := by
  cases wasClosed : gate.isClosed with
  | true =>
      exact (Controller.dormant_ignores.perform sound
        (Controller.performAll_obeys fun operation member =>
          Controller.dormant_operation (operations_of_closed wasClosed move operation member))
        (released wasClosed)).1
  | false =>
      rcases abandon_or_stop_of_closes wasClosed closed with rfl | ⟨rfl, stops⟩
      · simp only [Move.perform, run_map, run_abandon]
        exact Controller.released_discard _
      · exact (leaves sound stops).released

theorem released_of_closed {gate : Gate} {log : List Event} (sound : gate.Sound log)
    (running : gate.server ≠ .stopped) (moves : List Move)
    (closed : (gate.following moves).isClosed = true) :
    (gate.following moves).controller.observation = none := by
  induction moves using List.reverseRecOn with
  | nil => exact absurd (by simpa [isClosed] using closed) running
  | append_singleton moves move induction =>
      rcases sound.follow moves with ⟨more, soundBefore⟩
      rw [following_concat] at closed ⊢
      exact released_perform soundBefore induction closed

/-- How a relay that listens to a cancelled gate comes to an end. -/
structure RelayStops (gate : Gate) : Prop where
  busy : ∀ stopFirst, (gate.relayTask? stopFirst).isSome = true
  atOnce : ((Move.turn (.relay true)).perform.run gate).state.relay = .closing
  bounded : ∀ moves : List Move,
    gate.bus.backlog .relay + ((gate.recordOf moves).filterMap Effect.notice?).length <
      moves.countP Move.isRelayTurn → (gate.following moves).relay ≠ .listening

theorem relayStops {gate : Gate} {log : List Event} (sound : gate.Sound log)
    (cancelled : gate.cancelled = true) (listening : gate.relay = .listening) :
    gate.RelayStops where
  busy stopFirst := by
    rcases relayTask?_of_cancelled cancelled listening stopFirst with
      closes | ⟨-, receipt, bus, passes⟩
    · rw [closes]
      rfl
    · rw [passes]
      rfl
  atOnce := by
    rcases relayTask?_of_cancelled cancelled listening true with closes | ⟨impossible, -⟩
    · rw [relay_perform, Move.standing, closes]
      rfl
    · cases impossible
  bounded := unlistening_of_turns sound cancelled

/-- How a gate stops that came about by these steps, and what it does until then. -/
structure StopsCleanly (attached : Bool) (past : List Step) (gate : Gate) : Prop where
  /-- A gate is cancelled by a handle, through its parent, or by its server when that leaves. -/
  causes : gate.cancelled = past.any fun step => step.move.cancels step.before
  attachment : gate.attached = attached
  parent : gate.parentCancelled = past.any fun step => step.move.cancelsParent
  cancelled : gate.cancelled = true → ∀ moves, gate.Refrains moves
  /-- Unless it is cancelled, the server leaves when the last handle is gone and all requests have
  been served. -/
  lastHandle : gate.cancelled = false → gate.serverTask? = some .stop →
    gate.handles = 0 ∧ ∀ request ∈ sent past, request ∈ served past
  drained : gate.handles = 0 → ∀ moves : List Move,
    (∀ move ∈ moves, move.needsHandle = false) → (rounds gate.remaining).Sublist moves →
      (gate.following moves).isClosed = true
  leaves : gate.serverTask? = some .stop → gate.Leaves ⟨gate, .turn .server⟩
  deserted : gate.isClosed = true → ∀ moves, gate.StaysDeserted moves
  relay : gate.cancelled = true → gate.relay = .listening → gate.RelayStops
  relayed : gate.relay ≠ .listening → ∀ moves, (gate.following moves).relay ≠ .listening ∧
    (gate.recordOf moves).filterMap Effect.relayed? = []

theorem standing_of_build {settings : Settings} {host : Host} {subscribers : List Subscriber}
    {attached : Bool} {built : Outcome Gate Unit}
    (succeeds : build settings host subscribers attached = .ok built) :
    built.state.cancelled = false ∧ built.state.attached = attached ∧
      built.state.parentCancelled = false ∧ 0 < built.state.room := by
  rcases ok_of_bind succeeds with ⟨bus, created, succeeds⟩
  rcases ok_of_bind succeeds with ⟨fanout, -, succeeds⟩
  rcases ok_of_bind succeeds with ⟨-, -, succeeds⟩
  cases succeeds
  exact ⟨rfl, rfl, rfl, Nat.le_max_right _ _⟩

/-- Every gate stops cleanly, whenever and however it is stopped. -/
theorem gate_stops {settings : Settings} {host : Host} {subscribers : List Subscriber}
    {attached : Bool} {built : Outcome Gate Unit}
    (succeeds : build settings host subscribers attached = .ok built) (earlier : List Move) :
    StopsCleanly attached (built.state.steps earlier) (built.state.following earlier) := by
  have fresh := fresh_of_build succeeds
  rcases standing_of_build succeeds with ⟨isFree, isAttached, parentFree, hasRoom⟩
  rcases fresh.sound.follow earlier with ⟨more, sound⟩
  have ledger := (ledger_nil fresh.line fresh.door fresh.nextTicket).follow earlier
  have started : built.state.server ≠ .stopped := by
    rw [fresh.server]
    decide
  rcases attached_following earlier built.state with ⟨sameAttached, sameRoom⟩
  exact {
    causes := by rw [cancelled_of_steps, isFree, Bool.false_or]
    attachment := sameAttached.trans isAttached
    parent := by rw [parentCancelled_of_steps, parentFree, Bool.false_or]
    cancelled := refrains
    lastHandle := fun goesOn stops => by
      cases due_of_serverTask? stops with
      | stop serving reason =>
          rcases reason with isCancelled | ⟨line, alone, door⟩
          · rw [goesOn] at isCancelled
            cases isCancelled
          · refine ⟨alone, served_of_running ledger ?_ ?_⟩
            · rw [serving]
              decide
            · rw [line, door]
              rfl
    drained := fun alone moves free enough =>
      (closes_of_rounds alone (sameRoom ▸ hasRoom) free _).1 (Nat.le_refl _) enough
    leaves := leaves sound
    deserted := fun closed => by
      have stopped : (built.state.following earlier).server = .stopped := by
        simpa [isClosed] using closed
      rcases ledger.closed stopped with ⟨line, door⟩
      exact Deserted.staysDeserted
        ⟨closed, line, door, released_of_closed fresh.sound started earlier closed⟩ sound
    relay := relayStops sound
    relayed := unrelayed_following }

/-- The parent of a gate is cancelled while the gate observes and a request is in line. -/
theorem gate_stops_of_parent :
    ∃ built, build {} (.create {} .calm true) [.logWriter] true = .ok built ∧
      let gate := built.state.following [.send (.begin .upload), .turn .server, .turn .server,
        .send .isObserving, .cancelParent]
      gate.controller.isObserving = true ∧ gate.line = [⟨1, .isObserving⟩] ∧
        (Step.answers ⟨gate, .turn .server⟩ = [(1, .closed)] ∧
          observationKinds (Step.effects ⟨gate, .turn .server⟩) = [.observationStopped]) ∧
        (gate.following [.turn .server]).isClosed = true ∧
        ((Move.turn (.relay true)).perform.run gate).state.relay = .closing := by
  refine ⟨_, rfl, rfl, rfl, ⟨rfl, rfl⟩, ?_, ?_⟩
  · exact ((gate_stops (show build {} (.create {} .calm true) [.logWriter] true = _ from rfl)
      _).cancelled rfl _).closed (by decide)
  · exact ((gate_stops (show build {} (.create {} .calm true) [.logWriter] true = _ from rfl)
      _).relay rfl rfl).atOnce

end Gate

end TransferGate
