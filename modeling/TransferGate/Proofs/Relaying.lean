import TransferGate.Proofs.Aloofness

/-! # Relaying

A gate consists of a controller, requests, a bus, and the rest, its `Standing`. What a
move means for the standing can be told from the gate before it. What the relay has not read yet
grows by everything that is sent, and shrinks only when the relay takes a turn.
-/

namespace TransferGate

open Activity

namespace Gate

open Controller (Operation)

/-! ## How things stand -/

/-- Everything about a gate but its controller, its requests, its server and its bus. -/
structure Standing where
  relay : RelayPhase
  fanout : Fanout
  handles : Nat
  cancelled : Bool
  attached : Bool
  parentCancelled : Bool
  room : Nat

def standing (gate : Gate) : Standing where
  relay := gate.relay
  fanout := gate.fanout
  handles := gate.handles
  cancelled := gate.cancelled
  attached := gate.attached
  parentCancelled := gate.parentCancelled
  room := gate.room

def RelayTask.standing (gate : Gate) : RelayTask → Standing
  | .close => { gate.standing with relay := .closing, fanout := gate.fanout.close }
  | .pass (.event event) _ =>
      { gate.standing with fanout := ((Fanout.emit event).run gate.fanout).state }
  | .pass (.lagged _) _ => gate.standing
  | .leave => { gate.standing with relay := .ended }

def Move.standing (gate : Gate) : Move → Standing
  | .cancel => { gate.standing with cancelled := true }
  | .cancelParent =>
      { gate.standing with
        parentCancelled := true
        cancelled := gate.cancelled || gate.attached }
  | .cloneHandle => { gate.standing with handles := gate.handles + 1 }
  | .dropHandle => { gate.standing with handles := gate.handles - 1 }
  | .permit subscriber count =>
      { gate.standing with fanout := gate.fanout.permit subscriber count }
  | .abandon =>
      { gate.standing with
        fanout := gate.fanout.kill
        relay := if gate.relay = .absent then .absent else .ended }
  | .turn .server =>
      match gate.serverTask? with
      | some .stop => { gate.standing with cancelled := true }
      | _ => gate.standing
  | .turn (.relay stopFirst) =>
      (gate.relayTask? stopFirst).elim gate.standing (RelayTask.standing gate)
  | .turn (.worker index) =>
      { gate.standing with fanout := ((Fanout.workerTurn index).run gate.fanout).state }
  | _ => gate.standing

theorem standing_relayTurn (gate : Gate) (stopFirst : Bool) : ∃ relay fanout,
    (Move.turn (.relay stopFirst)).standing gate =
      { gate.standing with relay := relay, fanout := fanout } := by
  rw [Move.standing]
  cases gate.relayTask? stopFirst with
  | none => exact ⟨_, _, rfl⟩
  | some task =>
      cases task with
      | pass receipt bus => cases receipt <;> exact ⟨_, _, rfl⟩
      | _ => exact ⟨_, _, rfl⟩

theorem standing_serverTurn (gate : Gate) : ∃ cancelled,
    (Move.turn .server).standing gate = { gate.standing with cancelled := cancelled } := by
  rw [Move.standing]
  cases gate.serverTask? with
  | none => exact ⟨_, rfl⟩
  | some task => cases task <;> exact ⟨_, rfl⟩

theorem standing_doServerTask (task : ServerTask) (gate : Gate) :
    ((doServerTask task).run gate).state.standing =
      match task with
      | .stop => { gate.standing with cancelled := true }
      | _ => gate.standing := by
  cases task with
  | start => rfl
  | stop => simp [doServerTask, run_stopServer, standing]
  | serve request rest => rfl
  | lifecycle receipt bus =>
      cases receipt with
      | lagged missed => rfl
      | event event =>
          simp only [doServerTask, handleLifecycle]
          split <;> rfl
  | observed receipt bus =>
      cases receipt with
      | lagged missed => rfl
      | event event =>
          simp only [doServerTask, handleObserved]
          cases event.kind.observedSignal? <;> rfl

theorem run_relayTurn {gate : Gate} {stopFirst : Bool} {task : RelayTask}
    (found : gate.relayTask? stopFirst = some task) :
    (Move.turn (.relay stopFirst)).perform.run gate =
      ⟨none, ((doRelayTask task).run gate).state, ((doRelayTask task).run gate).effects⟩ := by
  simp [Move.perform, turn, relayTurn, found]

theorem run_relayTurn_idle {gate : Gate} {stopFirst : Bool}
    (idle : gate.relayTask? stopFirst = none) :
    (Move.turn (.relay stopFirst)).perform.run gate = ⟨none, gate, []⟩ := by
  simp [Move.perform, turn, relayTurn, idle]

theorem standing_perform (move : Move) (gate : Gate) :
    (move.perform.run gate).state.standing = move.standing gate := by
  cases move with
  | send request =>
      rcases send_frame request gate with ⟨⟨line, door, nextTicket, state⟩, -⟩
      simp only [Move.perform, run_map, state]
      rfl
  | quickCheck =>
      rcases run_quickCheck gate with ⟨short, run⟩
      obtain ⟨⟨line, door, nextTicket, state⟩, -⟩ := sendIf_frame short .refreshSpace
        ((onController Operation.lookAtSpace.perform).run gate).state
      rw [run_bind] at run
      simp only [Move.perform, run_map, run, state]
      rfl
  | jobFailed queue failure =>
      obtain ⟨⟨line, door, nextTicket, state⟩, -⟩ := sendIf_frame
        (queue == .download && failure.isOutOfSpace) .outOfSpace gate
      simp only [Move.perform, run_map, jobFailed_eq, state]
      rfl
  | publish kind => cases kind <;> rfl
  | hear =>
      simp only [Move.perform, run_map, hear, run_bind, run_get]
      cases gate.bus.receive .outside <;> rfl
  | abandon =>
      simp only [Move.perform, run_map, run_abandon]
      rfl
  | turn choice =>
      cases choice with
      | door =>
          simp only [Move.perform, run_map, turn, run_doorTurn]
          split
          · rfl
          · split <;> rfl
      | server =>
          simp only [Move.perform, run_map, turn, serverTurn, run_bind, run_get, Move.standing]
          cases gate.serverTask? with
          | none => rfl
          | some task =>
              simp only [run_bind, run_pure, standing_doServerTask]
              cases task <;> rfl
      | relay stopFirst =>
          cases found : gate.relayTask? stopFirst with
          | none =>
              rw [run_relayTurn_idle found, Move.standing, found]
              rfl
          | some task =>
              rw [run_relayTurn found, Move.standing, found]
              cases task with
              | pass receipt bus => cases receipt <;> rfl
              | _ => rfl
      | worker index => rfl
  | _ => rfl

/-! ## What the relay has not read -/

inductive Reads (gate : Gate) (log : List Event) (move : Move) (more : List Event) : Prop where
  | gone (idle : ∀ stopFirst, move = .turn (.relay stopFirst) → ∀ receipt bus,
        gate.relayTask? stopFirst ≠ some (.pass receipt bus))
      (free : (move.perform.run gate).state.bus.cursor? .relay = none) : Reads gate log move more
  | waits (idle : ∀ stopFirst, move = .turn (.relay stopFirst) → ∀ receipt bus,
        gate.relayTask? stopFirst ≠ some (.pass receipt bus))
      (notices : more.map Event.toNotice = (move.perform.run gate).effects.filterMap Effect.notice?)
      (unread : (move.perform.run gate).state.bus.unread (log ++ more) .relay =
        gate.bus.unread log .relay ++ more) : Reads gate log move more
  | takes (stopFirst : Bool) (isTurn : move = .turn (.relay stopFirst)) (receipt : Receipt)
      (bus : Bus Seat) (found : gate.relayTask? stopFirst = some (.pass receipt bus))
      (notices : more.map Event.toNotice = (move.perform.run gate).effects.filterMap Effect.notice?)
      (taken : List Event) (something : taken ≠ [])
      (read : gate.bus.unread log .relay = taken ++ bus.unread log .relay)
      (event : ∀ event, receipt = .event event → taken = [event])
      (unread : (move.perform.run gate).state.bus.unread (log ++ more) .relay =
        bus.unread log .relay ++ more) : Reads gate log move more

private theorem unread_append {bus : Bus Seat} {log : List Event} (keeps : bus.Keeps log)
    {seat : Seat} (seated : (bus.cursor? seat).isSome = true) (more : List Event) :
    bus.unread (log ++ more) seat = bus.unread log seat ++ more := by
  rcases Option.isSome_iff_exists.mp seated with ⟨cursor, isCursor⟩
  rw [Bus.unread_of_cursor? isCursor, Bus.unread_of_cursor? isCursor]
  exact List.drop_append_of_le_length (keeps.cursor?_le isCursor)

theorem unread_absorbAll {bus : Bus Seat} {log : List Event} (keeps : bus.Keeps log) {seat : Seat}
    (other : seat ≠ .observation) (seated : (bus.cursor? seat).isSome = true)
    (effects : List Effect) : ∃ more, (bus.absorbAll effects).Keeps (log ++ more) ∧
      more.map Event.toNotice = effects.filterMap Effect.notice? ∧
      (bus.absorbAll effects).unread (log ++ more) seat = bus.unread log seat ++ more := by
  rcases keeps.absorbAll effects with ⟨more, keepsMore, notices⟩
  refine ⟨more, keepsMore, notices seat other seated, ?_⟩
  rw [Bus.unread_congr (bus.cursor?_absorbAll_other effects other), unread_append keeps seated]

theorem taken_of_receive {bus next : Bus Seat} {log : List Event} (keeps : bus.Keeps log)
    {seat : Seat} {receipt : Receipt} (received : bus.receive seat = some (receipt, next)) :
    ∃ taken, taken ≠ [] ∧ bus.unread log seat = taken ++ next.unread log seat ∧
      ∀ event, receipt = .event event → taken = [event] := by
  rcases Bus.cursor?_of_receive received with ⟨cursor, seated⟩
  rw [Bus.unread_of_cursor? seated]
  rcases keeps.receive seated received with ⟨event, rfl, found, rfl⟩ | ⟨missed, rfl, behind, rfl⟩
  · rcases List.getElem?_eq_some_iff.mp found with ⟨inside, isEvent⟩
    refine ⟨[event], List.cons_ne_nil _ _, ?_, fun other same => by cases same; rfl⟩
    rw [Bus.unread_of_cursor? (bus.cursor?_moveTo_self seat (cursor + 1)),
      List.drop_eq_getElem_cons inside, isEvent]
    rfl
  · let skipped := bus.sent - bus.slots - cursor
    have moved : bus.sent - bus.slots = cursor + skipped := by omega
    refine ⟨(log.drop cursor).take skipped, ?_, ?_, fun event impossible => by cases impossible⟩
    · intro nothing
      have length := congrArg List.length nothing
      rw [List.length_take, List.length_drop, ← keeps.sent, List.length_nil] at length
      omega
    · rw [Bus.unread_of_cursor? (bus.cursor?_moveTo_self seat (bus.sent - bus.slots)), moved,
        ← List.drop_drop, List.take_append_drop]

private theorem reads_of_untouched {gate : Gate} {log : List Event} (sound : gate.Sound log)
    {move : Move} (untouched : .relay ∉ move.seats gate)
    (noTurn : ∀ stopFirst, move ≠ .turn (.relay stopFirst)) :
    ∃ more, (move.perform.run gate).state.Sound (log ++ more) ∧ Reads gate log move more := by
  rcases sound.perform move with ⟨more, soundAfter, notices⟩
  refine ⟨more, soundAfter, ?_⟩
  have same : (move.perform.run gate).state.bus.cursor? .relay = gate.bus.cursor? .relay := by
    rw [(absorbs_perform sound move).cursor? untouched (by decide),
      cursor?_base move gate (by decide) (by decide)]
  cases seated : gate.bus.cursor? .relay with
  | none =>
      exact .gone (fun stopFirst isTurn => absurd isTurn (noTurn stopFirst)) (same.trans seated)
  | some cursor =>
      have isSeated : (gate.bus.cursor? .relay).isSome = true := by rw [seated]; rfl
      refine .waits (fun stopFirst isTurn => absurd isTurn (noTurn stopFirst))
        (notices .relay untouched (by decide) isSeated) ?_
      rw [Bus.unread_congr same, unread_append sound.keeps isSeated]

theorem bus_of_pass (receipt : Receipt) (bus : Bus Seat) (gate : Gate) :
    ((doRelayTask (.pass receipt bus)).run gate).state.bus =
      bus.absorbAll ((doRelayTask (.pass receipt bus)).run gate).effects := by
  cases receipt <;> rfl

private theorem reads_of_relayTurn {gate : Gate} {log : List Event} (sound : gate.Sound log)
    (stopFirst : Bool) : ∃ more,
      ((Move.turn (.relay stopFirst)).perform.run gate).state.Sound (log ++ more) ∧
        Reads gate log (.turn (.relay stopFirst)) more := by
  rcases sound.perform (.turn (.relay stopFirst)) with ⟨sent, soundAfter, -⟩
  cases found : gate.relayTask? stopFirst with
  | none =>
      rw [run_relayTurn_idle found]
      refine ⟨[], by simpa using sound, .waits ?_ ?_ ?_⟩
      · rintro other ⟨⟩ receipt bus isFound
        rw [found] at isFound
        cases isFound
      · simp [run_relayTurn_idle found]
      · simp [run_relayTurn_idle found]
  | some task =>
      cases task with
      | close =>
          rw [run_relayTurn found]
          refine ⟨[], ?_, .waits ?_ ?_ ?_⟩
          · rw [List.append_nil]
            exact ⟨sound.keeps, sound.observing, sound.seated⟩
          · rintro other ⟨⟩ receipt bus isFound
            rw [found] at isFound
            cases isFound
          · simp [run_relayTurn found, doRelayTask]
          · simp [run_relayTurn found, doRelayTask, Bus.unread]
      | leave =>
          refine ⟨_, soundAfter, .gone ?_ ?_⟩
          · rintro other ⟨⟩ receipt bus isFound
            rw [found] at isFound
            cases isFound
          · rw [run_relayTurn found]
            exact Bus.cursor?_leave_self _ _
      | pass receipt bus =>
          have received := receive_of_relayTask? found
          have keepsBus := (sound.keeps.reseats_receive received).keeps sound.keeps
          have isSeated : (bus.cursor? .relay).isSome = true := by
            rcases Bus.cursor?_of_receive received with ⟨cursor, seated⟩
            rw [Bus.isSome_of_receive received, seated]
            rfl
          rcases taken_of_receive sound.keeps received with ⟨taken, something, read, event⟩
          obtain ⟨more, keepsMore, notices, unread⟩ := unread_absorbAll keepsBus (by decide)
            isSeated ((doRelayTask (.pass receipt bus)).run gate).effects
          rw [← bus_of_pass] at keepsMore unread
          rw [run_relayTurn found] at soundAfter ⊢
          refine ⟨more, ⟨keepsMore, soundAfter.observing, soundAfter.seated⟩,
            .takes stopFirst rfl receipt bus found ?_ taken something read event ?_⟩
          · rw [run_relayTurn found]
            exact notices
          · rw [run_relayTurn found]
            exact unread

theorem Sound.reads {gate : Gate} {log : List Event} (sound : gate.Sound log) (move : Move) :
    ∃ more, (move.perform.run gate).state.Sound (log ++ more) ∧ Reads gate log move more := by
  cases move with
  | abandon =>
      rcases sound.perform .abandon with ⟨more, soundAfter, -⟩
      refine ⟨more, soundAfter, .gone (by simp) ?_⟩
      simp only [Move.perform, run_map, run_abandon]
      exact Bus.cursor?_leave_self _ _
  | turn choice =>
      cases choice with
      | relay stopFirst => exact reads_of_relayTurn sound stopFirst
      | server =>
          refine reads_of_untouched sound (fun member => ?_) (by simp)
          cases found : gate.serverTask? with
          | none => simp [Move.seats, found] at member
          | some task => cases task <;> simp [Move.seats, found, ServerTask.seats] at member
      | _ => exact reads_of_untouched sound (by simp [Move.seats]) (by simp)
  | _ => exact reads_of_untouched sound (by simp [Move.seats]) (by simp)

end Gate

end TransferGate
