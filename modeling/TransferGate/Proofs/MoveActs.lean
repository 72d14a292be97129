import TransferGate.Proofs.Acts

/-! # What a move amounts to

A move may begin with a receipt by the server, which leaves the gate `Move.base`. After that it
amounts to the operations `Move.operations`, and the receivers that move are those on `Move.seats`.
-/

namespace TransferGate

open Activity

namespace Gate

open Controller (Operation)

theorem run_abandon (gate : Gate) : abandon.run gate =
    ⟨(), { gate with
        controller := (Controller.discard.run gate.controller).state
        server := .stopped
        line := []
        door := []
        fanout := gate.fanout.kill
        relay := if gate.relay = .absent then .absent else .ended
        bus := ((gate.bus.absorbAll (Controller.discard.run gate.controller).effects).leave
          .lifecycle).leave .relay },
      (Controller.discard.run gate.controller).effects ++
        (gate.line ++ gate.door).map fun waiting => .answered waiting.ticket .closed⟩ := by
  simp [abandon, run_close]

theorem acts_abandon (gate : Gate) :
    Acts gate [.discard] [.lifecycle, .relay] (abandon.run gate).effects
      (abandon.run gate).state := by
  rw [run_abandon]
  have lifecycleLeaves (bus : Bus Seat) :
      Bus.Reseats [.lifecycle, .relay] bus (bus.leave .lifecycle) :=
    (Bus.Reseats.leave bus .lifecycle).widen (by simp)
  have relayLeaves (bus : Bus Seat) :
      Bus.Reseats [.lifecycle, .relay] bus (bus.leave .relay) :=
    (Bus.Reseats.leave bus .relay).widen (by simp)
  refine .of_operation rfl ?_ .nil (.refusals (gate.line ++ gate.door)) (.refl _ _) rfl ?_
  · simp [Operation.perform]
  · simpa [Operation.perform] using (lifecycleLeaves _).trans (relayLeaves _)

theorem receive_of_relayTask? {gate : Gate} {stopFirst : Bool} {receipt : Receipt}
    {bus : Bus Seat} (found : gate.relayTask? stopFirst = some (.pass receipt bus)) :
    gate.bus.receive .relay = some (receipt, bus) := by
  unfold relayTask? listenTask? at found
  cases phase : gate.relay <;> simp only [phase] at found
  case absent => cases found
  case ended => cases found
  case closing => split at found <;> cases found
  case listening =>
    split at found
    · cases found
    · next received =>
        cases found
        exact received
    · split at found <;> cases found

theorem acts_doRelayTask {gate : Gate} {task : RelayTask} {stopFirst : Bool} {log : List Event}
    (keeps : gate.bus.Keeps log) (found : gate.relayTask? stopFirst = some task) :
    Acts gate [] [.relay] ((doRelayTask task).run gate).effects
      ((doRelayTask task).run gate).state := by
  cases task with
  | close => exact .of_asides rfl .nil (.refl _ _)
  | leave => exact .of_asides rfl .nil (.leave _ _)
  | pass receipt bus =>
      have moved := keeps.reseats_receive (receive_of_relayTask? found)
      cases receipt with
      | lagged missed => exact .of_asides rfl (.logged _ .nil) moved
      | event event =>
          refine .of_foreign rfl ?_ ⟨bus, moved, .refl _ _⟩
          intro effect member
          rcases List.mem_cons.mp member with rfl | offered
          · rfl
          · exact Effect.isForeign_of_isHanding (Fanout.emit_hands event gate.fanout effect offered)

theorem acts_relayTurn (stopFirst : Bool) {gate : Gate} {log : List Event}
    (keeps : gate.bus.Keeps log) :
    Acts gate [] [.relay] ((relayTurn stopFirst).run gate).effects
      ((relayTurn stopFirst).run gate).state := by
  simp only [relayTurn, run_bind, run_get, List.nil_append]
  cases found : gate.relayTask? stopFirst with
  | none => exact .of_asides rfl .nil (.refl _ _)
  | some task => simpa using acts_doRelayTask keeps found

theorem run_doorTurn (gate : Gate) : doorTurn.run gate =
    match gate.door with
    | [] => ⟨false, gate, []⟩
    | first :: rest =>
        if gate.line.length < gate.room then
          ⟨true, { gate with line := gate.line ++ [first], door := rest }, []⟩
        else ⟨false, gate, []⟩ := by
  unfold doorTurn
  rw [run_bind, run_get]
  cases gate.door with
  | nil => rfl
  | cons first rest => by_cases hasRoom : gate.line.length < gate.room <;> simp [hasRoom]

theorem acts_doorTurn (gate : Gate) :
    Acts gate [] [] (doorTurn.run gate).effects (doorTurn.run gate).state := by
  rw [run_doorTurn]
  split
  · exact .of_asides rfl .nil (.refl _ _)
  · split <;> exact .of_asides rfl .nil (.refl _ _)

theorem acts_hear {gate : Gate} {log : List Event} (keeps : gate.bus.Keeps log) :
    Acts gate [] [.outside] (hear.run gate).effects (hear.run gate).state := by
  simp only [hear, run_bind, run_get, List.nil_append]
  cases received : gate.bus.receive .outside with
  | none => exact .of_asides rfl .nil (.refl _ _)
  | some result => exact .of_asides rfl .nil (keeps.reseats_receive received)

/-- Every move but the publishing of a signal amounts to what `Move.operations` and
`Move.seats` say. -/
theorem acts_perform {gate : Gate} {log : List Event} (keeps : gate.bus.Keeps log)
    (observing : (gate.bus.cursor? .observation).isSome = gate.controller.isObserving)
    {move : Move} (noSignal : move.signal? = none) :
    Acts (move.base gate) (move.operations gate) (move.seats gate) (move.perform.run gate).effects
      (move.perform.run gate).state := by
  cases move with
  | send request =>
      rcases send_frame request gate with ⟨⟨line, door, nextTicket, state⟩, asides⟩
      simp only [Move.perform, run_map, state]
      exact .of_asides rfl asides (.refl [] gate.bus)
  | quickCheck =>
      simp only [Move.perform, run_map]
      exact acts_quickCheck gate
  | jobFailed queue failure =>
      simp only [Move.perform, run_map, jobFailed_eq]
      exact acts_sendIf _ .outOfSpace gate
  | requiredBytes =>
      change Acts gate [.requiredBytes] [] _ _
      exact .of_onController rfl (by simp [Move.perform, requiredBytes, onHost, Operation.perform])
        (by simp [Move.perform, requiredBytes, onHost])
  | publish kind =>
      cases kind with
      | signal signal => cases noSignal
      | _ => exact .of_asides rfl .nil (.refl _ _)
  | changeSources change =>
      change Acts gate [.replaceSources change] [] _ _
      exact .of_onController rfl (by simp [Move.perform, changeSources, onHost, Operation.perform])
        (by simp [Move.perform, changeSources, onHost])
  | cancel => exact .of_asides rfl .nil (.refl _ _)
  | cancelParent => exact .of_asides rfl .nil (.refl _ _)
  | cloneHandle => exact .of_asides rfl .nil (.refl _ _)
  | dropHandle => exact .of_asides rfl .nil (.refl _ _)
  | permit subscriber count => exact .of_asides rfl .nil (.refl _ _)
  | listen => exact .of_asides rfl .nil (.subscribe _ _)
  | hear =>
      simp only [Move.perform, run_map]
      exact acts_hear keeps
  | unlisten => exact .of_asides rfl .nil (.leave _ _)
  | abandon =>
      simp only [Move.perform, run_map]
      exact acts_abandon gate
  | turn choice =>
      simp only [Move.perform, run_map]
      cases choice with
      | door => exact acts_doorTurn gate
      | server => exact acts_serverTurn observing
      | relay stopFirst => exact acts_relayTurn stopFirst keeps
      | worker index =>
          refine .of_foreign rfl (fun effect member => ?_) (.of_absorbAll _ _ _)
          exact Effect.isForeign_of_isHanding
            (Fanout.workerTurn_hands index gate.fanout effect member)

theorem server_doServerTask (task : ServerTask) (gate : Gate) :
    ((doServerTask task).run gate).state.server =
      match task with
      | .start => .serving
      | .stop => .stopped
      | _ => gate.server := by
  cases task with
  | start => rfl
  | stop => simp [doServerTask, run_stopServer]
  | serve request rest => rfl
  | lifecycle receipt bus =>
      cases receipt with
      | lagged missed => rfl
      | event event =>
          simp only [doServerTask, handleLifecycle]
          split <;> rfl
  | observed receipt bus =>
      cases receipt with
      | lagged missed => rfl
      | event event =>
          simp only [doServerTask, handleObserved]
          cases event.kind.observedSignal? <;> rfl

theorem server_perform (move : Move) (gate : Gate) :
    (move.perform.run gate).state.server = move.phaseAfter gate := by
  cases move with
  | send request =>
      rcases send_frame request gate with ⟨⟨line, door, nextTicket, state⟩, -⟩
      simp only [Move.perform, run_map, state]
      rfl
  | quickCheck =>
      rcases run_quickCheck gate with ⟨short, run⟩
      obtain ⟨⟨line, door, nextTicket, state⟩, -⟩ := sendIf_frame short .refreshSpace
        ((onController Operation.lookAtSpace.perform).run gate).state
      rw [run_bind] at run
      simp only [Move.perform, run_map, run, state]
      rfl
  | jobFailed queue failure =>
      obtain ⟨⟨line, door, nextTicket, state⟩, -⟩ := sendIf_frame
        (queue == .download && failure.isOutOfSpace) .outOfSpace gate
      simp only [Move.perform, run_map, jobFailed_eq, state]
      rfl
  | publish kind => cases kind <;> rfl
  | hear =>
      simp only [Move.perform, run_map, hear, run_bind, run_get]
      cases gate.bus.receive .outside <;> rfl
  | abandon =>
      simp only [Move.perform, run_map, run_abandon]
      rfl
  | turn choice =>
      simp only [Move.perform, run_map]
      cases choice with
      | door =>
          simp only [turn, run_doorTurn]
          split
          · rfl
          · split <;> rfl
      | server =>
          simp only [turn, serverTurn, run_bind, run_get, Move.phaseAfter]
          cases gate.serverTask? with
          | none => rfl
          | some task =>
              simp only [run_bind, run_pure, server_doServerTask]
              cases task <;> rfl
      | relay stopFirst =>
          simp only [turn, relayTurn, run_bind, run_get]
          cases gate.relayTask? stopFirst with
          | none => rfl
          | some task =>
              cases task with
              | pass receipt bus => cases receipt <;> rfl
              | _ => rfl
      | worker index => rfl
  | _ => rfl

end Gate

end TransferGate
