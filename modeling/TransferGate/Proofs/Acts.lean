import TransferGate.Proofs.BusLog
import TransferGate.Proofs.Handing
import TransferGate.Proofs.Move

/-! # What the server does

`Gate.Acts` says what a piece of work at a gate amounts to. For the controller it is a list of
operations; nothing else touches the controller or its host, and what else is recorded does not
concern them. For the bus it is that some receivers move, and that the effects are taken in.
-/

namespace TransferGate

open Activity

namespace Gate

open Controller (Operation)

/-- Something that was done with the gate amounts to these operations of the controller, and
to receivers on these seats being moved. -/
structure Acts (before : Gate) (operations : List Operation) (seats : List Seat)
    (effects : List Effect) (after : Gate) : Prop where
  controller : after.controller = before.controller.following operations
  record : ∃ ahead behind, effects = ahead ++ before.controller.recordOf operations ++ behind ∧
    (∀ effect ∈ ahead, effect.isForeign = true) ∧ ∀ effect ∈ behind, effect.isForeign = true
  bus : Bus.Absorbs seats before.bus effects after.bus

theorem Acts.passing {before after : Gate} {operations : List Operation} {seats : List Seat}
    {effects : List Effect} (acts : Acts before operations seats effects after) :
    ∃ ahead behind, effects = ahead ++ before.controller.recordOf operations ++ behind ∧
      (∀ effect ∈ ahead, effect.isPassing = true) ∧ ∀ effect ∈ behind, effect.isPassing = true := by
  rcases acts.record with ⟨ahead, behind, record, foreignAhead, foreignBehind⟩
  exact ⟨ahead, behind, record,
    fun effect member => Effect.isPassing_of_isForeign (foreignAhead effect member),
    fun effect member => Effect.isPassing_of_isForeign (foreignBehind effect member)⟩

theorem run_refuse (requests : List Ticketed) (gate : Gate) :
    (refuse requests).run gate =
      ⟨(), gate, requests.map fun waiting => .answered waiting.ticket .closed⟩ := by
  induction requests with
  | nil => rfl
  | cons request rest induction => simp [refuse, induction]

theorem run_close (gate : Gate) : close.run gate =
    ⟨(), { gate with
        server := .stopped
        line := []
        door := []
        bus := gate.bus.leave .lifecycle },
      (gate.line ++ gate.door).map fun waiting => .answered waiting.ticket .closed⟩ := by
  simp [close, run_refuse, changeBus]

theorem run_stopServer (gate : Gate) : stopServer.run gate =
    ⟨(), { gate with
        controller := (Controller.shutDown.run gate.controller).state
        server := .stopped
        line := []
        door := []
        cancelled := true
        bus := (gate.bus.absorbAll (Controller.shutDown.run gate.controller).effects).leave
          .lifecycle },
      (Controller.shutDown.run gate.controller).effects ++
        (.logged .serverStopped :: (gate.line ++ gate.door).map fun waiting =>
          .answered waiting.ticket .closed)⟩ := by
  simp [stopServer, run_close]

theorem run_serve (request : Ticketed) (rest : List Ticketed) (gate : Gate) :
    (doServerTask (.serve request rest)).run gate =
      ⟨(), { gate with
          line := rest
          controller := ((Controller.serve request.request).run gate.controller).state
          bus := gate.bus.absorbAll
            ((Controller.serve request.request).run gate.controller).effects },
        ((Controller.serve request.request).run gate.controller).effects ++
          [.answered request.ticket
            ((Controller.serve request.request).run gate.controller).value]⟩ := by
  simp [doServerTask]

theorem absorbAll_logged (bus : Bus Seat) (line : LogLine) (rest : List Effect) :
    bus.absorbAll (.logged line :: rest) = bus.absorbAll rest := rfl

/-- A line in the log, or a reply. Neither concerns the controller or the bus. -/
def isAside : Effect → Bool
  | .logged _ => true
  | .answered _ _ => true
  | _ => false

def AreAsides (effects : List Effect) : Prop := ∀ effect ∈ effects, isAside effect = true

namespace AreAsides

theorem nil : AreAsides [] := List.forall_mem_nil _

theorem answered (ticket : Nat) (reply : Reply) : AreAsides [.answered ticket reply] := by
  simp [AreAsides, isAside]

theorem logged (line : LogLine) {rest : List Effect} (others : AreAsides rest) :
    AreAsides (.logged line :: rest) := by
  rintro effect (_ | ⟨_, member⟩)
  · rfl
  · exact others effect member

theorem refusals (requests : List Ticketed) :
    AreAsides (requests.map fun waiting => .answered waiting.ticket .closed) := by
  intro effect member
  rcases List.mem_map.mp member with ⟨waiting, -, rfl⟩
  rfl

theorem foreign {effects : List Effect} (asides : AreAsides effects) :
    ∀ effect ∈ effects, effect.isForeign = true := by
  intro effect member
  have aside := asides effect member
  cases effect <;> first | rfl | cases aside

theorem absorbAll {effects : List Effect} (asides : AreAsides effects) (bus : Bus Seat) :
    bus.absorbAll effects = bus := by
  induction effects with
  | nil => rfl
  | cons effect rest induction =>
      have aside := asides effect (List.mem_cons_self ..)
      have others := induction fun other member => asides other (List.mem_cons_of_mem _ member)
      cases effect <;> first | exact others | cases aside

end AreAsides

theorem recordOf_singleton (controller : Controller) (operation : Operation) :
    controller.recordOf [operation] = (operation.perform.run controller).effects :=
  List.append_nil _

namespace Acts

theorem of_foreign {before after : Gate} {seats : List Seat} {effects : List Effect}
    (same : after.controller = before.controller)
    (foreign : ∀ effect ∈ effects, effect.isForeign = true)
    (bus : Bus.Absorbs seats before.bus effects after.bus) : Acts before [] seats effects after :=
  ⟨same, ⟨effects, [], by simp [Controller.recordOf], foreign, by simp⟩, bus⟩

theorem of_asides {before after : Gate} {seats : List Seat} {effects : List Effect}
    (same : after.controller = before.controller) (asides : AreAsides effects)
    (bus : Bus.Reseats seats before.bus after.bus) : Acts before [] seats effects after := by
  refine .of_foreign same asides.foreign ⟨before.bus, .refl _ _, ?_⟩
  rw [asides.absorbAll]
  exact bus

theorem of_operation {before after : Gate} {operation : Operation} {seats : List Seat}
    {effects ahead behind : List Effect} {base bus : Bus Seat}
    (same : after.controller = (operation.perform.run before.controller).state)
    (record : effects = ahead ++ (operation.perform.run before.controller).effects ++ behind)
    (asidesAhead : AreAsides ahead) (asides : AreAsides behind)
    (moved : Bus.Reseats seats before.bus base)
    (absorbs : bus = base.absorbAll (ahead ++ (operation.perform.run before.controller).effects))
    (reseats : Bus.Reseats seats bus after.bus) : Acts before [operation] seats effects after := by
  refine ⟨same, ⟨ahead, behind, ?_, asidesAhead.foreign, asides.foreign⟩, base, moved, ?_⟩
  · rw [recordOf_singleton, record]
  · rw [record, Bus.absorbAll_append, asides.absorbAll, ← absorbs]
    exact reseats

theorem of_onController {before after : Gate} {operation : Operation} {effects : List Effect}
    (same : after.controller = (operation.perform.run before.controller).state)
    (record : effects = (operation.perform.run before.controller).effects)
    (absorbs : after.bus = before.bus.absorbAll effects) :
    Acts before [operation] [] effects after := by
  refine .of_operation same ?_ .nil .nil (.refl _ _) rfl ?_
  · rw [record, List.nil_append, List.append_nil]
  · rw [absorbs, record]
    exact .refl _ _

end Acts

theorem run_send_open {gate : Gate} (isOpen : gate.isClosed = false) (request : Request) :
    (send request).run gate =
      ⟨gate.nextTicket,
        { gate with nextTicket := gate.nextTicket + 1 }.enqueue ⟨gate.nextTicket, request⟩,
        []⟩ := by
  simp [send, isOpen]

theorem run_send_closed {gate : Gate} (closed : gate.isClosed = true) (request : Request) :
    (send request).run gate =
      ⟨gate.nextTicket, { gate with nextTicket := gate.nextTicket + 1 },
        [.answered gate.nextTicket .closed]⟩ := by
  simp [send, closed]

theorem send_frame (request : Request) (gate : Gate) :
    (∃ line door nextTicket, ((send request).run gate).state =
        { gate with line := line, door := door, nextTicket := nextTicket }) ∧
      AreAsides ((send request).run gate).effects := by
  cases closed : gate.isClosed with
  | true =>
      rw [run_send_closed closed]
      exact ⟨⟨gate.line, gate.door, gate.nextTicket + 1, rfl⟩, .answered _ _⟩
  | false =>
      rw [run_send_open closed]
      unfold enqueue
      split <;> exact ⟨⟨_, _, _, rfl⟩, .nil⟩

def sendIf (needed : Bool) (request : Request) : Activity Gate (Option Nat) :=
  match needed with
  | true => some <$> send request
  | false => return none

theorem sendIf_frame (needed : Bool) (request : Request) (gate : Gate) :
    (∃ line door nextTicket, ((sendIf needed request).run gate).state =
        { gate with line := line, door := door, nextTicket := nextTicket }) ∧
      AreAsides ((sendIf needed request).run gate).effects := by
  cases needed with
  | false => exact ⟨⟨_, _, _, rfl⟩, .nil⟩
  | true =>
      simp only [sendIf, run_map]
      exact send_frame request gate

theorem acts_sendIf (needed : Bool) (request : Request) (gate : Gate) :
    Acts gate [] [] ((sendIf needed request).run gate).effects
      ((sendIf needed request).run gate).state := by
  rcases sendIf_frame needed request gate with ⟨⟨line, door, nextTicket, state⟩, asides⟩
  rw [state]
  exact .of_asides rfl asides (.refl [] gate.bus)

theorem jobFailed_eq (queue : Queue) (failure : Failure) :
    jobFailed queue failure =
      sendIf (queue == .download && failure.isOutOfSpace) .outOfSpace := by
  unfold jobFailed
  cases queue <;> cases failure.isOutOfSpace <;> rfl

theorem run_quickCheck (gate : Gate) : ∃ short, quickCheck.run gate =
    (onController Operation.lookAtSpace.perform >>= fun _ =>
      sendIf short .refreshSpace).run gate := by
  let required := Host.requiredBytes.run gate.controller.host
  let free := Host.freeSpace.run required.state
  refine ⟨isShort free.value required.value, ?_⟩
  simp only [quickCheck, requiredBytes, onHost, run_bind, run_onController, Controller.run_onHost,
    Operation.perform, run_pure, Bus.absorbAll_append, List.append_nil, List.append_assoc]
  cases isShort free.value required.value <;> rfl

theorem acts_quickCheck (gate : Gate) :
    Acts gate [.lookAtSpace] [] (quickCheck.run gate).effects (quickCheck.run gate).state := by
  rcases run_quickCheck gate with ⟨short, run⟩
  obtain ⟨⟨line, door, nextTicket, state⟩, asides⟩ := sendIf_frame short .refreshSpace
    ((onController Operation.lookAtSpace.perform).run gate).state
  rw [run_bind] at run
  rw [run, state]
  exact .of_operation rfl rfl .nil asides (.refl _ _) rfl (.refl _ _)

theorem run_receive_of_observing {controller : Controller}
    (observing : controller.isObserving = true) {signal : Signal}
    (observed : signal.isObserved = true) :
    (Controller.receive (.signal signal)).run controller =
      (Controller.reread signal).run controller := by
  have honoured : (Controller.rereadIfObserving signal).run controller =
      (Controller.reread signal).run controller := by
    simp [Controller.rereadIfObserving, observing]
  cases signal with
  | appReady => cases observed
  | _ => exact honoured

theorem isObserved_of_observedSignal? {kind : EventKind} {signal : Signal}
    (observed : kind.observedSignal? = some signal) :
    kind = .signal signal ∧ signal.isObserved = true := by
  cases kind with
  | signal received =>
      simp only [EventKind.observedSignal?, Option.ite_none_right_eq_some, Option.some.injEq]
        at observed
      rcases observed with ⟨isObserved, rfl⟩
      exact ⟨rfl, isObserved⟩
  | _ => cases observed

theorem acts_handleLifecycle (receipt : Receipt) (bus : Bus Seat) (gate : Gate) :
    Acts gate (ServerTask.lifecycle receipt bus).operations []
      ((handleLifecycle receipt).run gate).effects
      ((handleLifecycle receipt).run gate).state := by
  cases receipt with
  | event event =>
      by_cases ready : event.kind = .signal .appReady
      · have honoured : handleLifecycle (.event event) =
            onController Controller.readinessChanged := by
          simp only [handleLifecycle, ready]
        simp only [ServerTask.operations, if_pos ready, honoured]
        exact .of_onController rfl (by simp [Operation.perform]) (by simp)
      · have ignored : handleLifecycle (.event event) = return () := by
          simp only [handleLifecycle]
        simp only [ServerTask.operations, if_neg ready, ignored]
        exact .of_asides rfl .nil (.refl _ _)
  | lagged missed =>
      refine .of_operation rfl ?_ (.logged (.lifecycleLagged missed) .nil) .nil (.refl _ _) rfl ?_
      · simp [handleLifecycle, Operation.perform]
      · simpa [Operation.perform, handleLifecycle, absorbAll_logged] using Bus.Reseats.refl _ _

theorem acts_handleObserved (receipt : Receipt) (bus : Bus Seat) {gate : Gate}
    (observing : gate.controller.isObserving = true) :
    Acts gate (ServerTask.observed receipt bus).operations []
      ((handleObserved receipt).run gate).effects
      ((handleObserved receipt).run gate).state := by
  cases receipt with
  | event event =>
      simp only [ServerTask.operations, handleObserved]
      cases observed : event.kind.observedSignal? with
      | none => exact .of_asides rfl .nil (.refl _ _)
      | some signal =>
          have honoured : (Operation.receive (.signal signal)).perform.run gate.controller =
              ⟨none, ((Controller.reread signal).run gate.controller).state,
                ((Controller.reread signal).run gate.controller).effects⟩ := by
            simp [Operation.perform,
              run_receive_of_observing observing (isObserved_of_observedSignal? observed).2]
          apply Acts.of_onController
          · rw [honoured]
            rfl
          · rw [honoured]
            rfl
          · rfl
  | lagged missed =>
      exact .of_onController rfl (by simp [handleObserved, Operation.perform])
        (by simp [handleObserved])

theorem acts_doServerTask {gate : Gate} {task : ServerTask}
    (observing : (gate.bus.cursor? .observation).isSome = gate.controller.isObserving)
    (due : task.Due gate) :
    Acts { gate with bus := task.bus gate } task.operations task.seats
      ((doServerTask task).run gate).effects ((doServerTask task).run gate).state := by
  cases due with
  | start starting =>
      change Acts gate [.readinessChanged] [] _ _
      exact .of_onController rfl (by simp [doServerTask, Operation.perform])
        (by simp [doServerTask])
  | stop serving reason =>
      change Acts gate [.shutDown] [.lifecycle] _ _
      simp only [doServerTask, run_stopServer]
      refine .of_operation rfl ?_ .nil
        (.logged .serverStopped (.refusals (gate.line ++ gate.door))) (.refl _ _) rfl ?_
      · simp [Operation.perform]
      · simpa [Operation.perform] using Bus.Reseats.leave _ _
  | @serve serving goesOn request rest waiting =>
      change Acts gate [.serve request.request] [] _ _
      rw [run_serve]
      refine .of_operation rfl ?_ .nil (.answered request.ticket
        ((Controller.serve request.request).run gate.controller).value) (.refl _ _) rfl ?_
      · simp [Operation.perform]
      · simpa [Operation.perform] using Bus.Reseats.refl _ _
  | lifecycle serving goesOn nobody received => exact acts_handleLifecycle _ _ _
  | observed serving goesOn nobody nothing received =>
      rcases Bus.cursor?_of_receive received with ⟨cursor, seated⟩
      rw [seated] at observing
      exact acts_handleObserved _ _ observing.symm

theorem acts_serverTurn {gate : Gate}
    (observing : (gate.bus.cursor? .observation).isSome = gate.controller.isObserving) :
    Acts (Move.base gate (.turn .server)) (Move.operations gate (.turn .server))
      (Move.seats gate (.turn .server)) (serverTurn.run gate).effects
      (serverTurn.run gate).state := by
  simp only [Move.base, Move.operations, Move.seats, serverTurn, run_bind, run_get,
    List.nil_append]
  cases found : gate.serverTask? with
  | none => exact .of_asides rfl .nil (.refl _ _)
  | some task => simpa using acts_doServerTask observing (due_of_serverTask? found)

end Gate

end TransferGate
