import TransferGate.Gate.Handle
import TransferGate.Gate.Turn
import TransferGate.Proofs.Stages

/-! # Moves of a gate

A `Move` is anything that anybody may do next with a gate: a caller, a reader of
the bus, the host, or one of the tasks. What a move is about can be told from the gate
before it: the operations of the controller, the seats whose receivers move, and what
becomes of the server.
-/

namespace TransferGate

open Activity

namespace Gate

/-! ## Moves -/

inductive Move where
  | send (request : Request)
  | quickCheck
  | jobFailed (queue : Queue) (failure : Failure)
  | requiredBytes
  | publish (kind : EventKind)
  | changeSources (change : Sources → Sources)
  | cancel
  | cancelParent
  | cloneHandle
  | dropHandle
  | permit (subscriber count : Nat)
  | listen
  | hear
  | unlisten
  | abandon
  | turn (choice : Turn)

def hear : Activity Gate (Option Receipt) := do
  match (← Activity.get).bus.receive .outside with
  | none => return none
  | some (receipt, bus) =>
      changeBus fun _ => bus
      return some receipt

/-- Makes the move. There is a request if its caller waits for a reply. -/
def Move.perform : Move → Activity Gate (Option Ticketed)
  | .send request => (fun ticket => some ⟨ticket, request⟩) <$> Gate.send request
  | .quickCheck => Option.map (Ticketed.mk · .refreshSpace) <$> Gate.quickCheck
  | .jobFailed queue failure =>
      Option.map (Ticketed.mk · .outOfSpace) <$> Gate.jobFailed queue failure
  | .requiredBytes => (fun _ => none) <$> Gate.requiredBytes
  | .publish kind => (fun _ => none) <$> Gate.publish kind
  | .changeSources change => (fun _ => none) <$> Gate.changeSources change
  | .cancel => (fun _ => none) <$> Gate.cancel
  | .cancelParent => (fun _ => none) <$> Gate.cancelParent
  | .cloneHandle => (fun _ => none) <$> Gate.cloneHandle
  | .dropHandle => (fun _ => none) <$> Gate.dropHandle
  | .permit subscriber count => (fun _ => none) <$> Gate.permit subscriber count
  | .listen => (fun _ => none) <$> changeBus (·.subscribe .outside)
  | .hear => (fun _ => none) <$> Gate.hear
  | .unlisten => (fun _ => none) <$> changeBus (·.leave .outside)
  | .abandon => (fun _ => none) <$> Gate.abandon
  | .turn choice => (fun _ => none) <$> Gate.turn choice

/-! ## What the server does next -/

namespace ServerTask

inductive Due (gate : Gate) : ServerTask → Prop where
  | start (starting : gate.server = .starting) : Due gate .start
  | stop (serving : gate.server = .serving)
      (reason : gate.cancelled = true ∨ gate.line = [] ∧ gate.handles = 0 ∧ gate.door = []) :
      Due gate .stop
  | serve (serving : gate.server = .serving) (goesOn : gate.cancelled = false)
      {request : Ticketed} {rest : List Ticketed} (waiting : gate.line = request :: rest) :
      Due gate (.serve request rest)
  | lifecycle (serving : gate.server = .serving) (goesOn : gate.cancelled = false)
      (nobody : gate.line = []) {receipt : Receipt} {bus : Bus Seat}
      (received : gate.bus.receive .lifecycle = some (receipt, bus)) :
      Due gate (.lifecycle receipt bus)
  | observed (serving : gate.server = .serving) (goesOn : gate.cancelled = false)
      (nobody : gate.line = []) (nothing : gate.bus.receive .lifecycle = none)
      {receipt : Receipt} {bus : Bus Seat}
      (received : gate.bus.receive .observation = some (receipt, bus)) :
      Due gate (.observed receipt bus)

end ServerTask

theorem due_of_serverTask? {gate : Gate} {task : ServerTask}
    (found : gate.serverTask? = some task) : task.Due gate := by
  unfold serverTask? at found
  cases phase : gate.server with
  | stopped => simp [phase] at found
  | starting =>
      simp only [phase, Option.some.injEq] at found
      subst found
      exact .start phase
  | serving =>
      simp only [phase] at found
      cases cancelled : gate.cancelled with
      | true =>
          simp only [cancelled, if_true, Option.some.injEq] at found
          subst found
          exact .stop phase (.inl cancelled)
      | false =>
          simp only [cancelled, Bool.false_eq_true, if_false] at found
          cases waiting : gate.line with
          | cons request rest =>
              simp only [waiting, Option.some.injEq] at found
              subst found
              exact .serve phase cancelled waiting
          | nil =>
              simp only [waiting] at found
              by_cases alone : gate.handles = 0 ∧ gate.door = []
              · simp only [alone, and_self, if_true, Option.some.injEq] at found
                subst found
                exact .stop phase (.inr ⟨waiting, alone.1, alone.2⟩)
              · rw [if_neg alone, signalTask?] at found
                cases lifecycle : gate.bus.receive .lifecycle with
                | some received =>
                    simp only [lifecycle, Option.some.injEq] at found
                    subst found
                    exact .lifecycle phase cancelled waiting lifecycle
                | none =>
                    simp only [lifecycle, Option.map_eq_some_iff] at found
                    rcases found with ⟨received, observation, rfl⟩
                    exact .observed phase cancelled waiting lifecycle observation

/-! ## Operations and seats -/

open Controller (Operation)

namespace ServerTask

def operations : ServerTask → List Operation
  | .start => [.readinessChanged]
  | .stop => [.shutDown]
  | .serve request _ => [.serve request.request]
  | .lifecycle (.event event) _ =>
      if event.kind = .signal .appReady then [.readinessChanged] else []
  | .lifecycle (.lagged _) _ => [.readinessChanged]
  | .observed (.event event) _ => event.kind.observedSignal?.toList.map (.receive <| .signal ·)
  | .observed (.lagged missed) _ => [.recover missed]

def bus (gate : Gate) : ServerTask → Bus Seat
  | .lifecycle _ bus => bus
  | .observed _ bus => bus
  | _ => gate.bus

def seats : ServerTask → List Seat
  | .stop => [.lifecycle]
  | _ => []

end ServerTask

namespace Move

/-- What the move does with the controller. -/
def operations (gate : Gate) : Move → List Operation
  | .quickCheck => [.lookAtSpace]
  | .requiredBytes => [.requiredBytes]
  | .changeSources change => [.replaceSources change]
  | .abandon => [.discard]
  | .turn .server => (gate.serverTask?.map ServerTask.operations).getD []
  | _ => []

/-- The gate after what the server begins by receiving. -/
def base (gate : Gate) : Move → Gate
  | .turn .server => { gate with bus := (gate.serverTask?.map (ServerTask.bus gate)).getD gate.bus }
  | _ => gate

@[simp] theorem controller_base (gate : Gate) (move : Move) :
    (move.base gate).controller = gate.controller := by
  cases move with
  | turn choice => cases choice <;> rfl
  | _ => rfl

def receipt? (gate : Gate) : Move → Option (Seat × Receipt)
  | .turn .server =>
      match gate.serverTask? with
      | some (.lifecycle receipt _) => some (.lifecycle, receipt)
      | some (.observed receipt _) => some (.observation, receipt)
      | _ => none
  | _ => none

/-- The seats whose receivers come, go or move otherwise. -/
def seats (gate : Gate) : Move → List Seat
  | .listen => [.outside]
  | .hear => [.outside]
  | .unlisten => [.outside]
  | .abandon => [.lifecycle, .relay]
  | .turn .server => (gate.serverTask?.map ServerTask.seats).getD []
  | .turn (.relay _) => [.relay]
  | _ => []

def signal? : Move → Option Signal
  | .publish (.signal signal) => some signal
  | _ => none

def phaseAfter (gate : Gate) : Move → ServerPhase
  | .abandon => .stopped
  | .turn .server =>
      match gate.serverTask? with
      | some .start => .serving
      | some .stop => .stopped
      | _ => gate.server
  | _ => gate.server

theorem mem_seats {move : Move} {gate : Gate} {seat : Seat} (member : seat ∈ move.seats gate) :
    (seat = .outside ∧ (move = .listen ∨ move = .hear ∨ move = .unlisten)) ∨
      (seat = .lifecycle ∧ move.phaseAfter gate = .stopped) ∨ seat = .relay := by
  cases move with
  | listen => exact .inl ⟨List.mem_singleton.mp member, .inl rfl⟩
  | hear => exact .inl ⟨List.mem_singleton.mp member, .inr (.inl rfl)⟩
  | unlisten => exact .inl ⟨List.mem_singleton.mp member, .inr (.inr rfl)⟩
  | abandon =>
      rcases List.mem_cons.mp member with isLifecycle | inRest
      · exact .inr (.inl ⟨isLifecycle, rfl⟩)
      · exact .inr (.inr (List.mem_singleton.mp inRest))
  | turn choice =>
      cases choice with
      | server =>
          cases found : gate.serverTask? with
          | none => simp [seats, found] at member
          | some task =>
              cases task <;> simp [seats, found, ServerTask.seats] at member
              exact .inr (.inl ⟨member, by simp [phaseAfter, found]⟩)
      | relay limit => exact .inr (.inr (List.mem_singleton.mp member))
      | _ => cases member
  | _ => cases member

end Move

end Gate

end TransferGate
