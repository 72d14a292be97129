import TransferGate.Proofs.Leaving

/-! # The last handle

When the last handle of a gate is gone, its server works on all requests before it leaves,
however the turns of the tasks are ordered: with nobody left to send, each turn of the door or
of the server leaves less to do.
-/

namespace TransferGate

open Activity

namespace Gate

theorem unrefused_of_running (gate : Gate) (moves : List Move)
    (running : (gate.following moves).server ≠ .stopped) :
    ∀ entry ∈ answers (gate.steps moves), entry.2 ≠ .closed := by
  induction moves using List.reverseRecOn with
  | nil => simp [steps, answers]
  | append_singleton moves move induction =>
      have after : (Step.after ⟨gate.following moves, move⟩).server ≠ .stopped := by
        rw [following_concat] at running
        exact running
      have wasRunning : (gate.following moves).server ≠ .stopped := by
        intro stopped
        rw [Step.after, Step.outcome, server_perform, phaseAfter_of_stopped stopped] at after
        exact after rfl
      intro entry member
      rw [steps_concat, answers_concat, List.mem_append] at member
      rcases member with before | now
      · exact induction wasRunning entry before
      · cases Step.handles ⟨gate.following moves, move⟩ with
        | nothing sent served answers => simp [answers] at now
        | accepts request running sent served answers => simp [answers] at now
        | comesIn first sent served answers => simp [answers] at now
        | refuses request closed => exact absurd closed wasRunning
        | stops sent served answers line door nextTicket server => exact absurd server after
        | serves request running sent served answers =>
            rw [answers, List.mem_singleton] at now
            subst now
            exact Controller.serve_ne_closed _ _

theorem served_of_running {gate : Gate} {moves : List Move}
    (ledger : Ledger (gate.steps moves) (gate.following moves))
    (running : (gate.following moves).server ≠ .stopped)
    (nobody : (gate.following moves).line ++ (gate.following moves).door = []) :
    ∀ request ∈ sent (gate.steps moves), request ∈ served (gate.steps moves) := by
  intro request isSent
  by_contra unserved
  have refused := (ledger.refused isSent).mpr ⟨unserved, by simp [nobody]⟩
  exact unrefused_of_running gate moves running _ refused rfl

def Move.needsHandle : Move → Bool
  | .send _ => true
  | .quickCheck => true
  | .jobFailed _ _ => true
  | .requiredBytes => true
  | .cancel => true
  | .cloneHandle => true
  | .dropHandle => true
  | _ => false

/-- How much the server still has to do when there are no handles. -/
def remaining (gate : Gate) : Nat :=
  (lastOperations gate.server).length + (gate.line.length + gate.door.length)

def Ready (gate : Gate) : Prop := gate.line ≠ [] ∨ gate.door = []

private theorem sent?_of_needsHandle {move : Move} (free : move.needsHandle = false) (gate : Gate) :
    Step.sent? ⟨gate, move⟩ = none := by
  cases move with
  | send request => cases free
  | quickCheck => cases free
  | jobFailed queue failure => cases free
  | _ => simp [Step.sent?, Step.outcome, Move.perform]

theorem attached_perform (move : Move) (gate : Gate) :
    (move.perform.run gate).state.attached = gate.attached ∧
      (move.perform.run gate).state.room = gate.room := by
  have stands := standing_perform move gate
  have same : (move.standing gate).attached = gate.attached ∧
      (move.standing gate).room = gate.room := by
    cases move with
    | turn choice =>
        cases choice with
        | server =>
            rcases gate.standing_serverTurn with ⟨cancelled, stands⟩
            rw [stands]
            exact ⟨rfl, rfl⟩
        | relay stopFirst =>
            rcases gate.standing_relayTurn stopFirst with ⟨relay, fanout, stands⟩
            rw [stands]
            exact ⟨rfl, rfl⟩
        | _ => exact ⟨rfl, rfl⟩
    | _ => exact ⟨rfl, rfl⟩
  exact ⟨(congrArg Standing.attached stands).trans same.1,
    (congrArg Standing.room stands).trans same.2⟩

theorem attached_following (moves : List Move) (gate : Gate) :
    (gate.following moves).attached = gate.attached ∧
      (gate.following moves).room = gate.room := by
  induction moves generalizing gate with
  | nil => exact ⟨rfl, rfl⟩
  | cons move rest induction =>
      rcases attached_perform move gate with ⟨attached, room⟩
      rcases induction (move.perform.run gate).state with ⟨laterAttached, laterRoom⟩
      exact ⟨laterAttached.trans attached, laterRoom.trans room⟩

theorem handles_perform {move : Move} (free : move.needsHandle = false) (gate : Gate) :
    (move.perform.run gate).state.handles = gate.handles := by
  refine (congrArg Standing.handles (standing_perform move gate)).trans ?_
  cases move with
  | cloneHandle => cases free
  | dropHandle => cases free
  | turn choice =>
      cases choice with
      | server =>
          rcases gate.standing_serverTurn with ⟨cancelled, stands⟩
          rw [stands]
          rfl
      | relay stopFirst =>
          rcases gate.standing_relayTurn stopFirst with ⟨relay, fanout, stands⟩
          rw [stands]
          rfl
      | _ => rfl
  | _ => rfl

private theorem phaseAfter_cases (move : Move) (gate : Gate) :
    move.phaseAfter gate = gate.server ∨ gate.server = .starting ∧ move.phaseAfter gate = .serving ∨
      move.phaseAfter gate = .stopped := by
  cases move with
  | abandon => exact .inr (.inr rfl)
  | turn choice =>
      cases choice with
      | server =>
          simp only [Move.phaseAfter]
          cases found : gate.serverTask? with
          | none => exact .inl rfl
          | some task =>
              cases due_of_serverTask? found with
              | start starting => exact .inr (.inl ⟨starting, rfl⟩)
              | stop serving reason => exact .inr (.inr rfl)
              | _ => exact .inl rfl
      | _ => exact .inl rfl
  | _ => exact .inl rfl

theorem length_lastOperations_perform (move : Move) (gate : Gate) :
    (lastOperations (move.perform.run gate).state.server).length ≤
      (lastOperations gate.server).length := by
  rw [server_perform]
  rcases phaseAfter_cases move gate with same | ⟨starting, serving⟩ | stopped
  · exact Nat.le_of_eq (by rw [same])
  · simp [starting, serving, lastOperations]
  · simp [stopped, lastOperations]

private theorem remaining_perform {move : Move} (free : move.needsHandle = false) (gate : Gate) :
    (move.perform.run gate).state.remaining ≤ gate.remaining ∧
      (gate.Ready → (move.perform.run gate).state.remaining = gate.remaining →
        (move.perform.run gate).state.Ready) := by
  have nothingSent := sent?_of_needsHandle free gate
  have forward := length_lastOperations_perform move gate
  unfold remaining Ready
  cases Step.handles ⟨gate, move⟩ with
  | nothing sent served answers line door =>
      simp only [Step.after, Step.outcome] at line door
      rw [line, door]
      exact ⟨by omega, fun ready _ => ready⟩
  | accepts request running sent => cases nothingSent.symm.trans sent
  | refuses request closed sent => cases nothingSent.symm.trans sent
  | comesIn first sent served answers line door =>
      simp only [Step.after, Step.outcome] at line door
      rw [line, door, List.length_append, List.length_cons, List.length_cons, List.length_nil]
      exact ⟨by omega, fun _ _ => .inl (by simp)⟩
  | serves request running sent served answers line door =>
      simp only [Step.after, Step.outcome] at line door
      rw [line, door, List.length_cons]
      exact ⟨by omega, fun _ same => by omega⟩
  | stops sent served answers line door =>
      simp only [Step.after, Step.outcome] at line door
      rw [line, door]
      exact ⟨by simp only [List.length_nil]; omega, fun _ _ => .inr rfl⟩

private theorem ready_doorTurn {gate : Gate} (room : 0 < gate.room) :
    ((Move.turn .door).perform.run gate).state.Ready := by
  simp only [Move.perform, run_map, turn, run_doorTurn]
  cases door : gate.door with
  | nil => exact .inr door
  | cons first rest =>
      simp only
      split
      · exact .inl (by simp)
      · next full =>
          refine .inl fun empty => full ?_
          rw [empty]
          exact room

private theorem serverTask?_of_ready {gate : Gate} (serving : gate.server = .serving)
    (alone : gate.handles = 0) (ready : gate.Ready) :
    gate.serverTask? = some .stop ∨ ∃ request rest, gate.line = request :: rest ∧
      gate.serverTask? = some (.serve request rest) := by
  unfold serverTask?
  cases cancelled : gate.cancelled with
  | true => exact .inl (by simp [serving])
  | false =>
      cases waiting : gate.line with
      | cons request rest => exact .inr ⟨request, rest, rfl, by simp [serving]⟩
      | nil =>
          have nobody : gate.door = [] := ready.resolve_left fun some => some waiting
          exact .inl (by simp [serving, alone, nobody])

private theorem remaining_serverTurn {gate : Gate} (alone : gate.handles = 0) (ready : gate.Ready) :
    gate.isClosed = true ∨
      ((Move.turn .server).perform.run gate).state.remaining < gate.remaining := by
  cases phase : gate.server with
  | stopped => exact .inl (by simp [isClosed, phase])
  | starting =>
      have task : gate.serverTask? = some .start := by simp [serverTask?, phase]
      refine .inr ?_
      rw [Step.run_serverTurn task]
      simp [doServerTask, remaining, phase, lastOperations]
  | serving =>
      refine .inr ?_
      rcases serverTask?_of_ready phase alone ready with task | ⟨request, rest, waiting, task⟩
      · rw [Step.run_serverTurn task]
        simp only [doServerTask, run_stopServer, remaining, phase, lastOperations, List.length_nil,
          List.length_singleton]
        omega
      · rw [Step.run_serverTurn task, run_serve]
        simp [remaining, phase, waiting]

private theorem isClosed_following {gate : Gate} (closed : gate.isClosed = true)
    (moves : List Move) :
    (gate.following moves).isClosed = true := by
  induction moves generalizing gate with
  | nil => exact closed
  | cons move rest induction =>
      have stopped : gate.server = .stopped := by simpa [isClosed] using closed
      apply induction
      rw [isClosed, server_perform, phaseAfter_of_stopped stopped]
      rfl

/-- So often the door and then the server take a turn. -/
def rounds (count : Nat) : List Move :=
  (List.replicate count [.turn .door, .turn .server]).flatten

/-- Once the handles are gone, the server leaves after enough rounds, whatever else happens in
between. -/
theorem closes_of_rounds {gate : Gate} (alone : gate.handles = 0) (room : 0 < gate.room)
    {moves : List Move} (free : ∀ move ∈ moves, move.needsHandle = false) (count : Nat) :
    (gate.remaining ≤ count → (rounds count).Sublist moves →
      (gate.following moves).isClosed = true) ∧
    (gate.Ready → gate.remaining ≤ count + 1 → (.turn .server :: rounds count).Sublist moves →
      (gate.following moves).isClosed = true) := by
  have closedOf {other : Gate} (none : other.remaining ≤ 0) : other.isClosed = true := by
    apply isClosed_of_lastOperations
    unfold remaining at none
    omega
  induction moves generalizing gate count with
  | nil =>
      refine ⟨fun few sublist => ?_, fun _ _ sublist => by cases sublist⟩
      cases count with
      | zero => exact closedOf few
      | succ count => cases sublist
  | cons move rest induction =>
      have freeNow := free move (List.mem_cons_self ..)
      have sameHandles := handles_perform freeNow gate
      have sameRoom := (attached_perform move gate).2
      rcases remaining_perform freeNow gate with ⟨fewer, staysReady⟩
      have freeLater : ∀ other ∈ rest, other.needsHandle = false := fun other member =>
        free other (List.mem_cons_of_mem _ member)
      have later := induction (sameHandles.trans alone) (sameRoom ▸ room) freeLater
      constructor
      · intro few sublist
        cases count with
        | zero => exact isClosed_following (closedOf few) (move :: rest)
        | succ count =>
            cases sublist with
            | cons _ inRest => exact (later (count + 1)).1 (Nat.le_trans fewer few) inRest
            | cons_cons _ inRest =>
                exact (later count).2 (ready_doorTurn room) (Nat.le_trans fewer few) inRest
      · intro ready few sublist
        cases sublist with
        | cons _ inRest =>
            rcases Nat.lt_or_eq_of_le fewer with less | same
            · exact (later count).1 (by omega) ((List.sublist_cons_self ..).trans inRest)
            · exact (later count).2 (staysReady ready same) (Nat.le_trans fewer few) inRest
        | cons_cons _ inRest =>
            rcases remaining_serverTurn alone ready with closed | less
            · exact isClosed_following closed (.turn .server :: rest)
            · exact (later count).1 (by omega) inRest

end Gate

end TransferGate
