import TransferGate.Proofs.Unrest

/-! # Self-inflicted lag settles

Turns of a gate that nobody disturbs come to an end, since each busy one leaves less unrest.
Then nothing is left to read and nothing is stale.
-/

namespace TransferGate

open Activity

namespace Gate

open Controller (Operation)

/-! ## Who is never subscribed -/

private theorem unsubscribed_perform {gate : Gate} (unsubscribed : gate.standing.Unsubscribed)
    (move : Move) : (move.perform.run gate).state.standing.Unsubscribed := by
  rw [standing_perform]
  have absent : gate.relay = .absent := unsubscribed.relay
  have nobody : gate.fanout.workers = [] := unsubscribed.workers
  have room : 0 < gate.room := unsubscribed.room
  cases move with
  | cancel => exact ⟨absent, nobody, room⟩
  | cancelParent => exact ⟨absent, nobody, room⟩
  | cloneHandle => exact ⟨absent, nobody, room⟩
  | dropHandle => exact ⟨absent, nobody, room⟩
  | permit subscriber count =>
      refine ⟨absent, ?_, room⟩
      simp [Move.standing, Fanout.permit, nobody]
  | abandon =>
      refine ⟨if_pos absent, ?_, room⟩
      simp [Move.standing, Fanout.kill, nobody]
  | turn choice =>
      cases choice with
      | server =>
          rcases gate.standing_serverTurn with ⟨cancelled, stands⟩
          rw [stands]
          exact ⟨absent, nobody, room⟩
      | relay stopFirst =>
          have idle : gate.relayTask? stopFirst = none := by simp [relayTask?, absent]
          rw [Move.standing, idle]
          exact unsubscribed
      | worker index =>
          refine ⟨absent, ?_, room⟩
          simp [Move.standing, Fanout.workerTurn, Activity.run, nobody]
      | door => exact unsubscribed
  | _ => exact unsubscribed

theorem unsubscribed_following {gate : Gate} (unsubscribed : gate.standing.Unsubscribed)
    (moves : List Move) : (gate.following moves).standing.Unsubscribed := by
  induction moves generalizing gate with
  | nil => exact unsubscribed
  | cons move rest induction => exact induction (unsubscribed_perform unsubscribed move)

private theorem unsubscribed_of_build {settings : Settings} {host : Host} {attached : Bool}
    {built : Outcome Gate Unit} (succeeds : build settings host [] attached = .ok built) :
    built.state.standing.Unsubscribed := by
  rcases standing_of_build succeeds with ⟨-, -, -, room⟩
  have nobody : built.state.fanout.workers = [] := by rw [fanout_of_build succeeds]; rfl
  refine ⟨?_, nobody, room⟩
  rcases ok_of_bind succeeds with ⟨bus, created, succeeds⟩
  rcases ok_of_bind succeeds with ⟨fanout, -, succeeds⟩
  rcases ok_of_bind succeeds with ⟨-, -, succeeds⟩
  cases succeeds
  rfl

namespace Unattended

variable {gate : Gate}

private theorem turn (unattended : gate.Unattended) (choice : Turn) :
    ((Move.turn choice).perform.run gate).state.Unattended := by
  rcases unattended.sound with ⟨log, sound⟩
  rcases sound.perform (.turn choice) with ⟨more, soundAfter, -⟩
  refine ⟨unsubscribed_perform unattended.unsubscribed _, ?_, log ++ more, soundAfter⟩
  rw [controller_perform sound]
  -- Only the server does anything to the controller.
  cases choice with
  | server =>
      simp only [Move.operations]
      cases gate.serverTask? with
      | none => exact unattended.constant
      | some task =>
          rw [← unattended.constant]
          exact congrArg Sources.changesLeft (task.lasting gate.controller unattended.constant)
  | _ => exact unattended.constant

theorem following (unattended : gate.Unattended) (turns : List Turn) :
    (gate.following (turns.map .turn)).Unattended := by
  induction turns generalizing gate with
  | nil => exact unattended
  | cons choice rest induction => exact induction (unattended.turn choice)

end Unattended

/-! ## Coming to rest -/

def busyTurns (gate : Gate) : List Turn → Nat
  | [] => 0
  | choice :: rest =>
      (if ((turn choice).run gate).value then 1 else 0) +
        ((Move.turn choice).perform.run gate).state.busyTurns rest

/-- The server has left, or there is nothing that it could process. -/
def NothingLeft (gate : Gate) : Prop :=
  gate.server = .stopped ∨
    gate.server = .serving ∧ gate.line = [] ∧ gate.door = [] ∧
      gate.bus.backlog .lifecycle = 0 ∧ gate.bus.backlog .observation = 0

namespace Unattended

variable {gate : Gate}

private theorem state_of_idle (unattended : gate.Unattended) {choice : Turn}
    (idle : ((Gate.turn choice).run gate).value = false) :
    ((Move.turn choice).perform.run gate).state = gate := by
  simp only [Move.perform, run_map]
  cases choice with
  | door =>
      simp only [Gate.turn, run_doorTurn] at idle ⊢
      cases waiting : gate.door with
      | nil => rfl
      | cons first rest =>
          by_cases room : gate.line.length < gate.room
          · simp [waiting, room] at idle
          · simp [room]
  | server =>
      simp only [Gate.turn, serverTurn, run_bind, run_get] at idle ⊢
      cases found : gate.serverTask? with
      | none => rfl
      | some task => simp [found] at idle
  | relay stopFirst => rw [unattended.idle (by simp) (by simp)]
  | worker index => rw [unattended.idle (by simp) (by simp)]

/-- All turns that do something are paid for by the unrest there is. -/
theorem busyTurns_le (unattended : gate.Unattended) (turns : List Turn) :
    gate.busyTurns turns + (gate.following (turns.map .turn)).unrest ≤ gate.unrest := by
  induction turns generalizing gate with
  | nil => exact Nat.le_of_eq (Nat.zero_add _)
  | cons choice rest induction =>
      have later := induction (unattended.turn choice)
      rw [busyTurns, List.map_cons, following_cons]
      cases busy : ((Gate.turn choice).run gate).value with
      | true =>
          have less := unattended.unrest_turn busy
          simp only [if_true]
          omega
      | false =>
          rw [unattended.state_of_idle busy] at later ⊢
          simp only [Bool.false_eq_true, if_false]
          omega

theorem nothingLeft (unattended : gate.Unattended) (quiet : gate.IsQuiet) : gate.NothingLeft := by
  rcases unattended.sound with ⟨log, sound⟩
  have room : 0 < gate.room := unattended.unsubscribed.room
  have noTask : gate.serverTask? = none := by
    have idle := quiet .server
    cases found : gate.serverTask? with
    | none => rfl
    | some task => simp [Gate.turn, serverTurn, found] at idle
  cases server : gate.server with
  | stopped => exact .inl server
  | starting => simp [serverTask?, server] at noTask
  | serving =>
      have goesOn : gate.cancelled = false := by
        cases cancelled : gate.cancelled with
        | false => rfl
        | true => simp [serverTask?, server, cancelled] at noTask
      have line : gate.line = [] := by
        cases waiting : gate.line with
        | nil => rfl
        | cons request rest => simp [serverTask?, server, goesOn, waiting] at noTask
      have door : gate.door = [] := by
        have idle := quiet .door
        cases waiting : gate.door with
        | nil => rfl
        | cons first rest => simp [Gate.turn, run_doorTurn, waiting, line, room] at idle
      have handles : gate.handles ≠ 0 := by
        intro alone
        simp [serverTask?, server, goesOn, line, door, alone] at noTask
      have signals : gate.signalTask? = none := by
        simpa [serverTask?, server, goesOn, line, door, handles] using noTask
      have lifecycle : gate.bus.receive .lifecycle = none := by
        cases received : gate.bus.receive .lifecycle with
        | none => rfl
        | some receipt => simp [signalTask?, received] at signals
      have observation : gate.bus.receive .observation = none := by
        simpa [signalTask?, lifecycle] using signals
      refine .inr ⟨server, line, door, ?_, ?_⟩
      · rw [← length_unread sound.keeps, sound.keeps.unread_of_nothing lifecycle]
        rfl
      · rw [← length_unread sound.keeps, sound.keeps.unread_of_nothing observation]
        rfl

private theorem unrest_turn_le (unattended : gate.Unattended) (choice : Turn) :
    ((Move.turn choice).perform.run gate).state.unrest ≤ gate.unrest := by
  cases busy : ((Gate.turn choice).run gate).value with
  | true => exact Nat.le_of_lt (unattended.unrest_turn busy)
  | false => exact Nat.le_of_eq (congrArg unrest (unattended.state_of_idle busy))

theorem following_rounds_of_quiet (unattended : gate.Unattended) (quiet : gate.IsQuiet)
    (count : Nat) : gate.following (rounds count) = gate := by
  induction count with
  | zero => rfl
  | succ count induction =>
      have door := unattended.state_of_idle (quiet .door)
      have server := unattended.state_of_idle (quiet .server)
      rw [rounds, List.replicate_succ, List.flatten_cons, following_append]
      change (((Move.turn .server).perform.run
        ((Move.turn .door).perform.run gate).state).state).following (rounds count) = gate
      rw [door, server, induction]

/-- As many rounds as there is unrest are enough. -/
theorem isQuiet_rounds (unattended : gate.Unattended) {count : Nat}
    (enough : gate.unrest ≤ count) : (gate.following (rounds count)).IsQuiet := by
  induction count generalizing gate with
  | zero =>
      -- Without unrest no turn can do anything.
      intro choice
      cases busy : ((Gate.turn choice).run gate).value with
      | false => exact busy
      | true =>
          have less := unattended.unrest_turn busy
          omega
  | succ count induction =>
      by_cases quiet : gate.IsQuiet
      · rw [unattended.following_rounds_of_quiet quiet]
        exact quiet
      · -- One of the two turns of the round does something.
        rw [rounds, List.replicate_succ, List.flatten_cons, following_append]
        apply induction (unattended.following [.door, .server])
        change ((Move.turn .server).perform.run
          ((Move.turn .door).perform.run gate).state).state.unrest ≤ count
        have afterServer := (unattended.turn .door).unrest_turn_le .server
        cases door : ((Gate.turn .door).run gate).value with
        | true =>
            have less := unattended.unrest_turn door
            omega
        | false =>
            rw [unattended.state_of_idle door] at afterServer ⊢
            cases server : ((Gate.turn .server).run gate).value with
            | true =>
                have less := unattended.unrest_turn server
                omega
            | false =>
                refine absurd (fun choice => ?_) quiet
                cases choice with
                | door => exact door
                | server => exact server
                | _ => rw [unattended.idle (by simp) (by simp)]

end Unattended

/-- On every bus, however few its slots: once the sources of a gate without subscribers have
stopped changing and nobody asks for anything more, the server and the callers at the door can do
no more than finitely many things, whatever is in line and whatever the server has not
read. Then nothing is left, and that is so after as many rounds as there is unrest. -/
theorem lag_settles :
    (∀ gate : Gate, gate.Unattended →
      (∀ turns, gate.busyTurns turns ≤ gate.unrest) ∧
      (∀ turns : List Turn, (gate.following (turns.map .turn)).IsQuiet →
        (gate.following (turns.map .turn)).NothingLeft) ∧
      ∀ count, gate.unrest ≤ count → (gate.following (rounds count)).IsQuiet) ∧
    ∀ settings host attached built, build settings host [] attached = .ok built →
      ∀ moves, (built.state.following moves).controller.host.sources.changesLeft = 0 →
        (built.state.following moves).Unattended := by
  refine ⟨fun gate unattended => ⟨fun turns => ?_, fun turns => ?_, fun count => ?_⟩, ?_⟩
  · exact Nat.le_of_add_right_le (unattended.busyTurns_le turns)
  · exact (unattended.following turns).nothingLeft
  · exact unattended.isQuiet_rounds
  · intro settings host attached built succeeds moves constant
    rcases (fresh_of_build succeeds).sound.follow moves with ⟨log, sound⟩
    have unsubscribed := unsubscribed_following (unsubscribed_of_build succeeds) moves
    exact ⟨unsubscribed, constant, log, sound⟩

/-- What begins observing overruns both seats of the server on a bus with one slot, and the power
saving that set in meanwhile is found only when everything is read again. -/
theorem lag_settles_of_one_slot :
    let saving := fun sources : Sources => { sources with lowPower := .always true }
    let moves : List Move :=
      [.turn .server, .send (.begin .upload), .turn .server, .changeSources saving]
    ∃ built, build { busCapacity := 1 } (.create {} .calm true) [] false = .ok built ∧
      let gate := built.state.following moves
      gate.bus.slots = 1 ∧ gate.bus.backlog .lifecycle = 4 ∧ gate.bus.backlog .observation = 4 ∧
        gate.controller.stale = 1 ∧ gate.busyTurns (List.replicate 8 .server) = 6 ∧
        gate.busyTurns (List.replicate 8 .server) ≤ gate.unrest ∧
        (gate.following (rounds gate.unrest)).IsQuiet := by
  intro saving moves
  have settles := fun built succeeds constant => lag_settles.1 _
    (lag_settles.2 { busCapacity := 1 } (.create {} .calm true) false built succeeds moves constant)
  refine ⟨_, rfl, ?_, ?_, ?_, ?_, ?_, (settles _ rfl ?_).1 _,
    (settles _ rfl ?_).2.2 _ (Nat.le_refl _)⟩ <;> decide +kernel

end Gate

end TransferGate
