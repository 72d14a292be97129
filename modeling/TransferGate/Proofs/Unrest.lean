import TransferGate.Proofs.Working
import TransferGate.Proofs.Reports
import TransferGate.Proofs.Staleness
import TransferGate.Proofs.Stopping

/-! # Unrest

What the server announces comes back to its own two seats on the bus. On a bus with few slots it
may make both lag, and then everything is read again, which may announce more. No
backlog and no line need get shorter by a turn of the server.

`Gate.unrest` does. A turn that rereads announces two changes of status at most for each facet
that is stale no more, on two seats, so that five for each stale facet are
more than enough to pay for them, and the receipt that led to the turn pays for the turn. A
request may make every facet stale and announces little, so it weighs as much as all that.
-/

namespace TransferGate

open Activity

namespace Bus

private theorem backlog_of_reseats {seats : List Seat} {before after : Bus Seat}
    (reseats : Reseats seats before after) {seat : Seat} (untouched : seat ∉ seats) :
    after.backlog seat = before.backlog seat := by
  rw [backlog, backlog, reseats.cursor? seat untouched, reseats.sent]

private theorem Keeps.backlog_of_receive {bus next : Bus Seat} {log : List Event}
    (keeps : bus.Keeps log) {seat : Seat} {receipt : Receipt}
    (received : bus.receive seat = some (receipt, next)) :
    next.backlog seat < bus.backlog seat ∧
      ∀ other, other ≠ seat → next.backlog other = bus.backlog other := by
  have keepsNext := (keeps.reseats_receive received).keeps keeps
  refine ⟨?_, fun other different => ?_⟩
  · rcases Gate.taken_of_receive keeps received with ⟨taken, something, read, -⟩
    rw [← Gate.length_unread keepsNext, ← Gate.length_unread keeps, read, List.length_append]
    exact Nat.lt_add_of_pos_left (List.length_pos_of_ne_nil something)
  · exact backlog_of_reseats (keeps.reseats_receive received) (by simpa using different)

theorem Keeps.backlog_of_absorbs {before after : Bus Seat} {log : List Event}
    (keeps : before.Keeps log) (seated : (before.cursor? .lifecycle).isSome = true)
    {effects : List Effect} (absorbs : Absorbs [] before effects after) (seat : Seat) :
    after.backlog seat ≤ before.backlog seat + (effects.filterMap Effect.notice?).length := by
  rcases absorbs with ⟨base, first, second⟩
  have baseSeated : (base.cursor? .lifecycle).isSome = true := by
    rw [first.cursor? _ (by simp), seated]
  have baseKeeps := first.keeps keeps
  rcases baseKeeps.unread_absorbAll baseSeated effects with ⟨more, moreKeeps, notices, unread⟩
  rw [backlog_of_reseats second (by simp), ← backlog_of_reseats first (by simp),
    ← Gate.length_unread moreKeeps, ← Gate.length_unread baseKeeps, ← notices, List.length_map,
    ← List.length_append]
  exact (unread seat).length_le

end Bus

namespace Gate

open Controller (Operation)

/-! ## What the server does to its controller -/

namespace ServerTask

private theorem rereads {task : ServerTask} (noRequest : ∀ request rest, task ≠ .serve request rest)
    (goesOn : task ≠ .stop) : ∀ operation ∈ task.operations, operation.rereads = true := by
  intro operation member
  have only {other : Operation} (rereads : other.rereads = true) (member : operation ∈ [other]) :
      operation.rereads = true := by
    rw [List.mem_singleton.mp member, rereads]
  cases task with
  | start => exact only rfl member
  | stop => exact absurd rfl goesOn
  | serve request rest => exact absurd rfl (noRequest request rest)
  | lifecycle receipt bus =>
      cases receipt with
      | lagged missed => exact only rfl member
      | event event =>
          simp only [operations] at member
          split at member
          · exact only rfl member
          · cases member
  | observed receipt bus =>
      cases receipt with
      | lagged missed => exact only rfl member
      | event event =>
          rcases List.mem_map.mp member with ⟨signal, -, rfl⟩
          rfl

theorem lasting (task : ServerTask) :
    Obeys Controller.lasting (Controller.performAll task.operations) := by
  apply Controller.performAll_obeys
  intro operation member
  cases task with
  | serve request rest =>
      rw [List.mem_singleton.mp member]
      exact (Controller.lasting_serve request.request).map _
  | stop =>
      rw [List.mem_singleton.mp member]
      exact ((Controller.lasting_emit _).bind fun _ => Controller.lasting_stopObserving).map _
  | _ =>
      have rereads := rereads (by simp) (by simp) operation member
      exact fun controller constant => (Controller.settling_operation rereads controller constant).1

private theorem backlog_bus {gate : Gate} {log : List Event} (keeps : gate.bus.Keeps log)
    {task : ServerTask} (due : task.Due gate) :
    (task.bus gate).backlog .lifecycle + (task.bus gate).backlog .observation ≤
        gate.bus.backlog .lifecycle + gate.bus.backlog .observation ∧
      ((∀ request rest, task ≠ .serve request rest) → task ≠ .start → task ≠ .stop →
        (task.bus gate).backlog .lifecycle + (task.bus gate).backlog .observation <
          gate.bus.backlog .lifecycle + gate.bus.backlog .observation) := by
  cases due with
  | start starting => exact ⟨Nat.le_refl _, fun _ other => absurd rfl other⟩
  | stop serving reason => exact ⟨Nat.le_refl _, fun _ _ other => absurd rfl other⟩
  | serve serving goesOn waiting => exact ⟨Nat.le_refl _, fun other => absurd rfl (other _ _)⟩
  | lifecycle serving goesOn nobody received =>
      rcases keeps.backlog_of_receive received with ⟨less, same⟩
      have observation := same .observation (by decide)
      simp only [bus]
      omega
  | observed serving goesOn nobody nothing received =>
      rcases keeps.backlog_of_receive received with ⟨less, same⟩
      have lifecycle := same .lifecycle (by decide)
      simp only [bus]
      omega

end ServerTask

theorem acts_server {gate : Gate} {log : List Event} (sound : gate.Sound log) :
    let outcome := (Move.turn .server).perform.run gate
    Acts ((Move.turn .server).base gate) ((Move.turn .server).operations gate)
      ((Move.turn .server).seats gate) outcome.effects outcome.state :=
  acts_perform sound.keeps sound.observing rfl

private theorem notices_serverTurn {gate : Gate} {log : List Event} (sound : gate.Sound log) :
    ((Move.turn .server).perform.run gate).effects.filterMap Effect.notice? =
      (gate.controller.recordOf ((Move.turn .server).operations gate)).filterMap
        Effect.notice? := by
  rcases (acts_server sound).record with ⟨ahead, behind, record, foreignAhead, foreignBehind⟩
  rw [Move.controller_base] at record
  have aloof : Aloof ((Move.turn .server).perform.run gate).effects := .perform rfl gate
  rw [record] at aloof ⊢
  have silent {effects : List Effect} (foreign : ∀ effect ∈ effects, effect.isForeign = true)
      (within : ∀ effect ∈ effects, effect.concernsSubscribers = false) :
      effects.filterMap Effect.notice? = [] := by
    apply List.filterMap_eq_nil_iff.mpr
    intro effect member
    cases effect with
    | announced notice =>
        have report : notice.kind.isReport = true := foreign _ member
        have noReport : notice.kind.isReport = false := within _ member
        rw [report] at noReport
        cases noReport
    | _ => rfl
  rw [List.filterMap_append, List.filterMap_append,
    silent foreignAhead fun effect member => aloof effect (by simp [member]),
    silent foreignBehind fun effect member => aloof effect (by simp [member]),
    List.nil_append, List.append_nil]

/-! ## Unrest -/

structure Standing.Unsubscribed (standing : Standing) : Prop where
  relay : standing.relay = .absent
  workers : standing.fanout.workers = []
  room : 0 < standing.room

/-- There are no subscribers, and the sources do not change. -/
structure Unattended (gate : Gate) : Prop where
  unsubscribed : gate.standing.Unsubscribed
  constant : gate.controller.host.sources.changesLeft = 0
  sound : ∃ log, gate.Sound log

def arrears (gate : Gate) : Nat :=
  5 * gate.controller.stale + gate.bus.backlog .lifecycle + gate.bus.backlog .observation

/-- At most so many turns of the server and at the door do something. -/
def unrest (gate : Gate) : Nat :=
  81 * gate.door.length + 80 * gate.line.length +
    match gate.server with
    | .starting => 2 + gate.arrears
    | .serving => 1 + gate.arrears
    | .stopped => 0

theorem arrears_serverTurn {gate : Gate} {log : List Event} (sound : gate.Sound log)
    {task : ServerTask} (found : gate.serverTask? = some task) (goesOn : task ≠ .stop) :
    let after := ((Move.turn .server).perform.run gate).state
    after.controller = gate.controller.following task.operations ∧
      after.bus.backlog .lifecycle + after.bus.backlog .observation ≤
        (task.bus gate).backlog .lifecycle + (task.bus gate).backlog .observation +
          2 * ((gate.controller.recordOf task.operations).filterMap Effect.notice?).length := by
  have operations : (Move.turn .server).operations gate = task.operations := by
    simp [Move.operations, found]
  have noSeats : (Move.turn .server).seats gate = [] := by
    cases task <;> first | exact absurd rfl goesOn | simp [Move.seats, found, ServerTask.seats]
  have base : ((Move.turn .server).base gate).bus = task.bus gate := by simp [Move.base, found]
  have running : gate.server ≠ .stopped := by
    intro stopped
    simp [serverTask?, stopped] at found
  refine ⟨by rw [← operations]; exact controller_perform sound (.turn .server), ?_⟩
  have absorbs := (acts_server sound).bus
  rw [noSeats, base] at absorbs
  have keeps : (task.bus gate).Keeps log := base ▸ keeps_base sound.keeps (.turn .server)
  have seated : ((task.bus gate).cursor? .lifecycle).isSome = true := by
    rw [← base, isSome_base]
    exact sound.seated running
  have lifecycle := keeps.backlog_of_absorbs seated absorbs .lifecycle
  have observation := keeps.backlog_of_absorbs seated absorbs .observation
  rw [notices_serverTurn sound, operations] at lifecycle observation
  omega

private theorem arrears_of_rereading {gate : Gate} {log : List Event} (sound : gate.Sound log)
    (constant : gate.controller.host.sources.changesLeft = 0) {task : ServerTask}
    (found : gate.serverTask? = some task) (noRequest : ∀ request rest, task ≠ .serve request rest)
    (goesOn : task ≠ .stop) :
    ((Move.turn .server).perform.run gate).state.arrears +
        ((gate.bus.backlog .lifecycle + gate.bus.backlog .observation) -
          ((task.bus gate).backlog .lifecycle + (task.bus gate).backlog .observation)) ≤
      gate.arrears := by
  rcases arrears_serverTurn sound found goesOn with ⟨controller, backlogs⟩
  have rereads := task.rereads noRequest goesOn
  have settled := Controller.settling_performAll rereads gate.controller constant
  have fewer := (ServerTask.backlog_bus sound.keeps (due_of_serverTask? found)).1
  have pays : ((gate.controller.recordOf task.operations).filterMap Effect.notice?).length +
      2 * (gate.controller.following task.operations).stale ≤ 2 * gate.controller.stale :=
    settled.2
  rw [arrears, arrears, controller]
  omega

private theorem requests_serverTurn {gate : Gate} {task : ServerTask}
    (found : gate.serverTask? = some task) :
    let after := ((Move.turn .server).perform.run gate).state
    (after.line, after.door) =
      match task with
      | .serve _ rest => (rest, gate.door)
      | .stop => ([], [])
      | _ => (gate.line, gate.door) := by
  rw [Step.run_serverTurn found]
  cases task with
  | start => rfl
  | stop => simp [doServerTask, run_stopServer]
  | serve request rest => simp [run_serve]
  | lifecycle receipt bus =>
      have same := Step.requests_handleLifecycle receipt { gate with bus := bus }
      simp only [Prod.mk.injEq] at same
      exact Prod.ext same.1 same.2.1
  | observed receipt bus =>
      have same := Step.requests_handleObserved receipt { gate with bus := bus }
      simp only [Prod.mk.injEq] at same
      exact Prod.ext same.1 same.2.1

theorem unrest_serverTurn {gate : Gate} {log : List Event} (sound : gate.Sound log)
    (constant : gate.controller.host.sources.changesLeft = 0) {task : ServerTask}
    (found : gate.serverTask? = some task) :
    ((Move.turn .server).perform.run gate).state.unrest < gate.unrest := by
  have requests := requests_serverTurn found
  have server := server_perform (.turn .server) gate
  simp only [Move.phaseAfter, found] at server
  cases due_of_serverTask? found with
  | start starting =>
      have arrears := arrears_of_rereading sound constant found (by simp) (by simp)
      simp only [Prod.mk.injEq] at requests
      rw [unrest, unrest, server, starting, requests.1, requests.2]
      simp only
      omega
  | stop serving reason =>
      simp only [Prod.mk.injEq] at requests
      rw [unrest, unrest, server, serving, requests.1, requests.2]
      simp only [List.length_nil]
      omega
  | @serve serving goesOn request rest waiting =>
      obtain ⟨controller, backlogs⟩ := arrears_serverTurn sound found (by simp)
      have few : ((gate.controller.recordOf [.serve request.request]).filterMap
          Effect.notice?).length ≤ 7 := by
        rw [recordOf_singleton]
        exact (Controller.announces_serve request.request).map gate.controller
      have stale := Controller.stale_le
        (gate.controller.following [.serve request.request])
      simp only [Prod.mk.injEq] at requests
      simp only [ServerTask.operations, ServerTask.bus] at controller backlogs
      rw [unrest, unrest, server, serving, requests.1, requests.2, waiting, List.length_cons, arrears,
        arrears, controller]
      simp only
      omega
  | lifecycle serving goesOn nobody received =>
      have arrears := arrears_of_rereading sound constant found (by simp) (by simp)
      have less := (ServerTask.backlog_bus sound.keeps (due_of_serverTask? found)).2 (by simp)
        (by simp) (by simp)
      simp only [Prod.mk.injEq] at requests
      rw [unrest, unrest, server, serving, requests.1, requests.2]
      simp only
      omega
  | observed serving goesOn nobody nothing received =>
      have arrears := arrears_of_rereading sound constant found (by simp) (by simp)
      have less := (ServerTask.backlog_bus sound.keeps (due_of_serverTask? found)).2 (by simp)
        (by simp) (by simp)
      simp only [Prod.mk.injEq] at requests
      rw [unrest, unrest, server, serving, requests.1, requests.2]
      simp only
      omega

theorem unrest_doorTurn {gate : Gate} (busy : (doorTurn.run gate).value = true) :
    ((Move.turn .door).perform.run gate).state.unrest < gate.unrest := by
  simp only [Move.perform, run_map, turn]
  rw [run_doorTurn] at busy ⊢
  cases waiting : gate.door with
  | nil => simp [waiting] at busy
  | cons first rest =>
      simp only [waiting] at busy
      split at busy
      · next room =>
          simp only [if_pos room, unrest, arrears, waiting, List.length_append, List.length_cons,
            List.length_nil]
          omega
      · cases busy

namespace Unattended

variable {gate : Gate}

theorem idle (unattended : gate.Unattended) {choice : Turn} (noDoor : choice ≠ .door)
    (noServer : choice ≠ .server) : (turn choice).run gate = ⟨false, gate, []⟩ := by
  cases choice with
  | door => exact absurd rfl noDoor
  | server => exact absurd rfl noServer
  | relay stopFirst =>
      have absent : gate.relay = .absent := unattended.unsubscribed.relay
      simp [turn, relayTurn, relayTask?, absent]
  | worker index =>
      have nobody : gate.fanout.workers = [] := unattended.unsubscribed.workers
      simp [turn, Fanout.workerTurn, Activity.run, onFanout, nobody]

/-- A turn that does something lowers the unrest. -/
theorem unrest_turn (unattended : gate.Unattended) {choice : Turn}
    (busy : ((turn choice).run gate).value = true) :
    ((Move.turn choice).perform.run gate).state.unrest < gate.unrest := by
  by_cases isDoor : choice = .door
  · subst isDoor
    exact unrest_doorTurn busy
  · by_cases isServer : choice = .server
    · subst isServer
      rcases unattended.sound with ⟨log, sound⟩
      cases found : gate.serverTask? with
      | none => simp [turn, serverTurn, found] at busy
      | some task => exact unrest_serverTurn sound unattended.constant found
    · rw [unattended.idle isDoor isServer] at busy
      cases busy

end Unattended

end Gate

end TransferGate
