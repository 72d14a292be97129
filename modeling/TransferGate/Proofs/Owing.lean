import Mathlib.Algebra.BigOperators.Group.List.Basic
import Mathlib.Algebra.GroupWithZero.Nat
import TransferGate.Proofs.Delivery
import TransferGate.Proofs.Relaying

/-! # What may still be reported

Panics and drops are reported on the bus, where the relay finds the reports and passes
them on like all other events. A drop of the report of a drop is not reported. What may
still be reported because of the events the relay has not read and those the workers have is
reckoned here, as a debt that a move pays with the reports it makes.
-/

namespace TransferGate

open Activity

/-! ## What a notice may bring about -/

/-- The subscriber panics on no report. -/
def Subscriber.Composed (subscriber : Subscriber) : Prop :=
  ∀ event, event.kind.isReport = true → (subscriber.reaction event).panics = none

/-- The subscriber takes events of this kind and panics on them at once. -/
def Subscriber.PanicsOn (subscriber : Subscriber) (kind : EventKind) : Prop :=
  ∀ event, event.kind = kind → (subscriber.reaction event).refuses = false ∧
    (subscriber.reaction event).waits = false ∧ (subscriber.reaction event).panics.isSome = true

def reports (notices : List Notice) : Nat := notices.countP fun notice => notice.kind.isReport

def others (notices : List Notice) : Nat := notices.countP fun notice => !notice.kind.isReport

/-- How many reports may come of an event of this kind when it is passed on to one of so many
composed subscribers: that of a drop, or that of a panic, which each of them may drop. -/
def EventKind.share (count : Nat) : EventKind → Nat
  | .subscriberOverflow => 0
  | .subscriberPanicked => 1
  | _ => count + 1

/-- A report counts once, and for what may come of it. -/
def Notice.cost (count : Nat) (notice : Notice) : Nat :=
  if notice.kind.isReport then 1 + count * notice.kind.share count else 0

def shares (count : Nat) (notices : List Notice) : Nat :=
  (notices.map fun notice => notice.kind.share count).sum

def costs (count : Nat) (notices : List Notice) : Nat := (notices.map (Notice.cost count)).sum

theorem shares_append (count : Nat) (first second : List Notice) :
    shares count (first ++ second) = shares count first + shares count second := by
  simp [shares]

private theorem EventKind.share_of_other (count : Nat) {kind : EventKind}
    (other : kind.isReport = false) :
    kind.share count = count + 1 := by
  cases kind <;> first | rfl | cases other

@[simp] theorem Notice.cost_overflow (count : Nat) (name reason : String) :
    (Notice.overflow name reason).cost count = 1 := rfl

@[simp] theorem Notice.cost_panicked (count : Nat) (name reason : String) :
    (Notice.panicked name reason).cost count = count + 1 := by
  simp [Notice.cost, Notice.panicked, EventKind.isReport, EventKind.share, Nat.add_comm]

theorem reports_add_shares (count : Nat) (notices : List Notice) :
    reports notices + count * shares count notices =
      costs count notices + count * (count + 1) * others notices := by
  induction notices with
  | nil => simp [reports, others, shares, costs]
  | cons notice rest induction =>
      simp only [reports, others, shares, costs, List.countP_cons, List.map_cons, List.sum_cons,
        Notice.cost] at induction ⊢
      cases isReport : notice.kind.isReport with
      | true =>
          simp only [if_true, Bool.not_true, Bool.false_eq_true, if_false, Nat.add_zero,
            Nat.mul_add count (notice.kind.share count)]
          omega
      | false =>
          simp only [Bool.false_eq_true, if_false, Bool.not_false, if_true, Nat.zero_add,
            EventKind.share_of_other count isReport, Nat.mul_add count (count + 1),
            Nat.mul_add (count * (count + 1)), Nat.mul_one]
          omega

/-! ## What the workers have -/

namespace Worker

def debt (count : Nat) (worker : Worker) : Nat :=
  (count + 1) * worker.backlog.countP fun event => !event.kind.isReport

theorem debt_offered (count : Nat) (event : Event) (worker : Worker) :
    (worker.offered event).debt count + costs count (worker.dropReport? event).toList ≤
      worker.debt count + event.kind.share count := by
  rw [debt, debt, backlog_offered, List.countP_append, Nat.mul_add, Nat.add_assoc]
  refine Nat.add_le_add_left ?_ _
  unfold accepted? dropReport?
  cases worker.obstacle? with
  | none => cases kind : event.kind <;>
      simp [costs, EventKind.share, EventKind.isReport, kind]
  | some reason => cases event.kind <;> simp [costs, EventKind.share]

theorem debt_next {worker : Worker} (composed : worker.subscriber.Composed) {closed : Bool}
    {task : Task} (due : task.Due worker closed) (count : Nat) :
    (task.next worker).debt count +
        costs count ((task.finished? worker).bind worker.subscriber.panicReport?).toList ≤
      worker.debt count := by
  by_cases fails : task = .fail
  · subst fails
    cases due with
    | fail going free waiting refuses =>
        simp [debt, backlog, Task.next, Task.finished?, costs, free]
  · rw [debt, debt, backlog_next due fails, List.countP_append, Nat.mul_add, Nat.add_comm]
    refine Nat.add_le_add_right ?_ _
    cases task.finished? worker with
    | none => exact Nat.zero_le _
    | some event =>
        cases isReport : event.kind.isReport with
        | true => simp [Subscriber.panicReport?, composed event isReport, costs]
        | false =>
            cases panics : (worker.subscriber.reaction event).panics <;>
              simp [Subscriber.panicReport?, panics, costs, isReport]

end Worker

namespace Fanout

def subscribers (fanout : Fanout) : List Subscriber := fanout.workers.map Worker.subscriber

def debt (count : Nat) (fanout : Fanout) : Nat := (fanout.workers.map (Worker.debt count)).sum

theorem debt_emit (count : Nat) (event : Event) (fanout : Fanout) :
    ((emit event).run fanout).state.debt count +
        costs count (((emit event).run fanout).effects.filterMap Effect.notice?) ≤
      fanout.debt count + fanout.workers.length * event.kind.share count := by
  rw [run_emit, notices_emit, debt, debt]
  generalize fanout.workers = workers
  induction workers with
  | nil => simp [costs]
  | cons worker rest induction =>
      have first := worker.debt_offered count event
      simp only [List.map_cons, List.sum_cons, List.length_cons, Nat.add_mul, Nat.one_mul,
        List.filterMap_cons] at induction ⊢
      cases dropped : worker.dropReport? event <;>
        simp only [dropped, costs, Option.toList_none, Option.toList_some, List.map_cons,
          List.map_nil, List.sum_cons, List.sum_nil] at first induction ⊢ <;>
        omega

private theorem sum_map_set (measure : Worker → Nat) {worker : Worker} {workers : List Worker}
    {index : Nat} (found : workers[index]? = some worker) (next : Worker) :
    ((workers.set index next).map measure).sum + measure worker =
      (workers.map measure).sum + measure next := by
  induction workers generalizing index with
  | nil => cases found
  | cons first rest induction =>
      cases index with
      | zero =>
          cases found
          simp only [List.set_cons_zero, List.map_cons, List.sum_cons]
          omega
      | succ index =>
          have later := induction found
          simp only [List.set_cons_succ, List.map_cons, List.sum_cons]
          omega

theorem debt_workerTurn {fanout : Fanout}
    (composed : ∀ subscriber ∈ fanout.subscribers, subscriber.Composed) (count index : Nat) :
    ((workerTurn index).run fanout).state.debt count +
        costs count (((workerTurn index).run fanout).effects.filterMap Effect.notice?) ≤
      fanout.debt count := by
  rcases fanout.workerTask?_cases index with idle | ⟨worker, task, found, isDue⟩
  · rw [run_workerTurn_idle idle]
    exact Nat.le_refl _
  · rcases run_workerTurn found isDue with ⟨lines, run⟩
    have member : worker.subscriber ∈ fanout.subscribers :=
      List.mem_map_of_mem (List.mem_of_getElem? found)
    have paid := Worker.debt_next (composed _ member) (Worker.due_of_task? isDue) count
    have moved := sum_map_set (Worker.debt count) found (task.next worker)
    rw [run, Worker.Task.notices_effects]
    simp only [debt]
    omega

private theorem map_permit {Value : Type} {measure : Worker → Value}
    (same : ∀ worker permits, measure { worker with permits := permits } = measure worker)
    (index permits : Nat) (fanout : Fanout) :
    (fanout.permit index permits).workers.map measure = fanout.workers.map measure := by
  refine List.ext_getElem? fun place => ?_
  rw [Fanout.permit, List.getElem?_map, List.getElem?_map, List.getElem?_modify]
  cases fanout.workers[place]? with
  | none => rfl
  | some worker =>
      split
      · exact congrArg some (same worker _)
      · rfl

theorem debt_permit (count index permits : Nat) (fanout : Fanout) :
    (fanout.permit index permits).debt count = fanout.debt count :=
  congrArg List.sum (map_permit (fun _ _ => rfl) index permits fanout)

theorem debt_kill (count : Nat) (fanout : Fanout) : fanout.kill.debt count = 0 := by
  apply List.sum_eq_zero
  intro debt member
  rcases List.mem_map.mp member with ⟨worker, killed, rfl⟩
  rcases List.mem_map.mp killed with ⟨alive, -, rfl⟩
  rfl

/-! ## The subscribers stay the same -/

theorem subscribers_emit (event : Event) (fanout : Fanout) :
    ((emit event).run fanout).state.subscribers = fanout.subscribers := by
  simp [run_emit, subscribers, Worker.subscriber_offered]

theorem subscribers_workerTurn (index : Nat) (fanout : Fanout) :
    ((workerTurn index).run fanout).state.subscribers = fanout.subscribers := by
  rcases fanout.workerTask?_cases index with idle | ⟨worker, task, found, isDue⟩
  · rw [run_workerTurn_idle idle]
  · rcases run_workerTurn found isDue with ⟨lines, run⟩
    have bound := (List.getElem?_eq_some_iff.mp found).1
    rw [run, subscribers, subscribers, List.map_set, Worker.Task.subscriber_next]
    refine List.ext_getElem? fun place => ?_
    by_cases same : index = place
    · subst same
      rw [List.getElem?_set_self (by simpa using bound), List.getElem?_map, found]
      rfl
    · rw [List.getElem?_set_ne same]

theorem subscribers_permit (index permits : Nat) (fanout : Fanout) :
    (fanout.permit index permits).subscribers = fanout.subscribers :=
  map_permit (fun _ _ => rfl) index permits fanout

theorem subscribers_kill (fanout : Fanout) : fanout.kill.subscribers = fanout.subscribers := by
  simp [subscribers, kill, Worker.kill]

end Fanout

/-! ## Moves -/

namespace Gate

theorem subscribers_perform (move : Move) (gate : Gate) :
    (move.perform.run gate).state.fanout.subscribers = gate.fanout.subscribers := by
  refine (congrArg (fun standing => standing.fanout.subscribers)
    (standing_perform move gate)).trans ?_
  cases move with
  | permit subscriber count => exact Fanout.subscribers_permit subscriber count gate.fanout
  | abandon => exact gate.fanout.subscribers_kill
  | turn choice =>
      cases choice with
      | door => rfl
      | server =>
          rcases gate.standing_serverTurn with ⟨cancelled, stands⟩
          rw [stands]
          rfl
      | worker index => exact Fanout.subscribers_workerTurn index gate.fanout
      | relay stopFirst =>
          rw [Move.standing]
          cases gate.relayTask? stopFirst with
          | none => rfl
          | some task =>
              cases task with
              | pass receipt bus =>
                  cases receipt with
                  | event event => exact Fanout.subscribers_emit event gate.fanout
                  | lagged missed => rfl
              | _ => rfl
  | _ => rfl

def Move.passed? (gate : Gate) : Move → Option Event
  | .turn (.relay stopFirst) =>
      match gate.relayTask? stopFirst with
      | some (.pass (.event event) _) => some event
      | _ => none
  | _ => none

theorem debt_elsewhere {move : Move} (elsewhere : move.relays = false) (count : Nat)
    (gate : Gate) :
    (move.perform.run gate).state.fanout.debt count ≤ gate.fanout.debt count := by
  refine Nat.le_trans (Nat.le_of_eq
    (congrArg (fun standing => standing.fanout.debt count) (standing_perform move gate))) ?_
  cases move with
  | permit subscriber permits =>
      exact Nat.le_of_eq (Fanout.debt_permit count subscriber permits gate.fanout)
  | abandon =>
      rw [Move.standing, Fanout.debt_kill]
      exact Nat.zero_le _
  | turn choice =>
      cases choice with
      | door => exact Nat.le_refl _
      | server =>
          rcases gate.standing_serverTurn with ⟨cancelled, stands⟩
          rw [stands]
          exact Nat.le_refl _
      | _ => cases elsewhere
  | _ => exact Nat.le_refl _

private theorem costs_of_aloof {record : List Effect} (aloof : Aloof record) (count : Nat) :
    costs count (record.filterMap Effect.notice?) = 0 := by
  apply List.sum_eq_zero
  intro cost member
  rcases List.mem_map.mp member with ⟨notice, announced, rfl⟩
  rcases List.mem_filterMap.mp announced with ⟨effect, recorded, isNotice⟩
  have elsewhere := aloof effect recorded
  cases effect with
  | announced other =>
      cases isNotice
      rw [Effect.concernsSubscribers] at elsewhere
      rw [Notice.cost, elsewhere]
      rfl
  | _ => cases isNotice

/-- What is reported in a move, the workers owed, or it comes of the event that is passed on. -/
theorem debt_perform {gate : Gate}
    (composed : ∀ subscriber ∈ gate.fanout.subscribers, subscriber.Composed) (count : Nat)
    (move : Move) :
    (move.perform.run gate).state.fanout.debt count +
        costs count ((move.perform.run gate).effects.filterMap Effect.notice?) ≤
      gate.fanout.debt count + gate.fanout.workers.length *
        shares count ((move.passed? gate).toList.map Event.toNotice) := by
  have away (elsewhere : move.relays = false) :
      (move.perform.run gate).state.fanout.debt count +
          costs count ((move.perform.run gate).effects.filterMap Effect.notice?) ≤
        gate.fanout.debt count := by
    rw [costs_of_aloof (Aloof.perform elsewhere gate)]
    exact debt_elsewhere elsewhere count gate
  cases move with
  | turn choice =>
      cases choice with
      | worker index =>
          have paid := Fanout.debt_workerTurn composed count index
          simp only [Move.perform, turn, run_map, run_onFanout]
          exact Nat.le_add_right_of_le paid
      | relay stopFirst =>
          cases found : gate.relayTask? stopFirst with
          | none =>
              rw [run_relayTurn_idle found]
              exact Nat.le_add_right _ _
          | some task =>
              rw [run_relayTurn found, Move.passed?, found]
              cases task with
              | pass receipt bus =>
                  cases receipt with
                  | lagged missed => exact Nat.le_add_right _ _
                  | event event =>
                      have emitted := Fanout.debt_emit count event gate.fanout
                      simpa [doRelayTask, handleRelayed, changeBus, shares, List.filterMap_cons,
                        Effect.notice?] using emitted
              | _ => exact Nat.le_add_right _ _
      | _ => exact Nat.le_add_right_of_le (away rfl)
  | _ => exact Nat.le_add_right_of_le (away rfl)

theorem shares_perform {gate : Gate} {log : List Event} (sound : gate.Sound log) (count : Nat)
    (move : Move) : ∃ more, (move.perform.run gate).state.Sound (log ++ more) ∧
      shares count (((move.perform.run gate).state.bus.unread (log ++ more) .relay).map
          Event.toNotice) +
          shares count ((move.passed? gate).toList.map Event.toNotice) ≤
        shares count ((gate.bus.unread log .relay).map Event.toNotice) +
          shares count ((move.perform.run gate).effects.filterMap Effect.notice?) := by
  rcases sound.reads move with ⟨more, soundAfter, reads⟩
  refine ⟨more, soundAfter, ?_⟩
  have nothing (idle : ∀ stopFirst, move = .turn (.relay stopFirst) → ∀ receipt bus,
      gate.relayTask? stopFirst ≠ some (.pass receipt bus)) : move.passed? gate = none := by
    cases move with
    | turn choice =>
        cases choice with
        | relay stopFirst =>
            rw [Move.passed?]
            split
            · next event bus found => exact absurd found (idle stopFirst rfl _ _)
            · rfl
        | _ => rfl
    | _ => rfl
  cases reads with
  | gone idle free =>
      rw [Bus.unread_of_free free, nothing idle]
      exact Nat.zero_le _
  | waits idle notices unread =>
      rw [unread, nothing idle, List.map_append, shares_append, notices]
      exact Nat.le_refl _
  | takes stopFirst isTurn receipt bus found notices taken something read event unread =>
      rw [unread, read, List.map_append, List.map_append, shares_append, shares_append, notices]
      subst isTurn
      rw [Move.passed?, found]
      cases receipt with
      | event passed =>
          rw [event passed rfl]
          exact Nat.le_of_eq (by simp only [Option.toList_some]; omega)
      | lagged missed =>
          simp only [Option.toList_none, List.map_nil, shares, List.sum_nil]
          omega

end Gate

end TransferGate
