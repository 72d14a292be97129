import Mathlib.Data.List.Induction
import TransferGate.Proofs.WorkerSteps

/-! # Steps of a fan-out

A fan-out is given an event, a turn, a change of a subscriber, or an order to stop. To each of
its workers such an act means a turn, an offer, or nothing, so what becomes of the workers is
told for one of them at a time. Between acts a worker is `Fit`: it keeps to its slots, and it
leaves only when there is nothing more to do.
-/

namespace TransferGate

open Activity

namespace Fanout

/-! ## Acts -/

/-- A way to react that begins with every event. -/
structure Manner where
  reaction : Event → Reaction
  takes : ∀ event, (reaction event).refuses = false

def change (fanout : Fanout) (index : Nat) (manner : Manner) : Fanout :=
  { fanout with workers := fanout.workers.modify index fun worker =>
      { worker with subscriber := { worker.subscriber with reaction := manner.reaction } } }

/-- Anything that may be done next with a fan-out. -/
inductive Act where
  | emit (event : Event)
  | turn (index : Nat)
  | permit (index count : Nat)
  | change (index : Nat) (manner : Manner)
  | close

namespace Act

def perform : Act → Activity Fanout Unit
  | .emit event => Fanout.emit event
  | .turn index => (fun _ => ()) <$> workerTurn index
  | .permit index count => Activity.modify fun fanout => fanout.permit index count
  | .change index manner => Activity.modify fun fanout => fanout.change index manner
  | .close => Activity.modify Fanout.close

def event? : Act → Option Event
  | .emit event => some event
  | _ => none

def concerns (index : Nat) : Act → Bool
  | .emit _ => true
  | .turn other => other == index
  | .permit other _ => other == index
  | .change other _ => other == index
  | .close => true

/-! ## What an act means for one worker -/

section

variable (index : Nat) (closed : Bool) (worker : Worker)

def next : Act → Worker
  | .emit event => worker.offered event
  | .turn other =>
      if other = index then (worker.task? closed).elim worker (·.next worker) else worker
  | .permit other count =>
      if other = index then { worker with permits := worker.permits + count } else worker
  | .change other manner =>
      if other = index then
        { worker with subscriber := { worker.subscriber with reaction := manner.reaction } }
      else worker
  | .close => worker

def accepted? : Act → Option Event
  | .emit event => worker.accepted? event
  | _ => none

def begun? : Act → Option Event
  | .turn other => if other = index then (worker.task? closed).bind Worker.Task.begun? else none
  | _ => none

def finished? : Act → Option Event
  | .turn other =>
      if other = index then (worker.task? closed).bind (Worker.Task.finished? worker) else none
  | _ => none

def closes : Act → Bool
  | .close => true
  | _ => false

end

end Act

/-! ## One act -/

theorem run_turn_idle {fanout : Fanout} {index : Nat} (idle : fanout.workerTask? index = none) :
    (Act.turn index).perform.run fanout = ⟨(), fanout, []⟩ := by
  rw [Act.perform, run_map, run_workerTurn_idle idle]

theorem run_turn {fanout : Fanout} {index : Nat} {worker : Worker} {task : Worker.Task}
    (found : fanout.workers[index]? = some worker) (due : worker.task? fanout.closed = some task) :
    ∃ lines : List LogLine, (Act.turn index).perform.run fanout =
      ⟨(), { fanout with workers := fanout.workers.set index (task.next worker) },
        task.effects index worker lines⟩ := by
  rcases run_workerTurn found due with ⟨lines, run⟩
  exact ⟨lines, by rw [Act.perform, run_map, run]⟩

theorem workerTask?_cases (fanout : Fanout) (index : Nat) :
    fanout.workerTask? index = none ∨ ∃ worker task, fanout.workers[index]? = some worker ∧
      worker.task? fanout.closed = some task := by
  cases due : fanout.workerTask? index with
  | none => exact .inl rfl
  | some task =>
      rcases Option.bind_eq_some_iff.mp due with ⟨worker, found, isDue⟩
      exact .inr ⟨worker, task, found, isDue⟩

theorem closed_perform (act : Act) (fanout : Fanout) :
    (act.perform.run fanout).state.closed = (fanout.closed || act.closes) := by
  cases act with
  | turn index =>
      rcases fanout.workerTask?_cases index with idle | ⟨worker, task, found, due⟩
      · rw [run_turn_idle idle]
        exact (Bool.or_false _).symm
      · rcases run_turn found due with ⟨lines, run⟩
        rw [run]
        exact (Bool.or_false _).symm
  | close => exact (Bool.or_true _).symm
  | emit event =>
      rw [Act.perform, run_emit]
      exact (Bool.or_false _).symm
  | permit index count => exact (Bool.or_false _).symm
  | change index manner => exact (Bool.or_false _).symm

theorem workers_perform (act : Act) (fanout : Fanout) (index : Nat) :
    (act.perform.run fanout).state.workers[index]? =
      fanout.workers[index]?.map fun worker => act.next index fanout.closed worker := by
  cases act with
  | emit event => simp [Act.perform, run_emit, Act.next]
  | close => simp [Act.perform, Fanout.close, Act.next]
  | permit other count =>
      simp only [Act.perform, Fanout.permit, run_modify, List.getElem?_modify]
      rfl
  | change other manner =>
      simp only [Act.perform, Fanout.change, run_modify, List.getElem?_modify]
      rfl
  | turn other =>
      rcases fanout.workerTask?_cases other with idle | ⟨worker, task, found, due⟩
      · rw [run_turn_idle idle]
        cases known : fanout.workers[index]? with
        | none => rfl
        | some worker =>
            by_cases same : other = index
            · subst same
              have nothing : worker.task? fanout.closed = none := by
                simpa [workerTask?, known] using idle
              simp [Act.next, nothing]
            · simp [Act.next, same]
      · rcases run_turn found due with ⟨lines, run⟩
        rw [run]
        by_cases same : other = index
        · subst same
          have bound := (List.getElem?_eq_some_iff.mp found).1
          rw [List.getElem?_set_self bound, found]
          simp [Act.next, due]
        · simp [Act.next, same, List.getElem?_set_ne same]

theorem queued_perform (act : Act) (fanout : Fanout) (index : Nat) :
    (act.perform.run fanout).effects.filterMap (Effect.queuedFor? index) =
      (fanout.workers[index]?.bind fun worker => act.accepted? worker).toList := by
  cases act with
  | emit event => exact queued_emit event index fanout
  | turn other =>
      rcases fanout.workerTask?_cases other with idle | ⟨worker, task, found, due⟩
      · rw [run_turn_idle idle]
        cases fanout.workers[index]? <;> rfl
      · rcases run_turn found due with ⟨lines, run⟩
        rw [run, Worker.Task.queued_effects]
        cases fanout.workers[index]? <;> rfl
  | _ => cases fanout.workers[index]? <;> rfl

theorem delivered_perform (act : Act) (fanout : Fanout) (index : Nat) :
    (act.perform.run fanout).effects.filterMap (Effect.deliveredTo? index) =
      (fanout.workers[index]?.bind fun worker =>
        act.begun? index fanout.closed worker).toList := by
  cases act with
  | emit event =>
      refine (delivered_eachFrom event index 0 fanout.workers).trans ?_
      cases fanout.workers[index]? <;> rfl
  | turn other =>
      rcases fanout.workerTask?_cases other with idle | ⟨worker, task, found, due⟩
      · rw [run_turn_idle idle]
        cases known : fanout.workers[index]? with
        | none => rfl
        | some worker =>
            by_cases same : other = index
            · subst same
              have nothing : worker.task? fanout.closed = none := by
                simpa [workerTask?, known] using idle
              simp [Act.begun?, nothing]
            · simp [Act.begun?, same]
      · rcases run_turn found due with ⟨lines, run⟩
        rw [run, Worker.Task.delivered_effects]
        by_cases same : other = index
        · subst same
          simp [Act.begun?, found, due]
        · cases fanout.workers[index]? <;> simp [Act.begun?, same]
  | _ => cases fanout.workers[index]? <;> rfl

theorem notices_perform (act : Act) (fanout : Fanout) :
    (act.perform.run fanout).effects.filterMap Effect.notice? =
      match act with
      | .emit event => fanout.workers.filterMap (Worker.dropReport? event)
      | .turn index => (fanout.workers[index]?.bind fun worker =>
          (act.finished? index fanout.closed worker).bind worker.subscriber.panicReport?).toList
      | _ => [] := by
  cases act with
  | emit event => exact notices_emit event fanout
  | turn index =>
      rcases fanout.workerTask?_cases index with idle | ⟨worker, task, found, due⟩
      · rw [run_turn_idle idle]
        cases known : fanout.workers[index]? with
        | none => simp [known]
        | some worker =>
            have nothing : worker.task? fanout.closed = none := by
              simpa [workerTask?, known] using idle
            simp [known, Act.finished?, nothing]
      · rcases run_turn found due with ⟨lines, run⟩
        rw [run, Worker.Task.notices_effects]
        simp [Act.finished?, found, due]
  | _ => rfl

end Fanout

/-! ## What is always true about a worker -/

/-- The worker takes every event, keeps to its slots, and leaves only when there is nothing more
to do. -/
structure Worker.Fit (worker : Worker) (closed : Bool) : Prop where
  takes : ∀ event, (worker.subscriber.reaction event).refuses = false
  bounded : worker.queue.length ≤ worker.slots
  left : worker.ended = true → closed = true ∧ worker.backlog = []

namespace Worker.Fit

open Fanout (Act)

variable {worker : Worker} {closed late : Bool}

private theorem not_fail (fit : worker.Fit late) {task : Task} (due : task.Due worker closed) :
    task ≠ .fail := by
  rintro rfl
  cases due with
  | @fail going free event rest waiting refuses =>
      rw [fit.takes event] at refuses
      cases refuses

private theorem offered (fit : worker.Fit closed) (event : Event) :
    (worker.offered event).Fit closed where
  takes := by
    rw [subscriber_offered]
    exact fit.takes
  bounded := by
    unfold Worker.offered
    cases obstacle : worker.obstacle? with
    | some reason => exact fit.bounded
    | none =>
        have hasRoom := (obstacle?_eq_none.mp obstacle).2
        simpa [slots, Nat.add_one_le_iff] using hasRoom
  left ended := by
    rw [ended_offered] at ended
    have isGone : worker.accepted? event = none := by simp [accepted?, obstacle?, ended]
    rw [backlog_offered, isGone, Option.toList_none, List.append_nil]
    exact fit.left ended

private theorem turned (fit : worker.Fit late) (inTime : closed = true → late = true) {task : Task}
    (due : task.Due worker closed) : (task.next worker).Fit late where
  takes := by
    rw [Task.subscriber_next]
    exact fit.takes
  bounded := by
    have bounded := fit.bounded
    have shorter : (task.next worker).queue.length ≤ worker.queue.length := by
      cases due with
      | @start going free event rest waiting takes =>
          rw [Task.next, waiting]
          cases (worker.subscriber.reaction event).waits <;> simp
      | fail => exact Nat.zero_le _
      | _ => exact Nat.le_refl _
    have same : (task.next worker).slots = worker.slots := by
      rw [slots, slots, Task.subscriber_next]
    omega
  left ended := by
    have keeps := fit.not_fail due
    cases due with
    | leave going free nothing isClosed =>
        exact ⟨inTime isClosed, by simp [Task.next, backlog, free, nothing]⟩
    | fail => exact absurd rfl keeps
    | resume going paused permitted => simp [Task.next, going] at ended
    | @start going free event rest waiting takes =>
        rw [Task.next] at ended
        cases waits : (worker.subscriber.reaction event).waits <;> simp [waits, going] at ended

theorem next (fit : worker.Fit late) (inTime : closed = true → late = true) (index : Nat)
    (act : Act) : (act.next index closed worker).Fit (late || act.closes) := by
  cases act with
  | emit event => simpa [Act.next, Act.closes] using fit.offered event
  | close => exact ⟨fit.takes, fit.bounded, fun ended => ⟨by simp [Act.closes], (fit.left ended).2⟩⟩
  | permit other count =>
      simp only [Act.next, Act.closes, Bool.or_false]
      split
      · exact ⟨fit.takes, fit.bounded, fit.left⟩
      · exact fit
  | change other manner =>
      simp only [Act.next, Act.closes, Bool.or_false]
      split
      · exact ⟨manner.takes, fit.bounded, fit.left⟩
      · exact fit
  | turn other =>
      simp only [Act.next, Act.closes, Bool.or_false]
      split
      · cases found : worker.task? closed with
        | none => exact fit
        | some task => exact fit.turned inTime (due_of_task? found)
      · exact fit

/-- An act adds what is accepted to the end of the backlog, and takes from the front what the
subscriber is through with. -/
theorem backlog_next (fit : worker.Fit late) (closed : Bool) (index : Nat) (act : Act) :
    worker.backlog ++ (act.accepted? worker).toList =
      (act.finished? index closed worker).toList ++ (act.next index closed worker).backlog := by
  cases act with
  | emit event => exact (worker.backlog_offered event).symm
  | close => exact List.append_nil _
  | permit other count =>
      rw [Act.next]
      split <;> exact List.append_nil _
  | change other manner =>
      rw [Act.next]
      split <;> exact List.append_nil _
  | turn other =>
      simp only [Act.next, Act.finished?, Act.accepted?, Option.toList_none, List.append_nil]
      split
      · cases found : worker.task? closed with
        | none => rfl
        | some task =>
            have due := due_of_task? found
            exact Worker.backlog_next due (fit.not_fail due)
      · rfl

end Worker.Fit

namespace Fanout

theorem Act.pausedOn_next (index : Nat) (closed : Bool) (worker : Worker) (act : Act) :
    worker.pausedOn.toList ++ (act.begun? index closed worker).toList =
      (act.finished? index closed worker).toList ++
        (act.next index closed worker).pausedOn.toList := by
  cases act with
  | emit event =>
      rw [Act.next, Worker.pausedOn_offered]
      exact List.append_nil _
  | close => exact List.append_nil _
  | permit other count =>
      rw [Act.next]
      split <;> exact List.append_nil _
  | change other manner =>
      rw [Act.next]
      split <;> exact List.append_nil _
  | turn other =>
      rw [Act.next, Act.finished?, Act.begun?]
      split
      · cases found : worker.task? closed with
        | none => exact List.append_nil _
        | some task => exact Worker.pausedOn_next (Worker.due_of_task? found)
      · exact List.append_nil _

theorem Act.queue_next {worker : Worker} {late : Bool} (fit : worker.Fit late) (closed : Bool)
    (index : Nat) (act : Act) :
    worker.queue ++ (act.accepted? worker).toList =
      (act.begun? index closed worker).toList ++ (act.next index closed worker).queue := by
  have backlog := fit.backlog_next closed index act
  rw [Worker.backlog, Worker.backlog, ← List.append_assoc, ← act.pausedOn_next, List.append_assoc,
    List.append_assoc] at backlog
  exact List.append_cancel_left backlog

end Fanout

end TransferGate
