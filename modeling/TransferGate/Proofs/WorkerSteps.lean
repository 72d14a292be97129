import TransferGate.Proofs.Handing

/-! # What a worker does

A worker is offered events, and it takes turns. Its *backlog* is the event that its
subscriber is busy with, followed by its queue. An offer adds the event at the end, or
changes nothing and may be reported; a turn takes at most one event from the front,
when the subscriber is through with it. A turn in which a subscriber refuses an event
is the exception: it loses the backlog.
-/

namespace TransferGate

open Activity

namespace Effect

def queuedFor? (index : Nat) : Effect → Option Event
  | .queued subscriber event => if subscriber = index then some event else none
  | _ => none

def deliveredTo? (index : Nat) : Effect → Option Event
  | .delivered subscriber event => if subscriber = index then some event else none
  | _ => none

end Effect

def Subscriber.panicReport? (subscriber : Subscriber) (event : Event) : Option Notice :=
  (subscriber.reaction event).panics.map fun payload =>
    .panicked subscriber.name payload.message

namespace Worker

/-! ## Offers -/

def backlog (worker : Worker) : List Event := worker.pausedOn.toList ++ worker.queue

def offered (event : Event) (worker : Worker) : Worker :=
  match worker.obstacle? with
  | none => { worker with queue := worker.queue ++ [event] }
  | some _ => worker

def accepted? (event : Event) (worker : Worker) : Option Event :=
  match worker.obstacle? with
  | none => some event
  | some _ => none

def dropReport? (event : Event) (worker : Worker) : Option Notice :=
  match event.kind with
  | .subscriberOverflow => none
  | _ => worker.obstacle?.map (.overflow worker.subscriber.name)

theorem run_reportDrop (event : Event) (name reason : String) (worker : Worker) :
    (reportDrop event name reason).run worker =
      ⟨(), worker, match event.kind with
        | .subscriberOverflow => []
        | _ => [.announced (.overflow name reason)]⟩ := by
  unfold reportDrop
  cases event.kind <;> rfl

theorem run_offer (event : Event) (index : Nat) (worker : Worker) :
    (offer event index).run worker =
      ⟨(), worker.offered event,
        ((worker.accepted? event).map (Effect.queued index)).toList ++
          ((worker.dropReport? event).map Effect.announced).toList⟩ := by
  rw [offer, run_bind, run_get, offered, accepted?, dropReport?]
  cases obstacle : worker.obstacle? with
  | none => cases event.kind <;> rfl
  | some reason =>
      simp only [run_reportDrop]
      cases event.kind <;> rfl

theorem backlog_offered (event : Event) (worker : Worker) :
    (worker.offered event).backlog = worker.backlog ++ (worker.accepted? event).toList := by
  unfold offered accepted?
  cases worker.obstacle? <;> simp [backlog]

theorem subscriber_offered (event : Event) (worker : Worker) :
    (worker.offered event).subscriber = worker.subscriber := by
  unfold offered
  cases worker.obstacle? <;> rfl

theorem ended_offered (event : Event) (worker : Worker) :
    (worker.offered event).ended = worker.ended := by
  unfold offered
  cases worker.obstacle? <;> rfl

theorem pausedOn_offered (event : Event) (worker : Worker) :
    (worker.offered event).pausedOn = worker.pausedOn := by
  unfold offered
  cases worker.obstacle? <;> rfl

theorem obstacle?_eq_none {worker : Worker} :
    worker.obstacle? = none ↔ worker.ended = false ∧ worker.queue.length < worker.slots := by
  unfold obstacle?
  cases worker.ended <;> simp

theorem dropReport?_eq {event : Event} (worker : Worker)
    (other : event.kind ≠ .subscriberOverflow) :
    worker.dropReport? event = worker.obstacle?.map (.overflow worker.subscriber.name) := by
  unfold dropReport?
  cases kind : event.kind <;> first | rfl | exact absurd kind other

theorem dropReport?_of_overflow {event : Event} (worker : Worker)
    (report : event.kind = .subscriberOverflow) : worker.dropReport? event = none := by
  rw [dropReport?, report]

/-! ## Turns -/

namespace Task

inductive Due (worker : Worker) (closed : Bool) : Task → Prop where
  | resume (going : worker.ended = false) {event : Event} (paused : worker.pausedOn = some event)
      {permits : Nat} (permitted : worker.permits = permits + 1) :
      Due worker closed (.resume event permits)
  | fail (going : worker.ended = false) (free : worker.pausedOn = none) {event : Event}
      {rest : List Event} (waiting : worker.queue = event :: rest)
      (refuses : (worker.subscriber.reaction event).refuses = true) : Due worker closed .fail
  | start (going : worker.ended = false) (free : worker.pausedOn = none) {event : Event}
      {rest : List Event} (waiting : worker.queue = event :: rest)
      (takes : (worker.subscriber.reaction event).refuses = false) :
      Due worker closed (.start event rest)
  | leave (going : worker.ended = false) (free : worker.pausedOn = none)
      (nothing : worker.queue = []) (isClosed : closed = true) : Due worker closed .leave

def begun? : Task → Option Event
  | .start event _ => some event
  | _ => none

def finished? (worker : Worker) : Task → Option Event
  | .resume event _ => some event
  | .start event _ =>
      match (worker.subscriber.reaction event).waits with
      | true => none
      | false => some event
  | _ => none

def next (worker : Worker) : Task → Worker
  | .resume _ permits => { worker with pausedOn := none, permits := permits }
  | .fail => { worker with queue := [], ended := true }
  | .start event rest =>
      match (worker.subscriber.reaction event).waits with
      | true => { worker with queue := rest, pausedOn := some event }
      | false => { worker with queue := rest }
  | .leave => { worker with ended := true }

theorem subscriber_next (worker : Worker) (task : Task) :
    (task.next worker).subscriber = worker.subscriber := by
  cases task with
  | start event rest =>
      rw [next]
      cases (worker.subscriber.reaction event).waits <;> rfl
  | _ => rfl

end Task

theorem due_of_task? {worker : Worker} {closed : Bool} {task : Task}
    (found : worker.task? closed = some task) : task.Due worker closed := by
  unfold task? at found
  cases ended : worker.ended with
  | true => simp [ended] at found
  | false =>
      cases paused : worker.pausedOn with
      | some event =>
          cases permitted : worker.permits with
          | zero => simp [ended, paused, permitted] at found
          | succ permits =>
              simp only [ended, paused, permitted, Option.some.injEq] at found
              subst found
              exact .resume ended paused permitted
      | none =>
          cases waiting : worker.queue with
          | nil =>
              cases isClosed : closed with
              | false => simp [ended, paused, waiting, isClosed] at found
              | true =>
                  simp only [ended, paused, waiting, isClosed, if_true, Option.some.injEq] at found
                  subst found
                  exact .leave ended paused waiting rfl
          | cons event rest =>
              cases refuses : (worker.subscriber.reaction event).refuses with
              | true =>
                  simp only [ended, paused, waiting, refuses, if_true, Option.some.injEq] at found
                  subst found
                  exact .fail ended paused waiting refuses
              | false =>
                  simp only [ended, paused, waiting, refuses, Bool.false_eq_true, if_false,
                    Option.some.injEq] at found
                  subst found
                  exact .start ended paused waiting refuses

def Task.effects (index : Nat) (worker : Worker) (lines : List LogLine) (task : Task) :
    List Effect :=
  (task.begun?.map (Effect.delivered index)).toList ++ lines.map Effect.logged ++
    (((task.finished? worker).bind worker.subscriber.panicReport?).map Effect.announced).toList

theorem Task.notices_effects (index : Nat) (worker : Worker) (lines : List LogLine) (task : Task) :
    (task.effects index worker lines).filterMap Effect.notice? =
      ((task.finished? worker).bind worker.subscriber.panicReport?).toList := by
  have silent : (lines.map Effect.logged).filterMap Effect.notice? = [] := by simp [Effect.notice?]
  rw [effects, List.filterMap_append, List.filterMap_append, silent]
  cases task.begun? <;>
    cases (task.finished? worker).bind worker.subscriber.panicReport? <;> rfl

theorem Task.delivered_effects (index other : Nat) (worker : Worker) (lines : List LogLine)
    (task : Task) : (task.effects index worker lines).filterMap (Effect.deliveredTo? other) =
      if index = other then task.begun?.toList else [] := by
  have silent : (lines.map Effect.logged).filterMap (Effect.deliveredTo? other) = [] := by
    simp [Effect.deliveredTo?]
  rw [effects, List.filterMap_append, List.filterMap_append, silent]
  by_cases same : index = other <;> cases task.begun? <;>
    cases (task.finished? worker).bind worker.subscriber.panicReport? <;>
      simp [Effect.deliveredTo?, same]

theorem Task.queued_effects (index other : Nat) (worker : Worker) (lines : List LogLine)
    (task : Task) :
    (task.effects index worker lines).filterMap (Effect.queuedFor? other) = [] := by
  have silent : (lines.map Effect.logged).filterMap (Effect.queuedFor? other) = [] := by
    simp [Effect.queuedFor?]
  rw [effects, List.filterMap_append, List.filterMap_append, silent]
  cases task.begun? <;>
    cases (task.finished? worker).bind worker.subscriber.panicReport? <;> rfl

theorem run_finish (subscriber : Subscriber) (event : Event) (worker : Worker) :
    ∃ lines : List LogLine,
      (finish subscriber.name (subscriber.reaction event).panics).run worker =
        ⟨(), worker, lines.map Effect.logged ++
          ((subscriber.panicReport? event).map Effect.announced).toList⟩ := by
  rw [Subscriber.panicReport?]
  cases (subscriber.reaction event).panics with
  | none => exact ⟨[], rfl⟩
  | some payload => exact ⟨[.subscriberPanicked subscriber.name payload.message], rfl⟩

theorem run_writeLine (line : Option LogLine) (worker : Worker) :
    (writeLine line).run worker = ⟨(), worker, line.toList.map Effect.logged⟩ := by
  cases line <;> rfl

theorem run_doTask (index : Nat) (worker : Worker) (task : Task) : ∃ lines : List LogLine,
    (doTask index worker task).run worker =
      ⟨(), task.next worker, task.effects index worker lines⟩ := by
  cases task with
  | resume event permits =>
      obtain ⟨lines, finished⟩ := run_finish worker.subscriber event
        { worker with pausedOn := none, permits := permits }
      refine ⟨lines, ?_⟩
      simp [doTask, finished, Task.next, Task.effects, Task.begun?, Task.finished?]
  | fail => exact ⟨[], rfl⟩
  | leave => exact ⟨[], rfl⟩
  | start event rest =>
      rcases run_finish worker.subscriber event { worker with queue := rest } with ⟨lines, finished⟩
      simp only [doTask, run_bind, run_emit, run_writeLine, Task.effects, Task.next, Task.begun?,
        Task.finished?]
      cases (worker.subscriber.reaction event).waits with
      | true => exact ⟨(worker.subscriber.reaction event).line.toList, by simp⟩
      | false =>
          refine ⟨(worker.subscriber.reaction event).line.toList ++ lines, ?_⟩
          simp [finished]

private theorem run_turn_idle {worker : Worker} {closed : Bool} (idle : worker.task? closed = none)
    (index : Nat) : (turn index closed).run worker = ⟨false, worker, []⟩ := by
  simp [turn, idle]

theorem run_turn {worker : Worker} {closed : Bool} {task : Task}
    (found : worker.task? closed = some task) (index : Nat) : ∃ lines : List LogLine,
    (turn index closed).run worker = ⟨true, task.next worker, task.effects index worker lines⟩ := by
  rcases run_doTask index worker task with ⟨lines, done⟩
  exact ⟨lines, by simp [turn, found, done]⟩

theorem backlog_next {worker : Worker} {closed : Bool} {task : Task} (due : task.Due worker closed)
    (keeps : task ≠ .fail) :
    worker.backlog = (task.finished? worker).toList ++ (task.next worker).backlog := by
  cases due with
  | resume going paused permitted =>
      simp [backlog, Task.finished?, Task.next, paused]
  | fail => exact absurd rfl keeps
  | @start going free event rest waiting takes =>
      cases waits : (worker.subscriber.reaction event).waits <;>
        simp [backlog, Task.finished?, Task.next, free, waiting, waits]
  | leave going free nothing isClosed =>
      simp [backlog, Task.finished?, Task.next]

theorem pausedOn_next {worker : Worker} {closed : Bool} {task : Task}
    (due : task.Due worker closed) :
    worker.pausedOn.toList ++ task.begun?.toList =
      (task.finished? worker).toList ++ (task.next worker).pausedOn.toList := by
  cases due with
  | resume going paused permitted => simp [Task.begun?, Task.finished?, Task.next, paused]
  | fail going free waiting refuses => simp [Task.begun?, Task.finished?, Task.next]
  | @start going free event rest waiting takes =>
      cases waits : (worker.subscriber.reaction event).waits <;>
        simp [Task.begun?, Task.finished?, Task.next, free, waits]
  | leave going free nothing isClosed => simp [Task.begun?, Task.finished?, Task.next]

end Worker

/-! ## All workers -/

namespace Fanout

private theorem eachFrom_offer (event : Event) (number : Nat) (workers : List Worker) :
    (eachFrom (Worker.offer event) number workers).state = workers.map (Worker.offered event) := by
  induction workers generalizing number with
  | nil => rfl
  | cons worker rest induction =>
      simp only [eachFrom, Worker.run_offer, induction, List.map_cons]

private theorem notices_eachFrom (event : Event) (number : Nat) (workers : List Worker) :
    (eachFrom (Worker.offer event) number workers).effects.filterMap Effect.notice? =
      workers.filterMap (Worker.dropReport? event) := by
  induction workers generalizing number with
  | nil => rfl
  | cons worker rest induction =>
      simp only [eachFrom, Worker.run_offer, List.filterMap_append, induction, List.filterMap_cons]
      cases worker.accepted? event <;> cases worker.dropReport? event <;> rfl

theorem run_emit (event : Event) (fanout : Fanout) :
    ((emit event).run fanout).state =
      { fanout with workers := fanout.workers.map (Worker.offered event) } := by
  rw [emit, run_on, onEach]
  exact congrArg (fun workers => { fanout with workers := workers })
    (eachFrom_offer event 0 fanout.workers)

theorem notices_emit (event : Event) (fanout : Fanout) :
    ((emit event).run fanout).effects.filterMap Effect.notice? =
      fanout.workers.filterMap (Worker.dropReport? event) :=
  notices_eachFrom event 0 fanout.workers

private theorem queued_eachFrom_below (event : Event) {other number : Nat} (below : other < number)
    (workers : List Worker) :
    (eachFrom (Worker.offer event) number workers).effects.filterMap (Effect.queuedFor? other) =
      [] := by
  induction workers generalizing number with
  | nil => rfl
  | cons worker rest induction =>
      have apart : number ≠ other := by omega
      simp only [eachFrom, Worker.run_offer, List.filterMap_append,
        induction (Nat.lt_succ_of_lt below), List.append_nil]
      cases worker.accepted? event <;> cases worker.dropReport? event <;>
        simp [Effect.queuedFor?, apart]

private theorem queued_eachFrom (event : Event) (number place : Nat) (workers : List Worker) :
    (eachFrom (Worker.offer event) number workers).effects.filterMap
        (Effect.queuedFor? (number + place)) =
      (workers[place]?.bind (Worker.accepted? event)).toList := by
  induction workers generalizing number place with
  | nil => rfl
  | cons worker rest induction =>
      simp only [eachFrom, Worker.run_offer, List.filterMap_append]
      cases place with
      | zero =>
          rw [queued_eachFrom_below event (by omega)]
          cases accepted : worker.accepted? event <;> cases worker.dropReport? event <;>
            simp [Effect.queuedFor?, accepted]
      | succ place =>
          have later := induction (number + 1) place
          rw [Nat.add_right_comm, Nat.add_assoc] at later
          rw [later]
          cases worker.accepted? event <;> cases worker.dropReport? event <;>
            simp [Effect.queuedFor?]

theorem queued_emit (event : Event) (index : Nat) (fanout : Fanout) :
    ((emit event).run fanout).effects.filterMap (Effect.queuedFor? index) =
      (fanout.workers[index]?.bind (Worker.accepted? event)).toList := by
  have queued := queued_eachFrom event 0 index fanout.workers
  rw [Nat.zero_add] at queued
  exact queued

theorem delivered_eachFrom (event : Event) (index number : Nat) (workers : List Worker) :
    (eachFrom (Worker.offer event) number workers).effects.filterMap (Effect.deliveredTo? index) =
      [] := by
  induction workers generalizing number with
  | nil => rfl
  | cons worker rest induction =>
      simp only [eachFrom, Worker.run_offer, List.filterMap_append, induction, List.append_nil]
      cases worker.accepted? event <;> cases worker.dropReport? event <;> rfl

theorem run_workerTurn {fanout : Fanout} {index : Nat} {worker : Worker} {task : Worker.Task}
    (found : fanout.workers[index]? = some worker) (due : worker.task? fanout.closed = some task) :
    ∃ lines : List LogLine, (workerTurn index).run fanout =
      ⟨true, { fanout with workers := fanout.workers.set index (task.next worker) },
        task.effects index worker lines⟩ := by
  rcases Worker.run_turn due index with ⟨lines, done⟩
  refine ⟨lines, ?_⟩
  change workerTurn index fanout = _
  simp only [workerTurn, found, done]

theorem run_workerTurn_idle {fanout : Fanout} {index : Nat}
    (idle : fanout.workerTask? index = none) :
    (workerTurn index).run fanout = ⟨false, fanout, []⟩ := by
  change workerTurn index fanout = _
  unfold workerTurn workerTask? at *
  cases found : fanout.workers[index]? with
  | none => rfl
  | some worker =>
      rw [found] at idle
      have same : fanout.workers.set index worker = fanout.workers := by
        rw [List.getElem?_eq_some_iff] at found
        rcases found with ⟨bound, rfl⟩
        exact List.set_getElem_self bound
      simp only [Worker.run_turn_idle idle, same]

end Fanout

end TransferGate
