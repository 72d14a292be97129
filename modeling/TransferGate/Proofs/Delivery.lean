import TransferGate.Proofs.FanoutRuns

/-! # Delivery to subscribers

Events are handed to a fan-out at any time, its workers take turns in any order, and
subscribers may be slow, panic, and change their ways. For each subscriber the accepted
events are those it is through with, the one it is busy with, and its queue. What is
not accepted is reported, and so is every panic.
-/

namespace TransferGate

open Activity

namespace Fanout

theorem eq_of_create {subscribers : List Subscriber} {fanout : Fanout}
    (created : create subscribers = .ok fanout) :
    fanout = { workers := subscribers.map fun subscriber => { subscriber := subscriber } } := by
  unfold create at created
  cases checked : subscribers.forM fun subscriber =>
      CapacityError.checkQueue (max subscriber.capacity 1) with
  | error failure =>
      rw [checked] at created
      cases created
  | ok _ =>
      rw [checked] at created
      cases created
      rfl

structure Delivers (subscribers : List Subscriber) (fanout : Fanout) (acts : List Act) : Prop where
  /-- What is accepted for a subscriber is what it is through with, what it is busy with, and
  what is queued. -/
  accounted : ∀ (index : Nat) (subscriber : Subscriber), subscribers[index]? = some subscriber →
    ∃ worker, (fanout.following acts).workers[index]? = some worker ∧
      worker.subscriber.name = subscriber.name ∧
      (fanout.steps acts).flatMap (Step.accepted index) =
        (fanout.steps acts).flatMap (Step.finished index) ++ worker.pausedOn.toList ++
          worker.queue ∧
      (fanout.steps acts).flatMap (Step.begun index) =
        (fanout.steps acts).flatMap (Step.finished index) ++ worker.pausedOn.toList ∧
      worker.queue.length ≤ max subscriber.capacity 1
  inOrder : ∀ index : Nat,
    ((fanout.steps acts).flatMap (Step.accepted index)).Sublist (acts.filterMap Act.event?)
  drops : ∀ event : Event,
    (⟨fanout.following acts, .emit event⟩ : Step).notices =
      if event.kind = .subscriberOverflow then []
      else (fanout.following acts).workers.filterMap fun worker =>
        worker.obstacle?.map (.overflow worker.subscriber.name)
  accepts : ∀ (event : Event) (index : Nat) (worker : Worker),
    (fanout.following acts).workers[index]? = some worker →
      (⟨fanout.following acts, .emit event⟩ : Step).accepted index =
        if worker.obstacle? = none then [event] else []
  obstacles : (fanout.following acts).closed = false →
    ∀ worker ∈ (fanout.following acts).workers,
      worker.obstacle? = if worker.queue.length < worker.slots then none else some "full"
  panics : ∀ (index : Nat) (worker : Worker),
    (fanout.following acts).workers[index]? = some worker →
      let step : Step := ⟨fanout.following acts, .turn index⟩
      step.notices = (step.finished index).filterMap worker.subscriber.panicReport? ∧
        ∀ event ∈ step.finished index, ∃ after, step.after.workers[index]? = some after ∧
          after.ended = false ∧ ∀ next rest, after.queue = next :: rest →
            after.task? step.after.closed = some (.start next rest)
  silent : ∀ act : Act, act.event? = none → (∀ index, act ≠ .turn index) →
    (⟨fanout.following acts, act⟩ : Step).notices = []
  /-- Nobody waits but for a subscriber that is busy. -/
  diligent : ∀ worker ∈ (fanout.following acts).workers, worker.queue ≠ [] →
    worker.task? (fanout.following acts).closed = none →
      worker.pausedOn.isSome = true ∧ worker.permits = 0
  /-- What a subscriber is handed does not depend on the others. -/
  apart : ∀ (index : Nat) (others : List Subscriber) (other : Fanout) (otherActs : List Act),
    create others = .ok other → others[index]? = subscribers[index]? →
      otherActs.filter (Act.concerns index) = acts.filter (Act.concerns index) →
        SameFate index (fanout.steps acts) (other.steps otherActs)
  drained : (fanout.following acts).isDrained = true → ∀ index < subscribers.length,
    (fanout.steps acts).flatMap (Step.accepted index) =
      (fanout.steps acts).flatMap (Step.finished index)

section

variable {subscribers : List Subscriber} {fanout : Fanout}

private theorem found_of_create (created : create subscribers = .ok fanout) (index : Nat) :
    fanout.workers[index]? = subscribers[index]?.map fun subscriber =>
      { subscriber := subscriber } := by
  rw [eq_of_create created, List.getElem?_map]

theorem balance_of_create (created : create subscribers = .ok fanout)
    (willing : ∀ subscriber ∈ subscribers, ∀ event, (subscriber.reaction event).refuses = false)
    (acts : List Act) {index : Nat} {subscriber : Subscriber}
    (known : subscribers[index]? = some subscriber) :
    ∃ last, (fanout.following acts).workers[index]? = some last ∧
      last.Fit (fanout.following acts).closed ∧
      Balance index { subscriber := subscriber } (fanout.steps acts) last := by
  have found : fanout.workers[index]? = some { subscriber := subscriber } := by
    rw [found_of_create created, known, Option.map_some]
  refine balance found ⟨willing subscriber (List.mem_of_getElem? known), Nat.zero_le _, ?_⟩ acts
  simp

private theorem length_perform (act : Act) (fanout : Fanout) :
    (act.perform.run fanout).state.workers.length = fanout.workers.length := by
  cases act with
  | turn index =>
      rcases fanout.workerTask?_cases index with idle | ⟨worker, task, found, due⟩
      · rw [run_turn_idle idle]
      · rcases run_turn found due with ⟨lines, run⟩
        rw [run]
        exact List.length_set
  | emit event => simp [Act.perform, run_emit]
  | close => rfl
  | permit index count => simp [Act.perform, Fanout.permit]
  | change index manner => simp [Act.perform, Fanout.change]

private theorem length_following (acts : List Act) (fanout : Fanout) :
    (fanout.following acts).workers.length = fanout.workers.length := by
  induction acts generalizing fanout with
  | nil => rfl
  | cons act rest induction => exact (induction _).trans (length_perform act fanout)

private theorem fit_of_create (created : create subscribers = .ok fanout)
    (willing : ∀ subscriber ∈ subscribers, ∀ event, (subscriber.reaction event).refuses = false)
    (acts : List Act) {worker : Worker} (member : worker ∈ (fanout.following acts).workers) :
    worker.Fit (fanout.following acts).closed := by
  rcases List.mem_iff_getElem?.mp member with ⟨index, found⟩
  have bound : index < subscribers.length := by
    have inside := (List.getElem?_eq_some_iff.mp found).1
    rw [length_following, eq_of_create created, List.length_map] at inside
    exact inside
  obtain ⟨last, foundLast, fit, -⟩ :=
    balance_of_create created willing acts (List.getElem?_eq_getElem bound)
  rw [found] at foundLast
  cases foundLast
  exact fit

private theorem goesOn_of_finished {worker : Worker} {closed : Bool} {task : Worker.Task}
    (fit : worker.Fit closed) (due : task.Due worker closed) {event : Event}
    (finished : task.finished? worker = some event) :
    (task.next worker).ended = false ∧ ∀ next rest, (task.next worker).queue = next :: rest →
      (task.next worker).task? closed = some (.start next rest) := by
  have starts (after : Worker) (going : after.ended = false) (free : after.pausedOn = none)
      (takes : ∀ event, (after.subscriber.reaction event).refuses = false) :
      after.ended = false ∧ ∀ next rest, after.queue = next :: rest →
        after.task? closed = some (.start next rest) := by
    refine ⟨going, fun next rest waiting => ?_⟩
    simp [Worker.task?, going, free, waiting, takes]
  cases due with
  | resume going paused permitted => exact starts _ going rfl fit.takes
  | fail going free waiting refuses => cases finished
  | leave going free nothing isClosed => cases finished
  | @start going free current rest waiting takes =>
      cases waits : (worker.subscriber.reaction current).waits with
      | true => simp [Worker.Task.finished?, waits] at finished
      | false =>
          simp only [Worker.Task.next, waits]
          exact starts { worker with queue := rest } going free fit.takes

theorem diligent_of_fit {worker : Worker} {closed late : Bool} (fit : worker.Fit late)
    (waiting : worker.queue ≠ []) (idle : worker.task? closed = none) :
    worker.pausedOn.isSome = true ∧ worker.permits = 0 := by
  have going : worker.ended = false := by
    cases ended : worker.ended with
    | false => rfl
    | true => exact absurd (List.append_eq_nil_iff.mp (fit.left ended).2).2 waiting
  rcases List.exists_cons_of_ne_nil waiting with ⟨next, rest, isNext⟩
  cases paused : worker.pausedOn with
  | none => simp [Worker.task?, going, paused, isNext, fit.takes] at idle
  | some event =>
      cases permits : worker.permits with
      | zero => exact ⟨rfl, rfl⟩
      | succ permits => simp [Worker.task?, going, paused, permits] at idle

end

namespace Step

variable (fanout : Fanout) {index : Nat} {worker : Worker}

private theorem notices_emit (event : Event) :
    (⟨fanout, .emit event⟩ : Step).notices =
      if event.kind = .subscriberOverflow then []
      else fanout.workers.filterMap fun worker =>
        worker.obstacle?.map (.overflow worker.subscriber.name) := by
  rw [notices, outcome, notices_perform]
  by_cases report : event.kind = .subscriberOverflow
  · simp [report, Worker.dropReport?_of_overflow]
  · have reports : Worker.dropReport? event = fun worker : Worker =>
        worker.obstacle?.map (.overflow worker.subscriber.name) :=
      funext fun worker => worker.dropReport?_eq report
    rw [if_neg report]
    exact congrArg (fun report? => fanout.workers.filterMap report?) reports

private theorem accepted_emit (event : Event) (found : fanout.workers[index]? = some worker) :
    (⟨fanout, .emit event⟩ : Step).accepted index =
      if worker.obstacle? = none then [event] else [] := by
  rw [accepted, outcome, queued_perform, found, Option.bind_some, Act.accepted?, Worker.accepted?]
  cases worker.obstacle? <;> rfl

private theorem finished_turn (found : fanout.workers[index]? = some worker) :
    (⟨fanout, .turn index⟩ : Step).finished index =
      ((worker.task? fanout.closed).bind (Worker.Task.finished? worker)).toList := by
  rw [finished, found, Option.bind_some, Act.finished?, if_pos rfl]

private theorem notices_turn (found : fanout.workers[index]? = some worker) :
    (⟨fanout, .turn index⟩ : Step).notices =
      ((⟨fanout, .turn index⟩ : Step).finished index).filterMap
        worker.subscriber.panicReport? := by
  rw [finished_turn fanout found, notices, outcome, notices_perform]
  simp only [found, Option.bind_some, Act.finished?, if_pos]
  cases (worker.task? fanout.closed).bind (Worker.Task.finished? worker) with
  | none => rfl
  | some event => cases panics : worker.subscriber.panicReport? event <;> simp [panics]

private theorem goesOn_turn (found : fanout.workers[index]? = some worker)
    (fit : worker.Fit fanout.closed) {event : Event}
    (member : event ∈ (⟨fanout, .turn index⟩ : Step).finished index) :
    ∃ last, (Step.after ⟨fanout, .turn index⟩).workers[index]? = some last ∧
      last.ended = false ∧ ∀ next rest, last.queue = next :: rest →
        last.task? (Step.after ⟨fanout, .turn index⟩).closed = some (.start next rest) := by
  rw [finished_turn fanout found, Option.mem_toList, Option.bind_eq_some_iff] at member
  rcases member with ⟨task, isDue, isFinished⟩
  rcases goesOn_of_finished fit (Worker.due_of_task? isDue) isFinished with ⟨going, goesOn⟩
  refine ⟨task.next worker, ?_, going, ?_⟩
  · rw [after, outcome, workers_perform, found, Option.map_some, Act.next, if_pos rfl, isDue,
      Option.elim_some]
  · rw [after, outcome, closed_perform]
    simp only [Act.closes, Bool.or_false]
    exact goesOn

private theorem notices_other {act : Act} (noEvent : act.event? = none)
    (noTurn : ∀ index, act ≠ .turn index) : (⟨fanout, act⟩ : Step).notices = [] := by
  rw [notices, outcome, notices_perform]
  cases act with
  | emit event => cases noEvent
  | turn index => exact absurd rfl (noTurn index)
  | _ => rfl

end Step

section

variable {subscribers : List Subscriber} {fanout : Fanout}

/-- Whatever is done with a fan-out, nothing is lost silently. -/
theorem events_delivered (created : create subscribers = .ok fanout)
    (willing : ∀ subscriber ∈ subscribers, ∀ event, (subscriber.reaction event).refuses = false)
    (acts : List Act) : fanout.Delivers subscribers acts where
  accounted index subscriber known := by
    rcases balance_of_create created willing acts known with ⟨last, found, fit, balance⟩
    refine ⟨last, found, balance.name, ?_, ?_, ?_⟩
    · rw [List.append_assoc]
      exact balance.accepted
    · exact balance.begun
    · have bounded := fit.bounded
      rw [Worker.slots, balance.capacity] at bounded
      exact bounded
  inOrder index := accepted_sublist index fanout acts
  drops := Step.notices_emit _
  accepts event _ _ found := Step.accepted_emit _ event found
  obstacles isOpen worker member := by
    have fit := fit_of_create created willing acts member
    have going : worker.ended = false := by
      cases ended : worker.ended with
      | false => rfl
      | true =>
          rw [(fit.left ended).1] at isOpen
          cases isOpen
    simp [Worker.obstacle?, going]
  panics _ _ found :=
    ⟨Step.notices_turn _ found, fun _ => Step.goesOn_turn _ found
      (fit_of_create created willing acts (List.mem_of_getElem? found))⟩
  silent _ := Step.notices_other _
  diligent worker member := diligent_of_fit (fit_of_create created willing acts member)
  apart index others other otherActs otherCreated same concerned := by
    have alike : Alike index fanout other := by
      constructor
      · rw [found_of_create created, found_of_create otherCreated, same]
      · rw [eq_of_create created, eq_of_create otherCreated]
    exact (alike.following concerned.symm).2
  drained isDrained index bound := by
    obtain ⟨last, found, fit, balance⟩ :=
      balance_of_create created willing acts (List.getElem?_eq_getElem bound)
    have ended : last.ended = true :=
      List.all_eq_true.mp isDrained last (List.mem_of_getElem? found)
    have accepted := balance.accepted
    rw [(fit.left ended).2, List.append_nil] at accepted
    exact accepted

/-- A slow subscriber misses the third of three events and panics on the first, while a quick one
gets all of them. -/
theorem events_delivered_of_slow :
    let slow : Subscriber :=
      { name := "slow", capacity := 1,
        reaction := fun _ => { waits := true, panics := some (.text "boom") } }
    let quick : Subscriber := { name := "quick", reaction := fun _ => {} }
    let ready : Event := { Notice.signal .appReady with seq := 0 }
    let acts : List Act := [.emit ready, .turn 0, .emit ready, .emit ready, .turn 1, .turn 1,
      .turn 1, .permit 0 1, .turn 0]
    ∃ fanout, create [slow, quick] = .ok fanout ∧
      (fanout.steps acts).flatMap Step.notices =
        [.overflow "slow" "full", .panicked "slow" "boom"] ∧
      (fanout.steps acts).flatMap (Step.begun 0) = [ready] ∧
      (fanout.steps acts).flatMap (Step.begun 1) = [ready, ready, ready] ∧
      fanout.Delivers [slow, quick] acts := by
  intro slow quick ready acts
  refine ⟨_, rfl, by decide +kernel, by decide +kernel, by decide +kernel,
    events_delivered rfl ?_ acts⟩
  intro subscriber member event
  simp only [List.mem_cons, List.not_mem_nil, or_false] at member
  rcases member with rfl | rfl <;> rfl

end

end Fanout

end TransferGate
