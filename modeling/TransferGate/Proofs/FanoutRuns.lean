import TransferGate.Proofs.FanoutSteps

/-! # Runs of a fan-out

What a single act does to one worker adds up over runs. Only what is emitted is ever accepted,
and what becomes of one subscriber is a matter of the acts that concern it.
-/

namespace TransferGate

open Activity

namespace Fanout

/-! ## Runs -/

structure Step where
  before : Fanout
  act : Act

namespace Step

def outcome (step : Step) : Outcome Fanout Unit := step.act.perform.run step.before

def after (step : Step) : Fanout := step.outcome.state

def notices (step : Step) : List Notice := step.outcome.effects.filterMap Effect.notice?

def accepted (index : Nat) (step : Step) : List Event :=
  step.outcome.effects.filterMap (Effect.queuedFor? index)

def begun (index : Nat) (step : Step) : List Event :=
  step.outcome.effects.filterMap (Effect.deliveredTo? index)

def finished (index : Nat) (step : Step) : List Event :=
  (step.before.workers[index]?.bind fun worker =>
    step.act.finished? index step.before.closed worker).toList

end Step

def steps (fanout : Fanout) : List Act → List Step
  | [] => []
  | act :: rest => ⟨fanout, act⟩ :: steps (act.perform.run fanout).state rest

def following (fanout : Fanout) : List Act → Fanout
  | [] => fanout
  | act :: rest => following (act.perform.run fanout).state rest

/-- What the run means for one of the workers. -/
structure Balance (index : Nat) (worker : Worker) (steps : List Step) (last : Worker) : Prop where
  accepted : worker.backlog ++ steps.flatMap (Step.accepted index) =
    steps.flatMap (Step.finished index) ++ last.backlog
  begun : worker.pausedOn.toList ++ steps.flatMap (Step.begun index) =
    steps.flatMap (Step.finished index) ++ last.pausedOn.toList
  name : last.subscriber.name = worker.subscriber.name
  capacity : last.subscriber.capacity = worker.subscriber.capacity

private theorem name_next (index : Nat) (closed : Bool) (worker : Worker) (act : Act) :
    (act.next index closed worker).subscriber.name = worker.subscriber.name ∧
      (act.next index closed worker).subscriber.capacity = worker.subscriber.capacity := by
  cases act with
  | emit event =>
      rw [Act.next, Worker.subscriber_offered]
      exact ⟨rfl, rfl⟩
  | turn other =>
      rw [Act.next]
      split
      · cases worker.task? closed with
        | none => exact ⟨rfl, rfl⟩
        | some task =>
            rw [Option.elim_some, Worker.Task.subscriber_next]
            exact ⟨rfl, rfl⟩
      · exact ⟨rfl, rfl⟩
  | close => exact ⟨rfl, rfl⟩
  | permit other count =>
      rw [Act.next]
      split <;> exact ⟨rfl, rfl⟩
  | change other manner =>
      rw [Act.next]
      split <;> exact ⟨rfl, rfl⟩

private theorem Balance.cons {index : Nat} {fanout : Fanout} {worker last : Worker}
    {rest : List Step} (found : fanout.workers[index]? = some worker)
    (fit : worker.Fit fanout.closed) (act : Act)
    (later : Balance index (act.next index fanout.closed worker) rest last) :
    Balance index worker (⟨fanout, act⟩ :: rest) last where
  accepted := by
    have accepted : Step.accepted index ⟨fanout, act⟩ = (act.accepted? worker).toList := by
      rw [Step.accepted, Step.outcome, queued_perform, found, Option.bind_some]
    have finished : Step.finished index ⟨fanout, act⟩ =
        (act.finished? index fanout.closed worker).toList := by
      rw [Step.finished, found, Option.bind_some]
    rw [List.flatMap_cons, List.flatMap_cons, accepted, finished, ← List.append_assoc,
      fit.backlog_next _ index act, List.append_assoc, later.accepted, List.append_assoc]
  begun := by
    have begun : Step.begun index ⟨fanout, act⟩ =
        (act.begun? index fanout.closed worker).toList := by
      rw [Step.begun, Step.outcome, delivered_perform, found, Option.bind_some]
    have finished : Step.finished index ⟨fanout, act⟩ =
        (act.finished? index fanout.closed worker).toList := by
      rw [Step.finished, found, Option.bind_some]
    rw [List.flatMap_cons, List.flatMap_cons, begun, finished, ← List.append_assoc,
      act.pausedOn_next, List.append_assoc, later.begun, List.append_assoc]
  name := later.name.trans (name_next ..).1
  capacity := later.capacity.trans (name_next ..).2

theorem balance {index : Nat} {fanout : Fanout} {worker : Worker}
    (found : fanout.workers[index]? = some worker) (fit : worker.Fit fanout.closed)
    (acts : List Act) : ∃ last, (fanout.following acts).workers[index]? = some last ∧
      last.Fit (fanout.following acts).closed ∧ Balance index worker (fanout.steps acts) last := by
  induction acts generalizing fanout worker with
  | nil => exact ⟨worker, found, fit, by simp [steps], by simp [steps], rfl, rfl⟩
  | cons act rest induction =>
      have foundNext : (act.perform.run fanout).state.workers[index]? =
          some (act.next index fanout.closed worker) := by
        rw [workers_perform, found, Option.map_some]
      have fitNext := fit.next id index act
      rw [← closed_perform] at fitNext
      rcases induction foundNext fitNext with ⟨last, foundLast, fitLast, later⟩
      exact ⟨last, foundLast, fitLast, .cons found fit act later⟩

/-! ## Nothing is accepted but what is emitted -/

theorem accepted_sublist (index : Nat) (fanout : Fanout) (acts : List Act) :
    ((fanout.steps acts).flatMap (Step.accepted index)).Sublist (acts.filterMap Act.event?) := by
  induction acts generalizing fanout with
  | nil => exact .slnil
  | cons act rest induction =>
      have later := induction (act.perform.run fanout).state
      have now : (Step.accepted index ⟨fanout, act⟩).Sublist act.event?.toList := by
        rw [Step.accepted, Step.outcome, queued_perform]
        cases act with
        | emit event =>
            cases fanout.workers[index]? with
            | none => exact List.nil_sublist _
            | some worker =>
                rw [Option.bind_some, Act.accepted?, Worker.accepted?]
                cases worker.obstacle? with
                | none => exact .refl _
                | some reason => exact List.nil_sublist _
        | _ => cases fanout.workers[index]? <;> exact .slnil
      rw [steps, List.flatMap_cons, List.filterMap_cons]
      cases happened : act.event? with
      | none =>
          rw [happened] at now
          rw [List.sublist_nil.mp now]
          exact later
      | some event =>
          rw [happened] at now
          exact now.append later

/-! ## What does not concern a subscriber -/

/-- The fan-outs do not differ for this subscriber. -/
structure Alike (index : Nat) (first second : Fanout) : Prop where
  worker : first.workers[index]? = second.workers[index]?
  closed : first.closed = second.closed

structure SameFate (index : Nat) (first second : List Step) : Prop where
  accepted : first.flatMap (Step.accepted index) = second.flatMap (Step.accepted index)
  begun : first.flatMap (Step.begun index) = second.flatMap (Step.begun index)
  finished : first.flatMap (Step.finished index) = second.flatMap (Step.finished index)

private theorem SameFate.append {index : Nat} {first second firstRest secondRest : List Step}
    (fate : SameFate index first second) (later : SameFate index firstRest secondRest) :
    SameFate index (first ++ firstRest) (second ++ secondRest) where
  accepted := by rw [List.flatMap_append, List.flatMap_append, fate.accepted, later.accepted]
  begun := by rw [List.flatMap_append, List.flatMap_append, fate.begun, later.begun]
  finished := by rw [List.flatMap_append, List.flatMap_append, fate.finished, later.finished]

namespace Alike

variable {index : Nat} {first second : Fanout} {act : Act}

private theorem perform (alike : Alike index first second) (act : Act) :
    Alike index (act.perform.run first).state (act.perform.run second).state where
  worker := by rw [workers_perform, workers_perform, alike.worker, alike.closed]
  closed := by rw [closed_perform, closed_perform, alike.closed]

private theorem step (alike : Alike index first second) (act : Act) :
    SameFate index [⟨first, act⟩] [⟨second, act⟩] where
  accepted := by simp [Step.accepted, Step.outcome, queued_perform, alike.worker]
  begun := by simp [Step.begun, Step.outcome, delivered_perform, alike.worker, alike.closed]
  finished := by simp [Step.finished, alike.worker, alike.closed]

private theorem ignore (alike : Alike index first second) (aloof : act.concerns index = false) :
    Alike index (act.perform.run first).state second := by
  constructor
  · rw [workers_perform, ← alike.worker]
    cases first.workers[index]? with
    | none => rfl
    | some worker =>
        cases act with
        | emit event => cases aloof
        | close => cases aloof
        | _ =>
            rw [Option.map_some, Act.next, if_neg]
            simpa [Act.concerns] using aloof
  · rw [closed_perform, alike.closed]
    cases act with
    | close => cases aloof
    | _ => exact Bool.or_false _

private theorem ignored (fanout : Fanout) (aloof : act.concerns index = false) :
    SameFate index [⟨fanout, act⟩] [] := by
  cases act with
  | emit event => cases aloof
  | close => cases aloof
  | turn other =>
      have different : ¬other = index := by simpa [Act.concerns] using aloof
      constructor <;>
        cases found : fanout.workers[index]? <;>
          simp [Step.accepted, Step.begun, Step.finished, Step.outcome, queued_perform,
            delivered_perform, Act.accepted?, Act.begun?, Act.finished?, found, different]
  | _ =>
      constructor <;>
        cases found : fanout.workers[index]? <;>
          simp [Step.accepted, Step.begun, Step.finished, Step.outcome, queued_perform,
            delivered_perform, Act.accepted?, Act.begun?, Act.finished?, found]

theorem filtered (alike : Alike index first second) (acts : List Act) :
    Alike index (first.following acts) (second.following (acts.filter (Act.concerns index))) ∧
      SameFate index (first.steps acts) (second.steps (acts.filter (Act.concerns index))) := by
  induction acts generalizing first second with
  | nil => exact ⟨alike, rfl, rfl, rfl⟩
  | cons act rest induction =>
      cases concerned : act.concerns index with
      | true =>
          rw [List.filter_cons_of_pos concerned]
          rcases induction (alike.perform act) with ⟨alikeAfter, fate⟩
          exact ⟨alikeAfter, (alike.step act).append fate⟩
      | false =>
          rw [List.filter_cons_of_neg (by simp [concerned])]
          rcases induction (alike.ignore concerned) with ⟨alikeAfter, fate⟩
          exact ⟨alikeAfter, (ignored first concerned).append fate⟩

/-- What becomes of a subscriber is a matter of the acts that concern it. -/
theorem following (alike : Alike index first second) {acts others : List Act}
    (same : acts.filter (Act.concerns index) = others.filter (Act.concerns index)) :
    Alike index (first.following acts) (second.following others) ∧
      SameFate index (first.steps acts) (second.steps others) := by
  rcases alike.filtered acts with ⟨firstAlike, firstFate⟩
  obtain ⟨secondAlike, secondFate⟩ :=
    (show Alike index second second from ⟨rfl, rfl⟩).filtered others
  rw [← same] at secondAlike secondFate
  refine ⟨⟨firstAlike.worker.trans secondAlike.worker.symm,
    firstAlike.closed.trans secondAlike.closed.symm⟩, ?_, ?_, ?_⟩
  · exact firstFate.accepted.trans secondFate.accepted.symm
  · exact firstFate.begun.trans secondFate.begun.symm
  · exact firstFate.finished.trans secondFate.finished.symm

end Alike

end Fanout

end TransferGate
