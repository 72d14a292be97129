import TransferGate.Proofs.Ledger

/-! # Requests

A request gets one reply: what came of working on it, or that the server has stopped
without working on it. Working on a request is one uninterrupted piece of what the controller does.
-/

namespace TransferGate

open Controller (Operation)

namespace Gate

open Activity

/-! ## What the controller does for requests -/

namespace Step

theorem outcome_of_served {step : Step} {request : Ticketed}
    (served : step.served? = some request) :
    ∃ rest, step.before.line = request :: rest ∧
      step.outcome = ⟨none, ((doServerTask (.serve request rest)).run step.before).state,
        ((doServerTask (.serve request rest)).run step.before).effects⟩ := by
  rcases step with ⟨before, move⟩
  unfold served? at served
  split at served
  · next isServer =>
      cases isServer
      split at served
      · next other rest found =>
          cases served
          refine ⟨rest, ?_, run_serverTurn found⟩
          cases due_of_serverTask? found with
          | serve serving goesOn waiting => exact waiting
      · cases served
  · cases served

theorem of_served {step : Step} {request : Ticketed} (served : step.served? = some request) :
    step.after.controller = (step.serving request).state ∧
      step.effects = (step.serving request).effects ++
        [.answered request.ticket (step.serving request).value] := by
  rcases outcome_of_served served with ⟨rest, -, outcome⟩
  simp only [after, effects, outcome, run_serve, serving, and_self]

theorem answers_of_served {step : Step} {request : Ticketed}
    (served : step.served? = some request) :
    step.answers = [(request.ticket, (step.serving request).value)] := by
  cases step.handles with
  | serves other running sent isServed answers =>
      cases Option.some.inj (isServed.symm.trans served)
      exact answers
  | nothing sent unserved => cases unserved.symm.trans served
  | accepts other running sent unserved => cases unserved.symm.trans served
  | refuses other closed sent unserved => cases unserved.symm.trans served
  | comesIn first sent unserved => cases unserved.symm.trans served
  | stops sent unserved => cases unserved.symm.trans served

private theorem request?_operations_serverTask (task : ServerTask) :
    task.operations.filterMap Operation.request? =
      match task with
      | .serve request _ => [request.request]
      | _ => [] := by
  cases task with
  | start => rfl
  | stop => rfl
  | serve request rest => rfl
  | lifecycle receipt bus =>
      cases receipt with
      | lagged missed => rfl
      | event event =>
          simp only [ServerTask.operations]
          split <;> rfl
  | observed receipt bus =>
      cases receipt with
      | lagged missed => rfl
      | event event =>
          simp only [ServerTask.operations]
          cases event.kind.observedSignal? <;> rfl

theorem request?_operations (step : Step) :
    step.operations.filterMap Operation.request? =
      (step.served?.map Ticketed.request).toList := by
  rcases step with ⟨before, move⟩
  cases move with
  | turn choice =>
      cases choice with
      | server =>
          simp only [operations, Move.operations, served?]
          cases before.serverTask? with
          | none => rfl
          | some task =>
              simp only [Option.map_some, Option.getD_some, request?_operations_serverTask]
              cases task <;> rfl
      | _ => rfl
  | _ => rfl

theorem exchanges (step : Step) {log : List Event} (sound : step.before.Sound log) :
    step.effects.filterMap Effect.exchange? =
      (step.before.controller.recordOf step.operations).filterMap Effect.exchange? := by
  have silent {effects : List Effect} (passing : ∀ effect ∈ effects, effect.isPassing = true) :
      effects.filterMap Effect.exchange? = [] := by
    apply List.filterMap_eq_nil_iff.mpr
    intro effect member
    have isPassing := passing effect member
    cases effect <;> first | rfl | cases isPassing
  cases publishes : step.move.signal? with
  | some signal =>
      rcases step with ⟨before, move⟩
      cases signal?_eq_some publishes
      rfl
  | none =>
      obtain ⟨ahead, behind, record, passingAhead, passingBehind⟩ :=
        (acts_perform sound.keeps sound.observing publishes).passing
      rw [Move.controller_base] at record
      rw [effects, outcome, record, List.filterMap_append, List.filterMap_append,
        silent passingAhead, silent passingBehind, List.nil_append, List.append_nil]
      rfl

end Step

/-- Requests are worked on one at a time, in the order in which they entered the line, and the
replies tell what came of that. -/
structure Orderly (gate : Gate) (steps : List Step) (last : Gate) : Prop where
  distinct : ((sent steps).map Ticketed.ticket).Nodup
  entersOnce : (entered steps).Nodup ∧ ∀ request ∈ entered steps, request ∈ sent steps
  inOrder : served steps <+: entered steps
  /-- A step that serves a request does that and nothing else. -/
  atomic : ∀ step ∈ steps, ∀ request, step.served? = some request →
    step.after.controller = (step.serving request).state ∧
      step.effects = (step.serving request).effects ++
        [.answered request.ticket (step.serving request).value]
  replay : last.controller = gate.controller.following (steps.flatMap Step.operations)
  exchanges : ∀ step ∈ steps, step.effects.filterMap Effect.exchange? =
    (step.before.controller.recordOf step.operations).filterMap Effect.exchange?
  requests : (steps.flatMap Step.operations).filterMap Operation.request? =
    (served steps).map Ticketed.request
  answeredOnce : ((answers steps).map Prod.fst).Nodup
  /-- A caller gets a result if the request was served exactly once, and this is the result. -/
  result : ∀ request ∈ sent steps, ∀ reply, reply ≠ .closed →
    ((request.ticket, reply) ∈ answers steps ↔
      ∃ before step after, steps = before ++ step :: after ∧ step.served? = some request ∧
        reply = (step.serving request).value ∧ request ∉ served (before ++ after))
  /-- A caller is refused if the request was not served and does not wait any more. -/
  refused : ∀ request ∈ sent steps, ((request.ticket, .closed) ∈ answers steps ↔
    request ∉ served steps ∧ request ∉ last.line ++ last.door)
  stopped : last.server = .stopped → last.line ++ last.door = []

namespace Ledger

variable {steps : List Step} {gate : Gate}

private theorem distinct (ledger : Ledger steps gate) :
    ((sent steps).map Ticketed.ticket).Nodup := by
  rw [ledger.tickets]
  exact List.nodup_range

private theorem nodup_sent (ledger : Ledger steps gate) : (sent steps).Nodup :=
  ledger.distinct.of_map _

theorem eq_of_ticket (ledger : Ledger steps gate) {first second : Ticketed}
    (firstSent : first ∈ sent steps) (secondSent : second ∈ sent steps)
    (same : first.ticket = second.ticket) : first = second :=
  List.inj_on_of_nodup_map ledger.distinct firstSent secondSent same

private theorem nodup_entered (ledger : Ledger steps gate) : (entered steps).Nodup := by
  rcases ledger.known with ⟨middle, perm, sublist⟩
  exact perm.nodup_iff.mp (ledger.nodup_sent.sublist sublist)

theorem nodup_served (ledger : Ledger steps gate) : (served steps).Nodup :=
  ledger.nodup_entered.sublist ledger.inOrder.sublist

theorem notMem_served_of_split {before after : List Step} {step : Step} {request : Ticketed}
    (once : (served (before ++ step :: after)).Nodup) (isServed : step.served? = some request) :
    request ∉ served (before ++ after) := by
  intro again
  have swapped : (served (before ++ step :: after)).Perm (request :: served (before ++ after)) := by
    refine ((List.perm_middle (a := step)).filterMap _).trans ?_
    simp [served, isServed]
  exact (List.nodup_cons.mp (swapped.nodup_iff.mp once)).1 again

private theorem map_fst_replies (steps : List Step) :
    (replies steps).map Prod.fst = (served steps).map Ticketed.ticket := by
  induction steps with
  | nil => rfl
  | cons step rest induction =>
      simp only [replies, served, List.filterMap_cons, Step.reply?] at induction ⊢
      cases step.served? with
      | none => exact induction
      | some request => exact congrArg (request.ticket :: ·) induction

theorem answeredOnce (ledger : Ledger steps gate) :
    ((answers steps).map Prod.fst).Nodup := by
  rcases ledger.settled with ⟨refused, settled, answered⟩
  have tickets : ((answers steps).map Prod.fst).Perm
      ((served steps).map Ticketed.ticket ++ refused.map Ticketed.ticket) := by
    refine (answered.map Prod.fst).trans ?_
    rw [List.map_append, map_fst_replies, List.map_map]
    exact .refl _
  rw [tickets.nodup_iff, ← List.map_append]
  have among := (settled.map Ticketed.ticket).nodup_iff.mp ledger.distinct
  refine among.sublist (List.Sublist.map _ ?_)
  apply List.Sublist.append (.refl _)
  exact (List.sublist_append_right _ _).trans (List.sublist_append_right _ _)

private theorem mem_replies {entry : Nat × Reply} : entry ∈ replies steps ↔
    ∃ step ∈ steps, ∃ request, step.served? = some request ∧
      entry = (request.ticket, (step.serving request).value) := by
  simp only [replies, List.mem_filterMap, Step.reply?, Option.map_eq_some_iff]
  constructor
  · rintro ⟨step, member, request, served, rfl⟩
    exact ⟨step, member, request, served, rfl⟩
  · rintro ⟨step, member, request, served, rfl⟩
    exact ⟨step, member, request, served, rfl⟩

theorem sent_of_served (ledger : Ledger steps gate) {request : Ticketed}
    (isServed : request ∈ served steps) : request ∈ sent steps := by
  rcases ledger.settled with ⟨refused, settled, -⟩
  exact settled.mem_iff.mpr (List.mem_append_left _ isServed)

theorem result (ledger : Ledger steps gate) {request : Ticketed} (isSent : request ∈ sent steps)
    {reply : Reply} (worked : reply ≠ .closed) :
    (request.ticket, reply) ∈ answers steps ↔
      ∃ before step after, steps = before ++ step :: after ∧ step.served? = some request ∧
        reply = (step.serving request).value ∧ request ∉ served (before ++ after) := by
  rcases ledger.settled with ⟨refused, settled, answered⟩
  rw [answered.mem_iff, List.mem_append]
  constructor
  · rintro (replied | isRefused)
    · rcases mem_replies.mp replied with ⟨step, member, other, isServed, entry⟩
      rcases Prod.mk.inj entry with ⟨sameTicket, rfl⟩
      have otherSent := ledger.sent_of_served (List.mem_filterMap.mpr ⟨step, member, isServed⟩)
      cases ledger.eq_of_ticket isSent otherSent sameTicket
      rcases List.append_of_mem member with ⟨before, after, split⟩
      have once := ledger.nodup_served
      rw [split] at once
      exact ⟨before, step, after, split, isServed, rfl, notMem_served_of_split once isServed⟩
    · rcases List.mem_map.mp isRefused with ⟨other, -, entry⟩
      exact absurd (Prod.mk.inj entry).2.symm worked
  · rintro ⟨before, step, after, rfl, isServed, rfl, -⟩
    exact .inl (mem_replies.mpr ⟨step, by simp, request, isServed, rfl⟩)

theorem refused (ledger : Ledger steps gate) {request : Ticketed} (isSent : request ∈ sent steps) :
    (request.ticket, .closed) ∈ answers steps ↔
      request ∉ served steps ∧ request ∉ gate.line ++ gate.door := by
  rcases ledger.settled with ⟨refused, settled, answered⟩
  have regrouped : (sent steps).Perm (refused ++ (served steps ++ (gate.line ++ gate.door))) := by
    apply settled.trans
    rw [← List.append_assoc gate.line, ← List.append_assoc]
    exact List.perm_append_comm
  have apart := (List.nodup_append.mp (regrouped.nodup_iff.mp ledger.nodup_sent)).2.2
  have isRefused_iff : (request.ticket, .closed) ∈ answers steps ↔ request ∈ refused := by
    rw [answered.mem_iff, List.mem_append]
    constructor
    · rintro (replied | isRefused)
      · rcases mem_replies.mp replied with ⟨step, -, other, -, entry⟩
        exact absurd (Prod.mk.inj entry).2.symm (Controller.serve_ne_closed _ _)
      · rcases List.mem_map.mp isRefused with ⟨other, otherRefused, entry⟩
        have otherSent := regrouped.mem_iff.mpr (List.mem_append_left _ otherRefused)
        cases ledger.eq_of_ticket isSent otherSent (Prod.mk.inj entry).1.symm
        exact otherRefused
    · exact fun isRefused => .inr (List.mem_map.mpr ⟨request, isRefused, rfl⟩)
  rw [isRefused_iff, ← not_or, ← List.mem_append]
  constructor
  · exact fun isRefused elsewhere => apart request isRefused request elsewhere rfl
  · intro nowhere
    rcases List.mem_append.mp (regrouped.mem_iff.mp isSent) with isRefused | elsewhere
    · exact isRefused
    · exact absurd elsewhere nowhere

end Ledger

private theorem sound_before {gate : Gate} {log : List Event} (sound : gate.Sound log)
    (moves : List Move) : ∀ step ∈ gate.steps moves, ∃ log, step.before.Sound log := by
  intro step member
  rcases before_of_mem_steps member with ⟨earlier, before⟩
  rcases sound.follow earlier with ⟨more, soundBefore⟩
  exact ⟨_, before ▸ soundBefore⟩

private theorem controller_following {gate : Gate} {log : List Event} (sound : gate.Sound log)
    (moves : List Move) : (gate.following moves).controller =
      gate.controller.following ((gate.steps moves).flatMap Step.operations) := by
  induction moves generalizing gate log with
  | nil => rfl
  | cons move rest induction =>
      rcases sound.perform move with ⟨more, soundNext, -⟩
      rw [following_cons, induction soundNext, controller_perform sound, steps, List.flatMap_cons,
        Controller.following_append]
      rfl

private theorem requests_operations (steps : List Step) :
    (steps.flatMap Step.operations).filterMap Operation.request? =
      (served steps).map Ticketed.request := by
  induction steps with
  | nil => rfl
  | cons step rest induction =>
      rw [List.flatMap_cons, List.filterMap_append, step.request?_operations, induction, served,
        served, List.filterMap_cons]
      cases step.served? <;> rfl

/-- In every run of a gate requests are dealt with in an orderly way. -/
theorem requests_orderly {settings : Settings} {host : Host} {subscribers : List Subscriber}
    {attached : Bool} {built : Outcome Gate Unit}
    (succeeds : build settings host subscribers attached = .ok built) (moves : List Move) :
    Orderly built.state (built.state.steps moves) (built.state.following moves) := by
  have fresh := fresh_of_build succeeds
  have ledger := (ledger_nil fresh.line fresh.door fresh.nextTicket).follow moves
  exact {
    distinct := ledger.distinct
    entersOnce := ⟨ledger.nodup_entered, fun request member => ledger.known.subset member⟩
    inOrder := ledger.inOrder
    atomic := fun step _ request served => Step.of_served served
    replay := controller_following fresh.sound moves
    exchanges := fun step member => by
      rcases sound_before fresh.sound moves step member with ⟨log, sound⟩
      exact step.exchanges sound
    requests := requests_operations _
    answeredOnce := ledger.answeredOnce
    result := fun request isSent reply worked => ledger.result isSent worked
    refused := fun request isSent => ledger.refused isSent
    stopped := fun isStopped => by
      rw [(ledger.closed isStopped).1, (ledger.closed isStopped).2]
      rfl }

/-- Two requests, a cancellation, and one more request: the first is served, the second is
found in line by the cancellation, and the third comes too late. -/
theorem requests_orderly_of_cancelled :
    ∃ built, build {} (.create {} .calm true) [] false = .ok built ∧
      let moves : List Move := [.send (.begin .upload), .send .isObserving, .turn .server,
        .turn .server, .cancel, .turn .server, .send .conditions]
      answers (built.state.steps moves) = [(0, .status .running), (1, .closed), (2, .closed)] ∧
        Orderly built.state (built.state.steps moves) (built.state.following moves) :=
  ⟨_, rfl, rfl, requests_orderly (show build {} (.create {} .calm true) [] false = _ from rfl) _⟩

end Gate

end TransferGate
