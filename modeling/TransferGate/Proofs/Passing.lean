import TransferGate.Proofs.Serving

/-! # From the bus to the subscribers

An event can be missed in two places. The relay may fall behind, and then it warns of
the gap. A subscriber may have a full queue, and then the drop is reported, unless the
event was such a report. Everything else that is published comes to the subscriber.
-/

namespace TransferGate

open Activity

open Fanout (Act)

namespace Gate

/-! ## Reports of drops -/

private theorem filter_notices_emit {fanout : Fanout}
    (fit : ∀ worker ∈ fanout.workers, worker.Fit false) (event : Event) :
    (((Fanout.emit event).run fanout).effects.filterMap Effect.notice?).filter
        (fun notice => notice.kind == .subscriberOverflow) =
      if event.kind = .subscriberOverflow then []
      else (fanout.workers.filter Worker.isFull).map fun worker =>
        .overflow worker.subscriber.name "full" := by
  rw [Fanout.notices_emit]
  generalize fanout.workers = workers at fit
  by_cases report : event.kind = .subscriberOverflow
  · simp [report, Worker.dropReport?_of_overflow]
  · rw [if_neg report]
    induction workers with
    | nil => rfl
    | cons worker rest induction =>
        have later := induction fun other member => fit other (List.mem_cons_of_mem _ member)
        rw [List.filterMap_cons, List.filter_cons, worker.dropReport?_eq report,
          (fit worker (List.mem_cons_self ..)).obstacle?_eq]
        cases worker.isFull with
        | true => exact congrArg (.overflow worker.subscriber.name "full" :: ·) later
        | false => exact later

namespace Step

private theorem overflows_eq (move : Move) {gate : Gate}
    (fit : ∀ worker ∈ gate.fanout.workers, worker.Fit (gate.relay != .listening)) :
    overflows ⟨gate, move⟩ = dropReports ⟨gate, move⟩ := by
  have aloof : ∀ effect : Effect, effect.concernsSubscribers = false →
      (effect.notice?.filter fun notice => notice.kind == .subscriberOverflow) = none := by
    intro effect aloof
    cases effect with
    | announced notice =>
        rcases notice with ⟨kind⟩
        cases kind <;> first | rfl | cases aloof
    | _ => rfl
  rw [overflows, notices, List.filter_filterMap, effects, outcome,
    picked_perform aloof fun _ => rfl, dropReports, passed?_eq_event?]
  cases acts : move.act? gate with
  | none => rfl
  | some act =>
      rw [Option.elim_some, ← List.filter_filterMap, Option.bind_some]
      cases act with
      | emit event =>
          rw [listening_of_emit acts] at fit
          exact filter_notices_emit fit event
      | turn index =>
          rw [Fanout.notices_perform, List.filter_eq_nil_iff.mpr]
          · rfl
          · intro notice member
            obtain ⟨worker, -, reported⟩ := Option.bind_eq_some_iff.mp (Option.mem_toList.mp member)
            rcases Option.bind_eq_some_iff.mp reported with ⟨event, -, panicked⟩
            rcases Option.map_eq_some_iff.mp panicked with ⟨payload, -, rfl⟩
            exact Bool.false_ne_true
      | _ => rfl

end Step

/-! ## Nothing is missed untold -/

structure Handed (index : Nat) (subscriber : Subscriber) (past : List Step) (gate : Gate) :
    Prop where
  inOrder : (handed index past).Sublist (passed past)
  once : (handed index past).Pairwise fun earlier later => earlier.seq < later.seq
  /-- Whatever was passed on before the last event that the subscriber was handed, it was handed
  too, unless its queue was full at that moment. -/
  complete : handed index past <+: accepted index past
  /-- And it will be handed the rest, unless the tasks are taken away. -/
  rest : (∀ step ∈ past, step.move ≠ .abandon) → ∃ worker,
    gate.fanout.workers[index]? = some worker ∧ worker.subscriber = subscriber ∧
      accepted index past = handed index past ++ worker.queue

/-- What is published and what the subscribers of a gate get of it. -/
structure TellsGaps (subscribers : List Subscriber) (past : List Step) (gate : Gate) : Prop where
  numbered : (published past).Pairwise fun earlier later => earlier.seq < later.seq
  told : ∀ step ∈ past, step.Tells
  /-- With its gaps, this is a first part of what is published, and while the relay listens the rest
  is on the bus for it to read. -/
  read : ∃ processed, HasRead past gate processed
  onBus : gate.relay = .listening → gate.bus.Keeps (published past)
  passed : (past.flatMap Step.effects).filterMap Effect.relayed? = passed past ∧
    passed past = (past.filterMap Step.reading?).filterMap Receipt.event? ∧
      (passed past).Pairwise fun earlier later => earlier.seq < later.seq
  stopped : gate.relay ≠ .listening → ∀ moves,
    (gate.following moves).relay ≠ .listening ∧
      (gate.steps moves).filterMap Step.reading? = [] ∧
        (gate.recordOf moves).filterMap Effect.relayed? = []
  handed : ∀ (index : Nat) (subscriber : Subscriber), subscribers[index]? = some subscriber →
    Handed index subscriber past gate
  overflows : past.flatMap Step.overflows = past.flatMap Step.dropReports
  named : ∀ step ∈ past, step.before.fanout.subscribers = subscribers

private theorem accepted_sublist_passed (index : Nat) (past : List Step) :
    (accepted index past).Sublist (passed past) := by
  induction past with
  | nil => exact .slnil
  | cons step rest induction =>
      rw [accepted, passed, List.filterMap_cons, List.filterMap_cons, Step.accepted?]
      cases passes : step.passed? with
      | none => exact induction
      | some event =>
          cases full : step.before.fanout.workers[index]?.any Worker.isFull with
          | true => exact induction.cons event
          | false => exact induction.cons_cons event

theorem passed_eq_readings (past : List Step) :
    passed past = (past.filterMap Step.reading?).filterMap Receipt.event? := by
  rw [passed, List.filterMap_filterMap]
  exact congrArg (fun pick => past.filterMap pick) (funext Step.passed?_eq)

private theorem unrelayed_emit (event : Event) (fanout : Fanout) :
    ((Fanout.emit event).run fanout).effects.filterMap Effect.relayed? = [] := by
  apply List.filterMap_eq_nil_iff.mpr
  intro effect member
  have handing := Fanout.emit_hands event fanout effect member
  cases effect <;> first | rfl | cases handing

private theorem Step.relayed_eq_passed? (step : Step) :
    step.effects.filterMap Effect.relayed? = step.passed?.toList := by
  have tells := step.tells
  rw [Tells] at tells
  rw [passed?_eq]
  cases reads : step.reading? with
  | none =>
      rw [reads] at tells
      exact tells
  | some receipt =>
      rw [reads] at tells
      cases receipt with
      | event event =>
          rw [tells, List.filterMap_cons]
          exact congrArg (event :: ·) (unrelayed_emit event step.before.fanout)
      | lagged missed =>
          rw [tells]
          rfl

private theorem relayed_eq_passed (past : List Step) :
    (past.flatMap Step.effects).filterMap Effect.relayed? = passed past := by
  induction past with
  | nil => rfl
  | cons step rest induction =>
      rw [List.flatMap_cons, List.filterMap_append, induction, step.relayed_eq_passed?, passed,
        passed, List.filterMap_cons]
      cases step.passed? <;> rfl

private theorem unread_following {gate : Gate} (unlistening : gate.relay ≠ .listening)
    (moves : List Move) : (gate.steps moves).filterMap Step.reading? = [] := by
  apply List.filterMap_eq_nil_iff.mpr
  intro step member
  rcases before_of_mem_steps member with ⟨earlier, before⟩
  cases reads : step.reading? with
  | none => rfl
  | some receipt =>
      have listening := (Step.listening_of_reading? reads).1
      rw [before] at listening
      exact absurd listening (unrelayed_following unlistening earlier).1

/-- Whatever is done with a gate, nothing that is published is missed without being told. -/
theorem gaps_told {settings : Settings} {host : Host} {subscribers : List Subscriber}
    {attached : Bool} {built : Outcome Gate Unit}
    (succeeds : build settings host subscribers attached = .ok built)
    (willing : ∀ subscriber ∈ subscribers, ∀ event, (subscriber.reaction event).refuses = false)
    (moves : List Move) :
    TellsGaps subscribers (built.state.steps moves) (built.state.following moves) := by
  rcases hasRead_following succeeds moves with ⟨processed, hasRead⟩
  have numbered : (published (built.state.steps moves)).Pairwise fun earlier later =>
      earlier.seq < later.seq := Event.number_increases 0 _
  have readings := passed_eq_readings (built.state.steps moves)
  have passedOnce : (passed (built.state.steps moves)).Pairwise fun earlier later =>
      earlier.seq < later.seq := by
    rw [readings]
    exact (numbered.sublist hasRead.first.sublist).sublist hasRead.covers.sublist
  exact {
    numbered := numbered
    told := fun step _ => step.tells
    read := ⟨processed, hasRead⟩
    onBus := fun listening => (attends_following succeeds moves listening).carries.keeps
    passed := ⟨relayed_eq_passed _, readings, passedOnce⟩
    stopped := fun unlistening later =>
      have silent := unrelayed_following unlistening later
      ⟨silent.1, unread_following unlistening later, silent.2⟩
    handed := fun index subscriber known => by
      obtain ⟨worker, serves⟩ := serves_following succeeds known
        (willing _ (List.mem_of_getElem? known)) moves
      rcases serves.queued with ⟨lost, accounted, -⟩
      have complete : handed index (built.state.steps moves) <+:
          accepted index (built.state.steps moves) := by
        rw [accounted, List.append_assoc]
        exact List.prefix_append _ _
      have inOrder := complete.sublist.trans (accepted_sublist_passed index _)
      exact ⟨inOrder, passedOnce.sublist inOrder, complete, fun kept =>
        ⟨worker, serves.found, serves.subscriber, serves.accepted_eq kept⟩⟩
    overflows := List.flatMap_congr fun step member => by
      rcases before_of_mem_steps member with ⟨earlier, before⟩
      exact Step.overflows_eq step.move (before ▸ fun _ => fit_following succeeds willing earlier)
    named := fun step member => by
      rcases before_of_mem_steps member with ⟨earlier, before⟩
      rw [before, subscribers_following succeeds earlier] }

/-- On a bus with two slots the relay misses the first of three signals, and a subscriber with one
slot drops the third, of which it is told before the relay stops. -/
theorem gaps_told_of_lag :
    let slow : Subscriber := { name := "slow", capacity := 1, reaction := fun _ => {} }
    let moves : List Move := [.publish (.signal .appReady), .publish (.signal .registrationChanged),
      .publish (.signal .lowPowerModeChanged), .turn (.relay false), .turn (.relay false),
      .turn (.relay false), .turn (.worker 0), .turn (.relay false), .turn (.worker 0), .cancel,
      .turn (.relay true)]
    let registration : Event := { Notice.signal .registrationChanged with seq := 1 }
    let lowPower : Event := { Notice.signal .lowPowerModeChanged with seq := 2 }
    let report : Event := { Notice.overflow "slow" "full" with seq := 3 }
    ∃ built, build { busCapacity := 2 } (.create {} .calm true) [slow] false = .ok built ∧
      let past := built.state.steps moves
      past.filterMap Step.reading? =
        [.lagged 1, .event registration, .event lowPower, .event report] ∧
      handed 0 past = [registration, report] ∧
      TellsGaps [slow] past (built.state.following moves) := by
  intro slow moves registration lowPower report
  refine ⟨_, rfl, by decide +kernel, by decide +kernel, ?_⟩
  refine gaps_told (show build { busCapacity := 2 } (.create {} .calm true) [slow] false = _
    from rfl) ?_ moves
  intro subscriber member event
  rw [List.mem_singleton.mp member]

end Gate

end TransferGate
