import TransferGate.Proofs.RelayReading

/-! # How a subscriber is served

What is published comes to a subscriber in order: it has been handed over, it is in the queue of
its worker, or the relay has not read it yet. A move of the gate changes this for each
subscriber by the few acts it means to the fan-out. Only if the tasks of the gate are taken away,
queues are lost.
-/

namespace TransferGate

open Activity
open Fanout (Act)

namespace Worker

def isFull (worker : Worker) : Bool := decide (worker.slots ≤ worker.queue.length)

namespace Fit

variable {worker : Worker} {closed late : Bool}

private theorem later (fit : worker.Fit closed) (inTime : closed = true → late = true) :
    worker.Fit late :=
  ⟨fit.takes, fit.bounded, fun ended => ⟨inTime (fit.left ended).1, (fit.left ended).2⟩⟩

private theorem going (fit : worker.Fit false) : worker.ended = false := by
  cases ended : worker.ended with
  | false => rfl
  | true => cases (fit.left ended).1

theorem obstacle?_eq (fit : worker.Fit false) :
    worker.obstacle? = if worker.isFull then some "full" else none := by
  by_cases room : worker.queue.length < worker.slots
  · have notFull : worker.isFull = false := by simpa [isFull] using room
    rw [obstacle?_eq_none.mpr ⟨fit.going, room⟩, notFull]
    rfl
  · have full : worker.isFull = true := by simpa [isFull] using room
    simp [obstacle?, fit.going, room, full]

end Fit

end Worker

namespace Gate

/-! ## What moves mean for the subscribers -/

/-- What the move does with the subscribers, unless their workers are taken away. -/
def Move.act? (gate : Gate) : Move → Option Act
  | .permit subscriber count => some (.permit subscriber count)
  | .turn (.worker index) => some (.turn index)
  | .turn (.relay stopFirst) =>
      match gate.relayTask? stopFirst with
      | some .close => some .close
      | some (.pass (.event event) _) => some (.emit event)
      | _ => none
  | _ => none

private theorem fanout_perform {move : Move} (stays : move ≠ .abandon) (gate : Gate) :
    (move.perform.run gate).state.fanout =
      (move.act? gate).elim gate.fanout fun act => (act.perform.run gate.fanout).state := by
  refine (congrArg Standing.fanout (standing_perform move gate)).trans ?_
  cases move with
  | abandon => exact absurd rfl stays
  | turn choice =>
      cases choice with
      | server =>
          rcases gate.standing_serverTurn with ⟨cancelled, stands⟩
          rw [stands]
          rfl
      | relay stopFirst =>
          simp only [Move.standing, Move.act?]
          cases gate.relayTask? stopFirst with
          | none => rfl
          | some task =>
              cases task with
              | pass receipt bus => cases receipt <;> rfl
              | _ => rfl
      | worker index =>
          simp only [Move.standing, Move.act?, Option.elim_some, Act.perform, run_map]
      | door => rfl
  | _ => rfl

theorem picked_perform {Result : Type} {pick : Effect → Option Result}
    (aloof : ∀ effect, effect.concernsSubscribers = false → pick effect = none)
    (relayed : ∀ event, pick (.relayed event) = none) (move : Move) (gate : Gate) :
    (move.perform.run gate).effects.filterMap pick =
      (move.act? gate).elim [] fun act =>
        (act.perform.run gate.fanout).effects.filterMap pick := by
  have nothing (elsewhere : move.relays = false) :
      (move.perform.run gate).effects.filterMap pick = [] :=
    List.filterMap_eq_nil_iff.mpr fun effect member =>
      aloof effect (Aloof.perform elsewhere gate effect member)
  cases move with
  | permit subscriber count => exact nothing rfl
  | turn choice =>
      cases choice with
      | worker index =>
          simp only [Move.perform, turn, Move.act?, run_map, run_onFanout, Option.elim_some,
            Act.perform]
      | relay stopFirst =>
          cases found : gate.relayTask? stopFirst with
          | none =>
              rw [run_relayTurn_idle found]
              simp [Move.act?, found]
          | some task =>
              rw [run_relayTurn found]
              cases task with
              | pass receipt bus =>
                  cases receipt with
                  | event event =>
                      simp only [Move.act?, found, Option.elim_some]
                      change List.filterMap pick (.relayed event :: _) = _
                      rw [List.filterMap_cons, relayed]
                      rfl
                  | lagged missed =>
                      have silent : pick (.logged (.relayLagged missed)) = none := aloof _ rfl
                      simp [Move.act?, found, doRelayTask, handleRelayed, changeBus, silent]
              | close => simp [Move.act?, found, doRelayTask, Act.perform]
              | leave => simp [Move.act?, found, doRelayTask]
      | _ => exact nothing rfl
  | _ => exact nothing rfl

namespace Step

def begun (index : Nat) (step : Step) : List Event :=
  step.effects.filterMap (Effect.deliveredTo? index)

/-- The event that is passed on, if there is room for it in the queue of the subscriber. -/
def accepted? (index : Nat) (step : Step) : Option Event :=
  step.passed?.filter fun _ => !step.before.fanout.workers[index]?.any Worker.isFull

def overflows (step : Step) : List Notice :=
  step.notices.filter fun notice => notice.kind == .subscriberOverflow

/-- The reports of drops that are due: one for each subscriber with a full queue, unless the event
that is passed on is such a report. -/
def dropReports (step : Step) : List Notice :=
  match step.passed? with
  | none => []
  | some event =>
      if event.kind = .subscriberOverflow then []
      else (step.before.fanout.workers.filter Worker.isFull).map fun worker =>
        .overflow worker.subscriber.name "full"

private theorem begun_eq (move : Move) {gate : Gate} {index : Nat} {worker : Worker}
    (found : gate.fanout.workers[index]? = some worker) :
    begun index ⟨gate, move⟩ =
      ((move.act? gate).bind fun act => act.begun? index gate.fanout.closed worker).toList := by
  have aloof : ∀ effect : Effect, effect.concernsSubscribers = false →
      effect.deliveredTo? index = none := by
    intro effect aloof
    cases effect <;> first | rfl | cases aloof
  rw [begun, effects, outcome, picked_perform aloof fun _ => rfl]
  cases move.act? gate with
  | none => rfl
  | some act =>
      rw [Option.elim_some, Fanout.delivered_perform, found]
      rfl

theorem passed?_eq_event? (move : Move) (gate : Gate) :
    passed? ⟨gate, move⟩ = (move.act? gate).bind Act.event? := by
  cases move with
  | turn choice =>
      cases choice with
      | relay stopFirst =>
          simp only [passed?, Move.passed?, Move.act?]
          cases gate.relayTask? stopFirst with
          | none => rfl
          | some task =>
              cases task with
              | pass receipt bus => cases receipt <;> rfl
              | _ => rfl
      | _ => rfl
  | _ => rfl

theorem listening_of_emit {move : Move} {gate : Gate} {event : Event}
    (emits : move.act? gate = some (.emit event)) : gate.relay = .listening := by
  have passes : passed? ⟨gate, move⟩ = some event := by
    rw [passed?_eq_event?, emits]
    rfl
  rw [passed?_eq] at passes
  rcases Option.bind_eq_some_iff.mp passes with ⟨receipt, reads, -⟩
  exact (listening_of_reading? reads).1

private theorem accepted?_eq (move : Move) {gate : Gate} {index : Nat} {worker : Worker}
    (found : gate.fanout.workers[index]? = some worker)
    (fit : worker.Fit (gate.relay != .listening)) :
    accepted? index ⟨gate, move⟩ = (move.act? gate).bind fun act => act.accepted? worker := by
  rw [accepted?, passed?_eq_event?, found, Option.any_some]
  cases acts : move.act? gate with
  | none => rfl
  | some act =>
      cases act with
      | emit event =>
          rw [listening_of_emit acts] at fit
          rw [Option.bind_some, Option.bind_some, Act.event?, Act.accepted?, Worker.accepted?,
            fit.obstacle?_eq]
          cases worker.isFull <;> rfl
      | _ => rfl

end Step

def passed (past : List Step) : List Event := past.filterMap Step.passed?

def accepted (index : Nat) (past : List Step) : List Event :=
  past.filterMap (Step.accepted? index)

def handed (index : Nat) (past : List Step) : List Event := past.flatMap (Step.begun index)

private theorem accepted_concat (index : Nat) (past : List Step) (step : Step) :
    accepted index (past ++ [step]) = accepted index past ++ (step.accepted? index).toList := by
  rw [accepted, List.filterMap_append]
  cases found : step.accepted? index <;> simp [accepted, found]

private theorem handed_concat (index : Nat) (past : List Step) (step : Step) :
    handed index (past ++ [step]) = handed index past ++ step.begun index := by
  simp [handed]

/-! ## One subscriber -/

/-- What has become of an event for the subscriber: everything that was queued was handed over or is
still in the queue, or it was lost when the tasks were taken away. -/
structure Serves (index : Nat) (subscriber : Subscriber) (past : List Step) (gate : Gate)
    (worker : Worker) : Prop where
  found : gate.fanout.workers[index]? = some worker
  subscriber : worker.subscriber = subscriber
  fit : worker.Fit (gate.relay != .listening)
  inTime : gate.fanout.closed = true → (gate.relay != .listening) = true
  queued : ∃ lost, accepted index past =
      handed index past ++ worker.queue ++ lost ∧
    (lost ≠ [] → gate.relay ≠ .listening ∧ ∃ step ∈ past, step.move = .abandon)

namespace Serves

variable {index : Nat} {subscriber : Subscriber} {past : List Step} {gate : Gate} {worker : Worker}

private theorem unlistening_later (move : Move) (unlistening : (gate.relay != .listening) = true) :
    ((move.perform.run gate).state.relay != .listening) = true := by
  rw [bne_iff_ne] at unlistening ⊢
  exact unlistening_perform unlistening move

private theorem unlistening_of_closes {move : Move} {act : Act} (acts : move.act? gate = some act)
    (closes : act.closes = true) : ((move.perform.run gate).state.relay != .listening) = true := by
  cases act with
  | close =>
      cases move with
      | turn choice =>
          cases choice with
          | relay stopFirst =>
              rw [relay_perform, Move.standing]
              simp only [Move.act?] at acts
              cases found : gate.relayTask? stopFirst with
              | none => simp [found] at acts
              | some task =>
                  cases task with
                  | close => rfl
                  | leave => simp [found] at acts
                  | pass receipt bus => cases receipt <;> simp [found] at acts
          | _ => cases acts
      | _ => cases acts
  | _ => cases closes

private theorem subscriber_perform (serves : Serves index subscriber past gate worker) {move : Move}
    {next : Worker} (found : (move.perform.run gate).state.fanout.workers[index]? = some next) :
    next.subscriber = subscriber := by
  have same := congrArg (·[index]?) (subscribers_perform move gate)
  simp only [Fanout.subscribers, List.getElem?_map, found, serves.found, Option.map_some,
    Option.some.injEq] at same
  exact same.trans serves.subscriber

theorem abandon (serves : Serves index subscriber past gate worker) :
    Serves index subscriber (past ++ [⟨gate, .abandon⟩]) (Move.abandon.perform.run gate).state
      worker.kill := by
  have stands := standing_perform .abandon gate
  have fanout : (Move.abandon.perform.run gate).state.fanout = gate.fanout.kill :=
    congrArg Standing.fanout stands
  have found : (Move.abandon.perform.run gate).state.fanout.workers[index]? = some worker.kill := by
    rw [fanout, Fanout.kill, List.getElem?_map, serves.found, Option.map_some]
  have unlistening : (Move.abandon.perform.run gate).state.relay ≠ .listening := by
    rw [relay_perform, Move.standing]
    split <;> exact RelayPhase.noConfusion
  have isLate : ((Move.abandon.perform.run gate).state.relay != .listening) = true :=
    bne_iff_ne.mpr unlistening
  rcases serves.queued with ⟨lost, queued, -⟩
  have nothing : Step.begun index ⟨gate, .abandon⟩ = [] := Step.begun_eq .abandon serves.found
  have unaccepted : Step.accepted? index ⟨gate, .abandon⟩ = none := rfl
  refine ⟨found, serves.subscriber, ?_, fun _ => isLate, worker.queue ++ lost, ?_, fun _ => ?_⟩
  · exact ⟨serves.fit.takes, Nat.zero_le _, fun _ => ⟨isLate, rfl⟩⟩
  · simp [accepted_concat, handed_concat, nothing, unaccepted, queued, Worker.kill]
  · exact ⟨unlistening, _, List.mem_append_right _ (List.mem_singleton_self _), rfl⟩

theorem act (serves : Serves index subscriber past gate worker) {move : Move}
    (stays : move ≠ .abandon) {act : Act} (acts : move.act? gate = some act) :
    Serves index subscriber (past ++ [⟨gate, move⟩]) (move.perform.run gate).state
      (act.next index gate.fanout.closed worker) := by
  have fanout := fanout_perform stays gate
  rw [acts, Option.elim_some] at fanout
  have found : (move.perform.run gate).state.fanout.workers[index]? =
      some (act.next index gate.fanout.closed worker) := by
    rw [fanout, Fanout.workers_perform, serves.found, Option.map_some]
  have later : (gate.relay != .listening || act.closes) = true →
      ((move.perform.run gate).state.relay != .listening) = true := by
    rw [Bool.or_eq_true]
    exact fun late => late.elim (unlistening_later move) (unlistening_of_closes acts)
  have begun := Step.begun_eq move serves.found
  have accepted := Step.accepted?_eq move serves.found serves.fit
  rw [acts, Option.bind_some] at begun accepted
  rcases serves.queued with ⟨lost, queued, isLost⟩
  -- Nothing has been lost as long as events are accepted.
  have swap : lost ++ (act.accepted? worker).toList = (act.accepted? worker).toList ++ lost := by
    cases act with
    | emit event =>
        have kept : lost = [] := by
          by_contra some
          exact (isLost some).1 (Step.listening_of_emit acts)
        rw [kept, List.append_nil, List.nil_append]
    | _ => exact List.append_nil lost
  refine ⟨found, serves.subscriber_perform found, ?_, ?_, lost, ?_, fun some => ?_⟩
  · exact (serves.fit.next serves.inTime index act).later later
  · rw [fanout, Fanout.closed_perform, Bool.or_eq_true]
    refine fun closed => later (Bool.or_eq_true_iff.mpr (closed.imp_left serves.inTime))
  · have next := act.queue_next serves.fit gate.fanout.closed index
    rw [accepted_concat, handed_concat, accepted, begun]
    calc Gate.accepted index past ++ (act.accepted? worker).toList
        = handed index past ++ (worker.queue ++ (act.accepted? worker).toList) ++ lost := by
          rw [queued, List.append_assoc _ lost, swap]
          simp only [List.append_assoc]
      _ = handed index past ++ (act.begun? index gate.fanout.closed worker).toList ++
            (act.next index gate.fanout.closed worker).queue ++ lost := by
          rw [next]
          simp only [List.append_assoc]
  · rcases isLost some with ⟨unlistening, step, member, isAbandon⟩
    exact ⟨unlistening_perform unlistening move, step, List.mem_append_left _ member, isAbandon⟩

theorem idle (serves : Serves index subscriber past gate worker) {move : Move}
    (stays : move ≠ .abandon) (idle : move.act? gate = none) :
    Serves index subscriber (past ++ [⟨gate, move⟩]) (move.perform.run gate).state worker := by
  have fanout := fanout_perform stays gate
  rw [idle, Option.elim_none] at fanout
  have begun := Step.begun_eq move serves.found
  have unaccepted := Step.accepted?_eq move serves.found serves.fit
  rw [idle, Option.bind_none] at begun unaccepted
  rcases serves.queued with ⟨lost, queued, isLost⟩
  refine ⟨by rw [fanout, serves.found], serves.subscriber,
    serves.fit.later (unlistening_later move),
    fun closed => unlistening_later move (serves.inTime (by rwa [fanout] at closed)), lost, ?_,
    fun some => ?_⟩
  · rw [accepted_concat, handed_concat, begun, unaccepted]
    simp [queued]
  · rcases isLost some with ⟨unlistening, step, member, isAbandon⟩
    exact ⟨unlistening_perform unlistening move, step, List.mem_append_left _ member, isAbandon⟩

theorem perform (serves : Serves index subscriber past gate worker) (move : Move) :
    ∃ next,
      Serves index subscriber (past ++ [⟨gate, move⟩]) (move.perform.run gate).state next := by
  by_cases isAbandon : move = .abandon
  · subst isAbandon
    exact ⟨_, serves.abandon⟩
  · cases acts : move.act? gate with
    | none => exact ⟨_, serves.idle isAbandon acts⟩
    | some act => exact ⟨_, serves.act isAbandon acts⟩

theorem accepted_eq (serves : Serves index subscriber past gate worker)
    (kept : ∀ step ∈ past, step.move ≠ .abandon) :
    accepted index past = handed index past ++ worker.queue := by
  rcases serves.queued with ⟨lost, queued, isLost⟩
  have nothing : lost = [] := by
    by_contra some
    rcases isLost some with ⟨-, step, member, isAbandon⟩
    exact kept step member isAbandon
  rw [queued, nothing, List.append_nil]

end Serves

section

variable {settings : Settings} {host : Host} {subscribers : List Subscriber} {attached : Bool}
  {built : Outcome Gate Unit}

private theorem serves_of_build (succeeds : build settings host subscribers attached = .ok built)
    {index : Nat} {subscriber : Subscriber} (known : subscribers[index]? = some subscriber)
    (willing : ∀ event, (subscriber.reaction event).refuses = false) :
    Serves index subscriber [] built.state { subscriber := subscriber } := by
  have fanout := fanout_of_build succeeds
  refine ⟨?_, rfl, ⟨willing, Nat.zero_le _, fun ended => ?_⟩, fun closed => ?_, [], rfl, ?_⟩
  · rw [fanout, List.getElem?_map, known, Option.map_some]
  · cases ended
  · rw [fanout] at closed
    cases closed
  · exact fun some => absurd rfl some

/-- At any time every subscriber has a worker. -/
theorem serves_following (succeeds : build settings host subscribers attached = .ok built)
    {index : Nat} {subscriber : Subscriber} (known : subscribers[index]? = some subscriber)
    (willing : ∀ event, (subscriber.reaction event).refuses = false) (moves : List Move) :
    ∃ worker, Serves index subscriber (built.state.steps moves) (built.state.following moves)
      worker := by
  induction moves using List.reverseRecOn with
  | nil => exact ⟨_, (serves_of_build succeeds known willing :)⟩
  | append_singleton moves move induction =>
      rcases induction with ⟨worker, serves⟩
      rw [steps_concat, following_concat]
      exact serves.perform move

theorem subscribers_following (succeeds : build settings host subscribers attached = .ok built)
    (moves : List Move) : (built.state.following moves).fanout.subscribers = subscribers := by
  induction moves using List.reverseRecOn with
  | nil =>
      rw [following_nil, fanout_of_build succeeds, Fanout.subscribers, List.map_map]
      exact List.map_id subscribers
  | append_singleton moves move induction =>
      rw [following_concat, subscribers_perform, induction]

theorem fit_following (succeeds : build settings host subscribers attached = .ok built)
    (willing : ∀ subscriber ∈ subscribers, ∀ event, (subscriber.reaction event).refuses = false)
    (moves : List Move) {worker : Worker}
    (member : worker ∈ (built.state.following moves).fanout.workers) :
    worker.Fit ((built.state.following moves).relay != .listening) := by
  rcases List.mem_iff_getElem?.mp member with ⟨index, found⟩
  have known : subscribers[index]? = some worker.subscriber := by
    rw [← subscribers_following succeeds moves, Fanout.subscribers, List.getElem?_map, found,
      Option.map_some]
  obtain ⟨other, serves⟩ := serves_following succeeds known
    (willing _ (List.mem_of_getElem? known)) moves
  have same := serves.found
  rw [found, Option.some.injEq] at same
  rw [same]
  exact serves.fit

end

end Gate

end TransferGate
