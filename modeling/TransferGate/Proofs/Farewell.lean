import TransferGate.Proofs.Passing

/-! # What subscribers hear of the end

The server announces that observing stopped when it leaves. The relay listens until the
gate is cancelled, and whether it reads the last announcements before it stops is a
matter of the order of the turns. A subscriber is handed whatever the relay has read by
then, before its worker ends, and nothing else. So it may have heard that observing
started and never hear that it stopped.
-/

namespace TransferGate

open Activity

/-! ## Starts and stops -/

private theorem stopped_of_alternation {rounds : Nat} {first second : List EventKind}
    (split : alternation rounds false = first ++ .observationStarted :: second) :
    ∃ rest, second = .observationStopped :: rest := by
  induction rounds generalizing first with
  | zero => simp [alternation] at split
  | succ rounds induction =>
      have unrolled : alternation (rounds + 1) false =
          .observationStarted :: .observationStopped :: alternation rounds false := by
        simp [alternation, List.replicate_succ]
      rw [unrolled] at split
      cases first with
      | nil =>
          rw [List.nil_append, List.cons_inj_right] at split
          exact ⟨_, split.symm⟩
      | cons start first =>
          rw [List.cons_append, List.cons.injEq] at split
          cases first with
          | nil =>
              rw [List.nil_append, List.cons.injEq] at split
              cases split.2.1
          | cons stop first =>
              rw [List.cons_append, List.cons.injEq] at split
              exact induction split.2.2

private theorem matching_of_alternation {events : List Event} {rounds : Nat}
    (alternates : (events.map fun event => event.kind).filter EventKind.isObservation =
      alternation rounds false) {ahead behind : List Event} {started : Event}
    (split : events = ahead ++ started :: behind) (starts : started.kind = .observationStarted) :
    ∃ between stopped rest, behind = between ++ stopped :: rest ∧
      stopped.kind = .observationStopped ∧
        ∀ event ∈ between, event.kind.isObservation = false := by
  rw [split, List.map_append, List.map_cons, starts, List.filter_append,
    List.filter_cons_of_pos rfl] at alternates
  rcases stopped_of_alternation alternates.symm with ⟨others, stops⟩
  rw [List.filter_map] at stops
  rcases List.map_eq_cons_iff.mp stops with ⟨stopped, later, found, isStopped, -⟩
  rcases List.filter_eq_cons_iff.mp found with ⟨between, rest, splitBehind, quiet, -, -⟩
  exact ⟨between, stopped, rest, splitBehind, isStopped, fun event member => by
    simpa using quiet event member⟩

namespace Controller

theorem alternating_ignores : Gate.Ignores alternating where
  foreign controller effect foreign rounds := by
    refine ⟨rounds, ?_⟩
    cases effect with
    | announced notice =>
        rcases notice with ⟨kind⟩
        cases kind <;> first | exact List.append_nil _ | cases foreign
    | _ => exact List.append_nil _
  signal controller signal rounds := ⟨rounds, List.append_nil _⟩

end Controller

namespace Gate

open Controller (Operation alternating alternating_ignores alternating_brackets)

private theorem discards_of_stays {move : Move} (stays : move ≠ .abandon) (gate : Gate) :
    ∀ operation ∈ move.operations gate, operation.discards = false := by
  cases move with
  | abandon => exact absurd rfl stays
  | turn choice =>
      cases choice with
      | server =>
          cases found : gate.serverTask? with
          | none => simp [Move.operations, found]
          | some task =>
              cases task with
              | lifecycle receipt bus =>
                  cases receipt with
                  | lagged missed =>
                      simp [Move.operations, found, ServerTask.operations, Operation.discards]
                  | event event =>
                      simp only [Move.operations, found, ServerTask.operations, Option.map_some,
                        Option.getD_some]
                      split <;> simp [Operation.discards]
              | observed receipt bus =>
                  cases receipt <;>
                    simp [Move.operations, found, ServerTask.operations, Operation.discards]
              | _ => simp [Move.operations, found, ServerTask.operations, Operation.discards]
      | _ => simp [Move.operations]
  | _ => simp [Move.operations, Operation.discards]

theorem alternating_follow {gate : Gate} {log : List Event} (sound : gate.Sound log)
    {moves : List Move} (kept : .abandon ∉ moves) :
    alternating.holds gate.controller (gate.recordOf moves) (gate.following moves).controller := by
  induction moves generalizing gate log with
  | nil => exact alternating.idle _
  | cons move rest induction =>
      rw [List.mem_cons, not_or] at kept
      rcases sound.perform move with ⟨more, soundAfter, -⟩
      refine alternating.join ?_ (induction soundAfter kept.2)
      exact alternating_ignores.perform sound (Controller.performAll_obeys fun operation member =>
        alternating_brackets.keptStages.operation
          (discards_of_stays (fun same => kept.1 same.symm) gate operation member))

private theorem recordOf_eq_effects (gate : Gate) (moves : List Move) :
    gate.recordOf moves = (gate.steps moves).flatMap Step.effects := by
  induction moves generalizing gate with
  | nil => rfl
  | cons move rest induction => exact congrArg (_ ++ ·) (induction _)

private theorem observationKinds_recordOf (gate : Gate) (moves : List Move) :
    observationKinds (gate.recordOf moves) =
      ((published (gate.steps moves)).map fun event => event.kind).filter
        EventKind.isObservation := by
  rw [published, Event.map_kind_number, observationKinds, recordOf_eq_effects,
    List.filterMap_flatMap]
  rfl

section

variable {settings : Settings} {host : Host} {subscribers : List Subscriber} {attached : Bool}
  {built : Outcome Gate Unit}

theorem matching_following (succeeds : build settings host subscribers attached = .ok built)
    {moves : List Move} (kept : .abandon ∉ moves)
    (closed : (built.state.following moves).isClosed = true) : ∃ rounds,
      ((published (built.state.steps moves)).map fun event => event.kind).filter
        EventKind.isObservation = alternation rounds false := by
  have fresh := fresh_of_build succeeds
  rcases alternating_follow fresh.sound kept 0 with ⟨rounds, alternates⟩
  have started : built.state.server ≠ .stopped := by
    rw [fresh.server]
    decide
  have resting : (built.state.following moves).controller.isObserving = false := by
    rw [Controller.isObserving, released_of_closed fresh.sound started moves closed]
    rfl
  have calm : built.state.controller.isObserving = false := by
    rw [fresh.controller]
    exact Controller.create_resting host
  rw [resting, calm] at alternates
  exact ⟨rounds, (observationKinds_recordOf _ _).symm.trans alternates⟩

end

/-! ## The relay listens until the gate is cancelled -/

private theorem cancelled_of_unlistening {move : Move} (stays : move ≠ .abandon) {gate : Gate}
    (listening : gate.relay = .listening)
    (stops : (move.perform.run gate).state.relay ≠ .listening) : gate.cancelled = true := by
  rw [relay_perform] at stops
  cases move with
  | abandon => exact absurd rfl stays
  | turn choice =>
      cases choice with
      | server =>
          rcases gate.standing_serverTurn with ⟨cancelled, stands⟩
          rw [stands] at stops
          exact absurd listening stops
      | relay stopFirst =>
          rw [Move.standing] at stops
          cases isCancelled : gate.cancelled with
          | true => rfl
          | false =>
              -- A relay that is not cancelled passes something on, or it waits.
              have found : gate.relayTask? stopFirst =
                  (gate.bus.receive .relay).map fun received =>
                    .pass received.1 received.2 := by
                simp only [relayTask?, listenTask?, listening, isCancelled, Bool.false_and]
                cases gate.bus.receive .relay <;> rfl
              rw [found] at stops
              cases received : gate.bus.receive .relay with
              | none =>
                  rw [received] at stops
                  exact absurd listening stops
              | some entry =>
                  rcases entry with ⟨receipt, bus⟩
                  rw [received] at stops
                  cases receipt <;> exact absurd listening stops
      | _ => exact absurd listening stops
  | _ => exact absurd listening stops

/-! ## Lossless runs -/

/-- No queue is full when an event is passed on, the relay never lags, and the tasks are not taken
away. -/
structure Lossless (past : List Step) : Prop where
  spacious : ∀ step ∈ past, step.passed?.isSome = true →
    step.before.fanout.workers.any Worker.isFull = false
  gapless : ∀ receipt ∈ past.filterMap Step.reading?, receipt.event?.isSome = true
  kept : ∀ step ∈ past, step.move ≠ .abandon

/-- What is published until a gate ends, and what a subscriber is handed of it. -/
structure HearsOut (index : Nat) (past : List Step) (gate : Gate) (worker : Worker) : Prop where
  /-- All that is published when the server leaves is that observing stopped, if it was under
  way. -/
  farewell : ∀ step ∈ past, step.before.isClosed = false → step.after.isClosed = true →
    step.notices = if step.before.controller.isObserving then [.observationStopped] else []
  /-- The relay passes on what is published, until it finds the gate cancelled. -/
  forwarded : passed past <+: published past
  cancelled : ∀ step ∈ past, step.before.relay = .listening → step.after.relay ≠ .listening →
    step.before.cancelled = true
  /-- Whatever was passed on, the subscriber is handed, before its worker ends. -/
  complete : passed past = handed index past ++ worker.queue
  drained : worker.ended = true → worker.queue = []
  diligent : worker.queue ≠ [] → worker.task? gate.fanout.closed = none →
    worker.pausedOn.isSome = true ∧ worker.permits = 0
  /-- Once the gate is closed, a stop has been published after every start. Whoever was handed the
  start is handed the stop too if it was passed on, and otherwise nothing from there on. -/
  matching : gate.isClosed = true → ∀ ahead started behind,
    published past = ahead ++ started :: behind → started.kind = .observationStarted →
      ∃ between stopped rest, behind = between ++ stopped :: rest ∧
        stopped.kind = .observationStopped ∧
        (∀ event ∈ between, event.kind.isObservation = false) ∧
        (stopped ∈ passed past → worker.ended = true →
          ahead ++ started :: between ++ [stopped] <+: handed index past) ∧
        (stopped ∉ passed past → handed index past <+: ahead ++ started :: between)

private theorem shorter_or_reaches {events ahead rest : List Event} {event : Event}
    (first : events <+: ahead ++ event :: rest) :
    events <+: ahead ∨ ahead ++ [event] <+: events := by
  have other : ahead ++ [event] <+: ahead ++ event :: rest :=
    ⟨rest, by rw [List.append_assoc, List.singleton_append]⟩
  rcases List.prefix_or_prefix_of_prefix first other with shorter | longer
  · rcases List.prefix_concat_iff.mp shorter with rfl | inAhead
    · exact .inr List.prefix_rfl
    · exact .inl inAhead
  · exact .inr longer

private theorem reaches_of_mem {events ahead rest : List Event} {event : Event}
    (new : event ∉ ahead) (first : events <+: ahead ++ event :: rest) (member : event ∈ events) :
    ahead ++ [event] <+: events :=
  (shorter_or_reaches first).resolve_left fun shorter => new (shorter.subset member)

private theorem shorter_of_notMem {events ahead rest : List Event} {event : Event}
    (first : events <+: ahead ++ event :: rest) (missing : event ∉ events) : events <+: ahead :=
  (shorter_or_reaches first).resolve_right fun reaches =>
    missing (reaches.subset (List.mem_append_right _ (List.mem_singleton_self _)))

private theorem new_of_published {past : List Step} {ahead behind : List Event} {event : Event}
    (split : published past = ahead ++ event :: behind) : event ∉ ahead := by
  have numbered : (published past).Pairwise _ := Event.number_increases 0 _
  rw [split, List.pairwise_append] at numbered
  intro member
  exact Nat.lt_irrefl _ (numbered.2.2 event member event (List.mem_cons_self ..))

private theorem accepted_of_spacious {past : List Step} (lossless : Lossless past) (index : Nat) :
    accepted index past = passed past := by
  apply List.filterMap_congr
  intro step member
  rw [Step.accepted?]
  cases passes : step.passed? with
  | none => rfl
  | some event =>
      have spacious := lossless.spacious step member (by rw [passes]; rfl)
      have notFull : step.before.fanout.workers[index]?.any Worker.isFull = false := by
        cases found : step.before.fanout.workers[index]? with
        | none => rfl
        | some worker =>
            simpa using List.any_eq_false.mp spacious worker (List.mem_of_getElem? found)
      rw [notFull]
      rfl

private theorem map_move_steps (gate : Gate) (moves : List Move) :
    (gate.steps moves).map Step.move = moves := by
  induction moves generalizing gate with
  | nil => rfl
  | cons move rest induction => exact congrArg (move :: ·) (induction _)

private theorem kept_of_moves {gate : Gate} {moves : List Move}
    (kept : ∀ move ∈ moves, move ≠ .abandon) :
    ∀ step ∈ gate.steps moves, step.move ≠ .abandon := by
  intro step member
  apply kept step.move
  rw [← map_move_steps gate moves]
  exact List.mem_map_of_mem member

section

variable {settings : Settings} {host : Host} {subscribers : List Subscriber} {attached : Bool}
  {built : Outcome Gate Unit}

private theorem passed_first (succeeds : build settings host subscribers attached = .ok built)
    {moves : List Move} (lossless : Lossless (built.state.steps moves)) :
    passed (built.state.steps moves) <+: published (built.state.steps moves) := by
  rcases hasRead_following succeeds moves with ⟨processed, hasRead⟩
  rw [passed_eq_readings, hasRead.covers.eq_of_gapless lossless.gapless]
  exact hasRead.first

/-- In a lossless run, whoever was handed that observing started is handed that it stopped,
exactly if the relay passed this on before it stopped. -/
theorem end_heard (succeeds : build settings host subscribers attached = .ok built)
    (moves : List Move) (lossless : Lossless (built.state.steps moves)) {index : Nat}
    {subscriber : Subscriber} (known : subscribers[index]? = some subscriber)
    (willing : ∀ event, (subscriber.reaction event).refuses = false) {worker : Worker}
    (found : (built.state.following moves).fanout.workers[index]? = some worker) :
    HearsOut index (built.state.steps moves) (built.state.following moves) worker := by
  have forwarded := passed_first succeeds lossless
  rcases serves_following succeeds known willing moves with ⟨other, serves⟩
  obtain rfl : worker = other := Option.some.inj (found.symm.trans serves.found)
  have complete : passed (built.state.steps moves) =
      handed index (built.state.steps moves) ++ worker.queue := by
    rw [← accepted_of_spacious lossless index]
    exact serves.accepted_eq lossless.kept
  have drained (ended : worker.ended = true) : worker.queue = [] :=
    (List.append_eq_nil_iff.mp (serves.fit.left ended).2).2
  exact {
    farewell := fun step member isOpen closes => by
      rcases before_of_mem_steps member with ⟨earlier, before⟩
      rcases (fresh_of_build succeeds).sound.follow earlier with ⟨more, sound⟩
      rw [← before] at sound
      rcases abandon_or_stop_of_closes isOpen closes with isAbandon | ⟨isTurn, stops⟩
      · exact absurd isAbandon (lossless.kept step member)
      · rcases step with ⟨gate, move⟩
        cases isTurn
        exact (leaves sound stops).notices
    forwarded := forwarded
    cancelled := fun step member => cancelled_of_unlistening (lossless.kept step member)
    complete := complete
    drained := drained
    diligent := Fanout.diligent_of_fit serves.fit
    matching := fun closed ahead started behind split starts => by
      have kept : .abandon ∉ moves := by
        rw [← map_move_steps built.state moves, List.mem_map]
        rintro ⟨step, member, isAbandon⟩
        exact lossless.kept step member isAbandon
      rcases matching_following succeeds kept closed with ⟨rounds, alternates⟩
      obtain ⟨between, stopped, rest, rfl, stops, quiet⟩ :=
        matching_of_alternation alternates split starts
      have regrouped : published (built.state.steps moves) =
          (ahead ++ started :: between) ++ stopped :: rest := by
        rw [split, List.append_assoc, List.cons_append]
      have new := new_of_published regrouped
      rw [regrouped] at forwarded
      refine ⟨between, stopped, rest, rfl, stops, quiet, fun isPassed ended => ?_,
        fun unpassed => ?_⟩
      · have reaches := reaches_of_mem new forwarded isPassed
        rw [complete, drained ended, List.append_nil] at reaches
        exact reaches
      · have shorter := shorter_of_notMem forwarded unpassed
        rw [complete] at shorter
        exact (List.prefix_append _ _).trans shorter }

end

def recorder : Subscriber := { name := "recorder", reaction := fun _ => {} }

def uploadBegins : List Move :=
  [.send (.begin .upload), .turn .server, .turn .server] ++
    List.replicate 4 (.turn (.relay false)) ++ List.replicate 4 (.turn (.worker 0))

def patientEnd : List Move :=
  [.cancel, .turn .server, .turn (.relay false), .turn (.relay false), .turn (.worker 0),
    .turn (.worker 0)]

theorem end_heard_of_patient : ∃ built,
    build {} (.create {} .calm true) [recorder] true = .ok built ∧
      let past := built.state.steps (uploadBegins ++ patientEnd)
      (handed 0 past).map (fun event => event.kind) =
          [.observationStarted, .queueStatusChanged, .queueStatusChanged, .queueStatusChanged,
            .observationStopped] ∧
        ∃ worker, worker.ended = true ∧
          HearsOut 0 past (built.state.following (uploadBegins ++ patientEnd)) worker := by
  refine ⟨_, rfl, by decide +kernel, { subscriber := recorder, ended := true }, rfl, ?_⟩
  refine end_heard (show build {} (.create {} .calm true) [recorder] true = _ from rfl)
    (uploadBegins ++ patientEnd) ⟨by decide +kernel, by decide +kernel, kept_of_moves ?_⟩
    (show [recorder][0]? = some recorder from rfl) (fun _ => rfl) rfl
  simp [uploadBegins, patientEnd]

def hastyEnds : List (List Move) :=
  [[.cancel, .turn (.relay true), .turn .server, .turn (.worker 0)],
    [.cancelParent, .turn (.relay true), .turn .server, .turn (.worker 0)],
    [.dropHandle, .turn .server, .turn (.relay true), .turn (.worker 0)]]

/-- However a gate ends, a subscriber that was handed the start of observing may never be handed
that it stopped, although this is published. -/
theorem end_unheard : ∃ built,
    build {} (.create {} .calm true) [recorder] true = .ok built ∧
      (∀ event, (recorder.reaction event).refuses = false) ∧ ∀ hasty ∈ hastyEnds,
        let past := built.state.steps (uploadBegins ++ hasty)
        let gate := built.state.following (uploadBegins ++ hasty)
        Lossless past ∧ gate.isClosed = true ∧ gate.fanout.isDrained = true ∧
          .observationStopped ∈ (published past).map (fun event => event.kind) ∧
          .observationStarted ∈ (handed 0 past).map (fun event => event.kind) ∧
          .observationStopped ∉ (handed 0 past).map (fun event => event.kind) := by
  refine ⟨_, rfl, fun _ => rfl, fun hasty member => ⟨⟨?_, ?_, kept_of_moves ?_⟩, ?_⟩⟩
  · revert hasty
    decide +kernel
  · revert hasty
    decide +kernel
  · simp only [hastyEnds, List.mem_cons, List.not_mem_nil, or_false] at member
    rcases member with rfl | rfl | rfl <;> simp [uploadBegins]
  · revert hasty
    decide +kernel

end Gate

end TransferGate
