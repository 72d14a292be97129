import TransferGate.Proofs.Owing

/-! # Reports

If no subscriber panics on reports, each other event accounts for a limited number of them.
But a panic on the report of a panic is reported too, so a subscriber that panics on such
reports brings about as many of them as it has time for.
-/

namespace TransferGate

open Activity

namespace Gate

/-! ## Runs -/

/-- How many reports may still come of what the relay has not read and what the workers have. -/
def owed (count : Nat) (log : List Event) (gate : Gate) : Nat :=
  count * shares count ((gate.bus.unread log .relay).map Event.toNotice) + gate.fanout.debt count

private theorem owed_perform {gate : Gate} {log : List Event} (sound : gate.Sound log)
    (composed : ∀ subscriber ∈ gate.fanout.subscribers, subscriber.Composed) {count : Nat}
    (all : gate.fanout.workers.length = count) (move : Move) :
    ∃ more, (move.perform.run gate).state.Sound (log ++ more) ∧
      reports ((move.perform.run gate).effects.filterMap Effect.notice?) +
          owed count (log ++ more) (move.perform.run gate).state ≤
        owed count log gate + count * (count + 1) *
          others ((move.perform.run gate).effects.filterMap Effect.notice?) := by
  rcases shares_perform sound count move with ⟨more, soundAfter, read⟩
  refine ⟨more, soundAfter, ?_⟩
  have paid := debt_perform composed count move
  have balance := reports_add_shares count
    ((move.perform.run gate).effects.filterMap Effect.notice?)
  have scaled := Nat.mul_le_mul_left count read
  rw [Nat.mul_add, Nat.mul_add] at scaled
  rw [all] at paid
  unfold owed
  omega

theorem reports_follow {gate : Gate} {log : List Event} (sound : gate.Sound log)
    (composed : ∀ subscriber ∈ gate.fanout.subscribers, subscriber.Composed) {count : Nat}
    (all : gate.fanout.workers.length = count) (moves : List Move) :
    reports ((gate.recordOf moves).filterMap Effect.notice?) ≤
      owed count log gate + count * (count + 1) *
        others ((gate.recordOf moves).filterMap Effect.notice?) := by
  induction moves generalizing gate log with
  | nil => exact Nat.zero_le _
  | cons move rest induction =>
      rcases owed_perform sound composed all move with ⟨more, soundAfter, paid⟩
      have same := subscribers_perform move gate
      have sameCount : (move.perform.run gate).state.fanout.workers.length = count := by
        rw [← all, ← List.length_map Worker.subscriber, ← List.length_map Worker.subscriber]
        exact congrArg List.length same
      have later := induction soundAfter (same ▸ composed) sameCount
      rw [recordOf_cons, List.filterMap_append, reports, others, List.countP_append,
        List.countP_append, Nat.mul_add]
      unfold reports others at paid later
      omega

theorem fanout_of_build {settings : Settings} {host : Host} {subscribers : List Subscriber}
    {attached : Bool} {built : Outcome Gate Unit}
    (succeeds : build settings host subscribers attached = .ok built) :
    built.state.fanout =
      { workers := subscribers.map fun subscriber => { subscriber := subscriber } } := by
  rcases ok_of_bind succeeds with ⟨bus, -, succeeds⟩
  rcases ok_of_bind succeeds with ⟨fanout, created, succeeds⟩
  rcases ok_of_bind succeeds with ⟨-, -, succeeds⟩
  cases succeeds
  exact Fanout.eq_of_create created

theorem owed_of_build {settings : Settings} {host : Host} {subscribers : List Subscriber}
    {attached : Bool} {built : Outcome Gate Unit}
    (succeeds : build settings host subscribers attached = .ok built) (count : Nat) :
    owed count [] built.state = 0 := by
  have idle : built.state.fanout.debt count = 0 := by
    apply List.sum_eq_zero
    intro debt member
    rw [fanout_of_build succeeds, List.map_map] at member
    rcases List.mem_map.mp member with ⟨subscriber, -, rfl⟩
    rfl
  rw [owed, Bus.unread_nil, idle]
  rfl

/-- If no subscriber panics on reports, every other event accounts for at most one report about
each subscriber and, if that is a panic, for a drop of this report by each of them. -/
theorem reports_bounded {settings : Settings} {host : Host} {subscribers : List Subscriber}
    {attached : Bool} {built : Outcome Gate Unit}
    (succeeds : build settings host subscribers attached = .ok built)
    (composed : ∀ subscriber ∈ subscribers, subscriber.Composed) (moves : List Move) :
    reports ((built.state.recordOf moves).filterMap Effect.notice?) ≤
      subscribers.length * (subscribers.length + 1) *
        others ((built.state.recordOf moves).filterMap Effect.notice?) := by
  have workers := fanout_of_build succeeds
  have known : built.state.fanout.subscribers = subscribers := by
    rw [workers, Fanout.subscribers, List.map_map]
    exact List.map_id subscribers
  have all : built.state.fanout.workers.length = subscribers.length := by
    rw [workers, List.length_map]
  have bounded := reports_follow (fresh_of_build succeeds).sound (known ▸ composed) all moves
  rw [owed_of_build succeeds, Nat.zero_add] at bounded
  exact bounded

def panicking (kinds : List EventKind) : Subscriber where
  name := "panicking"
  capacity := 1
  reaction event := { panics := if event.kind ∈ kinds then some (.text "boom") else none }

/-- Three subscribers panic on a signal, and each drops two of the reports. -/
def threePanics : List Move :=
  [.publish (.signal .appReady), .turn (.relay false), .turn (.worker 0), .turn (.worker 1),
    .turn (.worker 2), .turn (.relay false), .turn (.relay false), .turn (.relay false)]

theorem reports_bounded_of_three :
    ∃ built, build {} (.create {} .calm true)
        (List.replicate 3 (panicking [.signal .appReady])) false = .ok built ∧
      let notices := (built.state.recordOf threePanics).filterMap Effect.notice?
      reports notices = 9 ∧ others notices = 1 ∧
        reports notices ≤ 3 * (3 + 1) * others notices := by
  refine ⟨_, rfl, by decide +kernel, by decide +kernel, ?_⟩
  refine reports_bounded (show build {} (.create {} .calm true)
    (List.replicate 3 (panicking [.signal .appReady])) false = _ from rfl) ?_ threePanics
  intro subscriber member event isReport
  rw [List.eq_of_mem_replicate member]
  cases kind : event.kind <;> simp [panicking, kind, EventKind.isReport] at isReport ⊢

def relayRounds (count : Nat) : List Move :=
  (List.replicate count [.turn (.relay false), .turn (.worker 0)]).flatten

/-- More than twice as many reports as there are subscribers may come of one signal, whether a
subscriber panics on reports or not. -/
theorem reports_exceed_twice :
    (∃ built, build {} (.create {} .calm true)
        [panicking [.signal .appReady, .subscriberPanicked]] false = .ok built ∧
      let notices := (built.state.recordOf
        (.publish (.signal .appReady) :: relayRounds 3)).filterMap Effect.notice?
      2 * 1 * others notices < reports notices) ∧
    ∃ built, build {} (.create {} .calm true)
        (List.replicate 3 (panicking [.signal .appReady])) false = .ok built ∧
      let notices := (built.state.recordOf threePanics).filterMap Effect.notice?
      2 * 3 * others notices < reports notices :=
  ⟨⟨_, rfl, by decide +kernel⟩, _, rfl, by decide +kernel⟩

/-! ## A subscriber that panics on reports -/

structure Listens (subscriber : Subscriber) (gate : Gate) (log unread queue : List Event) :
    Prop where
  keeps : gate.bus.Keeps log
  listening : gate.relay = .listening
  goesOn : gate.cancelled = false
  fanout : gate.fanout = { workers := [{ subscriber := subscriber, queue := queue }] }
  slots : 0 < gate.bus.slots
  seated : (gate.bus.cursor? .relay).isSome = true
  unread : gate.bus.unread log .relay = unread

namespace Listens

variable {subscriber : Subscriber} {gate : Gate} {log : List Event} {event : Event}

theorem relayTurn (listens : Listens subscriber gate log [event] []) :
    let outcome := (Move.turn (.relay false)).perform.run gate
    Listens subscriber outcome.state log [] [event] ∧
      outcome.effects.filterMap Effect.notice? = [] := by
  cases received : gate.bus.receive .relay with
  | none =>
      have nothing := listens.keeps.unread_of_nothing received
      rw [listens.unread] at nothing
      cases nothing
  | some entry =>
      rcases entry with ⟨receipt, bus⟩
      have near : (gate.bus.unread log .relay).length ≤ gate.bus.slots := by
        rw [listens.unread]
        exact listens.slots
      rcases listens.keeps.unread_of_receive near received with ⟨first, rfl, read⟩
      rw [listens.unread] at read
      rcases List.cons.inj read with ⟨rfl, nothing⟩
      have found : gate.relayTask? false = some (.pass (.event event) bus) := by
        simp [relayTask?, listenTask?, listens.listening, received]
      have free : Worker.obstacle? { subscriber := subscriber } = none :=
        Worker.obstacle?_eq_none.mpr
          ⟨rfl, Nat.lt_of_lt_of_le Nat.zero_lt_one (Nat.le_max_right _ _)⟩
      have quiet : ((doRelayTask (.pass (.event event) bus)).run gate).effects.filterMap
          Effect.notice? = [] := by
        have undropped : Worker.dropReport? event { subscriber := subscriber } = none := by
          unfold Worker.dropReport?
          cases event.kind <;> simp [free]
        refine (Fanout.notices_emit event gate.fanout).trans ?_
        rw [listens.fanout]
        simp [undropped]
      have isSeated : (bus.cursor? .relay).isSome = true := by
        rw [Bus.isSome_of_receive received, listens.seated]
      obtain ⟨more, keeps, notices, unread⟩ := unread_absorbAll
        ((listens.keeps.reseats_receive received).keeps listens.keeps) (by decide) isSeated
        ((doRelayTask (.pass (.event event) bus)).run gate).effects
      obtain rfl : more = [] := List.map_eq_nil_iff.mp (notices.trans quiet)
      rw [← bus_of_pass, List.append_nil] at keeps unread
      rw [run_relayTurn found]
      refine ⟨?_, quiet⟩
      exact {
        keeps := keeps
        listening := listens.listening
        goesOn := listens.goesOn
        fanout := by
          refine (Fanout.run_emit event gate.fanout).trans ?_
          rw [listens.fanout]
          simp [Worker.offered, free]
        slots := by
          rw [bus_of_pass, Bus.slots_absorbAll]
          rcases Bus.moveTo_of_receive received with ⟨cursor, rfl⟩
          exact listens.slots
        seated := by
          rw [bus_of_pass, bus.cursor?_absorbAll_other _ (by decide), isSeated]
        unread := by rw [unread, ← nothing, List.append_nil] }

theorem workerTurn (listens : Listens subscriber gate log [] [event])
    (startled : subscriber.PanicsOn event.kind) :
    let outcome := (Move.turn (.worker 0)).perform.run gate
    ∃ report, report.kind = .subscriberPanicked ∧
      Listens subscriber outcome.state (log ++ [report]) [report] [] ∧
      outcome.effects.filterMap Effect.notice? = [report.toNotice] := by
  rcases startled event rfl with ⟨takes, atOnce, panics⟩
  rcases Option.isSome_iff_exists.mp panics with ⟨payload, isPayload⟩
  let worker : Worker := { subscriber := subscriber, queue := [event] }
  have found : gate.fanout.workers[0]? = some worker := by
    rw [listens.fanout]
    rfl
  have due : worker.task? gate.fanout.closed = some (.start event []) := by
    simp [worker, Worker.task?, takes]
  rcases Fanout.run_workerTurn found due with ⟨lines, run⟩
  have panicked : (Worker.Task.effects 0 worker lines (.start event [])).filterMap
      Effect.notice? = [.panicked subscriber.name payload.message] := by
    rw [Worker.Task.notices_effects]
    simp [worker, Worker.Task.finished?, atOnce, Subscriber.panicReport?, isPayload]
  obtain ⟨more, keeps, notices, unread⟩ := unread_absorbAll listens.keeps
    (by decide) listens.seated (Worker.Task.effects 0 worker lines (.start event []))
  rcases List.map_eq_singleton_iff.mp (notices.trans panicked) with ⟨report, rfl, isReport⟩
  simp only [Move.perform, turn, run_map, run_onFanout, run]
  refine ⟨report, by rw [isReport]; rfl, ?_, by rw [panicked, isReport]⟩
  exact {
    keeps := keeps
    listening := listens.listening
    goesOn := listens.goesOn
    fanout := by
      rw [listens.fanout]
      simp [worker, Worker.Task.next, atOnce]
    slots := by
      rw [Bus.slots_absorbAll]
      exact listens.slots
    seated := by rw [gate.bus.cursor?_absorbAll_other _ (by decide), listens.seated]
    unread := by rw [unread, listens.unread, List.nil_append] }

/-- A subscriber that panics on the reports of its panics is reported in every round. -/
theorem reports_rounds (listens : Listens subscriber gate log [event] [])
    (startled : subscriber.PanicsOn event.kind) (restless : subscriber.PanicsOn .subscriberPanicked)
    (count : Nat) :
    let notices := (gate.recordOf (relayRounds count)).filterMap Effect.notice?
    reports notices = count ∧ others notices = 0 := by
  induction count generalizing gate log event with
  | zero => exact ⟨rfl, rfl⟩
  | succ count induction =>
      rcases listens.relayTurn with ⟨passed, quiet⟩
      rcases passed.workerTurn startled with ⟨report, isPanic, panicked, announced⟩
      rcases induction panicked (isPanic ▸ restless) with ⟨allReports, noOthers⟩
      have isReport : report.toNotice.kind.isReport = true := by
        rw [isPanic]
        rfl
      rw [relayRounds, List.replicate_succ, List.flatten_cons, List.cons_append, List.cons_append,
        List.nil_append, recordOf_cons, recordOf_cons, List.filterMap_append,
        List.filterMap_append, quiet, announced, List.nil_append]
      unfold reports others relayRounds at *
      simp only [List.countP_append, List.countP_singleton, isReport, allReports, noOthers]
      exact ⟨Nat.add_comm 1 count, rfl⟩

end Listens

private theorem listens_of_publish {settings : Settings} {host : Host} {subscriber : Subscriber}
    {attached : Bool} {built : Outcome Gate Unit}
    (succeeds : build settings host [subscriber] attached = .ok built) (signal : Signal) :
    ∃ event, event.kind = .signal signal ∧ Listens subscriber
      ((Move.publish (.signal signal)).perform.run built.state).state [event] [event] [] := by
  have sound := (fresh_of_build succeeds).sound
  have fanout := fanout_of_build succeeds
  rcases ok_of_bind succeeds with ⟨bus, created, succeeds⟩
  rcases ok_of_bind succeeds with ⟨workers, -, succeeds⟩
  rcases ok_of_bind succeeds with ⟨-, -, succeeds⟩
  cases succeeds
  cases bus_of_create created
  obtain ⟨more, keeps, notices, unread⟩ := unread_absorbAll sound.keeps
    (show Seat.relay ≠ .observation by decide) rfl [.announced (.signal signal)]
  rcases List.map_eq_singleton_iff.mp notices with ⟨event, rfl, isSignal⟩
  refine ⟨event, by rw [isSignal]; rfl, ?_⟩
  rw [run_publish_signal]
  exact {
    keeps := keeps
    listening := rfl
    goesOn := rfl
    fanout := fanout
    slots := by
      rw [Bus.slots_publish]
      exact slotsFor_pos _
    seated := by
      rw [Bus.cursor?_publish]
      rfl
    unread := unread }

/-- Nothing bounds how many reports come of one signal if the only subscriber panics on it and on
the reports of its panics. -/
theorem reports_endless {settings : Settings} {host : Host} {subscriber : Subscriber}
    {attached : Bool} {built : Outcome Gate Unit}
    (succeeds : build settings host [subscriber] attached = .ok built) {signal : Signal}
    (startled : subscriber.PanicsOn (.signal signal))
    (restless : subscriber.PanicsOn .subscriberPanicked) (count : Nat) :
    let notices := (built.state.recordOf (.publish (.signal signal) :: relayRounds count)).filterMap
      Effect.notice?
    others notices = 1 ∧ reports notices = count := by
  rcases listens_of_publish succeeds signal with ⟨event, isSignal, listens⟩
  rcases listens.reports_rounds (isSignal ▸ startled) restless count with ⟨allReports, noOthers⟩
  unfold reports at allReports
  unfold others at noOthers
  simp only [recordOf_cons, List.filterMap_append, reports, others, List.countP_append, allReports,
    noOthers]
  exact ⟨rfl, Nat.zero_add count⟩

end Gate

end TransferGate
