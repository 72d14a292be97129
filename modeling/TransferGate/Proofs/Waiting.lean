import TransferGate.Proofs.RelayReading

/-! # Waiting for signals

While it observes, the server waits for the signals that count. A wait reads the bus from the seat
of the server, skips what does not count, and is given up whenever something else comes first, so
that there is a new one at every turn. All that a wait knows is its place on the bus, and that stays
when the wait is given up.

A turn of the server that has nothing else to do reads one receipt. A wait may as well read on at
once, whatever else has become due by then; this is `Gate.waitOn`.
-/

namespace TransferGate

/-! ## What counts -/

/-- The server has to hear of the event when it observes. -/
def Event.isObserved (event : Event) : Bool := event.kind.observedSignal?.isSome

theorem Event.isObserved_iff (event : Event) :
    event.isObserved = true ↔ ∃ signal, event.kind = .signal signal ∧ signal ≠ .appReady := by
  unfold isObserved
  cases event.kind with
  | signal signal => cases signal <;> simp [EventKind.observedSignal?, Signal.isObserved]
  | _ => simp [EventKind.observedSignal?]

example : (EventKind.all.filter fun kind => kind.observedSignal?.isSome) =
    [.signal .registrationChanged, .signal .cellularPreferenceChanged,
      .signal .reachabilityChanged, .signal .batteryLevelChanged, .signal .lowPowerModeChanged,
      .signal .willEnterForeground, .signal .downloadSuspensionChanged] := rfl

def Receipt.matters : Receipt → Bool
  | .event received => received.isObserved
  | .lagged _ => true

/-- The receipts tell of these events what has to be told: each event that counts is there at its
place, and each gap is, with its length. -/
inductive Yields : List Receipt → List Event → Prop where
  | nothing : Yields [] []
  | signal {items : List Receipt} {events : List Event} (before : Yields items events)
      {event : Event} (observed : event.isObserved = true) :
      Yields (items ++ [.event event]) (events ++ [event])
  | other {items : List Receipt} {events : List Event} (before : Yields items events)
      {event : Event} (unobserved : event.isObserved = false) : Yields items (events ++ [event])
  | gap {items : List Receipt} {events : List Event} (before : Yields items events)
      (missed : List Event) (something : missed ≠ []) :
      Yields (items ++ [.lagged missed.length]) (events ++ missed)

theorem Covers.yields {receipts : List Receipt} {events : List Event}
    (covers : Covers receipts events) : Yields (receipts.filter Receipt.matters) events := by
  induction covers with
  | nothing => exact .nothing
  | event before event induction =>
      rw [List.filter_append]
      cases observed : event.isObserved with
      | true =>
          have matters : (Receipt.event event).matters = true := observed
          rw [List.filter_cons_of_pos matters, List.filter_nil]
          exact induction.signal observed
      | false =>
          rw [List.filter_cons_of_neg (by simp [Receipt.matters, observed]), List.filter_nil,
            List.append_nil]
          exact induction.other observed
  | gap before missed something induction =>
      rw [List.filter_append]
      exact induction.gap missed something

namespace Yields

variable {items : List Receipt} {events : List Event}

theorem sublist (yields : Yields items events) :
    (items.filterMap Receipt.event?).Sublist (events.filter Event.isObserved) := by
  induction yields with
  | nothing => exact .slnil
  | signal before observed induction =>
      rw [List.filterMap_append, List.filter_append, List.filter_cons_of_pos observed,
        List.filter_nil]
      exact induction.append (List.Sublist.refl _)
  | other before unobserved induction =>
      rw [List.filter_append]
      exact induction.trans (List.sublist_append_left ..)
  | gap before missed something induction =>
      rw [List.filterMap_append, List.filter_append]
      exact induction.append (List.nil_sublist _)

theorem eq_of_gapless (yields : Yields items events)
    (gapless : ∀ item ∈ items, item.event?.isSome = true) :
    items.filterMap Receipt.event? = events.filter Event.isObserved := by
  induction yields with
  | nothing => rfl
  | signal before observed induction =>
      rw [List.filterMap_append, List.filter_append, List.filter_cons_of_pos observed,
        induction fun item member => gapless item (List.mem_append_left _ member)]
      rfl
  | other before unobserved induction =>
      rw [List.filter_append, List.filter_cons_of_neg (by simp [unobserved]), List.filter_nil,
        List.append_nil]
      exact induction gapless
  | gap before missed something induction =>
      cases gapless _ (List.mem_append_right _ (List.mem_singleton_self _))

end Yields

namespace Gate

open Activity

/-! ## Waits -/

def awaited? (gate : Gate) : Option (Receipt × Bus Seat) :=
  match gate.server with
  | .serving => gate.bus.receive .observation
  | _ => none

/-- A wait reads on. If the receipt does not matter, this comes to a step forward on the bus and to
nothing else. -/
def waitOn : Activity Gate Unit := do
  match (← Activity.get).awaited? with
  | none => return ()
  | some (receipt, bus) => doServerTask (.observed receipt bus)

/-- A wait that is given up after it has read so many receipts, unless one of them mattered. Yields
the receipt with which it ended. -/
def wait : Nat → Activity Gate (Option Receipt)
  | 0 => return none
  | limit + 1 => do
      match (← Activity.get).awaited? with
      | none => return none
      | some (receipt, bus) =>
          doServerTask (.observed receipt bus)
          if receipt.matters then return some receipt else wait limit

inductive Beat where
  | makes (move : Move)
  | waitOn

namespace Beat

def perform : Beat → Activity Gate Unit
  | .makes move => (fun _ => ()) <$> move.perform
  | .waitOn => Gate.waitOn

def receipt? (gate : Gate) : Beat → Option (Seat × Receipt)
  | .makes move => move.receipt? gate
  | .waitOn => gate.awaited?.map fun received => (.observation, received.1)

def base (gate : Gate) : Beat → Bus Seat
  | .makes move => (move.base gate).bus
  | .waitOn => (gate.awaited?.map Prod.snd).getD gate.bus

def seats (gate : Gate) : Beat → List Seat
  | .makes move => move.seats gate
  | .waitOn => []

end Beat

structure Moment where
  before : Gate
  beat : Beat

namespace Moment

def outcome (moment : Moment) : Outcome Gate Unit := moment.beat.perform.run moment.before

def after (moment : Moment) : Gate := moment.outcome.state

def effects (moment : Moment) : List Effect := moment.outcome.effects

def notices (moment : Moment) : List Notice := moment.effects.filterMap Effect.notice?

def received? (moment : Moment) : Option Receipt :=
  match moment.beat.receipt? moment.before with
  | some (.observation, receipt) => some receipt
  | _ => none

end Moment

def through (gate : Gate) : List Beat → Gate
  | [] => gate
  | beat :: rest => (beat.perform.run gate).state.through rest

def moments (gate : Gate) : List Beat → List Moment
  | [] => []
  | beat :: rest => ⟨gate, beat⟩ :: (beat.perform.run gate).state.moments rest

theorem through_append (gate : Gate) (first second : List Beat) :
    gate.through (first ++ second) = (gate.through first).through second := by
  induction first generalizing gate with
  | nil => rfl
  | cons beat rest induction => exact induction (beat.perform.run gate).state

theorem moments_append (gate : Gate) (first second : List Beat) :
    gate.moments (first ++ second) = gate.moments first ++ (gate.through first).moments second := by
  induction first generalizing gate with
  | nil => rfl
  | cons beat rest induction => exact congrArg _ (induction (beat.perform.run gate).state)

theorem through_concat (gate : Gate) (beats : List Beat) (beat : Beat) :
    gate.through (beats ++ [beat]) = (beat.perform.run (gate.through beats)).state :=
  gate.through_append beats [beat]

theorem moments_concat (gate : Gate) (beats : List Beat) (beat : Beat) :
    gate.moments (beats ++ [beat]) = gate.moments beats ++ [⟨gate.through beats, beat⟩] :=
  gate.moments_append beats [beat]

theorem run_observed (receipt : Receipt) (bus : Bus Seat) (gate : Gate) :
    (doServerTask (.observed receipt bus)).run gate =
      (handleObserved receipt).run { gate with bus := bus } := rfl

theorem run_observed_of_skipped {receipt : Receipt} (skipped : receipt.matters = false)
    (bus : Bus Seat) (gate : Gate) :
    (doServerTask (.observed receipt bus)).run gate = ⟨(), { gate with bus := bus }, []⟩ := by
  cases receipt with
  | lagged missed => cases skipped
  | event event =>
      have unobserved : event.kind.observedSignal? = none := by
        simpa [Receipt.matters, Event.isObserved] using skipped
      rw [run_observed]
      simp only [handleObserved, unobserved]
      rfl

theorem run_waitOn_idle {gate : Gate} (nothing : gate.awaited? = none) :
    waitOn.run gate = ⟨(), gate, []⟩ := by
  simp [waitOn, nothing]

theorem run_waitOn {gate : Gate} {receipt : Receipt} {bus : Bus Seat}
    (found : gate.awaited? = some (receipt, bus)) :
    waitOn.run gate = (doServerTask (.observed receipt bus)).run gate := by
  simp [waitOn, found]

theorem awaited?_eq_some {gate : Gate} {receipt : Receipt} {bus : Bus Seat}
    (found : gate.awaited? = some (receipt, bus)) :
    gate.server = .serving ∧ gate.bus.receive .observation = some (receipt, bus) := by
  unfold awaited? at found
  split at found
  · next serving => exact ⟨serving, found⟩
  · cases found

/-- The wait that is given up after `limit` receipts is made of these beats, and at most the last of
them reads something that matters. -/
structure WaitsBy (gate : Gate) (limit : Nat) (beats : List Beat) : Prop where
  only : ∀ beat ∈ beats, beat = .waitOn
  few : beats.length ≤ limit
  value : ((wait limit).run gate).value.toList =
    ((gate.moments beats).filterMap Moment.received?).filter Receipt.matters
  state : ((wait limit).run gate).state = gate.through beats
  effects : ((wait limit).run gate).effects = (gate.moments beats).flatMap Moment.effects
  skips : ∀ moment ∈ (gate.moments beats).dropLast, ∀ receipt,
    moment.received? = some receipt → receipt.matters = false

private theorem waitsBy_nothing {gate : Gate} {limit : Nat}
    (idle : (wait limit).run gate = ⟨none, gate, []⟩) : gate.WaitsBy limit [] where
  only := List.forall_mem_nil _
  few := Nat.zero_le limit
  value := by
    rw [idle]
    rfl
  state := congrArg Outcome.state idle
  effects := congrArg Outcome.effects idle
  skips := List.forall_mem_nil _

theorem received?_waitOn {gate : Gate} {receipt : Receipt} {bus : Bus Seat}
    (found : gate.awaited? = some (receipt, bus)) :
    Moment.received? ⟨gate, .waitOn⟩ = some receipt := by
  simp [Moment.received?, Beat.receipt?, found]

private theorem WaitsBy.skip {gate : Gate} {receipt : Receipt} {bus : Bus Seat}
    (found : gate.awaited? = some (receipt, bus)) (skipped : receipt.matters = false)
    {limit : Nat} {beats : List Beat} (waits : (waitOn.run gate).state.WaitsBy limit beats) :
    gate.WaitsBy (limit + 1) (.waitOn :: beats) where
  only := by simpa using waits.only
  few := Nat.succ_le_succ waits.few
  value := by
    rw [moments, List.filterMap_cons_some (received?_waitOn found),
      List.filter_cons_of_neg (by simp [skipped]), Beat.perform, ← waits.value]
    simp [wait, found, skipped, run_waitOn found]
  state := by
    rw [through, Beat.perform, ← waits.state]
    simp [wait, found, skipped, run_waitOn found]
  effects := by
    rw [moments, List.flatMap_cons, Beat.perform, ← waits.effects]
    simp [wait, found, skipped, run_waitOn found, Moment.effects, Moment.outcome, Beat.perform]
  skips := by
    intro moment member other received
    rw [moments, Beat.perform] at member
    by_cases last : (waitOn.run gate).state.moments beats = []
    · rw [last] at member
      cases member
    · rw [List.dropLast_cons_of_ne_nil last] at member
      rcases List.mem_cons.mp member with rfl | inRest
      · cases (received?_waitOn found).symm.trans received
        exact skipped
      · exact waits.skips moment inRest other received

private theorem waitsBy_single {gate : Gate} {receipt : Receipt} {bus : Bus Seat}
    (found : gate.awaited? = some (receipt, bus)) (matters : receipt.matters = true)
    (limit : Nat) : gate.WaitsBy (limit + 1) [.waitOn] where
  only := by simp
  few := Nat.le_add_left 1 limit
  value := by simp [wait, found, matters, moments, received?_waitOn found]
  state := by simp [wait, found, matters, through, Beat.perform, run_waitOn found]
  effects := by
    simp [wait, found, matters, moments, Moment.effects, Moment.outcome, Beat.perform,
      run_waitOn found]
  skips := List.forall_mem_nil _

/-- A wait reads one receipt after the other until one of them matters. -/
theorem waitsBy (limit : Nat) (gate : Gate) : ∃ beats, gate.WaitsBy limit beats := by
  induction limit generalizing gate with
  | zero => exact ⟨[], waitsBy_nothing rfl⟩
  | succ limit induction =>
      cases found : gate.awaited? with
      | none => exact ⟨[], waitsBy_nothing (by simp [wait, found])⟩
      | some next =>
          rcases next with ⟨receipt, bus⟩
          cases matters : receipt.matters with
          | false =>
              rcases induction (waitOn.run gate).state with ⟨beats, waits⟩
              exact ⟨_, waits.skip found matters⟩
          | true =>
              exact ⟨_, waitsBy_single found matters limit⟩

end Gate

end TransferGate
