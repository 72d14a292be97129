import TransferGate.Proofs.Numbering

/-! # What the relay reads

The relay is done with the events up to its cursor: it has passed each of them on, or it has said
how many of them it has missed.
-/

namespace TransferGate

namespace Gate

open Activity

/-! ## What is published and read in a step -/

namespace Step

def notices (step : Step) : List Notice := step.effects.filterMap Effect.notice?

def reading? (step : Step) : Option Receipt :=
  match step.move with
  | .turn (.relay stopFirst) =>
      match step.before.relayTask? stopFirst with
      | some (.pass receipt _) => some receipt
      | _ => none
  | _ => none

def passed? (step : Step) : Option Event := step.move.passed? step.before

theorem passed?_eq (step : Step) : step.passed? = step.reading?.bind Receipt.event? := by
  rcases step with ⟨gate, move⟩
  cases move with
  | turn choice =>
      cases choice with
      | relay stopFirst =>
          simp only [passed?, Move.passed?, reading?]
          cases gate.relayTask? stopFirst with
          | none => rfl
          | some task =>
              cases task with
              | pass receipt bus => cases receipt <;> rfl
              | _ => rfl
      | _ => rfl
  | _ => rfl

/-- The relay passes on what it reads, warns where it has missed something, and else passes nothing
on. -/
def Tells (step : Step) : Prop :=
  match step.reading? with
  | some (.event event) =>
      step.effects = .relayed event :: ((Fanout.emit event).run step.before.fanout).effects
  | some (.lagged missed) => step.effects = [.logged (.relayLagged missed)]
  | none => step.effects.filterMap Effect.relayed? = []

private theorem reading?_eq_some {step : Step} {receipt : Receipt}
    (reads : step.reading? = some receipt) :
    ∃ stopFirst bus, step.move = .turn (.relay stopFirst) ∧
      step.before.relayTask? stopFirst = some (.pass receipt bus) := by
  unfold reading? at reads
  split at reads
  · next stopFirst isTurn =>
      split at reads
      · next other bus found =>
          cases reads
          exact ⟨stopFirst, bus, isTurn, found⟩
      · cases reads
  · cases reads

private theorem reading?_elsewhere {step : Step} (elsewhere : step.move.isRelayTurn = false) :
    step.reading? = none := by
  cases reads : step.reading? with
  | none => rfl
  | some receipt =>
      rcases reading?_eq_some reads with ⟨stopFirst, bus, isTurn, -⟩
      rw [isTurn] at elsewhere
      cases elsewhere

private theorem reading?_relayTurn {gate : Gate} {stopFirst : Bool} {receipt : Receipt}
    {bus : Bus Seat} (found : gate.relayTask? stopFirst = some (.pass receipt bus)) :
    reading? ⟨gate, .turn (.relay stopFirst)⟩ = some receipt := by
  simp [reading?, found]

theorem listening_of_reading? {step : Step} {receipt : Receipt}
    (reads : step.reading? = some receipt) :
    step.before.relay = .listening ∧ step.after.relay = .listening := by
  rcases reading?_eq_some reads with ⟨stopFirst, bus, isTurn, found⟩
  have listening : step.before.relay = .listening := by
    by_contra unlistening
    rcases relayTask?_of_unlistening unlistening stopFirst with idle | leaves
    · rw [found] at idle
      cases idle
    · rw [found] at leaves
      cases leaves
  refine ⟨listening, ?_⟩
  rw [after, outcome, relay_perform, isTurn, Move.standing, found]
  cases receipt <;> exact listening

private theorem tells_relayTurn (gate : Gate) (stopFirst : Bool) :
    Tells ⟨gate, .turn (.relay stopFirst)⟩ := by
  cases found : gate.relayTask? stopFirst with
  | none => simp [Tells, reading?, found, effects, outcome, run_relayTurn_idle found]
  | some task =>
      cases task with
      | pass receipt bus =>
          rw [Tells, reading?_relayTurn found, effects, outcome, run_relayTurn found]
          cases receipt <;> rfl
      | close => simp [Tells, reading?, found, effects, outcome, run_relayTurn found, doRelayTask]
      | leave => simp [Tells, reading?, found, effects, outcome, run_relayTurn found, doRelayTask]

theorem tells (step : Step) : step.Tells := by
  rcases step with ⟨gate, move⟩
  cases isTurn : move.isRelayTurn with
  | false =>
      rw [Tells, reading?_elsewhere isTurn]
      exact unrelayed_elsewhere isTurn gate
  | true =>
      cases move with
      | turn choice =>
          cases choice with
          | relay stopFirst => exact tells_relayTurn gate stopFirst
          | _ => cases isTurn
      | _ => cases isTurn

end Step

def published (past : List Step) : List Event := Event.number 0 (past.flatMap Step.notices)

private theorem published_concat (past : List Step) (step : Step) :
    published (past ++ [step]) =
      published past ++ Event.number (past.flatMap Step.notices).length step.notices := by
  simp [published, Event.number_append]

/-! ## The relay reads everything -/

/-- The relay sits on a bus that carries all the events, and what it has read accounts for all of
them that are before its cursor. -/
structure Attends (past : List Step) (gate : Gate) : Prop where
  carries : gate.bus.Carries (past.flatMap Step.notices)
  covers : ∃ cursor, gate.bus.cursor? .relay = some cursor ∧
    Covers (past.filterMap Step.reading?) ((published past).take cursor)

private theorem relay_notMem_seats {move : Move} (elsewhere : move.isRelayTurn = false)
    (stays : move ≠ .abandon) (gate : Gate) : .relay ∉ move.seats gate := by
  cases move with
  | abandon => exact absurd rfl stays
  | turn choice =>
      cases choice with
      | relay stopFirst => cases elsewhere
      | server =>
          intro member
          cases found : gate.serverTask? with
          | none => simp [Move.seats, found] at member
          | some task => cases task <;> simp [Move.seats, found, ServerTask.seats] at member
      | _ => simp [Move.seats]
  | _ => simp [Move.seats]

namespace Attends

variable {past : List Step} {gate : Gate} {log : List Event}

theorem stays (attends : Attends past gate) {move : Move} {after : Gate}
    (carries : after.bus.Carries (past.flatMap Step.notices ++ Step.notices ⟨gate, move⟩))
    (same : after.bus.cursor? .relay = gate.bus.cursor? .relay)
    (nothing : Step.reading? ⟨gate, move⟩ = none) : Attends (past ++ [⟨gate, move⟩]) after := by
  rcases attends.covers with ⟨cursor, seated, covers⟩
  have bounded : cursor ≤ (published past).length := attends.carries.keeps.cursor?_le seated
  refine ⟨by simpa using carries, cursor, same.trans seated, ?_⟩
  rw [published_concat, List.take_append_of_le_length bounded, List.filterMap_append]
  simpa [nothing] using covers

theorem elsewhere (attends : Attends past gate) (sound : gate.Sound log) {move : Move}
    (elsewhere : move.isRelayTurn = false) (stays : move ≠ .abandon) :
    Attends (past ++ [⟨gate, move⟩]) (move.perform.run gate).state := by
  have absorbs := absorbs_perform sound move
  have untouched := relay_notMem_seats elsewhere stays gate
  have sameBase : (move.base gate).bus.cursor? .relay = gate.bus.cursor? .relay :=
    cursor?_base move gate (by decide) (by decide)
  rcases attends.covers with ⟨cursor, seated, -⟩
  refine attends.stays ?_ ((absorbs.cursor? untouched (by decide)).trans sameBase)
    (Step.reading?_elsewhere elsewhere)
  exact (attends.carries.receives (receives_base move gate)).absorbs absorbs untouched (by decide)
    (by rw [sameBase, seated]; rfl)

theorem passes (attends : Attends past gate) {stopFirst : Bool} {receipt : Receipt}
    {bus : Bus Seat} (found : gate.relayTask? stopFirst = some (.pass receipt bus)) :
    Attends (past ++ [⟨gate, .turn (.relay stopFirst)⟩])
      ((Move.turn (.relay stopFirst)).perform.run gate).state := by
  have received := receive_of_relayTask? found
  have keeps := attends.carries.keeps
  rcases attends.covers with ⟨cursor, seated, covers⟩
  rcases Covers.receive keeps seated received covers with ⟨after, seatedAfter, coversAfter⟩
  have reseats := keeps.reseats_receive received
  have bounded : after ≤ (published past).length :=
    (reseats.keeps keeps).cursor?_le seatedAfter
  have effects : Step.effects ⟨gate, .turn (.relay stopFirst)⟩ =
      ((doRelayTask (.pass receipt bus)).run gate).effects := by
    rw [Step.effects, Step.outcome, run_relayTurn found]
  rw [run_relayTurn found]
  constructor
  · have carries := (attends.carries.reseats reseats).absorbAll (by decide)
      (show (bus.cursor? .relay).isSome = true by rw [seatedAfter]; rfl)
      ((doRelayTask (.pass receipt bus)).run gate).effects
    rw [← bus_of_pass, ← effects] at carries
    simpa [Step.notices] using carries
  · refine ⟨after, ?_, ?_⟩
    · rw [bus_of_pass, bus.cursor?_absorbAll_other _ (by decide), seatedAfter]
    · rw [published_concat, List.take_append_of_le_length bounded, List.filterMap_append]
      simpa [published, Step.reading?_relayTurn found] using coversAfter

theorem relayTurn (attends : Attends past gate) {stopFirst : Bool}
    (listening : ((Move.turn (.relay stopFirst)).perform.run gate).state.relay = .listening) :
    Attends (past ++ [⟨gate, .turn (.relay stopFirst)⟩])
      ((Move.turn (.relay stopFirst)).perform.run gate).state := by
  cases found : gate.relayTask? stopFirst with
  | none =>
      have silent : Step.notices ⟨gate, .turn (.relay stopFirst)⟩ = [] := by
        rw [Step.notices, Step.effects, Step.outcome, run_relayTurn_idle found]
        rfl
      rw [run_relayTurn_idle found]
      refine attends.stays ?_ rfl (by simp [Step.reading?, found])
      simpa [silent] using attends.carries
  | some task =>
      rw [relay_perform, Move.standing, found] at listening
      cases task with
      | pass receipt bus => exact attends.passes found
      | close => cases listening
      | leave => cases listening

theorem perform (attends : Attends past gate) (sound : gate.Sound log) {move : Move}
    (listening : (move.perform.run gate).state.relay = .listening) :
    Attends (past ++ [⟨gate, move⟩]) (move.perform.run gate).state := by
  cases isTurn : move.isRelayTurn with
  | true =>
      cases move with
      | turn choice =>
          cases choice with
          | relay stopFirst => exact attends.relayTurn listening
          | _ => cases isTurn
      | _ => cases isTurn
  | false =>
      apply attends.elsewhere sound isTurn
      rintro rfl
      rw [relay_perform, Move.standing] at listening
      split at listening <;> cases listening

end Attends

theorem carries_of_build {settings : Settings} {host : Host} {subscribers : List Subscriber}
    {attached : Bool} {built : Outcome Gate Unit}
    (succeeds : build settings host subscribers attached = .ok built) :
    built.state.bus.Carries [] := by
  rcases ok_of_bind succeeds with ⟨bus, created, succeeds⟩
  rcases ok_of_bind succeeds with ⟨fanout, -, succeeds⟩
  rcases ok_of_bind succeeds with ⟨-, -, succeeds⟩
  cases succeeds
  cases bus_of_create created
  have nothing : (Bus.withSlots _ : Bus Seat).Carries [] :=
    .nothing (slotsFor (max settings.effectiveBusCapacity 1))
  cases subscribers.isEmpty with
  | true => exact nothing.reseats (.subscribe _ Seat.lifecycle)
  | false => exact (nothing.reseats (.subscribe _ Seat.relay)).reseats (.subscribe _ Seat.lifecycle)

private theorem attends_of_build {settings : Settings} {host : Host} {subscribers : List Subscriber}
    {attached : Bool} {built : Outcome Gate Unit}
    (succeeds : build settings host subscribers attached = .ok built)
    (listening : built.state.relay = .listening) : Attends [] built.state := by
  refine ⟨carries_of_build succeeds, 0, ?_, Covers.nothing⟩
  rcases ok_of_bind succeeds with ⟨bus, created, succeeds⟩
  rcases ok_of_bind succeeds with ⟨fanout, -, succeeds⟩
  rcases ok_of_bind succeeds with ⟨-, -, succeeds⟩
  cases succeeds
  cases bus_of_create created
  cases nobody : subscribers.isEmpty with
  | false => rfl
  | true =>
      simp only [nobody, if_true] at listening
      cases listening

theorem attends_following {settings : Settings} {host : Host} {subscribers : List Subscriber}
    {attached : Bool} {built : Outcome Gate Unit}
    (succeeds : build settings host subscribers attached = .ok built) (moves : List Move)
    (listening : (built.state.following moves).relay = .listening) :
    Attends (built.state.steps moves) (built.state.following moves) := by
  induction moves using List.reverseRecOn with
  | nil => exact (attends_of_build succeeds listening :)
  | append_singleton moves move induction =>
      rw [steps_concat, following_concat] at *
      have listened : (built.state.following moves).relay = .listening := by
        by_contra unlistening
        exact unlistening_perform unlistening move listening
      rcases (fresh_of_build succeeds).sound.follow moves with ⟨more, sound⟩
      exact (induction listened).perform sound listening

/-- The relay is through with these events, and while it listens it has not read the others yet. -/
structure HasRead (past : List Step) (gate : Gate) (processed : List Event) : Prop where
  covers : Covers (past.filterMap Step.reading?) processed
  first : processed <+: published past
  rest : gate.relay = .listening →
    published past = processed ++ gate.bus.unread (published past) .relay

theorem Attends.hasRead {past : List Step} {gate : Gate} (attends : Attends past gate) :
    ∃ processed, HasRead past gate processed := by
  rcases attends.covers with ⟨cursor, seated, covers⟩
  refine ⟨_, covers, List.take_prefix _ _, fun _ => ?_⟩
  rw [Bus.unread_of_cursor? seated, List.take_append_drop]

/-- At any time the relay accounts for a first part of all that is published. -/
theorem hasRead_following {settings : Settings} {host : Host} {subscribers : List Subscriber}
    {attached : Bool} {built : Outcome Gate Unit}
    (succeeds : build settings host subscribers attached = .ok built) (moves : List Move) :
    ∃ processed, HasRead (built.state.steps moves) (built.state.following moves) processed := by
  induction moves using List.reverseRecOn with
  | nil => exact ⟨[], .nothing, List.nil_prefix, fun _ => (Bus.unread_nil _ _).symm⟩
  | append_singleton moves move induction =>
      by_cases listening : (built.state.following (moves ++ [move])).relay = .listening
      · exact (attends_following succeeds _ listening).hasRead
      · rcases induction with ⟨processed, covers, first, -⟩
        have nothing : Step.reading? ⟨built.state.following moves, move⟩ = none := by
          cases reads : Step.reading? ⟨built.state.following moves, move⟩ with
          | none => rfl
          | some receipt =>
              rw [following_concat] at listening
              exact absurd (Step.listening_of_reading? reads).2 listening
        rw [steps_concat]
        refine ⟨processed, ?_, ?_, fun isListening => absurd isListening listening⟩
        · simpa [nothing] using covers
        · rw [published_concat]
          exact first.trans (List.prefix_append _ _)

end Gate

end TransferGate
