import TransferGate.Proofs.Reports
import TransferGate.Proofs.Stopping

/-! # The numbers of events

Every notice gets the next number when it is announced, so the notices in the record
tell all the events that were published. As long as anybody sits on the bus all the
time, the bus carries all of them.
-/

namespace TransferGate

/-! ## Numbers -/

namespace Event

theorem number_append (start : Nat) (first second : List Notice) :
    number start (first ++ second) =
      number start first ++ number (start + first.length) second := by
  induction first generalizing start with
  | nil => rfl
  | cons notice rest induction =>
      rw [List.cons_append, number, number, induction, List.cons_append, List.length_cons,
        Nat.add_assoc, Nat.add_comm 1]

@[simp] theorem length_number (start : Nat) (notices : List Notice) :
    (number start notices).length = notices.length := by
  induction notices generalizing start with
  | nil => rfl
  | cons notice rest induction => exact congrArg Nat.succ (induction (start + 1))

@[simp] theorem map_kind_number (start : Nat) (notices : List Notice) :
    (number start notices).map (fun event => event.kind) = notices.map Notice.kind := by
  induction notices generalizing start with
  | nil => rfl
  | cons notice rest induction => exact congrArg (notice.kind :: ·) (induction (start + 1))

theorem le_seq_of_mem_number {start : Nat} {notices : List Notice} {event : Event}
    (member : event ∈ number start notices) : start ≤ event.seq := by
  induction notices generalizing start with
  | nil => cases member
  | cons notice rest induction =>
      rcases List.mem_cons.mp member with rfl | inRest
      · exact Nat.le_refl _
      · exact Nat.le_of_succ_le (induction inRest)

theorem number_increases (start : Nat) (notices : List Notice) :
    (number start notices).Pairwise fun earlier later => earlier.seq < later.seq := by
  induction notices generalizing start with
  | nil => exact .nil
  | cons notice rest induction =>
      exact .cons (fun _ member => le_seq_of_mem_number member) (induction (start + 1))

end Event

/-! ## A bus that carries everything -/

namespace Bus

/-- The bus has carried an event for each of these notices, in this order. -/
structure Carries {Seat : Type} (bus : Bus Seat) (notices : List Notice) : Prop where
  keeps : bus.Keeps (Event.number 0 notices)
  nextSeq : bus.nextSeq = notices.length

namespace Carries

theorem nothing {Seat : Type} (slots : Nat) : (withSlots slots : Bus Seat).Carries [] :=
  ⟨keeps_withSlots slots, rfl⟩

theorem reseats {Seat : Type} [DecidableEq Seat] {bus after : Bus Seat} {notices : List Notice}
    (carries : bus.Carries notices) {seats : List Seat} (reseats : Reseats seats bus after) :
    after.Carries notices :=
  ⟨reseats.keeps carries.keeps, reseats.nextSeq.trans carries.nextSeq⟩

theorem receives {Seat : Type} [DecidableEq Seat] {bus after : Bus Seat} {notices : List Notice}
    (carries : bus.Carries notices) (receives : bus.Receives after) : after.Carries notices := by
  rcases receives with rfl | ⟨seat, receipt, received⟩
  · exact carries
  · exact carries.reseats (carries.keeps.reseats_receive received)

private theorem nextSeq_publish (bus : Bus Seat) (notice : Notice) :
    (bus.publish notice).nextSeq = bus.nextSeq + 1 := by
  unfold publish send issue
  by_cases nobody : bus.cursors.isEmpty = true
  · rw [if_pos nobody]
  · rw [if_neg nobody]

variable {bus : Bus Seat} {notices : List Notice}

theorem absorb (carries : bus.Carries notices) (somebody : bus.cursors ≠ []) (effect : Effect) :
    (bus.absorb effect).Carries (notices ++ effect.notice?.toList) := by
  have silent {next : Bus Seat} (carriesOn : next.Carries notices)
      (quiet : effect.notice? = none) : next.Carries (notices ++ effect.notice?.toList) := by
    rw [quiet, Option.toList_none, List.append_nil]
    exact carriesOn
  cases effect with
  | announced notice =>
      refine ⟨?_, ?_⟩
      · have published := carries.keeps.publish notice somebody
        rw [eventOf, issue, carries.nextSeq] at published
        rw [Effect.notice?, Option.toList_some, Event.number_append, Nat.zero_add]
        exact published
      · rw [Effect.notice?, Option.toList_some, List.length_append, List.length_singleton,
          ← carries.nextSeq]
        exact nextSeq_publish bus notice
  | attached => exact silent (carries.reseats (.subscribe bus .observation)) rfl
  | detached => exact silent (carries.reseats (.leave bus .observation)) rfl
  | _ => exact silent carries rfl

theorem absorbAll (carries : bus.Carries notices) {seat : Seat} (other : seat ≠ .observation)
    (seated : (bus.cursor? seat).isSome = true) (effects : List Effect) :
    (bus.absorbAll effects).Carries (notices ++ effects.filterMap Effect.notice?) := by
  induction effects generalizing bus notices with
  | nil => simpa using carries
  | cons effect rest induction =>
      have stillSeated : ((bus.absorb effect).cursor? seat).isSome = true := by
        rw [bus.cursor?_absorb_other effect other, seated]
      have later := induction (carries.absorb (cursors_ne_nil seated) effect) stillSeated
      have split : (effect :: rest).filterMap Effect.notice? =
          effect.notice?.toList ++ rest.filterMap Effect.notice? := by
        rw [List.filterMap_cons]
        cases effect.notice? <;> rfl
      rw [split, ← List.append_assoc]
      exact later

theorem absorbs (carries : bus.Carries notices) {seats : List Seat} {effects : List Effect}
    {after : Bus Seat} (absorbs : Absorbs seats bus effects after) {seat : Seat}
    (untouched : seat ∉ seats) (other : seat ≠ .observation)
    (seated : (bus.cursor? seat).isSome = true) :
    after.Carries (notices ++ effects.filterMap Effect.notice?) := by
  rcases absorbs with ⟨base, first, second⟩
  refine ((carries.reseats first).absorbAll other ?_ effects).reseats second
  rw [first.cursor? seat untouched, seated]

end Carries

/-- A receiver that has fallen behind is told exactly how many events are gone. -/
theorem missed_of_receive {Seat : Type} [DecidableEq Seat] {bus next : Bus Seat} {seat : Seat}
    {cursor missed : Nat} (seated : bus.cursor? seat = some cursor)
    (received : bus.receive seat = some (.lagged missed, next)) :
    missed = bus.sent - bus.slots - cursor := by
  simp only [receive, seated] at received
  split at received
  · simp only [Option.some.injEq, Prod.mk.injEq, Receipt.lagged.injEq] at received
    exact received.1.symm
  · simp at received

end Bus

/-! ## Receipts -/

def Receipt.event? : Receipt → Option Event
  | .event received => some received
  | .lagged _ => none

/-- The receipts account for the events, in order: each event is there, or in a gap that is as long
as it is said to be. -/
inductive Covers : List Receipt → List Event → Prop where
  | nothing : Covers [] []
  | event {receipts : List Receipt} {events : List Event} (before : Covers receipts events)
      (event : Event) : Covers (receipts ++ [.event event]) (events ++ [event])
  | gap {receipts : List Receipt} {events : List Event} (before : Covers receipts events)
      (missed : List Event) (something : missed ≠ []) :
      Covers (receipts ++ [.lagged missed.length]) (events ++ missed)

theorem Covers.sublist {receipts : List Receipt} {events : List Event}
    (covers : Covers receipts events) : (receipts.filterMap Receipt.event?).Sublist events := by
  induction covers with
  | nothing => exact .slnil
  | event before event induction =>
      rw [List.filterMap_append]
      exact induction.append (List.Sublist.refl [event])
  | gap before missed something induction =>
      rw [List.filterMap_append]
      exact induction.append (List.nil_sublist missed)

def Receipt.span : Receipt → Nat
  | .event _ => 1
  | .lagged missed => missed

theorem Covers.receive_since {Seat : Type} [DecidableEq Seat] {bus next : Bus Seat}
    {log : List Event} (keeps : bus.Keeps log) {seat : Seat} {start read : Nat}
    (seated : bus.cursor? seat = some (start + read)) {receipt : Receipt}
    (received : bus.receive seat = some (receipt, next)) {receipts : List Receipt}
    (covers : Covers receipts ((log.drop start).take read)) :
    next.cursor? seat = some (start + (read + receipt.span)) ∧
      Covers (receipts ++ [receipt]) ((log.drop start).take (read + receipt.span)) := by
  rcases keeps.receive seated received with ⟨event, rfl, found, rfl⟩ | ⟨missed, rfl, behind, rfl⟩
  · refine ⟨bus.cursor?_moveTo_self seat _, ?_⟩
    rw [Receipt.span, List.take_add_one, List.getElem?_drop, found]
    exact covers.event event
  · have gone : bus.sent - bus.slots = start + (read + missed) := by
      rw [Bus.missed_of_receive seated received]
      omega
    have length : (((log.drop start).drop read).take missed).length = missed := by
      rw [List.length_take, List.length_drop, List.length_drop, ← keeps.sent]
      omega
    refine ⟨by rw [bus.cursor?_moveTo_self, gone, Receipt.span], ?_⟩
    rw [Receipt.span, List.take_add]
    have covered := covers.gap (((log.drop start).drop read).take missed) fun nothing => by
      rw [nothing, List.length_nil] at length
      omega
    rw [length] at covered
    exact covered

theorem Covers.receive {Seat : Type} [DecidableEq Seat] {bus next : Bus Seat} {log : List Event}
    (keeps : bus.Keeps log) {seat : Seat} {cursor : Nat} (seated : bus.cursor? seat = some cursor)
    {receipt : Receipt} (received : bus.receive seat = some (receipt, next))
    {receipts : List Receipt} (covers : Covers receipts (log.take cursor)) :
    ∃ after, next.cursor? seat = some after ∧
      Covers (receipts ++ [receipt]) (log.take after) := by
  have seatedAt : bus.cursor? seat = some (0 + cursor) := by rwa [Nat.zero_add]
  have fromStart := Covers.receive_since keeps seatedAt received covers
  rw [Nat.zero_add] at fromStart
  exact ⟨_, fromStart⟩

theorem Covers.length {receipts : List Receipt} {events : List Event}
    (covers : Covers receipts events) : events.length = (receipts.map Receipt.span).sum := by
  induction covers with
  | nothing => rfl
  | event before event induction => simp [induction, Receipt.span]
  | gap before missed something induction => simp [induction, Receipt.span]

theorem Covers.eq_of_gapless {receipts : List Receipt} {events : List Event}
    (covers : Covers receipts events)
    (gapless : ∀ receipt ∈ receipts, receipt.event?.isSome = true) :
    receipts.filterMap Receipt.event? = events := by
  induction covers with
  | nothing => rfl
  | event before event induction =>
      rw [List.filterMap_append, induction fun receipt member =>
        gapless receipt (List.mem_append_left _ member)]
      rfl
  | gap before missed something induction =>
      cases gapless _ (List.mem_append_right _ (List.mem_singleton_self _))

namespace Gate

open Activity

end Gate

end TransferGate
