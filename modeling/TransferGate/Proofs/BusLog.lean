import TransferGate.Wiring
import TransferGate.Proofs.Record

/-! # The log behind a bus

A bus keeps only its latest events. To say what receivers get, imagine the log of
all events ever sent: `Bus.Keeps` relates a bus to that log. A receiver reads the
log in order from its cursor on; it misses events only where it is told so.

Anything done with a gate means for its bus that some receivers move, which is
`Bus.Reseats`, and that effects are taken in, which is `Bus.Absorbs`.
-/

namespace TransferGate

private theorem lastOf_lastOf_append (count : Nat) (items : List Item) (item : Item) :
    lastOf count (lastOf count items ++ [item]) = lastOf count (items ++ [item]) := by
  simp only [lastOf, List.length_append, List.length_drop, List.length_singleton]
  by_cases enough : items.length ≤ count
  · rw [Nat.sub_eq_zero_of_le enough, List.drop_zero, Nat.sub_zero]
  · rw [← List.drop_append_of_le_length (by omega), List.drop_drop]
    congr 1
    omega

namespace Bus

section

variable {Seat : Type}

/-- The bus has carried exactly the events of the log, and keeps the latest of them. -/
structure Keeps (bus : Bus Seat) (log : List Event) : Prop where
  kept : bus.kept = lastOf bus.slots log
  sent : bus.sent = log.length
  cursor_le : ∀ entry ∈ bus.cursors, entry.2 ≤ log.length

theorem keeps_withSlots (slots : Nat) : (withSlots slots : Bus Seat).Keeps [] :=
  ⟨by simp [withSlots, lastOf], rfl, by simp [withSlots]⟩

def eventOf (bus : Bus Seat) (notice : Notice) : Event := (bus.issue notice).1

theorem Keeps.publish {bus : Bus Seat} {log : List Event} (keeps : bus.Keeps log)
    (notice : Notice) (somebody : bus.cursors ≠ []) :
    (bus.publish notice).Keeps (log ++ [bus.eventOf notice]) := by
  have occupied : bus.cursors.isEmpty = false := by simpa using somebody
  simp only [Bus.publish, send, issue, occupied, Bool.false_eq_true, if_false]
  constructor
  · rw [keeps.kept, lastOf_lastOf_append]
    rfl
  · rw [keeps.sent, List.length_append, List.length_singleton]
  · intro entry member
    rw [List.length_append]
    exact Nat.le_add_right_of_le (keeps.cursor_le entry member)

private theorem Keeps.publish_nobody {bus : Bus Seat} {log : List Event} (keeps : bus.Keeps log)
    (notice : Notice) (nobody : bus.cursors = []) : (bus.publish notice).Keeps log := by
  have free : bus.cursors.isEmpty = true := by simpa using nobody
  simp only [Bus.publish, send, issue, free, if_true]
  exact ⟨keeps.kept, keeps.sent, keeps.cursor_le⟩

@[simp] theorem cursors_publish (bus : Bus Seat) (notice : Notice) :
    (bus.publish notice).cursors = bus.cursors := by
  unfold publish send issue
  by_cases nobody : bus.cursors.isEmpty = true
  · rw [if_pos nobody]
  · rw [if_neg nobody]

end

section

variable {Seat : Type} [DecidableEq Seat]

theorem cursor?_publish (bus : Bus Seat) (notice : Notice) (seat : Seat) :
    (bus.publish notice).cursor? seat = bus.cursor? seat := by
  simp only [cursor?, cursors_publish]

private theorem lookup_filter_self (entries : List (Seat × Nat)) (seat : Seat) :
    (entries.filter fun entry => entry.1 != seat).lookup seat = none := by
  rw [List.lookup_eq_none_iff]
  intro entry member
  have kept := (List.mem_filter.mp member).2
  rw [bne_iff_ne] at kept
  exact bne_iff_ne.mpr fun same => kept same.symm

private theorem lookup_filter_other (entries : List (Seat × Nat)) {seat other : Seat}
    (different : other ≠ seat) :
    (entries.filter fun entry => entry.1 != seat).lookup other = entries.lookup other := by
  induction entries with
  | nil => rfl
  | cons entry rest induction =>
      rcases entry with ⟨name, cursor⟩
      by_cases named : name = seat
      · subst named
        simp [List.lookup_cons, induction, beq_false_of_ne different]
      · simp [List.lookup_cons, induction, named]

theorem cursor?_leave_self (bus : Bus Seat) (seat : Seat) : (bus.leave seat).cursor? seat = none :=
  lookup_filter_self bus.cursors seat

theorem cursor?_leave_other (bus : Bus Seat) {seat other : Seat} (different : other ≠ seat) :
    (bus.leave seat).cursor? other = bus.cursor? other :=
  lookup_filter_other bus.cursors different

theorem cursor?_moveTo_self (bus : Bus Seat) (seat : Seat) (cursor : Nat) :
    (bus.moveTo seat cursor).cursor? seat = some cursor := by
  simp [moveTo, cursor?]

theorem cursor?_moveTo_other (bus : Bus Seat) {seat other : Seat} (cursor : Nat)
    (different : other ≠ seat) : (bus.moveTo seat cursor).cursor? other = bus.cursor? other := by
  have elsewhere := bus.cursor?_leave_other different
  simpa [moveTo, cursor?, List.lookup_cons, beq_false_of_ne different] using elsewhere

private theorem mem_of_lookup {entries : List (Seat × Nat)} {seat : Seat} {cursor : Nat}
    (found : entries.lookup seat = some cursor) : (seat, cursor) ∈ entries := by
  induction entries with
  | nil => cases found
  | cons entry rest induction =>
      rcases entry with ⟨name, first⟩
      by_cases named : seat = name
      · subst named
        rw [List.lookup_cons_self] at found
        cases found
        exact List.mem_cons_self ..
      · rw [List.lookup_cons, beq_false_of_ne named] at found
        exact List.mem_cons_of_mem _ (induction found)

private theorem mem_cursors_of_cursor? {bus : Bus Seat} {seat : Seat} {cursor : Nat}
    (found : bus.cursor? seat = some cursor) : (seat, cursor) ∈ bus.cursors :=
  mem_of_lookup found

theorem Keeps.cursor?_le {bus : Bus Seat} {log : List Event} (keeps : bus.Keeps log) {seat : Seat}
    {cursor : Nat} (found : bus.cursor? seat = some cursor) : cursor ≤ log.length :=
  keeps.cursor_le _ (mem_cursors_of_cursor? found)

/-! ## Receivers that move -/

/-- Only receivers on the given seats have moved, come, or gone. -/
structure Reseats (seats : List Seat) (before after : Bus Seat) : Prop where
  slots : after.slots = before.slots
  kept : after.kept = before.kept
  sent : after.sent = before.sent
  nextSeq : after.nextSeq = before.nextSeq
  cursor? : ∀ seat, seat ∉ seats → after.cursor? seat = before.cursor? seat
  cursor_le : (∀ entry ∈ before.cursors, entry.2 ≤ before.sent) →
    ∀ entry ∈ after.cursors, entry.2 ≤ before.sent

namespace Reseats

theorem refl (seats : List Seat) (bus : Bus Seat) : Reseats seats bus bus :=
  ⟨rfl, rfl, rfl, rfl, fun _ _ => rfl, fun bounded => bounded⟩

theorem keeps {seats : List Seat} {before after : Bus Seat} (reseats : Reseats seats before after)
    {log : List Event} (keeps : before.Keeps log) : after.Keeps log := by
  refine ⟨?_, reseats.sent.trans keeps.sent, ?_⟩
  · rw [reseats.kept, reseats.slots, keeps.kept]
  · rw [← keeps.sent]
    apply reseats.cursor_le
    rw [keeps.sent]
    exact keeps.cursor_le

theorem widen {few many : List Seat} {before after : Bus Seat}
    (reseats : Reseats few before after) (more : ∀ seat ∈ few, seat ∈ many) :
    Reseats many before after where
  slots := reseats.slots
  kept := reseats.kept
  sent := reseats.sent
  nextSeq := reseats.nextSeq
  cursor? seat outside := reseats.cursor? seat fun inside => outside (more seat inside)
  cursor_le := reseats.cursor_le

theorem trans {seats : List Seat} {before between after : Bus Seat}
    (first : Reseats seats before between) (second : Reseats seats between after) :
    Reseats seats before after where
  slots := second.slots.trans first.slots
  kept := second.kept.trans first.kept
  sent := second.sent.trans first.sent
  nextSeq := second.nextSeq.trans first.nextSeq
  cursor? seat outside := (second.cursor? seat outside).trans (first.cursor? seat outside)
  cursor_le bounded := by
    have between := second.cursor_le
    rw [first.sent] at between
    exact between (first.cursor_le bounded)

theorem leave (bus : Bus Seat) (seat : Seat) : Reseats [seat] bus (bus.leave seat) where
  slots := rfl
  kept := rfl
  sent := rfl
  nextSeq := rfl
  cursor? other outside := bus.cursor?_leave_other (by simpa using outside)
  cursor_le bounded entry member := bounded entry (List.mem_filter.mp member).1

private theorem moveTo (bus : Bus Seat) (seat : Seat) {cursor : Nat} (bounded : cursor ≤ bus.sent) :
    Reseats [seat] bus (bus.moveTo seat cursor) where
  slots := rfl
  kept := rfl
  sent := rfl
  nextSeq := rfl
  cursor? other outside := bus.cursor?_moveTo_other cursor (by simpa using outside)
  cursor_le others entry member := by
    rcases List.mem_cons.mp member with rfl | old
    · exact bounded
    · exact others entry (List.mem_filter.mp old).1

theorem subscribe (bus : Bus Seat) (seat : Seat) : Reseats [seat] bus (bus.subscribe seat) :=
  moveTo bus seat (Nat.le_refl _)

end Reseats

/-! ## Receiving -/

/-- What a receiver gets is the next event of the log, or it has fallen behind by more than is
kept and goes on with the oldest event that is. -/
theorem Keeps.receive {bus next : Bus Seat} {log : List Event} (keeps : bus.Keeps log)
    {seat : Seat} {cursor : Nat} (seated : bus.cursor? seat = some cursor) {receipt : Receipt}
    (received : bus.receive seat = some (receipt, next)) :
    (∃ event, receipt = .event event ∧ log[cursor]? = some event ∧
      next = bus.moveTo seat (cursor + 1)) ∨
    (∃ missed, receipt = .lagged missed ∧ bus.slots < bus.sent - cursor ∧
      next = bus.moveTo seat (bus.sent - bus.slots)) := by
  simp only [Bus.receive, seated] at received
  by_cases behind : bus.slots < bus.sent - cursor
  · simp only [behind, if_true, Option.some.injEq, Prod.mk.injEq] at received
    exact .inr ⟨_, received.1.symm, behind, received.2.symm⟩
  · simp only [behind, if_false, Option.map_eq_some_iff, Prod.mk.injEq] at received
    rcases received with ⟨event, found, isEvent, moved⟩
    refine .inl ⟨event, isEvent.symm, ?_, moved.symm⟩
    rw [keeps.kept, length_lastOf, keeps.sent, lastOf, List.getElem?_drop] at found
    rw [keeps.sent] at behind
    rw [← found]
    congr 1
    omega

theorem cursor?_of_receive {bus next : Bus Seat} {seat : Seat} {receipt : Receipt}
    (received : bus.receive seat = some (receipt, next)) :
    ∃ cursor, bus.cursor? seat = some cursor := by
  cases seated : bus.cursor? seat with
  | none => simp [Bus.receive, seated] at received
  | some cursor => exact ⟨cursor, rfl⟩

theorem moveTo_of_receive {bus next : Bus Seat} {seat : Seat} {receipt : Receipt}
    (received : bus.receive seat = some (receipt, next)) :
    ∃ cursor, next = bus.moveTo seat cursor := by
  rcases cursor?_of_receive received with ⟨cursor, seated⟩
  simp only [receive, seated] at received
  split at received
  · simp only [Option.some.injEq, Prod.mk.injEq] at received
    exact ⟨_, received.2.symm⟩
  · simp only [Option.map_eq_some_iff, Prod.mk.injEq] at received
    rcases received with ⟨event, -, -, moved⟩
    exact ⟨_, moved.symm⟩

theorem isSome_of_receive {bus next : Bus Seat} {seat : Seat} {receipt : Receipt}
    (received : bus.receive seat = some (receipt, next)) (other : Seat) :
    (next.cursor? other).isSome = (bus.cursor? other).isSome := by
  rcases cursor?_of_receive received with ⟨before, seated⟩
  rcases moveTo_of_receive received with ⟨cursor, rfl⟩
  by_cases same : other = seat
  · subst same
    rw [cursor?_moveTo_self, seated]
    rfl
  · rw [cursor?_moveTo_other bus cursor same]

theorem cursor?_of_receive_other {bus next : Bus Seat} {seat : Seat} {receipt : Receipt}
    (received : bus.receive seat = some (receipt, next)) {other : Seat} (different : other ≠ seat) :
    next.cursor? other = bus.cursor? other := by
  rcases moveTo_of_receive received with ⟨cursor, rfl⟩
  exact cursor?_moveTo_other bus cursor different

theorem Keeps.cursor_of_receive_none {bus : Bus Seat} {log : List Event} (keeps : bus.Keeps log)
    {seat : Seat} {cursor : Nat} (seated : bus.cursor? seat = some cursor)
    (nothing : bus.receive seat = none) : cursor = log.length := by
  have bounded := keeps.cursor?_le seated
  simp only [Bus.receive, seated] at nothing
  by_cases behind : bus.slots < bus.sent - cursor
  · simp [behind] at nothing
  · rw [if_neg behind, Option.map_eq_none_iff, List.getElem?_eq_none_iff] at nothing
    rw [keeps.kept, length_lastOf, keeps.sent] at nothing
    rw [keeps.sent] at behind
    omega

theorem Keeps.reseats_receive {bus next : Bus Seat} {log : List Event} (keeps : bus.Keeps log)
    {seat : Seat} {receipt : Receipt} (received : bus.receive seat = some (receipt, next)) :
    Reseats [seat] bus next := by
  rcases cursor?_of_receive received with ⟨cursor, seated⟩
  rcases keeps.receive seated received with ⟨event, -, found, rfl⟩ | ⟨missed, -, behind, rfl⟩
  · apply Reseats.moveTo bus seat
    have inside := (List.getElem?_eq_some_iff.mp found).1
    rw [keeps.sent]
    omega
  · exact Reseats.moveTo bus seat (Nat.sub_le ..)

/-- Somebody has received from the bus, or it is still the same. -/
def Receives (before after : Bus Seat) : Prop :=
  after = before ∨ ∃ seat receipt, before.receive seat = some (receipt, after)

namespace Receives

variable {before after : Bus Seat}

theorem keeps (receives : before.Receives after) {log : List Event} (keeps : before.Keeps log) :
    after.Keeps log := by
  rcases receives with rfl | ⟨seat, receipt, received⟩
  · exact keeps
  · exact (keeps.reseats_receive received).keeps keeps

theorem isSome (receives : before.Receives after) (seat : Seat) :
    (after.cursor? seat).isSome = (before.cursor? seat).isSome := by
  rcases receives with rfl | ⟨other, receipt, received⟩
  · rfl
  · exact isSome_of_receive received seat

end Receives

end

/-! ## Taking in effects -/

theorem cursor?_absorb_other (bus : Bus Seat) (effect : Effect) {seat : Seat}
    (other : seat ≠ .observation) : (bus.absorb effect).cursor? seat = bus.cursor? seat := by
  cases effect with
  | announced notice => exact bus.cursor?_publish notice seat
  | attached => exact bus.cursor?_moveTo_other bus.sent other
  | detached => exact bus.cursor?_leave_other other
  | _ => rfl

theorem cursor?_absorbAll_other (bus : Bus Seat) (effects : List Effect) {seat : Seat}
    (other : seat ≠ .observation) : (bus.absorbAll effects).cursor? seat = bus.cursor? seat := by
  induction effects generalizing bus with
  | nil => rfl
  | cons effect rest induction =>
      exact (induction (bus.absorb effect)).trans (bus.cursor?_absorb_other effect other)

private theorem cursor?_absorbAll_of_keepsSeat (bus : Bus Seat) {effects : List Effect}
    (seat : Seat) (keeps : ∀ effect ∈ effects, effect.keepsSeat = true) :
    (bus.absorbAll effects).cursor? seat = bus.cursor? seat := by
  induction effects generalizing bus with
  | nil => rfl
  | cons effect rest induction =>
      have restKeeps := induction (bus.absorb effect) fun other member =>
        keeps other (List.mem_cons_of_mem _ member)
      apply restKeeps.trans
      cases effect with
      | announced notice => exact bus.cursor?_publish notice seat
      | attached => cases keeps .attached (List.mem_cons_self ..)
      | detached => cases keeps .detached (List.mem_cons_self ..)
      | _ => rfl

private theorem isSome_absorb (bus : Bus Seat) (effect : Effect) :
    ((bus.absorb effect).cursor? .observation).isSome =
      effect.observing (bus.cursor? .observation).isSome := by
  cases effect with
  | announced notice => exact congrArg Option.isSome (bus.cursor?_publish notice .observation)
  | attached => exact congrArg Option.isSome (bus.cursor?_moveTo_self .observation bus.sent)
  | detached => exact congrArg Option.isSome (bus.cursor?_leave_self .observation)
  | _ => rfl

private theorem isSome_absorbAll (bus : Bus Seat) (effects : List Effect) :
    ((bus.absorbAll effects).cursor? .observation).isSome =
      Effect.observingAll (bus.cursor? .observation).isSome effects := by
  induction effects generalizing bus with
  | nil => rfl
  | cons effect rest induction =>
      rw [Effect.observingAll_cons, ← isSome_absorb]
      exact induction (bus.absorb effect)

theorem cursors_ne_nil {bus : Bus Seat} {seat : Seat} (seated : (bus.cursor? seat).isSome = true) :
    bus.cursors ≠ [] := by
  intro nobody
  simp [cursor?, nobody] at seated

private theorem Keeps.absorb {bus : Bus Seat} {log : List Event} (keeps : bus.Keeps log)
    (effect : Effect) : ∃ more, (bus.absorb effect).Keeps (log ++ more) ∧
      (bus.cursors ≠ [] → more.map Event.toNotice = effect.notice?.toList) := by
  have nothing (same : bus.absorb effect = bus) (noNotice : effect.notice? = none) :
      ∃ more, (bus.absorb effect).Keeps (log ++ more) ∧
        (bus.cursors ≠ [] → more.map Event.toNotice = effect.notice?.toList) := by
    refine ⟨[], ?_, fun _ => by rw [noNotice]; rfl⟩
    rw [same, List.append_nil]
    exact keeps
  cases effect with
  | announced notice =>
      by_cases somebody : bus.cursors = []
      · refine ⟨[], ?_, fun occupied => absurd somebody occupied⟩
        rw [List.append_nil]
        exact keeps.publish_nobody notice somebody
      · exact ⟨[bus.eventOf notice], keeps.publish notice somebody, fun _ => rfl⟩
  | attached =>
      refine ⟨[], ?_, fun _ => rfl⟩
      rw [List.append_nil]
      exact (Reseats.subscribe bus .observation).keeps keeps
  | detached =>
      refine ⟨[], ?_, fun _ => rfl⟩
      rw [List.append_nil]
      exact (Reseats.leave bus .observation).keeps keeps
  | _ => exact nothing rfl rfl

theorem Keeps.absorbAll {bus : Bus Seat} {log : List Event} (keeps : bus.Keeps log)
    (effects : List Effect) : ∃ more, (bus.absorbAll effects).Keeps (log ++ more) ∧
      ∀ seat, seat ≠ .observation → (bus.cursor? seat).isSome = true →
        more.map Event.toNotice = effects.filterMap Effect.notice? := by
  induction effects generalizing bus log with
  | nil => exact ⟨[], by simpa using keeps, fun _ _ _ => rfl⟩
  | cons effect rest induction =>
      rcases keeps.absorb effect with ⟨first, firstKeeps, firstNotices⟩
      rcases induction firstKeeps with ⟨more, restKeeps, restNotices⟩
      refine ⟨first ++ more, ?_, fun seat other seated => ?_⟩
      · rw [← List.append_assoc]
        exact restKeeps
      · have stillSeated : ((bus.absorb effect).cursor? seat).isSome = true := by
          rw [bus.cursor?_absorb_other effect other, seated]
        rw [List.map_append, firstNotices (cursors_ne_nil seated),
          restNotices seat other stillSeated, List.filterMap_cons]
        cases effect.notice? <;> rfl

/-- Receivers on the given seats may move, then the bus takes in the effects, then those
receivers may move again. -/
def Absorbs (seats : List Seat) (before : Bus Seat) (effects : List Effect)
    (after : Bus Seat) : Prop :=
  ∃ base, Reseats seats before base ∧ Reseats seats (base.absorbAll effects) after

namespace Absorbs

variable {seats : List Seat} {before after : Bus Seat} {effects : List Effect}

theorem of_absorbAll (seats : List Seat) (bus : Bus Seat) (effects : List Effect) :
    Absorbs seats bus effects (bus.absorbAll effects) :=
  ⟨bus, .refl seats bus, .refl seats _⟩

theorem cursor? (absorbs : Absorbs seats before effects after) {seat : Seat}
    (untouched : seat ∉ seats) (other : seat ≠ .observation) :
    after.cursor? seat = before.cursor? seat := by
  rcases absorbs with ⟨base, first, second⟩
  rw [second.cursor? seat untouched, base.cursor?_absorbAll_other effects other,
    first.cursor? seat untouched]

theorem cursor?_of_keepsSeat (absorbs : Absorbs seats before effects after) {seat : Seat}
    (untouched : seat ∉ seats) (keeps : ∀ effect ∈ effects, effect.keepsSeat = true) :
    after.cursor? seat = before.cursor? seat := by
  rcases absorbs with ⟨base, first, second⟩
  rw [second.cursor? seat untouched, base.cursor?_absorbAll_of_keepsSeat seat keeps,
    first.cursor? seat untouched]

theorem isSome (absorbs : Absorbs seats before effects after)
    (untouched : .observation ∉ seats) :
    (after.cursor? .observation).isSome =
      Effect.observingAll (before.cursor? .observation).isSome effects := by
  rcases absorbs with ⟨base, first, second⟩
  rw [second.cursor? _ untouched, base.isSome_absorbAll, first.cursor? _ untouched]

theorem keeps (absorbs : Absorbs seats before effects after) {log : List Event}
    (keeps : before.Keeps log) : ∃ more, after.Keeps (log ++ more) ∧
      ∀ seat ∉ seats, seat ≠ .observation → (before.cursor? seat).isSome = true →
        more.map Event.toNotice = effects.filterMap Effect.notice? := by
  rcases absorbs with ⟨base, first, second⟩
  rcases (first.keeps keeps).absorbAll effects with ⟨more, moreKeeps, notices⟩
  refine ⟨more, second.keeps moreKeeps, fun seat untouched other seated => ?_⟩
  apply notices seat other
  rw [first.cursor? seat untouched, seated]

end Absorbs

end Bus

end TransferGate
