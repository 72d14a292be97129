import TransferGate.Event
import TransferGate.Settings

/-! # The bus

Everybody on the bus reads every event, at a pace of their own. The bus keeps
the most recent events only, as many as it has slots; the number of slots is the
capacity rounded up to a power of two. A receiver is a cursor: how many of the
events sent it is done with, be it that it has read them, missed them, or came
after them. A receiver that falls behind by more than the slots is told how many
events it has missed and goes on with the oldest one that is kept.

An event sent while nobody is on the bus is lost; it does not count as sent, but
it has used up its number.

Receivers sit on named seats, so that the bus itself knows who is listening.
-/

namespace TransferGate

structure Bus (Seat : Type) where
  slots : Nat
  /-- The latest events sent, oldest first, at most as many as there are slots. -/
  kept : List Event
  sent : Nat
  nextSeq : Nat
  /-- For each occupied seat, how many events its receiver is done with. -/
  cursors : List (Seat × Nat)
deriving Repr

def lastOf (count : Nat) (items : List Item) : List Item := items.drop (items.length - count)

theorem length_lastOf (count : Nat) (items : List Item) :
    (lastOf count items).length = min count items.length := by
  rw [lastOf, List.length_drop]
  omega

/-- The least power of two that is not below `capacity`, and at least one. -/
def slotsFor (capacity : Nat) : Nat :=
  if capacity ≤ 1 then 1 else 1 <<< ((capacity - 1).log2 + 1)

theorem slotsFor_isPowerOfTwo (capacity : Nat) : (slotsFor capacity).isPowerOfTwo := by
  unfold slotsFor
  split
  · exact ⟨0, rfl⟩
  · exact ⟨_, Nat.one_shiftLeft _⟩

theorem le_slotsFor (capacity : Nat) : capacity ≤ slotsFor capacity := by
  unfold slotsFor
  split
  · assumption
  · rw [Nat.one_shiftLeft]
    have below : capacity - 1 < 2 ^ ((capacity - 1).log2 + 1) := Nat.lt_log2_self
    omega

theorem slotsFor_le {capacity power : Nat} (isPower : power.isPowerOfTwo)
    (enough : capacity ≤ power) : slotsFor capacity ≤ power := by
  rcases isPower with ⟨exponent, rfl⟩
  unfold slotsFor
  split
  · exact Nat.two_pow_pos exponent
  · next large =>
      have small : (capacity - 1).log2 < exponent :=
        (Nat.log2_lt (by omega)).mpr (by omega)
      rw [Nat.one_shiftLeft]
      exact Nat.pow_le_pow_right (by decide) small

theorem slotsFor_pos (capacity : Nat) : 0 < slotsFor capacity :=
  Nat.pos_of_isPowerOfTwo (slotsFor_isPowerOfTwo capacity)

example : slotsFor 0 = 1 ∧ slotsFor 1 = 1 ∧ slotsFor 3 = 4 ∧ slotsFor 4 = 4 ∧ slotsFor 5 = 8 := by
  decide

inductive Receipt where
  | event (event : Event)
  | lagged (missed : Nat)
deriving DecidableEq, Repr

namespace Bus

variable {Seat : Type}

def withSlots (slots : Nat) : Bus Seat where
  slots := slots
  kept := []
  sent := 0
  nextSeq := 0
  cursors := []

def create (capacity : Nat) : Except CapacityError (Bus Seat) := do
  CapacityError.checkBus (max capacity 1)
  return withSlots (slotsFor (max capacity 1))

def issue (bus : Bus Seat) (notice : Notice) : Event × Bus Seat :=
  ({ notice with seq := bus.nextSeq }, { bus with nextSeq := bus.nextSeq + 1 })

def send (bus : Bus Seat) (event : Event) : Bus Seat :=
  if bus.cursors.isEmpty then bus
  else { bus with kept := lastOf bus.slots (bus.kept ++ [event]), sent := bus.sent + 1 }

def publish (bus : Bus Seat) (notice : Notice) : Bus Seat :=
  let issued := bus.issue notice
  issued.2.send issued.1

variable [DecidableEq Seat]

def cursor? (bus : Bus Seat) (seat : Seat) : Option Nat := bus.cursors.lookup seat

def leave (bus : Bus Seat) (seat : Seat) : Bus Seat :=
  { bus with cursors := bus.cursors.filter fun entry => entry.1 != seat }

def moveTo (bus : Bus Seat) (seat : Seat) (cursor : Nat) : Bus Seat :=
  { bus with cursors := (seat, cursor) :: (bus.leave seat).cursors }

def subscribe (bus : Bus Seat) (seat : Seat) : Bus Seat := bus.moveTo seat bus.sent

def backlog (bus : Bus Seat) (seat : Seat) : Nat :=
  match bus.cursor? seat with
  | none => 0
  | some cursor => bus.sent - cursor

/-- What the receiver on `seat` gets next, and the bus after that; nothing if the
seat is free or its receiver has read everything. -/
def receive (bus : Bus Seat) (seat : Seat) : Option (Receipt × Bus Seat) :=
  match bus.cursor? seat with
  | none => none
  | some cursor =>
      if bus.slots < bus.sent - cursor then
        some (.lagged (bus.sent - bus.slots - cursor), bus.moveTo seat (bus.sent - bus.slots))
      else
        (bus.kept[cursor - (bus.sent - bus.kept.length)]?).map fun event =>
          (.event event, bus.moveTo seat (cursor + 1))

def receiveUpTo (bus : Bus Seat) (seat : Seat) : Nat → List Receipt × Bus Seat
  | 0 => ([], bus)
  | limit + 1 =>
      match bus.receive seat with
      | none => ([], bus)
      | some (receipt, next) =>
          let rest := next.receiveUpTo seat limit
          (receipt :: rest.1, rest.2)

/-- Everything the receiver on `seat` has not read, which is one notice of a lag at
most and as many events as are kept at most. -/
def drain (bus : Bus Seat) (seat : Seat) : List Receipt × Bus Seat :=
  bus.receiveUpTo seat (bus.backlog seat)

end Bus

end TransferGate
