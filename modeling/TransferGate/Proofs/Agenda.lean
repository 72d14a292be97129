import TransferGate.Proofs.Backlog
import TransferGate.Proofs.RequestSteps

/-! # What the server is going to do

The agenda of a gate says what its server is going to do with the controller if nothing
more comes in from outside: it serves the requests in line, and then it honours the
signals that it has not read yet. Everything else that it reads it passes over.
-/

namespace TransferGate

open Activity Controller

def Event.onLifecycle (event : Event) : List Operation :=
  if event.kind = .signal .appReady then [.readinessChanged] else []

def Event.onObservation (event : Event) : List Operation :=
  event.kind.observedSignal?.toList.map (.receive <| .signal ·)

theorem Event.onLifecycle_of_not_isSignal {event : Event} (other : event.kind.isSignal = false) :
    event.onLifecycle = [] := by
  apply if_neg
  intro ready
  rw [ready] at other
  cases other

theorem Event.onObservation_of_not_isSignal {event : Event}
    (other : event.kind.isSignal = false) : event.onObservation = [] := by
  rw [onObservation]
  cases kind : event.kind <;> first | rfl | (rw [kind] at other; cases other)

theorem Event.onObservation_of_ready {event : Event} (ready : event.kind = .signal .appReady) :
    event.onObservation = [] := by
  rw [onObservation, ready]
  rfl

theorem Event.leads_once (event : Event) (observing : Bool) :
    (event.onLifecycle ++ if observing then event.onObservation else []).length ≤ 1 := by
  by_cases ready : event.kind = .signal .appReady
  · rw [event.onObservation_of_ready ready, onLifecycle, if_pos ready, ite_self]
    exact Nat.le_refl 1
  · rw [onLifecycle, if_neg ready, List.nil_append]
    have few : event.onObservation.length ≤ 1 := by
      rw [onObservation, List.length_map]
      cases event.kind.observedSignal? <;> simp
    cases observing
    · exact Nat.zero_le 1
    · exact few

private theorem Controller.not_isSignal_of_inner {record : List Effect}
    (inner : ∀ effect ∈ record, effect.isInner = true) {events : List Event}
    (sent : events.map Event.toNotice = record.filterMap Effect.notice?) :
    ∀ event ∈ events, event.kind.isSignal = false := by
  intro event member
  have announced : event.toNotice ∈ record.filterMap Effect.notice? := by
    rw [← sent]
    exact List.mem_map_of_mem member
  rcases List.mem_filterMap.mp announced with ⟨effect, inRecord, isNotice⟩
  have isInner := inner effect inRecord
  cases effect with
  | announced notice =>
      cases isNotice
      simpa [Effect.isInner] using isInner
  | _ => cases isNotice

namespace Gate

def opening (gate : Gate) : List Operation :=
  if gate.server = .starting then [.readinessChanged] else []

def agenda (gate : Gate) (log : List Event) : List Operation :=
  gate.line.map (fun request => .serve request.request) ++
    ((gate.bus.unread log .lifecycle).flatMap Event.onLifecycle ++
      (gate.bus.unread log .observation).flatMap Event.onObservation)

/-- The replies that are going to be given, if the server serves what is in line next. -/
def expected (gate : Gate) : List (Nat × Reply) :=
  gate.line.map fun request => (request.ticket,
    ((Controller.serve request.request).run (gate.controller.following gate.opening)).value)

def serverSeats : List Seat := [.lifecycle, .observation]

/-- There are no subscribers, nobody stops the gate, and nobody waits at the door. -/
structure Undisturbed (gate : Gate) : Prop where
  cancelled : gate.cancelled = false
  handles : gate.handles ≠ 0
  door : gate.door = []
  room : 0 < gate.room
  relay : gate.relay = .absent
  workers : gate.fanout.workers = []
  slots : 8 ≤ gate.bus.slots

/-- One thing is left to do at most, and what it announces still fits on the bus. -/
structure Tidy (gate : Gate) (log : List Event) : Prop extends Undisturbed gate where
  sound : gate.Sound log
  running : gate.server ≠ .stopped
  unregistered : gate.server = .starting → gate.controller.conditions.registered = none
  short : (gate.agenda log).length ≤ 1
  fits : ∀ seat ∈ serverSeats,
    (gate.bus.unread log seat).length + 7 * (gate.agenda log).length ≤ 8

theorem Undisturbed.change {gate : Gate} (undisturbed : gate.Undisturbed) {bus : Bus Seat}
    (slots : bus.slots = gate.bus.slots) (controller : Controller) (server : ServerPhase)
    (line : List Ticketed) (nextTicket : Nat) :
    Undisturbed
      { gate with
        bus := bus
        controller := controller
        server := server
        line := line
        nextTicket := nextTicket } where
  cancelled := undisturbed.cancelled
  handles := undisturbed.handles
  door := undisturbed.door
  room := undisturbed.room
  relay := undisturbed.relay
  workers := undisturbed.workers
  slots := by
    rw [slots]
    exact undisturbed.slots

theorem Tidy.nothing_else {gate : Gate} {log : List Event} (tidy : gate.Tidy log)
    {operation : Operation} {others : List Operation}
    (agenda : gate.agenda log = operation :: others) : others = [] := by
  have short := tidy.short
  rw [agenda] at short
  exact List.eq_nil_of_length_eq_zero (Nat.le_zero.mp (Nat.le_of_succ_le_succ short))

/-! ## Turns -/

theorem Undisturbed.idle {gate : Gate} (undisturbed : gate.Undisturbed) {choice : Turn}
    (other : choice ≠ .server) : (turn choice).run gate = ⟨false, gate, []⟩ := by
  cases choice with
  | door =>
      change doorTurn.run gate = _
      rw [run_doorTurn, undisturbed.door]
  | server => exact absurd rfl other
  | relay stopFirst =>
      have nothing : gate.relayTask? stopFirst = none := by rw [relayTask?, undisturbed.relay]
      simp [turn, relayTurn, nothing]
  | worker index =>
      have nobody : (Fanout.workerTurn index).run gate.fanout = ⟨false, gate.fanout, []⟩ := by
        simp [Fanout.workerTurn, Activity.run, undisturbed.workers]
      change (onFanout (Fanout.workerTurn index)).run gate = _
      rw [run_onFanout, nobody]
      rfl

private theorem agenda_of_work {gate : Gate} {log more : List Event} {base : Bus Seat}
    (line : gate.line = [])
    (unread : ∀ seat, gate.bus.unread (log ++ more) seat <:+ base.unread log seat ++ more)
    (dull : ∀ event ∈ more, event.kind.isSignal = false)
    (lifecycle : (base.unread log .lifecycle).flatMap Event.onLifecycle = [])
    (observation : (base.unread log .observation).flatMap Event.onObservation = []) :
    gate.agenda (log ++ more) = [] := by
  have nothing {leadsTo : Event → List Operation} {seat : Seat}
      (before : (base.unread log seat).flatMap leadsTo = [])
      (ignored : ∀ event : Event, event.kind.isSignal = false → leadsTo event = []) :
      (gate.bus.unread (log ++ more) seat).flatMap leadsTo = [] := by
    apply List.flatMap_eq_nil_iff.mpr
    intro event member
    rcases List.mem_append.mp ((unread seat).mem member) with old | new
    · exact List.flatMap_eq_nil_iff.mp before event old
    · exact ignored event (dull event new)
  rw [agenda, line, nothing lifecycle fun _ => Event.onLifecycle_of_not_isSignal,
    nothing observation fun _ => Event.onObservation_of_not_isSignal]
  rfl

structure Base (gate : Gate) (log : List Event) (base : Bus Seat) : Prop where
  keeps : base.Keeps log
  slots : base.slots = gate.bus.slots
  seated : (base.cursor? .lifecycle).isSome = true
  fewer : ∀ seat, (base.unread log seat).length ≤ (gate.bus.unread log seat).length

theorem Tidy.base {gate : Gate} {log : List Event} (tidy : gate.Tidy log) :
    Base gate log gate.bus :=
  ⟨tidy.sound.keeps, rfl, tidy.sound.seated tidy.running, fun _ => Nat.le_refl _⟩

theorem Tidy.receive {gate : Gate} {log : List Event} (tidy : gate.Tidy log)
    {seat : Seat} (member : seat ∈ serverSeats) {receipt : Receipt} {bus : Bus Seat}
    (received : gate.bus.receive seat = some (receipt, bus)) :
    Base gate log bus ∧
      (∃ event, receipt = .event event ∧
        gate.bus.unread log seat = event :: bus.unread log seat) ∧
      ∀ other, other ≠ seat → bus.unread log other = gate.bus.unread log other := by
  have near : (gate.bus.unread log seat).length ≤ gate.bus.slots := by
    have fits := tidy.fits seat member
    have slots := tidy.slots
    omega
  rcases tidy.sound.keeps.unread_of_receive near received with ⟨event, isEvent, ahead⟩
  have reseats := tidy.sound.keeps.reseats_receive received
  have elsewhere (other : Seat) (different : other ≠ seat) :
      bus.unread log other = gate.bus.unread log other :=
    Bus.unread_congr (Bus.cursor?_of_receive_other received different)
  refine ⟨⟨reseats.keeps tidy.sound.keeps, reseats.slots, ?_, ?_⟩, ⟨event, isEvent, ahead⟩,
    elsewhere⟩
  · rw [Bus.isSome_of_receive received]
    exact tidy.sound.seated tidy.running
  · intro other
    by_cases same : other = seat
    · rw [same, ahead]
      exact Nat.le_succ _
    · exact Nat.le_of_eq (congrArg List.length (elsewhere other same))

structure Works (gate : Gate) (log : List Event) (operation : Operation) (base : Bus Seat)
    (after : Gate) : Prop where
  isBase : Base gate log base
  serving : gate.server = .serving
  only : gate.agenda log = [operation]
  few : AnnouncesAtMost 7 operation.perform
  lifecycle : (base.unread log .lifecycle).flatMap Event.onLifecycle = []
  observation : (base.unread log .observation).flatMap Event.onObservation = []
  state : after =
    { gate with
      line := []
      controller := (operation.perform.run gate.controller).state
      bus := base.absorbAll (operation.perform.run gate.controller).effects }
  sound : ∃ some, after.Sound some

theorem Tidy.works {gate after : Gate} {log : List Event} (tidy : gate.Tidy log)
    {operation : Operation} {base : Bus Seat} (works : Works gate log operation base after) :
    ∃ more, after.Tidy (log ++ more) ∧ after.agenda (log ++ more) = [] ∧
      ∀ seat, (after.bus.unread (log ++ more) seat).length ≤
        (gate.bus.unread log seat).length + 7 := by
  have state := works.state
  obtain ⟨more, keeps, notices, unread⟩ := works.isBase.keeps.unread_absorbAll works.isBase.seated
    (operation.perform.run gate.controller).effects
  have dull := Controller.not_isSignal_of_inner
    (Controller.inner_elements.stages.operation operation gate.controller) notices
  have announced : more.length ≤ 7 := by
    have length := congrArg List.length notices
    rw [List.length_map] at length
    rw [length]
    exact works.few gate.controller
  have bus : after.bus = base.absorbAll (operation.perform.run gate.controller).effects := by
    rw [state]
  rw [← bus] at keeps unread
  have line : after.line = [] := by rw [state]
  have done := agenda_of_work line unread dull works.lifecycle works.observation
  have room (seat : Seat) : (after.bus.unread (log ++ more) seat).length ≤
      (gate.bus.unread log seat).length + 7 := by
    have length := (unread seat).length_le
    rw [List.length_append] at length
    have before := works.isBase.fewer seat
    omega
  refine ⟨more, ?_, done, room⟩
  rcases works.sound with ⟨_, sound⟩
  have server : after.server = .serving := by rw [state, works.serving]
  constructor
  · rw [state]
    apply tidy.toUndisturbed.change
    rw [Bus.slots_absorbAll, works.isBase.slots]
  · -- The log is another one, but who sits on which seat does not depend on it.
    exact ⟨keeps, sound.observing, sound.seated⟩
  · simp [server]
  · simp [server]
  · simp [done]
  · intro seat member
    have fits := tidy.fits seat member
    have length := room seat
    rw [works.only, List.length_singleton] at fits
    rw [done, List.length_nil]
    omega

theorem Tidy.skips {gate after : Gate} {log : List Event} (tidy : gate.Tidy log)
    {controller : Controller} {base : Bus Seat} (isBase : Base gate log base)
    (state : after = { gate with server := .serving, controller := controller, bus := base })
    (same : after.agenda log = gate.agenda log) (sound : ∃ some, after.Sound some) :
    after.Tidy log := by
  rcases sound with ⟨_, sound⟩
  have server : after.server = .serving := by rw [state]
  have bus : after.bus = base := by rw [state]
  constructor
  · rw [state]
    exact tidy.toUndisturbed.change isBase.slots ..
  · exact ⟨bus ▸ isBase.keeps, sound.observing, sound.seated⟩
  · simp [server]
  · simp [server]
  · rw [same]
    exact tidy.short
  · intro seat member
    have fits := tidy.fits seat member
    have length := isBase.fewer seat
    rw [same, bus]
    omega

end Gate

end TransferGate
