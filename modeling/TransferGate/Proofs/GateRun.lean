import TransferGate.Proofs.MoveActs

/-! # Runs of a gate

A run is any list of moves. `Gate.Sound` is what every run keeps about the bus: the
log behind it, and who sits where. `Gate.Allows` is what a law of controllers needs so
that it holds along every run.
-/

namespace TransferGate

namespace Gate

open Activity Controller

/-! ## What the server begins by receiving -/

theorem base_receives (move : Move) (gate : Gate) :
    (move.receipt? gate = none ∧ (move.base gate).bus = gate.bus) ∨
      ∃ seat receipt, move.receipt? gate = some (seat, receipt) ∧
        gate.bus.receive seat = some (receipt, (move.base gate).bus) := by
  cases move with
  | turn choice =>
      cases choice with
      | server =>
          cases found : gate.serverTask? with
          | none => exact .inl (by simp [Move.receipt?, Move.base, found])
          | some task =>
              cases due_of_serverTask? found with
              | start starting =>
                  exact .inl (by simp [Move.receipt?, Move.base, found, ServerTask.bus])
              | stop serving reason =>
                  exact .inl (by simp [Move.receipt?, Move.base, found, ServerTask.bus])
              | serve serving goesOn waiting =>
                  exact .inl (by simp [Move.receipt?, Move.base, found, ServerTask.bus])
              | lifecycle serving goesOn nobody received =>
                  refine .inr ⟨.lifecycle, _, by simp only [Move.receipt?, found]; rfl, ?_⟩
                  simpa [Move.base, found, ServerTask.bus] using received
              | observed serving goesOn nobody nothing received =>
                  refine .inr ⟨.observation, _, by simp only [Move.receipt?, found]; rfl, ?_⟩
                  simpa [Move.base, found, ServerTask.bus] using received
      | _ => exact .inl ⟨rfl, rfl⟩
  | _ => exact .inl ⟨rfl, rfl⟩

theorem cursor?_base (move : Move) (gate : Gate) {other : Seat} (noLifecycle : other ≠ .lifecycle)
    (noObservation : other ≠ .observation) :
    (move.base gate).bus.cursor? other = gate.bus.cursor? other := by
  rcases base_receives move gate with ⟨-, same⟩ | ⟨seat, receipt, found, received⟩
  · rw [same]
  · refine Bus.cursor?_of_receive_other received ?_
    rintro rfl
    unfold Move.receipt? at found
    split at found
    · split at found
      · cases found
        exact noLifecycle rfl
      · cases found
        exact noObservation rfl
      · cases found
    · cases found

theorem receives_base (move : Move) (gate : Gate) : gate.bus.Receives (move.base gate).bus := by
  rcases base_receives move gate with ⟨-, same⟩ | ⟨seat, receipt, -, received⟩
  · exact .inl same
  · exact .inr ⟨seat, receipt, received⟩

theorem keeps_base {gate : Gate} {log : List Event} (keeps : gate.bus.Keeps log) (move : Move) :
    (move.base gate).bus.Keeps log :=
  (receives_base move gate).keeps keeps

theorem isSome_base (move : Move) (gate : Gate) (seat : Seat) :
    ((move.base gate).bus.cursor? seat).isSome = (gate.bus.cursor? seat).isSome :=
  (receives_base move gate).isSome seat

/-! ## One move -/

/-- What is always true about the bus of a gate, given the log of all events sent. -/
structure Sound (gate : Gate) (log : List Event) : Prop where
  keeps : gate.bus.Keeps log
  observing : (gate.bus.cursor? .observation).isSome = gate.controller.isObserving
  seated : gate.server ≠ .stopped → (gate.bus.cursor? .lifecycle).isSome = true

theorem run_publish_signal (signal : Signal) (gate : Gate) :
    (Move.publish (.signal signal)).perform.run gate =
      ⟨none, { gate with bus := gate.bus.publish (.signal signal) },
        [.announced (.signal signal)]⟩ := rfl

theorem signal?_eq_some {move : Move} {signal : Signal} (publishes : move.signal? = some signal) :
    move = .publish (.signal signal) := by
  cases move with
  | publish kind =>
      cases kind with
      | signal published =>
          cases publishes
          rfl
      | _ => cases publishes
  | _ => cases publishes

theorem absorbs_perform {gate : Gate} {log : List Event} (sound : gate.Sound log) (move : Move) :
    Bus.Absorbs (move.seats gate) (move.base gate).bus (move.perform.run gate).effects
      (move.perform.run gate).state.bus := by
  cases publishes : move.signal? with
  | none => exact (acts_perform sound.keeps sound.observing publishes).bus
  | some signal =>
      cases signal?_eq_some publishes
      exact .of_absorbAll _ gate.bus [.announced (.signal signal)]

theorem controller_perform {gate : Gate} {log : List Event} (sound : gate.Sound log)
    (move : Move) : (move.perform.run gate).state.controller =
      gate.controller.following (move.operations gate) := by
  cases publishes : move.signal? with
  | none =>
      have acts := acts_perform sound.keeps sound.observing publishes
      rw [acts.controller, Move.controller_base]
  | some signal =>
      cases signal?_eq_some publishes
      rfl

/-- The law holds of whatever is recorded about a gate and comes from elsewhere than the
controller. -/
structure Ignores (law : Law Controller) : Prop where
  foreign : ∀ controller effect, effect.isForeign = true →
    law.holds controller [effect] controller
  signal : ∀ controller signal, law.holds controller [.announced (.signal signal)] controller

theorem Ignores.acts {law : Law Controller} (ignores : Ignores law) {before after : Gate}
    {operations : List Operation} {seats : List Seat} {effects : List Effect}
    (acts : Acts before operations seats effects after)
    (obeyed : Obeys law (performAll operations)) :
    law.holds before.controller effects after.controller := by
  rcases acts.record with ⟨ahead, behind, record, foreignAhead, foreignBehind⟩
  rw [record, acts.controller]
  have onlyForeign (controller : Controller) {effects : List Effect}
      (foreign : ∀ effect ∈ effects, effect.isForeign = true) :
      law.holds controller effects controller :=
    law.holds_of_forall fun effect member => ignores.foreign _ _ (foreign effect member)
  exact law.join (law.join (onlyForeign _ foreignAhead) (obeyed before.controller))
    (onlyForeign _ foreignBehind)

theorem Ignores.perform {law : Law Controller} (ignores : Ignores law) {gate : Gate}
    {log : List Event} (sound : gate.Sound log) {move : Move}
    (obeyed : Obeys law (performAll (move.operations gate))) :
    law.holds gate.controller (move.perform.run gate).effects
      (move.perform.run gate).state.controller := by
  cases publishes : move.signal? with
  | some signal =>
      cases signal?_eq_some publishes
      exact ignores.signal gate.controller signal
  | none =>
      have held := ignores.acts (acts_perform sound.keeps sound.observing publishes) obeyed
      rwa [Move.controller_base] at held

structure Allows (law : Law Controller) : Prop extends Ignores law where
  stages : Stages law

theorem Allows.perform {law : Law Controller} (allows : Allows law) {gate : Gate}
    {log : List Event} (sound : gate.Sound log) (move : Move) :
    law.holds gate.controller (move.perform.run gate).effects
      (move.perform.run gate).state.controller :=
  allows.toIgnores.perform sound (allows.stages.run (move.operations gate))

theorem tellingObservation_allows : Allows tellingObservation where
  stages := tellingObservation_elements.stages
  foreign controller _ foreign :=
    tellingObservation_passing controller (Effect.isPassing_of_isForeign foreign)
  signal _ _ := rfl

theorem observation_notMem_seats (move : Move) (gate : Gate) :
    .observation ∉ move.seats gate := by
  intro member
  rcases Move.mem_seats member with ⟨same, -⟩ | ⟨same, -⟩ | same <;> cases same

theorem lifecycle_notMem_seats {move : Move} {gate : Gate}
    (goesOn : move.phaseAfter gate ≠ .stopped) : .lifecycle ∉ move.seats gate := by
  intro member
  rcases Move.mem_seats member with ⟨same, -⟩ | ⟨-, stops⟩ | same
  · cases same
  · exact goesOn stops
  · cases same

theorem phaseAfter_of_stopped {gate : Gate} (stopped : gate.server = .stopped) (move : Move) :
    move.phaseAfter gate = .stopped := by
  have noTask : gate.serverTask? = none := by simp [serverTask?, stopped]
  cases move with
  | turn choice => cases choice <;> simp [Move.phaseAfter, noTask, stopped]
  | abandon => rfl
  | _ => exact stopped

/-- What is sent comes to the log, and everything that is always true stays so, if the bus takes
in the effects and the receivers of the server stay on their seats. -/
theorem Sound.absorbs {gate after : Gate} {log : List Event} (sound : gate.Sound log)
    {base : Bus Seat} (receives : gate.bus.Receives base)
    {seats : List Seat} {effects : List Effect}
    (absorbs : Bus.Absorbs seats base effects after.bus) (untouched : .observation ∉ seats)
    (told : tellingObservation.holds gate.controller effects after.controller)
    (stays : after.server ≠ .stopped → gate.server ≠ .stopped ∧ .lifecycle ∉ seats) :
    ∃ more, after.Sound (log ++ more) ∧
      ∀ seat ∉ seats, seat ≠ .observation → (gate.bus.cursor? seat).isSome = true →
        more.map Event.toNotice = effects.filterMap Effect.notice? := by
  rcases absorbs.keeps (receives.keeps sound.keeps) with ⟨more, keeps, notices⟩
  refine ⟨more, ⟨keeps, ?_, ?_⟩, fun seat untouched other seated => ?_⟩
  · rw [absorbs.isSome untouched, receives.isSome, sound.observing, told]
  · intro goesOn
    rcases stays goesOn with ⟨wentOn, kept⟩
    rw [absorbs.cursor? kept (by decide), receives.isSome]
    exact sound.seated wentOn
  · exact notices seat untouched other ((receives.isSome seat).trans seated)

theorem goesOn_of_perform {gate : Gate} {move : Move}
    (goesOn : (move.perform.run gate).state.server ≠ .stopped) :
    gate.server ≠ .stopped ∧ .lifecycle ∉ move.seats gate := by
  rw [server_perform] at goesOn
  exact ⟨fun stopped => goesOn (phaseAfter_of_stopped stopped move), lifecycle_notMem_seats goesOn⟩

theorem Sound.perform {gate : Gate} {log : List Event} (sound : gate.Sound log) (move : Move) :
    ∃ more, (move.perform.run gate).state.Sound (log ++ more) ∧
      ∀ seat ∉ move.seats gate, seat ≠ .observation → (gate.bus.cursor? seat).isSome = true →
        more.map Event.toNotice = (move.perform.run gate).effects.filterMap Effect.notice? :=
  sound.absorbs (receives_base move gate) (absorbs_perform sound move)
    (observation_notMem_seats move gate) (tellingObservation_allows.perform sound move)
    goesOn_of_perform

/-! ## Many moves -/

def follow : List Move → Activity Gate Unit
  | [] => return ()
  | move :: rest => do
      let _ ← move.perform
      follow rest

def following (gate : Gate) (moves : List Move) : Gate := ((follow moves).run gate).state

def recordOf (gate : Gate) (moves : List Move) : List Effect := ((follow moves).run gate).effects

@[simp] theorem following_nil (gate : Gate) : gate.following [] = gate := rfl

@[simp] theorem recordOf_nil (gate : Gate) : gate.recordOf [] = [] := rfl

@[simp] theorem following_cons (gate : Gate) (move : Move) (rest : List Move) :
    gate.following (move :: rest) = (move.perform.run gate).state.following rest := rfl

@[simp] theorem recordOf_cons (gate : Gate) (move : Move) (rest : List Move) :
    gate.recordOf (move :: rest) =
      (move.perform.run gate).effects ++ (move.perform.run gate).state.recordOf rest := rfl

theorem following_append (gate : Gate) (first second : List Move) :
    gate.following (first ++ second) = (gate.following first).following second := by
  induction first generalizing gate with
  | nil => rfl
  | cons move rest induction => exact induction (move.perform.run gate).state

theorem recordOf_append (gate : Gate) (first second : List Move) :
    gate.recordOf (first ++ second) =
      gate.recordOf first ++ (gate.following first).recordOf second := by
  induction first generalizing gate with
  | nil => rfl
  | cons move rest induction => simp [induction]

theorem following_concat (gate : Gate) (moves : List Move) (move : Move) :
    gate.following (moves ++ [move]) = (move.perform.run (gate.following moves)).state := by
  rw [following_append]
  rfl

theorem recordOf_concat (gate : Gate) (moves : List Move) (move : Move) :
    gate.recordOf (moves ++ [move]) =
      gate.recordOf moves ++ (move.perform.run (gate.following moves)).effects := by
  rw [recordOf_append, recordOf_cons, recordOf_nil, List.append_nil]

theorem Sound.follow {gate : Gate} {log : List Event} (sound : gate.Sound log)
    (moves : List Move) : ∃ more, (gate.following moves).Sound (log ++ more) := by
  induction moves generalizing gate log with
  | nil => exact ⟨[], by simpa using sound⟩
  | cons move rest induction =>
      rcases sound.perform move with ⟨first, soundNext, -⟩
      rcases induction soundNext with ⟨more, soundAfter⟩
      exact ⟨first ++ more, by simpa using soundAfter⟩

theorem Allows.follow {law : Law Controller} (allows : Allows law) {gate : Gate}
    {log : List Event} (sound : gate.Sound log) (moves : List Move) :
    law.holds gate.controller (gate.recordOf moves) (gate.following moves).controller := by
  induction moves generalizing gate log with
  | nil => exact law.idle _
  | cons move rest induction =>
      rcases sound.perform move with ⟨more, soundNext, -⟩
      exact law.join (allows.perform sound move) (induction soundNext)

/-! ## How a gate begins -/

/-- A gate as it is when it has just been built. -/
structure Fresh (host : Host) (built : Outcome Gate Unit) : Prop where
  controller : built.state.controller = (Controller.create.run host).value
  effects : built.effects = (Controller.create.run host).effects
  server : built.state.server = .starting
  line : built.state.line = []
  door : built.state.door = []
  nextTicket : built.state.nextTicket = 0
  sound : built.state.Sound []

theorem ok_of_bind {Failure Value Next : Type} {first : Except Failure Value}
    {rest : Value → Except Failure Next} {result : Next}
    (succeeds : (first >>= rest) = .ok result) :
    ∃ value, first = .ok value ∧ rest value = .ok result := by
  cases first with
  | error failure => cases succeeds
  | ok value => exact ⟨value, rfl, succeeds⟩

theorem bus_of_create {capacity : Nat} {bus : Bus Seat} (created : Bus.create capacity = .ok bus) :
    bus = .withSlots (slotsFor (max capacity 1)) := by
  rcases ok_of_bind created with ⟨-, -, same⟩
  cases same
  rfl

theorem fresh_of_build {settings : Settings} {host : Host} {subscribers : List Subscriber}
    {attached : Bool} {built : Outcome Gate Unit}
    (succeeds : build settings host subscribers attached = .ok built) : Fresh host built := by
  rcases ok_of_bind succeeds with ⟨bus, created, succeeds⟩
  rcases ok_of_bind succeeds with ⟨fanout, -, succeeds⟩
  rcases ok_of_bind succeeds with ⟨-, -, succeeds⟩
  cases succeeds
  cases bus_of_create created
  refine ⟨rfl, rfl, rfl, rfl, rfl, rfl, ?_⟩
  generalize slotsFor _ = slots
  constructor
  · refine (Bus.Reseats.subscribe _ _).keeps ?_
    cases subscribers.isEmpty
    · exact (Bus.Reseats.subscribe _ _).keeps (Bus.keeps_withSlots slots)
    · exact Bus.keeps_withSlots slots
  · cases subscribers.isEmpty <;> rfl
  · cases subscribers.isEmpty <;> exact fun _ => rfl

end Gate

/-- Sources that never change: everything is fine, and there is something to upload. -/
def Sources.calm : Sources where
  mainApp := .always true
  appReady := .always true
  registered := .always true
  wifi := .always true
  cellularAllowed := .always (.ok true)
  maxDownload := .always 100
  freeSpace := .always (.ok 1000)
  lowPower := .always false
  batteryLevel := .always none
  queues := .always (.ok ())
  pending := .both (.always (.ok 1))
  ready := .both (.always (.ok false))
  suspended := .both (.always (.ok false))

end TransferGate
