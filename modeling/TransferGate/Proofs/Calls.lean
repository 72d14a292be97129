import TransferGate.Proofs.Working

/-! # Calls

Whoever has a controller to themselves can call it directly. Through a gate the same calls
take a detour: requests wait in line, signals wait on the bus among the notices of the
gate, and failures and short space are sorted out before anybody is asked. But what a
call leaves for the server to do is exactly what the controller would do with it.
-/

namespace TransferGate

open Activity Controller

/-! ## Calls -/

inductive Call where
  | wait
  | status (queue : Queue)
  | begin (queue : Queue)
  | emptied (queue : Queue)
  | retry
  | conditions
  | isObserving
  | jobFailed (queue : Queue) (failure : Failure)
  | quickCheck
  | publish (kind : EventKind)
  | changeSources (change : Sources → Sources)

namespace Call

def request? : Call → Option Request
  | .status queue => some (.status queue)
  | .begin queue => some (.begin queue)
  | .emptied queue => some (.emptied queue)
  | .retry => some .retry
  | .conditions => some .conditions
  | .isObserving => some .isObserving
  | _ => none

def move? : Call → Option Gate.Move
  | .wait => none
  | .jobFailed queue failure => some (.jobFailed queue failure)
  | .quickCheck => some .quickCheck
  | .publish kind => some (.publish kind)
  | .changeSources change => some (.changeSources change)
  | call => call.request?.map .send

def perform (call : Call) : Activity Gate (Option Ticketed) :=
  match call.move? with
  | none => return none
  | some move => move.perform

/-- What the caller does, or what happens to the host, past the controller. Tells whether the
controller has something to do then. -/
def prepare : Call → Activity Controller Bool
  | .wait => return false
  | .quickCheck => do
      let required ← onHost Host.requiredBytes
      let free ← onHost Host.freeSpace
      return Gate.isShort free required
  | .changeSources change => do
      onHost (Host.replaceSources change)
      return false
  | _ => return true

def carryOut : Call → Activity Controller (Option Reply)
  | .wait => return none
  | .status queue => some <$> .status <$> currentStatus queue
  | .begin queue => some <$> .status <$> Controller.begin queue
  | .emptied queue => do
      Controller.emptied queue
      return some .done
  | .retry => do
      Controller.retry
      return some .done
  | .conditions => (fun controller => some (.conditions controller.conditions)) <$> Activity.get
  | .isObserving => (fun controller => some (.observing controller.isObserving)) <$> Activity.get
  | .jobFailed queue failure => Option.map .status <$> Controller.jobFailed queue failure
  | .quickCheck => do
      freeSpaceChanged
      some <$> .status <$> currentStatus .download
  | .publish kind => do
      receive kind
      return none
  | .changeSources _ => return none

def work (call : Call) (needed : Bool) : Activity Controller (Option Reply) :=
  match needed with
  | true => call.carryOut
  | false => return none

end Call

/-! ## What a call leaves to do -/

/-- The activity does what the operations do, and yields what serving the requests yields. -/
structure Matches (activity : Activity Controller (Option Reply)) (operations : List Operation)
    (line : List Ticketed) (controller : Controller) : Prop where
  state : (activity.run controller).state = controller.following operations
  effects : (activity.run controller).effects = controller.recordOf operations
  replies : line.map (fun request => ((serve request.request).run controller).value) =
    (activity.run controller).value.toList

namespace Matches

theorem nothing (controller : Controller) : Matches (Pure.pure none) [] [] controller :=
  ⟨rfl, rfl, rfl⟩

theorem serve (request : Ticketed) (controller : Controller) :
    Matches (some <$> Controller.serve request.request) [.serve request.request] [request]
      controller where
  state := rfl
  effects := by simp [recordOf, Operation.perform]
  replies := rfl

theorem quickCheck (ticket : Nat) (controller : Controller) :
    Matches Call.quickCheck.carryOut [.serve .refreshSpace] [⟨ticket, .refreshSpace⟩]
      controller where
  state := rfl
  effects := by simp [recordOf, Operation.perform, Call.carryOut, Controller.serve, refreshSpace]
  replies := rfl

theorem refused (queue : Queue) (failure : Failure)
    (refused : (queue == .download && failure.isOutOfSpace) = false) (controller : Controller) :
    Matches (Call.jobFailed queue failure).carryOut [] [] controller := by
  have nothing : Controller.jobFailed queue failure = Pure.pure none := by
    cases queue with
    | upload => rfl
    | download =>
        rw [Controller.jobFailed, show failure.isOutOfSpace = false from refused]
  rw [Call.carryOut, nothing]
  exact ⟨rfl, rfl, rfl⟩

theorem ranOut (queue : Queue) (failure : Failure)
    (matters : (queue == .download && failure.isOutOfSpace) = true) (ticket : Nat)
    (controller : Controller) :
    Matches (Call.jobFailed queue failure).carryOut [.serve .outOfSpace] [⟨ticket, .outOfSpace⟩]
      controller := by
  have ranOut : Controller.jobFailed queue failure = some <$> outOfSpace := by
    cases queue with
    | upload => cases matters
    | download =>
        rw [Controller.jobFailed, show failure.isOutOfSpace = true from matters]
  rw [Call.carryOut, ranOut]
  constructor
  · rfl
  · simp [recordOf, Operation.perform, Controller.serve]
  · rfl

theorem receives (kind : EventKind) (controller : Controller) :
    Matches (Call.publish kind).carryOut [.receive kind] [] controller where
  state := rfl
  effects := by simp [recordOf, Operation.perform, Call.carryOut]
  replies := rfl

theorem ignores {kind : EventKind} {controller : Controller}
    (ignored : (receive kind).run controller = ⟨(), controller, []⟩) :
    Matches (Call.publish kind).carryOut [] [] controller := by
  have run : (Call.publish kind).carryOut.run controller = ⟨none, controller, []⟩ := by
    rw [Call.carryOut, run_bind, ignored]
    rfl
  exact ⟨by rw [run]; rfl, by rw [run]; rfl, by rw [run]; rfl⟩

/-- A signal means the same whether it is received on the seats of the server or handed over
directly. Readiness is received on both seats and counts on one of them. -/
theorem publish {event : Event} {kind : EventKind} (published : event.kind = kind)
    (controller : Controller) :
    Matches (Call.publish kind).carryOut
      (event.onLifecycle ++ if controller.isObserving then event.onObservation else []) []
      controller := by
  subst published
  cases kind : event.kind with
  | signal signal =>
      cases observed : signal.isObserved with
      | false =>
          -- Readiness is the only signal that is honoured whether or not anybody observes.
          have ready : signal = .appReady := by
            cases signal <;> first | rfl | cases observed
          subst ready
          have lifecycle : event.onLifecycle = [.readinessChanged] := if_pos kind
          rw [lifecycle, event.onObservation_of_ready kind, ite_self, List.append_nil]
          have received := receives (.signal .appReady) controller
          exact ⟨received.state, received.effects, received.replies⟩
      | true =>
          have lifecycle : event.onLifecycle = [] := by
            apply if_neg
            intro ready
            rw [kind] at ready
            cases ready
            cases observed
          have observation : event.onObservation = [.receive (.signal signal)] := by
            simp [Event.onObservation, kind, EventKind.observedSignal?, observed]
          rw [lifecycle, observation, List.nil_append]
          cases observing : controller.isObserving with
          | true => exact receives (.signal signal) controller
          | false =>
              apply ignores
              have skipped : (rereadIfObserving signal).run controller = ⟨(), controller, []⟩ := by
                simp [rereadIfObserving, observing]
              cases signal <;> first | exact skipped | cases observed
  | _ =>
      have other : event.kind.isSignal = false := by rw [kind]; rfl
      rw [Event.onLifecycle_of_not_isSignal other, Event.onObservation_of_not_isSignal other,
        ite_self]
      exact ignores rfl

end Matches

namespace Call

private theorem carryOut_of_request? {call : Call} {request : Request}
    (asks : call.request? = some request) : call.carryOut = some <$> Controller.serve request := by
  cases call <;> cases asks <;> first | rfl | simp [carryOut, Controller.serve]

private theorem prepare_of_request? {call : Call} {request : Request}
    (asks : call.request? = some request) : call.prepare = Pure.pure true := by
  cases call <;> first | rfl | cases asks

private theorem perform_of_request? {call : Call} {request : Request}
    (asks : call.request? = some request) : call.perform = (Gate.Move.send request).perform := by
  cases call <;> cases asks <;> rfl

end Call

def ownNotices (record : List Effect) : List Notice :=
  (record.filterMap Effect.notice?).filter fun notice =>
    !notice.kind.isSignal && !notice.kind.isReport

namespace Gate

/-- A call was made while the gate was at rest: what is left to do is what the controller would
do, and nothing was announced but a signal. -/
structure Takes (gate : Gate) (call : Call) (called : Outcome Gate (Option Ticketed))
    (log : List Event) : Prop where
  tidy : called.state.Tidy log
  controller : called.state.controller = (call.prepare.run gate.controller).state
  server : called.state.server = gate.server
  line : called.state.line = called.value.toList
  silent : ownNotices called.effects = []
  work : ∀ controller, controller.isObserving = gate.controller.isObserving →
    Matches (call.work (call.prepare.run gate.controller).value) (called.state.agenda log)
      called.state.line controller

private theorem Rests.tidy_of_line {gate after : Gate} {log : List Event} (rests : gate.Rests log)
    {controller : Controller} {line : List Ticketed} {nextTicket : Nat}
    (state : after =
      { gate with controller := controller, line := line, nextTicket := nextTicket })
    (observing : controller.isObserving = gate.controller.isObserving)
    (conditions : controller.conditions = gate.controller.conditions) (short : line.length ≤ 1) :
    after.Tidy log ∧ after.agenda log = line.map fun request => .serve request.request := by
  have lifecycle := rests.read .lifecycle (by decide)
  have observation := rests.read .observation (by decide)
  have agenda : after.agenda log = line.map fun request => .serve request.request := by
    rw [Gate.agenda, state, lifecycle, observation]
    exact List.append_nil _
  refine ⟨?_, agenda⟩
  constructor
  · rw [state]
    exact rests.toUndisturbed.change rfl ..
  · rw [state]
    exact ⟨rests.sound.keeps, rests.sound.observing.trans observing.symm, rests.sound.seated⟩
  · rw [state]
    exact rests.running
  · rw [state]
    intro starting
    exact (congrArg Conditions.registered conditions).trans (rests.unregistered starting)
  · rw [agenda, List.length_map]
    exact short
  · intro seat member
    have read : after.bus.unread log seat = [] := by
      rw [state]
      exact rests.read seat member
    rw [agenda, List.length_map, read, List.length_nil]
    omega

theorem Rests.run_send {gate : Gate} {log : List Event} (rests : gate.Rests log)
    (controller : Controller) (request : Request) :
    (send request).run { gate with controller := controller } =
      ⟨gate.nextTicket,
        { gate with
          controller := controller
          line := [⟨gate.nextTicket, request⟩]
          nextTicket := gate.nextTicket + 1 }, []⟩ := by
  have isOpen : { gate with controller := controller }.isClosed = false := by
    simpa [isClosed] using rests.running
  rw [run_send_open isOpen]
  simp [enqueue, rests.line, rests.door, rests.room]

private theorem Rests.takes_of_run {gate : Gate} {log : List Event} (rests : gate.Rests log)
    {call : Call} {caller : Option Ticketed} {controller : Controller} {nextTicket : Nat}
    {effects : List Effect}
    (run : call.perform.run gate =
      ⟨caller, { gate with
          controller := controller
          line := caller.toList
          nextTicket := nextTicket }, effects⟩)
    (prepared : (call.prepare.run gate.controller).state = controller)
    (observing : controller.isObserving = gate.controller.isObserving)
    (conditions : controller.conditions = gate.controller.conditions)
    (silent : ownNotices effects = [])
    (work : ∀ controller, Matches (call.work (call.prepare.run gate.controller).value)
      (caller.toList.map fun request => .serve request.request) caller.toList controller) :
    Takes gate call (call.perform.run gate) log := by
  rw [run]
  have short : caller.toList.length ≤ 1 := by cases caller <;> simp
  rcases rests.tidy_of_line rfl observing conditions short with ⟨tidy, agenda⟩
  refine ⟨tidy, prepared.symm, rfl, rfl, silent, fun other _ => ?_⟩
  rw [agenda]
  exact work other

private theorem Rests.takes_unasked {gate : Gate} {log : List Event} (rests : gate.Rests log)
    {call : Call} {controller : Controller} {effects : List Effect}
    (run : call.perform.run gate = ⟨none, { gate with controller := controller }, effects⟩)
    (prepared : (call.prepare.run gate.controller).state = controller)
    (observing : controller.isObserving = gate.controller.isObserving)
    (conditions : controller.conditions = gate.controller.conditions)
    (silent : ownNotices effects = [])
    (work : ∀ controller,
      Matches (call.work (call.prepare.run gate.controller).value) [] [] controller) :
    Takes gate call (call.perform.run gate) log := by
  have idle : call.perform.run gate =
      ⟨none, { gate with
        controller := controller
        line := (none : Option Ticketed).toList
        nextTicket := gate.nextTicket }, effects⟩ := by
    rw [run, Option.toList_none, ← rests.line]
  exact rests.takes_of_run idle prepared observing conditions silent work

private theorem Rests.takes_request {gate : Gate} {log : List Event} (rests : gate.Rests log)
    {call : Call} {request : Request} (asks : call.request? = some request) :
    Takes gate call (call.perform.run gate) log := by
  have prepare := Call.prepare_of_request? asks
  have run : call.perform.run gate =
      ⟨some ⟨gate.nextTicket, request⟩, { gate with
        controller := gate.controller
        line := (some (Ticketed.mk gate.nextTicket request)).toList
        nextTicket := gate.nextTicket + 1 }, []⟩ := by
    rw [Call.perform_of_request? asks, Move.perform, run_map, rests.run_send gate.controller]
    rfl
  refine rests.takes_of_run run ?_ rfl rfl rfl fun controller => ?_
  · rw [prepare]
    rfl
  · rw [prepare]
    change Matches call.carryOut _ _ _
    rw [Call.carryOut_of_request? asks]
    exact .serve ⟨gate.nextTicket, request⟩ controller

private theorem Rests.takes_jobFailed {gate : Gate} {log : List Event} (rests : gate.Rests log)
    (queue : Queue) (failure : Failure) :
    Takes gate (.jobFailed queue failure) ((Call.jobFailed queue failure).perform.run gate) log := by
  have run : (Call.jobFailed queue failure).perform.run gate =
      (Option.map (Ticketed.mk · .outOfSpace) <$>
        sendIf (queue == .download && failure.isOutOfSpace) .outOfSpace).run gate := by
    rw [← jobFailed_eq]
    rfl
  cases matters : queue == .download && failure.isOutOfSpace with
  | true =>
      rw [matters, run_map, sendIf, run_map, rests.run_send gate.controller] at run
      exact rests.takes_of_run run rfl rfl rfl rfl fun controller =>
        .ranOut queue failure matters _ controller
  | false =>
      rw [matters, run_map, sendIf, run_pure] at run
      exact rests.takes_unasked run rfl rfl rfl rfl (.refused queue failure matters)

theorem run_quickCheck_prepare (gate : Gate) : Gate.quickCheck.run gate =
    (onController Call.quickCheck.prepare >>= fun short => sendIf short .refreshSpace).run gate := by
  simp only [quickCheck, requiredBytes, onHost, Call.prepare, run_bind, run_onController,
    Controller.run_onHost, run_pure, Bus.absorbAll_append, List.append_nil, List.append_assoc]
  cases isShort _ _ <;> rfl

theorem quickCheck_reads (controller : Controller) :
    ∀ effect ∈ (Call.quickCheck.prepare.run controller).effects, effect.isInquiry = true := by
  intro effect member
  simp only [Call.prepare, run_bind, run_onHost, run_pure, List.append_nil] at member
  rcases List.mem_append.mp member with required | free
  · exact (Host.requiredBytes_reads controller.host).inquiries effect required
  · exact (Host.lookUp_reads .freeSpace _).inquiries effect free

private theorem Rests.takes_quickCheck {gate : Gate} {log : List Event} (rests : gate.Rests log) :
    Takes gate .quickCheck (Call.quickCheck.perform.run gate) log := by
  have run : Call.quickCheck.perform.run gate =
      (Option.map (Ticketed.mk · .refreshSpace) <$> Gate.quickCheck).run gate := rfl
  have inquiries := quickCheck_reads gate.controller
  have sameBus := gate.bus.absorbAll_of_isInquiry inquiries
  rw [run_map, run_quickCheck_prepare, run_bind, run_onController] at run
  simp only [sameBus] at run
  have silent : ownNotices (Call.quickCheck.prepare.run gate.controller).effects = [] := by
    rw [ownNotices, Effect.notices_of_isInquiry inquiries]
    rfl
  have observing : (Call.quickCheck.prepare.run gate.controller).state.isObserving =
      gate.controller.isObserving := rfl
  have conditions : (Call.quickCheck.prepare.run gate.controller).state.conditions =
      gate.controller.conditions := rfl
  cases short : (Call.quickCheck.prepare.run gate.controller).value with
  | true =>
      simp only [short, sendIf, run_map, rests.run_send] at run
      rw [List.append_nil] at run
      apply rests.takes_of_run run rfl observing conditions silent
      intro controller
      rw [short]
      exact .quickCheck gate.nextTicket controller
  | false =>
      simp only [short, sendIf, run_pure] at run
      rw [List.append_nil] at run
      apply rests.takes_unasked run rfl observing conditions silent
      intro controller
      rw [short]
      exact .nothing controller

private theorem Rests.takes_changeSources {gate : Gate} {log : List Event} (rests : gate.Rests log)
    (change : Sources → Sources) :
    Takes gate (.changeSources change) ((Call.changeSources change).perform.run gate) log :=
  rests.takes_unasked rfl rfl rfl rfl rfl .nothing

private theorem Rests.unread_signal {gate : Gate} {log : List Event} (rests : gate.Rests log)
    (signal : Signal) {seat : Seat} (member : seat ∈ serverSeats) :
    (gate.bus.publish (.signal signal)).unread (log ++ [gate.bus.eventOf (.signal signal)]) seat =
      if (gate.bus.cursor? seat).isSome then [gate.bus.eventOf (.signal signal)] else [] := by
  rw [Bus.unread_congr (gate.bus.cursor?_publish _ seat), rests.sound.keeps.unread_concat,
    rests.read seat member]
  rfl

private theorem Rests.agenda_signal {gate : Gate} {log : List Event} (rests : gate.Rests log)
    (signal : Signal) :
    { gate with bus := gate.bus.publish (.signal signal) }.agenda
        (log ++ [gate.bus.eventOf (.signal signal)]) =
      (gate.bus.eventOf (.signal signal)).onLifecycle ++
        if gate.controller.isObserving then (gate.bus.eventOf (.signal signal)).onObservation
        else [] := by
  rw [Gate.agenda, rests.unread_signal signal (by decide), rests.unread_signal signal (by decide),
    if_pos (rests.sound.seated rests.running), rests.sound.observing, rests.line]
  cases gate.controller.isObserving <;> simp

private theorem Rests.takes_signal {gate : Gate} {log : List Event} (rests : gate.Rests log)
    (signal : Signal) :
    ∃ afterLog, Takes gate (.publish (.signal signal))
      ((Call.publish (.signal signal)).perform.run gate) afterLog := by
  let event := gate.bus.eventOf (.signal signal)
  let after : Gate := { gate with bus := gate.bus.publish (.signal signal) }
  have run : (Call.publish (.signal signal)).perform.run gate =
      ⟨none, after, [.announced (.signal signal)]⟩ := rfl
  have keeps : after.bus.Keeps (log ++ [event]) :=
    rests.sound.keeps.publish _ (Bus.cursors_ne_nil (rests.sound.seated rests.running))
  have agenda : after.agenda (log ++ [event]) =
      event.onLifecycle ++ if gate.controller.isObserving then event.onObservation else [] :=
    rests.agenda_signal signal
  have work (controller : Controller)
      (same : controller.isObserving = gate.controller.isObserving) :
      Matches (Call.publish (.signal signal)).carryOut (after.agenda (log ++ [event])) []
        controller := by
    have published : event.kind = .signal signal := rfl
    rw [agenda, ← same]
    exact .publish published controller
  have short : (after.agenda (log ++ [event])).length ≤ 1 := by
    rw [agenda]
    exact event.leads_once _
  have tidy : after.Tidy (log ++ [event]) := by
    constructor
    · exact rests.toUndisturbed.change (gate.bus.slots_publish _) ..
    · refine ⟨keeps, ?_, ?_⟩
      · rw [gate.bus.cursor?_publish]
        exact rests.sound.observing
      · rw [gate.bus.cursor?_publish]
        exact rests.sound.seated
    · exact rests.running
    · exact rests.unregistered
    · exact short
    · intro seat member
      have few : (after.bus.unread (log ++ [event]) seat).length ≤ 1 := by
        rw [rests.unread_signal signal member]
        split <;> simp
      omega
  refine ⟨log ++ [event], ?_⟩
  rw [run]
  refine ⟨tidy, rfl, rfl, ?_, rfl, ?_⟩
  · exact rests.line
  · intro controller same
    rw [show after.line = [] from rests.line]
    exact work controller same

theorem Rests.takes {gate : Gate} {log : List Event} (rests : gate.Rests log) (call : Call) :
    ∃ afterLog, Takes gate call (call.perform.run gate) afterLog := by
  cases call with
  | wait => exact ⟨log, rests.takes_unasked rfl rfl rfl rfl rfl .nothing⟩
  | jobFailed queue failure => exact ⟨log, rests.takes_jobFailed queue failure⟩
  | quickCheck => exact ⟨log, rests.takes_quickCheck⟩
  | changeSources change => exact ⟨log, rests.takes_changeSources change⟩
  | publish kind =>
      cases kind with
      | signal signal => exact rests.takes_signal signal
      | _ => exact ⟨log, rests.takes_unasked rfl rfl rfl rfl rfl fun _ => .ignores rfl⟩
  | _ => exact ⟨log, rests.takes_request rfl⟩

end Gate

end TransferGate
