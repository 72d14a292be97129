import TransferGate.Proofs.Chronicle

/-! # Following the statuses from outside

A reader outside the gate who takes a seat on the bus, never lags, and has read
everything knows the status of each queue: it is the last one that it heard, or else
the one at the time when it took its seat. Replies agree with the announcements that
come before them.
-/

namespace TransferGate

def Receipt.isEvent : Receipt → Bool
  | .event _ => true
  | .lagged _ => false

def Receipt.statusFor? (queue : Queue) : Receipt → Option Status
  | .event received => received.toNotice.statusFor? queue
  | .lagged _ => none

namespace Gate

open Activity

namespace Move

def seatsReader : Move → Bool
  | .listen => true
  | .unlisten => true
  | _ => false

def heard (gate : Gate) : Move → List Receipt
  | .hear => ((gate.bus.receive .outside).map Prod.fst).toList
  | _ => []

end Move

def heard (gate : Gate) : List Move → List Receipt
  | [] => []
  | move :: rest => move.heard gate ++ heard (move.perform.run gate).state rest

private theorem heard_concat (gate : Gate) (moves : List Move) (move : Move) :
    gate.heard (moves ++ [move]) = gate.heard moves ++ move.heard (gate.following moves) := by
  induction moves generalizing gate with
  | nil => simp [heard]
  | cons first rest induction =>
      rw [List.cons_append, heard, induction, heard, List.append_assoc]
      rfl

/-- The reader outside is on the bus since the log was `old`. It has got so many of the events
since then, if it has not been told of a lag. -/
structure Follows (old more : List Event) (read : Nat) (receipts : List Receipt) (gate : Gate) :
    Prop where
  sound : gate.Sound (old ++ more)
  cursor : gate.bus.cursor? .outside = some (old.length + read)
  heard : (∀ receipt ∈ receipts, receipt.isEvent = true) →
    receipts = (more.take read).map .event

private theorem outside_notMem_seats {move : Move} (gate : Gate) (stays : move.seatsReader = false)
    (other : move ≠ .hear) : .outside ∉ move.seats gate := by
  intro member
  rcases Move.mem_seats member with ⟨-, rfl | rfl | rfl⟩ | ⟨same, -⟩ | same
  · cases stays
  · exact other rfl
  · cases stays
  · cases same
  · cases same

private theorem Follows.other {old more : List Event} {read : Nat} {receipts : List Receipt}
    {gate : Gate} (follows : Follows old more read receipts gate) {move : Move}
    (stays : move.seatsReader = false) (other : move ≠ .hear) :
    ∃ new, Follows old (more ++ new) read (receipts ++ move.heard gate)
        (move.perform.run gate).state ∧
      new.map Event.toNotice = (move.perform.run gate).effects.filterMap Effect.notice? := by
  have untouched := outside_notMem_seats gate stays other
  have bounded := follows.sound.keeps.cursor?_le follows.cursor
  rcases follows.sound.perform move with ⟨new, sound, notices⟩
  have nothing : move.heard gate = [] := by
    cases move <;> first | rfl | exact absurd rfl other
  refine ⟨new, ⟨?_, ?_, fun onlyEvents => ?_⟩, ?_⟩
  · rw [← List.append_assoc]
    exact sound
  · rw [(absorbs_perform follows.sound move).cursor? untouched (by decide),
      cursor?_base move gate (by decide) (by decide), follows.cursor]
  · rw [nothing, List.append_nil] at onlyEvents ⊢
    rw [follows.heard onlyEvents, List.take_append_of_le_length (by
      rw [List.length_append] at bounded
      omega)]
  · exact notices .outside untouched (by decide) (by rw [follows.cursor]; rfl)

private theorem run_hear_none {gate : Gate} (nothing : gate.bus.receive .outside = none) :
    Move.hear.perform.run gate = ⟨none, gate, []⟩ := by
  simp [Move.perform, hear, nothing]

private theorem run_hear_some {gate : Gate} {receipt : Receipt} {bus : Bus Seat}
    (received : gate.bus.receive .outside = some (receipt, bus)) :
    Move.hear.perform.run gate = ⟨none, { gate with bus := bus }, []⟩ := by
  simp [Move.perform, hear, received, changeBus]

private theorem Sound.received {gate : Gate} {log : List Event} (sound : gate.Sound log)
    {receipt : Receipt} {bus : Bus Seat}
    (received : gate.bus.receive .outside = some (receipt, bus)) :
    Sound { gate with bus := bus } log where
  keeps := (sound.keeps.reseats_receive received).keeps sound.keeps
  observing := (Bus.isSome_of_receive received .observation).trans sound.observing
  seated running := (Bus.isSome_of_receive received .lifecycle).trans (sound.seated running)

private theorem Follows.hear {old more : List Event} {read : Nat} {receipts : List Receipt}
    {gate : Gate} (follows : Follows old more read receipts gate) :
    ∃ next, Follows old more next (receipts ++ Move.hear.heard gate)
      (Move.hear.perform.run gate).state := by
  cases received : gate.bus.receive .outside with
  | none =>
      refine ⟨read, ?_⟩
      rw [run_hear_none received]
      simpa [Move.heard, received] using follows
  | some result =>
      rcases result with ⟨receipt, bus⟩
      have sound := follows.sound.received received
      rw [run_hear_some received]
      rcases follows.sound.keeps.receive follows.cursor received with
        ⟨event, rfl, found, moved⟩ | ⟨missed, rfl, behind, moved⟩
      · refine ⟨read + 1, sound, ?_, fun onlyEvents => ?_⟩
        · rw [moved, Bus.cursor?_moveTo_self]
          rfl
        · have next : more[read]? = some event := by
            rw [List.getElem?_append_right (Nat.le_add_right ..)] at found
            simpa using found
          have earlier : ∀ receipt ∈ receipts, receipt.isEvent = true := fun receipt member =>
            onlyEvents receipt (List.mem_append_left _ member)
          rw [follows.heard earlier, List.take_add_one, next]
          simp [Move.heard, received]
      · refine ⟨gate.bus.sent - gate.bus.slots - old.length, sound, ?_, fun onlyEvents => ?_⟩
        · rw [moved, Bus.cursor?_moveTo_self]
          congr 1
          omega
        · have lag := onlyEvents (.lagged missed) (by simp [Move.heard, received])
          cases lag

/-- The reader keeps following the log as long as it does not leave its seat. -/
theorem follows_following {gate : Gate} {log : List Event} (sound : gate.Sound log)
    (seated : gate.bus.cursor? .outside = some log.length) (moves : List Move)
    (stays : ∀ move ∈ moves, move.seatsReader = false) :
    ∃ more read, Follows log more read (gate.heard moves) (gate.following moves) ∧
      more.map Event.toNotice = (gate.recordOf moves).filterMap Effect.notice? := by
  induction moves using List.reverseRecOn with
  | nil => exact ⟨[], 0, ⟨by simpa using sound, seated, fun _ => rfl⟩, rfl⟩
  | append_singleton moves move induction =>
      obtain ⟨more, read, follows, notices⟩ :=
        induction fun earlier member => stays earlier (List.mem_append_left _ member)
      have stay := stays move (by simp)
      rw [heard_concat, following_concat, recordOf_concat, List.filterMap_append]
      by_cases isHear : move = .hear
      · subst isHear
        rcases follows.hear with ⟨next, followsNext⟩
        refine ⟨more, next, followsNext, ?_⟩
        have noEffects : (Move.hear.perform.run (gate.following moves)).effects = [] := by
          cases received : (gate.following moves).bus.receive .outside with
          | none => rw [run_hear_none received]
          | some result => rw [run_hear_some received]
        rw [noEffects, notices, List.filterMap_nil, List.append_nil]
      · rcases follows.other stay isHear with ⟨new, followsNext, newNotices⟩
        exact ⟨more ++ new, read, followsNext, by rw [List.map_append, notices, newNotices]⟩

private theorem statusesFor_eq (queue : Queue) (record : List Effect) :
    statusesFor queue record =
      (record.filterMap Effect.notice?).filterMap fun notice => notice.statusFor? queue := by
  rw [List.filterMap_filterMap]
  rfl

/-- A reader who has read everything and never lagged has heard every announced status. -/
theorem statuses_heard {gate : Gate} {log : List Event} (sound : gate.Sound log)
    (seated : gate.bus.cursor? .outside = some log.length) {moves : List Move}
    (stays : ∀ move ∈ moves, move.seatsReader = false)
    (onlyEvents : ∀ receipt ∈ gate.heard moves, receipt.isEvent = true)
    (nothingLeft : (gate.following moves).bus.receive .outside = none) (queue : Queue) :
    (gate.heard moves).filterMap (Receipt.statusFor? queue) =
      statusesFor queue (gate.recordOf moves) := by
  rcases follows_following sound seated moves stays with ⟨more, read, follows, notices⟩
  have atEnd := follows.sound.keeps.cursor_of_receive_none follows.cursor nothingLeft
  rw [List.length_append, Nat.add_left_cancel_iff] at atEnd
  rw [follows.heard onlyEvents, atEnd, List.take_length, statusesFor_eq, ← notices,
    List.filterMap_map, List.filterMap_map]
  rfl

end Gate

/-! ## The history of the statuses -/

/-- A run of the controller tells its statuses: the record does, and so do the replies. -/
structure Controller.TellsAll (controller : Controller) (operations : List Controller.Operation) :
    Prop where
  record : TellsStatuses controller.conditions (controller.recordOf operations)
    (controller.following operations).conditions
  replies : ∀ (operation : Controller.Operation) (reply : Reply),
    (operation.perform.run (controller.following operations)).value = some reply →
      reply.Agrees operation.queue?
        (lastTold controller.conditions (controller.recordOf (operations ++ [operation])))

/-- A run of a gate tells its statuses: the record does, the reply to a request that is served
next agrees with what was recorded before it, and so does a reader who takes a seat now. -/
structure Gate.TellsAll (gate : Gate) (moves : List Gate.Move) : Prop where
  record : TellsStatuses gate.controller.conditions (gate.recordOf moves)
    (gate.following moves).controller.conditions
  replies : ∀ request, (⟨gate.following moves, .turn .server⟩ : Gate.Step).served? = some request →
    ∃ record reply, gate.recordOf (moves ++ [.turn .server]) =
        record ++ [.answered request.ticket reply] ∧
      reply.Agrees request.request.queue? (lastTold gate.controller.conditions record)
  reader : ∀ seated later, seated = gate.following (moves ++ [.listen]) →
    (∀ move ∈ later, move.seatsReader = false) →
    (∀ receipt ∈ seated.heard later, receipt.isEvent = true) →
    (seated.following later).bus.receive .outside = none → ∀ queue,
      ((seated.heard later).filterMap (Receipt.statusFor? queue)).getLast?.getD
          (seated.controller.status queue) =
        (seated.following later).controller.status queue

open Controller

theorem Controller.tellsAll (controller : Controller) (operations : List Operation) :
    controller.TellsAll operations where
  record := Chronicle.tellsStatuses (chronicling_elements.stages.run operations controller)
  replies operation reply replied := by
    have told := (chronicling_elements.stages.run (operations ++ [operation]) controller).lastTold
    have arrived : ((performAll (operations ++ [operation])).run controller).state =
        (operation.perform.run (controller.following operations)).state := by
      rw [run_performAll_append]
      rfl
    have agrees := perform_agrees operation (controller.following operations) replied
    rw [← arrived] at agrees
    rwa [← show lastTold _ _ = Controller.status _ from funext told] at agrees

theorem Gate.tellsAll {gate : Gate} {log : List Event} (sound : gate.Sound log)
    (moves : List Gate.Move) : gate.TellsAll moves where
  record := (chronicling_allows.follow sound moves).tellsStatuses
  replies request served := by
    have before := chronicling_allows.follow sound moves
    have serving := chronicling_elements.stages.toKeptStages.serve request.request
      (gate.following moves).controller
    have agrees := serve_agrees request.request (gate.following moves).controller
    rw [← show lastTold _ _ = Controller.status _ from
      funext (before.append serving).lastTold] at agrees
    refine ⟨_, _, ?_, agrees⟩
    rw [recordOf_concat, List.append_assoc]
    exact congrArg (gate.recordOf moves ++ ·) (Step.of_served served).2
  reader seated later isSeated stays onlyEvents nothingLeft queue := by
    rcases sound.follow moves with ⟨log, soundBefore⟩
    rcases soundBefore.perform .listen with ⟨more, soundSeated, -⟩
    rw [following_concat] at isSeated
    rw [← isSeated] at soundSeated
    have cursor : seated.bus.cursor? .outside = some seated.bus.sent := by
      subst isSeated
      exact Bus.cursor?_moveTo_self ..
    rw [soundSeated.keeps.sent] at cursor
    rw [statuses_heard soundSeated cursor stays onlyEvents nothingLeft queue]
    exact (chronicling_allows.follow soundSeated later).lastTold queue

/-- What is announced about statuses is exactly their history. -/
theorem statuses_told :
    (∀ (change : Conditions → Conditions) (controller : Controller),
      let outcome := (revise change).run controller
      outcome.value = Queue.all.filter (fun queue =>
          controller.status queue ≠ outcome.state.status queue) ∧
        outcome.effects.filterMap Effect.notice? =
          outcome.value.map fun queue => .statusChanged queue (outcome.state.status queue)) ∧
    (∀ (host : Host) (operations : List Operation),
      (create.run host).value.TellsAll operations) ∧
    ∀ (settings : Settings) (host : Host) (subscribers : List Subscriber) (attached : Bool)
      (built : Outcome Gate Unit) (moves : List Gate.Move),
      Gate.build settings host subscribers attached = .ok built → built.state.TellsAll moves := by
  refine ⟨revise_announces, fun host operations => Controller.tellsAll _ operations, ?_⟩
  intro settings host subscribers attached built moves succeeds
  exact Gate.tellsAll (Gate.fresh_of_build succeeds).sound moves

/-- A reader from the start hears that downloads are possible and then that there are none. -/
theorem statuses_told_of_listening :
    ∃ built, Gate.build {} (.create {} .calm true) [] false = .ok built ∧
      let seated := built.state.following [.listen]
      let later : List Gate.Move :=
        [.send (.begin .upload), .turn .server, .turn .server, .hear, .hear, .hear, .hear]
      (seated.heard later).filterMap (Receipt.statusFor? .download) = [.running, .empty] ∧
        ((seated.heard later).filterMap (Receipt.statusFor? .download)).getLast?.getD
            (seated.controller.status .download) =
          (seated.following later).controller.status .download := by
  refine ⟨_, rfl, rfl, ?_⟩
  refine (statuses_told.2.2 {} (.create {} .calm true) [] false _ [] rfl).reader _ _ rfl ?_ ?_ rfl _
  · decide
  · decide

end TransferGate
