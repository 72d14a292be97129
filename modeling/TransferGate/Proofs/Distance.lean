import TransferGate.Proofs.Stopping

/-! # How far a caller is from a reply

Whoever has sent a request waits in line or at the door. The server works from the front of
the line, and who has waited longest at the door comes in first. But while there is more
room than those at the door need, later callers go past them. So it does not tell much how
many wait ahead of a caller.

`Gate.distance` tells enough: no move makes it grow.
-/

namespace TransferGate

open Activity

namespace Gate

/-! ## Room -/

/-- The line only grows while there is room in it. A later caller enters it only if there is more
room than those at the door need. -/
structure FoundRoom (before after : Gate) : Prop where
  hasRoom : before.line.length < before.room
  enough : after.door = before.door → before.line.length + before.door.length < before.room

theorem foundRoom_enqueue {before asked : Gate} {request : Ticketed}
    (line : asked.line = before.line) (door : asked.door = before.door)
    (room : asked.room = before.room)
    (grows : before.line.length < (asked.enqueue request).line.length) :
    FoundRoom before (asked.enqueue request) := by
  unfold enqueue at grows ⊢
  split at grows
  · next fits =>
      rw [line, door, room] at fits
      exact ⟨by omega, fun _ => fits⟩
  · rw [line] at grows
    exact absurd grows (Nat.lt_irrefl _)

theorem foundRoom_sendIf {needed : Bool} {request : Request} {before asked : Gate}
    (line : asked.line = before.line) (door : asked.door = before.door)
    (room : asked.room = before.room)
    (grows : before.line.length < ((sendIf needed request).run asked).state.line.length) :
    FoundRoom before ((sendIf needed request).run asked).state := by
  cases needed with
  | false =>
      rw [sendIf, run_pure, line] at grows
      exact absurd grows (Nat.lt_irrefl _)
  | true =>
      simp only [sendIf, run_map] at grows ⊢
      cases closed : asked.isClosed with
      | true =>
          rw [run_send_closed closed] at grows
          exact absurd (line ▸ grows) (Nat.lt_irrefl _)
      | false =>
          rw [run_send_open closed] at grows ⊢
          exact foundRoom_enqueue line door room grows

theorem foundRoom_doorTurn {gate : Gate}
    (grows : gate.line.length < (doorTurn.run gate).state.line.length) :
    FoundRoom gate (doorTurn.run gate).state := by
  rw [run_doorTurn] at grows ⊢
  cases waiting : gate.door with
  | nil => simp [waiting] at grows
  | cons first rest =>
      by_cases hasRoom : gate.line.length < gate.room
      · simp only [if_pos hasRoom]
        refine ⟨hasRoom, fun same => ?_⟩
        rw [waiting] at same
        exact absurd (congrArg List.length same) (by simp)
      · simp [waiting, hasRoom] at grows

private theorem length_line_doServerTask {gate : Gate} {task : ServerTask}
    (found : gate.serverTask? = some task) :
    ((doServerTask task).run gate).state.line.length ≤ gate.line.length := by
  cases due_of_serverTask? found with
  | start starting => exact Nat.le_refl _
  | stop serving reason => simp [doServerTask, run_stopServer]
  | serve serving goesOn waiting => simp [run_serve, waiting]
  | @lifecycle serving goesOn nobody receipt bus received =>
      exact Nat.le_of_eq (congrArg (List.length ·.1)
        (Step.requests_handleLifecycle receipt { gate with bus := bus }))
  | @observed serving goesOn nobody nothing receipt bus received =>
      exact Nat.le_of_eq (congrArg (List.length ·.1)
        (Step.requests_handleObserved receipt { gate with bus := bus }))

theorem foundRoom_perform {move : Move} {gate : Gate}
    (grows : gate.line.length < (move.perform.run gate).state.line.length) :
    FoundRoom gate (move.perform.run gate).state := by
  have stays {after : Gate} (same : after.line = gate.line)
      (grows : gate.line.length < after.line.length) : FoundRoom gate after :=
    absurd (same ▸ grows) (Nat.lt_irrefl _)
  cases move with
  | send request =>
      have run : ((Move.send request).perform.run gate).state =
          ((sendIf true request).run gate).state := by
        simp [Move.perform, sendIf]
      rw [run] at grows ⊢
      exact foundRoom_sendIf rfl rfl rfl grows
  | quickCheck =>
      rcases run_quickCheck gate with ⟨short, run⟩
      rw [Move.perform, run_map, run] at grows ⊢
      exact foundRoom_sendIf rfl rfl rfl grows
  | jobFailed queue failure =>
      rw [Move.perform, run_map, jobFailed_eq] at grows ⊢
      exact foundRoom_sendIf rfl rfl rfl grows
  | publish kind => cases kind <;> exact stays rfl grows
  | hear =>
      refine stays ?_ grows
      simp only [Move.perform, hear, run_map, run_bind, run_get]
      cases gate.bus.receive .outside <;> rfl
  | abandon =>
      rw [Move.perform, run_map, run_abandon] at grows
      exact absurd grows (Nat.not_lt_zero _)
  | turn choice =>
      cases choice with
      | door =>
          simp only [Move.perform, run_map, turn] at grows ⊢
          exact foundRoom_doorTurn grows
      | server =>
          cases found : gate.serverTask? with
          | none => exact stays (by simp [Move.perform, turn, serverTurn, found]) grows
          | some task =>
              rw [Step.run_serverTurn found] at grows
              exact absurd grows (Nat.not_lt_of_le (length_line_doServerTask found))
      | relay stopFirst =>
          refine stays ?_ grows
          cases found : gate.relayTask? stopFirst with
          | none => simp [Move.perform, turn, relayTurn, found]
          | some task =>
              rw [run_relayTurn found]
              exact congrArg (·.1) (Step.requests_doRelayTask task gate).1
      | worker index => exact stays rfl grows
  | _ => exact stays rfl grows

theorem fits_perform {gate : Gate} (fits : gate.line.length ≤ gate.room) (move : Move) :
    (move.perform.run gate).state.line.length ≤ gate.room := by
  by_cases grows : gate.line.length < (move.perform.run gate).state.line.length
  · have hasRoom := (foundRoom_perform grows).hasRoom
    have oneMore {other : Ticketed} (line : (move.perform.run gate).state.line =
        gate.line ++ [other]) : (move.perform.run gate).state.line.length ≤ gate.room := by
      rw [line, List.length_append, List.length_singleton]
      exact hasRoom
    have asBefore (same : (move.perform.run gate).state.line = gate.line) :
        (move.perform.run gate).state.line.length ≤ gate.room :=
      absurd (same ▸ grows) (Nat.lt_irrefl _)
    cases Step.handles ⟨gate, move⟩ with
    | nothing sent served answers line => exact asBefore line
    | refuses request closed sent served answers line => exact asBefore line
    | stops sent served answers line =>
        exact Nat.le_trans (Nat.le_of_eq (congrArg List.length line)) (Nat.zero_le _)
    | comesIn first sent served answers line => exact oneMore line
    | serves request running sent served answers line =>
        have shorter : gate.line.length = (move.perform.run gate).state.line.length + 1 :=
          congrArg List.length line
        omega
    | accepts request running sent served answers waits =>
        rcases waits with ⟨line, -⟩ | ⟨line, -⟩
        · exact oneMore line
        · exact asBefore line
  · exact Nat.le_trans (Nat.le_of_not_lt grows) fits

theorem fits_following {gate : Gate} (fits : gate.line.length ≤ gate.room) (moves : List Move) :
    (gate.following moves).line.length ≤ gate.room := by
  induction moves using List.reverseRecOn with
  | nil => exact fits
  | append_singleton moves move induction =>
      rw [following_concat, ← (attached_following moves gate).2] at *
      exact fits_perform induction move

/-! ## The distance to a reply -/

/-- The request has not been replied to, and the server is there to do so. -/
structure Waits (gate : Gate) (request : Ticketed) : Prop where
  running : gate.server ≠ .stopped
  somewhere : request ∈ gate.line ∨ request ∈ gate.door
  fits : gate.line.length ≤ gate.room

/-- How far the request is from the front of the line. Those at the door count twice, as the
server may have to make room before one of them comes in. -/
def place (gate : Gate) (request : Ticketed) : Nat :=
  if request ∈ gate.line then gate.line.idxOf request
  else gate.room + 2 * gate.door.idxOf request + if gate.line.length < gate.room then 0 else 1

/-- In how many rounds there will be a reply, at the latest. -/
def distance (gate : Gate) (request : Ticketed) : Nat :=
  (lastOperations gate.server).length + gate.place request

/-- What the server does next brings the request nearer to its reply. -/
def Presses (gate : Gate) (request : Ticketed) : Prop :=
  request ∈ gate.line ∨ gate.line.length = gate.room

theorem place_of_line {gate : Gate} {request : Ticketed} (inLine : request ∈ gate.line) :
    gate.place request = gate.line.idxOf request :=
  if_pos inLine

theorem place_of_door {gate : Gate} {request : Ticketed} (outside : request ∉ gate.line) :
    gate.place request = gate.room + 2 * gate.door.idxOf request +
      if gate.line.length < gate.room then 0 else 1 :=
  if_neg outside

private theorem place_lt_of_enters {before after : Gate} {request : Ticketed}
    (outside : request ∉ before.line) (inside : request ∈ after.line)
    (fits : after.line.length ≤ before.room) : after.place request < before.place request := by
  have found : after.line.idxOf request < after.line.length := List.idxOf_lt_length_of_mem inside
  rw [place_of_door outside, place_of_line inside]
  omega

structure ComesCloser (before : Gate) (request : Ticketed) (served : Option Ticketed)
    (after : Gate) : Prop where
  somewhere : request ∈ after.line ∨ request ∈ after.door
  nearer : after.place request ≤ before.place request
  presses : before.Presses request → after.place request = before.place request →
    after.Presses request ∧ served = none

section

variable {before after : Gate} {request : Ticketed}

private theorem closer_of_lt {served : Option Ticketed}
    (somewhere : request ∈ after.line ∨ request ∈ after.door)
    (less : after.place request < before.place request) : ComesCloser before request served after :=
  ⟨somewhere, Nat.le_of_lt less, fun _ same => absurd same (Nat.ne_of_lt less)⟩

private theorem closer_of_line {more : List Ticketed} (inLine : request ∈ before.line)
    (line : after.line = before.line ++ more) : ComesCloser before request none after := by
  have stays : request ∈ after.line := by
    rw [line]
    exact List.mem_append_left _ inLine
  refine ⟨.inl stays, Nat.le_of_eq ?_, fun _ _ => ⟨.inl stays, rfl⟩⟩
  rw [place_of_line stays, place_of_line inLine, line, List.idxOf_append_of_mem inLine]

private theorem closer_of_still {more : List Ticketed} (waits : before.Waits request)
    (line : after.line = before.line) (door : after.door = before.door ++ more)
    (room : after.room = before.room) : ComesCloser before request none after := by
  have presses (pressing : before.Presses request) : after.Presses request := by
    rw [Presses, line, room]
    exact pressing
  by_cases inLine : request ∈ before.line
  · exact closer_of_line inLine (line.trans (List.append_nil _).symm)
  · have atDoor : request ∈ before.door := waits.somewhere.resolve_left inLine
    refine ⟨.inr ?_, Nat.le_of_eq ?_, fun pressing _ => ⟨presses pressing, rfl⟩⟩
    · rw [door]
      exact List.mem_append_left _ atDoor
    · rw [place_of_door (line ▸ inLine), place_of_door inLine, line, door, room,
        List.idxOf_append_of_mem atDoor]

private theorem closer_of_joining {other : Ticketed} (waits : before.Waits request)
    (line : after.line = before.line ++ [other]) (door : after.door = before.door)
    (room : after.room = before.room)
    (enough : before.line.length + before.door.length < before.room) :
    ComesCloser before request none after := by
  by_cases inLine : request ∈ before.line
  · exact closer_of_line inLine line
  · have atDoor : request ∈ before.door := waits.somewhere.resolve_left inLine
    have someone : 0 < before.door.length := List.length_pos_of_mem atDoor
    have longer : after.line.length = before.line.length + 1 := by rw [line]; simp
    by_cases comes : request ∈ after.line
    · exact closer_of_lt (.inl comes) (place_lt_of_enters inLine comes (by omega))
    · refine ⟨.inr (door ▸ atDoor), ?_, ?_⟩
      · rw [place_of_door comes, place_of_door inLine, door, room, if_pos (by omega)]
        omega
      · -- The line was not full: somebody could go past those at the door.
        rintro (inside | full)
        · exact absurd inside inLine
        · omega

theorem closer_of_comingIn {first : Ticketed} (waits : before.Waits request)
    (line : after.line = before.line ++ [first]) (door : before.door = first :: after.door)
    (room : after.room = before.room) (hasRoom : before.line.length < before.room) :
    ComesCloser before request none after ∧
      (request ∉ before.line → after.place request < before.place request) := by
  by_cases inLine : request ∈ before.line
  · exact ⟨closer_of_line inLine line, fun outside => absurd inLine outside⟩
  · have atDoor : request ∈ before.door := waits.somewhere.resolve_left inLine
    have longer : after.line.length = before.line.length + 1 := by rw [line]; simp
    have less : after.place request < before.place request := by
      by_cases comes : request ∈ after.line
      · exact place_lt_of_enters inLine comes (by omega)
      · have isOther : first ≠ request := by
          rintro rfl
          exact comes (by simp [line])
        rw [place_of_door comes, place_of_door inLine, door, room, List.idxOf_cons_ne _ isOther,
          if_pos hasRoom]
        split <;> omega
    refine ⟨closer_of_lt ?_ less, fun _ => less⟩
    rw [door] at atDoor
    rcases List.mem_cons.mp atDoor with rfl | later
    · exact .inl (by simp [line])
    · exact .inr later

private theorem closer_of_serving {other : Ticketed} {served : Option Ticketed}
    (waits : before.Waits request) (isOther : other ≠ request)
    (line : before.line = other :: after.line) (door : after.door = before.door)
    (room : after.room = before.room) : ComesCloser before request served after := by
  have shorter : before.line.length = after.line.length + 1 := by rw [line]; simp
  have fits := waits.fits
  by_cases inLine : request ∈ before.line
  · have stays : request ∈ after.line := by
      rw [line] at inLine
      exact (List.mem_cons.mp inLine).resolve_left isOther.symm
    apply closer_of_lt (.inl stays)
    rw [place_of_line stays, place_of_line inLine, line, List.idxOf_cons_ne _ isOther]
    exact Nat.lt_succ_self _
  · have atDoor : request ∈ after.door := by
      rw [door]
      exact waits.somewhere.resolve_left inLine
    have outside : request ∉ after.line := fun inside =>
      inLine (line ▸ List.mem_cons_of_mem _ inside)
    have nearer : after.place request ≤ before.place request := by
      rw [place_of_door outside, place_of_door inLine, door, room, if_pos (by omega)]
      omega
    refine ⟨.inr atDoor, nearer, ?_⟩
    rintro (inside | full) same
    · exact absurd inside inLine
    · rw [place_of_door outside, place_of_door inLine, door, room, if_pos (by omega),
        if_neg (by omega)] at same
      omega

end

private theorem lastOperations_inj {first second : ServerPhase}
    (same : (lastOperations first).length = (lastOperations second).length) : first = second := by
  cases first <;> cases second <;> first | rfl | cases same

namespace Step

def RepliesTo (step : Step) (ticket : Nat) : Prop := ∃ reply, (ticket, reply) ∈ step.answers

structure KeepsWaiting (step : Step) (request : Ticketed) : Prop where
  waits : step.after.Waits request
  nearer : step.after.distance request ≤ step.before.distance request
  presses : step.before.Presses request →
    step.after.distance request = step.before.distance request →
    step.after.Presses request ∧ step.served? = none ∧ step.after.server = step.before.server

private theorem keepsWaiting {step : Step} {request : Ticketed} (waits : step.before.Waits request)
    (running : step.after.server ≠ .stopped)
    (closer : ComesCloser step.before request step.served? step.after) :
    step.KeepsWaiting request := by
  have operations : (lastOperations step.after.server).length ≤
    (lastOperations step.before.server).length := length_lastOperations_perform step.move step.before
  have room : step.after.room = step.before.room := (attached_perform step.move step.before).2
  have nearer := closer.nearer
  refine ⟨⟨running, closer.somewhere, room ▸ fits_perform waits.fits step.move⟩, ?_, ?_⟩
  · exact Nat.add_le_add operations nearer
  · intro pressing same
    unfold distance at same
    obtain ⟨presses, unserved⟩ := closer.presses pressing (by omega)
    exact ⟨presses, unserved, lastOperations_inj (by omega)⟩

/-- A step either brings the reply or does not make the wait longer. -/
theorem replies_or_keepsWaiting (step : Step) {request : Ticketed}
    (waits : step.before.Waits request) :
    step.RepliesTo request.ticket ∨ step.KeepsWaiting request := by
  have room : step.after.room = step.before.room := (attached_perform step.move step.before).2
  have foundRoom {other : Ticketed} (line : step.after.line = step.before.line ++ [other]) :
      FoundRoom step.before step.after := by
    have longer : step.after.line.length = step.before.line.length + 1 := by
      rw [line, List.length_append, List.length_singleton]
    exact foundRoom_perform (Nat.lt_of_lt_of_eq (Nat.lt_succ_self _) longer.symm)
  cases step.handles with
  | nothing sent served answers line door nextTicket server =>
      refine .inr (keepsWaiting waits (fun stopped => waits.running (server.mp stopped)) ?_)
      rw [served]
      exact closer_of_still waits line (door.trans (List.append_nil _).symm) room
  | refuses other closed => exact absurd closed waits.running
  | accepts other running sent served answers enters nextTicket server =>
      refine .inr (keepsWaiting waits server ?_)
      rw [served]
      rcases enters with ⟨line, door⟩ | ⟨line, door⟩
      · exact closer_of_joining waits line door room ((foundRoom line).enough door)
      · exact closer_of_still waits line door room
  | comesIn first sent served answers line door nextTicket server =>
      refine .inr (keepsWaiting waits (by rw [server]; exact waits.running) ?_)
      rw [served]
      exact (closer_of_comingIn waits line door room (foundRoom line).hasRoom).1
  | serves other running sent served answers line door nextTicket server =>
      by_cases isOther : other = request
      · refine .inl ⟨(step.serving other).value, ?_⟩
        rw [answers, isOther]
        exact List.mem_singleton_self _
      · exact .inr (keepsWaiting waits server (closer_of_serving waits isOther line door room))
  | stops sent served answers =>
      refine .inl ⟨.closed, ?_⟩
      rw [answers]
      exact List.mem_map_of_mem (List.mem_append.mpr waits.somewhere)

end Step

end Gate

end TransferGate
