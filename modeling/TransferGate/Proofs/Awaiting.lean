import TransferGate.Proofs.Distance

/-! # How long a caller waits

A turn of the door followed by a turn of the server makes the distance of every caller shrink.
Every caller gets a reply when it has come to nothing.
-/

namespace TransferGate

open Activity

namespace Gate

/-! ## Rounds -/

section

variable {gate : Gate} {request : Ticketed}

private theorem Waits.presses_or_nearer (waits : gate.Waits request) :
    (Step.after ⟨gate, .turn .door⟩).Presses request ∨
      (Step.after ⟨gate, .turn .door⟩).distance request < gate.distance request := by
  have run : Step.after ⟨gate, .turn .door⟩ = (doorTurn.run gate).state := by
    simp [Step.after, Step.outcome, Move.perform, turn]
  rw [run, run_doorTurn]
  by_cases inLine : request ∈ gate.line
  · refine .inl (.inl ?_)
    split
    · exact inLine
    · split
      · exact List.mem_append_left _ inLine
      · exact inLine
  · have atDoor : request ∈ gate.door := waits.somewhere.resolve_left inLine
    cases door : gate.door with
    | nil => simp [door] at atDoor
    | cons first rest =>
        by_cases hasRoom : gate.line.length < gate.room
        · let after : Gate := { gate with line := gate.line ++ [first], door := rest }
          have comesIn : ComesCloser gate request none after ∧
              (request ∉ gate.line → after.place request < gate.place request) :=
            closer_of_comingIn waits rfl door rfl hasRoom
          simp only [if_pos hasRoom]
          exact .inr (Nat.add_lt_add_left (comesIn.2 inLine) _)
        · refine .inl (.inr ?_)
          simp only [if_neg hasRoom]
          exact Nat.le_antisymm waits.fits (Nat.le_of_not_lt hasRoom)

private theorem Waits.nearer_of_presses (waits : gate.Waits request) (hasRoom : 0 < gate.room)
    (pressing : gate.Presses request) :
    Step.RepliesTo ⟨gate, .turn .server⟩ request.ticket ∨
      (Step.after ⟨gate, .turn .server⟩).Waits request ∧
        (Step.after ⟨gate, .turn .server⟩).distance request < gate.distance request := by
  refine (Step.replies_or_keepsWaiting ⟨gate, .turn .server⟩ waits).imp_right
    fun keeps => ⟨keeps.waits, Nat.lt_of_le_of_ne keeps.nearer fun same => ?_⟩
  rcases keeps.presses pressing same with ⟨-, unserved, sameServer⟩
  rw [Step.after, Step.outcome, server_perform] at sameServer
  cases phase : gate.server with
  | stopped => exact waits.running phase
  | starting =>
      have task : gate.serverTask? = some .start := by simp [serverTask?, phase]
      simp [Move.phaseAfter, task, phase] at sameServer
  | serving =>
      cases cancelled : gate.cancelled with
      | true =>
          have task : gate.serverTask? = some .stop := by simp [serverTask?, phase, cancelled]
          simp [Move.phaseAfter, task, phase] at sameServer
      | false =>
          have occupied : gate.line ≠ [] := by
            rcases pressing with inLine | full
            · exact List.ne_nil_of_mem inLine
            · exact List.ne_nil_of_length_pos (full ▸ hasRoom)
          rcases List.exists_cons_of_ne_nil occupied with ⟨other, rest, line⟩
          have task : gate.serverTask? = some (.serve other rest) := by
            simp [serverTask?, phase, cancelled, line]
          simp [Step.served?, task] at unserved

private theorem Waits.distance_pos (waits : gate.Waits request) : 0 < gate.distance request := by
  refine Nat.lt_of_lt_of_le ?_ (Nat.le_add_right _ _)
  cases phase : gate.server with
  | stopped => exact absurd phase waits.running
  | _ => simp [lastOperations]

def RepliedTo (steps : List Step) (ticket : Nat) : Prop :=
  ∃ reply, (ticket, reply) ∈ answers steps

private theorem repliedTo_cons {step : Step} {steps : List Step} {ticket : Nat} :
    RepliedTo (step :: steps) ticket ↔ step.RepliesTo ticket ∨ RepliedTo steps ticket := by
  simp only [RepliedTo, Step.RepliesTo, answers, List.flatMap_cons, List.mem_append, exists_or]

private theorem repliedTo_of_rounds (hasRoom : 0 < gate.room) (moves : List Move)
    (waits : gate.Waits request) (count : Nat) :
    (gate.distance request ≤ count → (rounds count).Sublist moves →
      RepliedTo (gate.steps moves) request.ticket) ∧
    (gate.Presses request → gate.distance request ≤ count + 1 →
      (.turn .server :: rounds count).Sublist moves →
      RepliedTo (gate.steps moves) request.ticket) := by
  induction moves generalizing gate count with
  | nil =>
      refine ⟨fun near sublist => ?_, fun _ _ sublist => by cases sublist⟩
      cases count with
      | zero => exact absurd near (Nat.not_le_of_lt waits.distance_pos)
      | succ count => cases sublist
  | cons move rest induction =>
      have sameRoom := (attached_perform move gate).2
      simp only [steps, repliedTo_cons]
      rcases Step.replies_or_keepsWaiting ⟨gate, move⟩ waits with replies | keeps
      · exact ⟨fun _ _ => .inl replies, fun _ _ _ => .inl replies⟩
      have later := induction (sameRoom ▸ hasRoom) keeps.waits
      have nearer : (Step.after ⟨gate, move⟩).distance request ≤ gate.distance request :=
        keeps.nearer
      constructor
      · intro near sublist
        cases count with
        | zero => exact absurd near (Nat.not_le_of_lt waits.distance_pos)
        | succ count =>
            refine .inr ?_
            cases sublist with
            | cons _ inRest => exact (later (count + 1)).1 (Nat.le_trans nearer near) inRest
            | cons_cons _ inRest =>
                -- A round begins here; its turn of the door may already have done enough.
                rcases waits.presses_or_nearer with pressing | less
                · exact (later count).2 pressing (Nat.le_trans nearer near) inRest
                · exact (later count).1 (by omega) ((List.sublist_cons_self ..).trans inRest)
      · intro pressing near sublist
        cases sublist with
        | cons _ inRest =>
            refine .inr ?_
            rcases Nat.lt_or_eq_of_le nearer with less | same
            · exact (later count).1 (by omega) ((List.sublist_cons_self ..).trans inRest)
            · exact (later count).2 (keeps.presses pressing same).1 (Nat.le_trans nearer near) inRest
        | cons_cons _ inRest =>
            rcases waits.nearer_of_presses hasRoom pressing with replies | ⟨-, less⟩
            · exact .inl replies
            · exact .inr ((later count).1 (by omega) inRest)

end

/-! ## Requests that were sent -/

private theorem waits_of_sent (step : Step) {request : Ticketed}
    (running : step.before.server ≠ .stopped) (fits : step.before.line.length ≤ step.before.room)
    (isSent : step.sent? = some request) :
    step.after.Waits request ∧
      step.after.distance request ≤ step.before.room + 2 * step.before.door.length + 3 := by
  have room : step.after.room = step.before.room := (attached_perform step.move step.before).2
  have fitsAfter : step.after.line.length ≤ step.after.room := room ▸ fits_perform fits step.move
  have operations : (lastOperations step.after.server).length ≤ 2 := by
    cases step.after.server <;> decide
  have inLine (member : request ∈ step.after.line) :
      step.after.distance request ≤ step.before.room + 2 * step.before.door.length + 3 := by
    have found := List.idxOf_lt_length_of_mem member
    rw [distance, place_of_line member]
    omega
  cases step.handles with
  | nothing sent => cases sent.symm.trans isSent
  | comesIn first sent => cases sent.symm.trans isSent
  | serves other running sent => cases sent.symm.trans isSent
  | stops sent => cases sent.symm.trans isSent
  | refuses other closed => exact absurd closed running
  | accepts other running sent served answers enters nextTicket server =>
      cases Option.some.inj (sent.symm.trans isSent)
      rcases enters with ⟨line, -⟩ | ⟨-, door⟩
      · have member : ⟨step.before.nextTicket, other⟩ ∈ step.after.line := by simp [line]
        exact ⟨⟨server, .inl member, fitsAfter⟩, inLine member⟩
      · have member : ⟨step.before.nextTicket, other⟩ ∈ step.after.door := by simp [door]
        refine ⟨⟨server, .inr member, fitsAfter⟩, ?_⟩
        by_cases inside : ⟨step.before.nextTicket, other⟩ ∈ step.after.line
        · exact inLine inside
        · have found := List.idxOf_lt_length_of_mem member
          rw [door, List.length_append, List.length_singleton, ← door] at found
          rw [distance, place_of_door inside]
          split <;> omega

/-- What comes of a request in the course of the steps after it was sent. -/
structure SettledBy (request : Ticketed) (steps : List Step) (last : Gate) : Prop where
  once : ∀ first second, (request.ticket, first) ∈ answers steps →
    (request.ticket, second) ∈ answers steps → first = second
  refused : (request.ticket, .closed) ∈ answers steps →
    request ∉ served steps ∧ last.server = .stopped
  /-- Any other reply is the result of serving it, which happens in one step and no other. -/
  result : ∀ reply, reply ≠ .closed → (request.ticket, reply) ∈ answers steps →
    ∃ before step after, steps = before ++ step :: after ∧ step.served? = some request ∧
      reply = (step.serving request).value ∧ request ∉ served (before ++ after)

private theorem Step.served_of_answers {step : Step} {ticket : Nat} {reply : Reply}
    (worked : reply ≠ .closed) (replied : (ticket, reply) ∈ step.answers) :
    ∃ request, step.served? = some request ∧ request.ticket = ticket ∧
      reply = (step.serving request).value := by
  cases step.handles with
  | nothing sent served answers => simp [answers] at replied
  | accepts request running sent served answers => simp [answers] at replied
  | comesIn first sent served answers => simp [answers] at replied
  | refuses request closed sent served answers =>
      rw [answers, List.mem_singleton] at replied
      exact absurd (Prod.mk.inj replied).2 worked
  | stops sent served answers =>
      rw [answers] at replied
      rcases List.mem_map.mp replied with ⟨waiting, -, entry⟩
      exact absurd (Prod.mk.inj entry).2.symm worked
  | serves request running sent served answers =>
      rw [answers, List.mem_singleton] at replied
      rcases Prod.mk.inj replied with ⟨sameTicket, same⟩
      exact ⟨request, served, sameTicket.symm, same⟩

section

variable {settings : Settings} {host : Host} {subscribers : List Subscriber} {attached : Bool}
  {built : Outcome Gate Unit} {move : Move} {request : Ticketed}

/-- Whoever has sent a request gets a reply, if only the door and the server take turns. -/
theorem repliedTo_of_sent (succeeds : build settings host subscribers attached = .ok built)
    {earlier later : List Move}
    (isSent : Step.sent? ⟨built.state.following earlier, move⟩ = some request)
    (isOpen : (built.state.following earlier).isClosed = false)
    (enough : (rounds ((built.state.following earlier).room +
      2 * (built.state.following earlier).door.length + 3)).Sublist later) :
    RepliedTo ((Step.after ⟨built.state.following earlier, move⟩).steps later) request.ticket := by
  let step : Step := ⟨built.state.following earlier, move⟩
  rcases standing_of_build succeeds with ⟨-, -, -, hasRoom⟩
  have fits : built.state.line.length ≤ built.state.room := by
    rw [(fresh_of_build succeeds).line]
    exact Nat.zero_le _
  have sameRoom : step.before.room = built.state.room := (attached_following earlier built.state).2
  have roomAfter : step.after.room = step.before.room := (attached_perform move step.before).2
  obtain ⟨waits, near⟩ := waits_of_sent step (by simpa [isClosed] using isOpen)
    (sameRoom ▸ fits_following fits earlier) isSent
  exact (repliedTo_of_rounds (by rw [roomAfter, sameRoom]; exact hasRoom) later waits _).1 near
    enough

theorem settledBy_of_sent (succeeds : build settings host subscribers attached = .ok built)
    (earlier later : List Move)
    (isSent : Step.sent? ⟨built.state.following earlier, move⟩ = some request) :
    let after := Step.after ⟨built.state.following earlier, move⟩
    SettledBy request (after.steps later) (after.following later) := by
  intro after
  have fresh := fresh_of_build succeeds
  have whole := (ledger_nil fresh.line fresh.door fresh.nextTicket).follow
    (earlier ++ move :: later)
  have unrefused := unrefused_of_running built.state (earlier ++ move :: later)
  rw [steps_append, following_append] at whole unrefused
  have isAmong : request ∈ sent (built.state.steps earlier ++
      (built.state.following earlier).steps (move :: later)) :=
    List.mem_filterMap.mpr ⟨⟨built.state.following earlier, move⟩, by simp [steps], isSent⟩
  have answered {entry : Nat × Reply} (member : entry ∈ answers (after.steps later)) :
      entry ∈ answers (built.state.steps earlier ++
        (built.state.following earlier).steps (move :: later)) := by
    simp only [answers, steps, List.flatMap_append, List.flatMap_cons, List.mem_append]
    exact .inr (.inr member)
  have sublist : (served (after.steps later)).Sublist (served (built.state.steps earlier ++
      (built.state.following earlier).steps (move :: later))) :=
     ((List.sublist_cons_self _ _).trans (List.sublist_append_right _ _)).filterMap _
  refine ⟨fun first second isFirst isSecond => ?_, fun isRefused => ⟨?_, ?_⟩,
    fun reply worked replied => ?_⟩
  · exact (Prod.mk.inj (List.inj_on_of_nodup_map whole.answeredOnce (answered isFirst)
      (answered isSecond) rfl)).2
  · exact fun isServed => ((whole.refused isAmong).mp (answered isRefused)).1
      (sublist.subset isServed)
  · by_contra running
    exact unrefused running _ (answered isRefused) rfl
  · rcases List.mem_flatMap.mp replied with ⟨step, member, inStep⟩
    rcases Step.served_of_answers worked inStep with ⟨other, isServed, sameTicket, same⟩
    have otherSent := whole.sent_of_served
      (sublist.subset (List.mem_filterMap.mpr ⟨step, member, isServed⟩))
    cases whole.eq_of_ticket otherSent isAmong sameTicket
    have once := whole.nodup_served.sublist sublist
    rcases List.append_of_mem member with ⟨before, after, apart⟩
    rw [apart] at once
    exact ⟨before, step, after, apart, isServed, same, Ledger.notMem_served_of_split once isServed⟩

end

end Gate

end TransferGate
