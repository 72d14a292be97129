import TransferGate.Proofs.Calls

/-! # A gate and a controller of one's own

If the tasks of a gate get the time to come to rest after every call, it makes no
difference whether the calls are made through the gate or directly to a controller: both
give the same account of every call.
-/

namespace TransferGate

open Activity Controller

/-- What there is to tell about a call when everything is at rest again. -/
structure Account where
  replies : List Reply
  exchanges : List Exchange
  notices : List Notice
  conditions : Conditions
  isObserving : Bool

def accountOf (replies : List Reply) (record : List Effect) (controller : Controller) : Account where
  replies := replies
  exchanges := record.filterMap Effect.exchange?
  notices := ownNotices record
  conditions := controller.conditions
  isObserving := controller.isObserving

namespace Controller

/-- What comes of the call, if `opening` comes before it. What happens past the controller is
not part of the record. -/
def answer (controller : Controller) (opening : List Operation) (call : Call) :
    Outcome Controller (Option Reply) :=
  let prepared := call.prepare.run controller
  (performAll opening >>= fun _ => call.work prepared.value).run prepared.state

def accounts (controller : Controller) (opening : List Operation) : List Call → List Account
  | [] => []
  | call :: rest =>
      let outcome := controller.answer opening call
      accountOf outcome.value.toList outcome.effects outcome.state ::
        accounts outcome.state [] rest

end Controller

namespace Gate

/-- A call, and the turns that the tasks take after it. -/
structure Episode where
  call : Call
  turns : List Turn

def repliesTo (caller : Option Ticketed) (record : List Effect) : List Reply :=
  (record.filterMap Effect.answer?).filterMap fun answer =>
    if caller.map Ticketed.ticket = some answer.1 then some answer.2 else none

namespace Episode

def called (episode : Episode) (gate : Gate) : Outcome Gate (Option Ticketed) :=
  episode.call.perform.run gate

def record (episode : Episode) (gate : Gate) : List Effect :=
  (episode.called gate).state.recordOf (episode.turns.map .turn)

def after (episode : Episode) (gate : Gate) : Gate :=
  (episode.called gate).state.following (episode.turns.map .turn)

def account (episode : Episode) (gate : Gate) : Account where
  replies := repliesTo (episode.called gate).value (episode.record gate)
  exchanges := (episode.record gate).filterMap Effect.exchange?
  notices := ownNotices ((episode.called gate).effects ++ episode.record gate)
  conditions := (episode.after gate).controller.conditions
  isObserving := (episode.after gate).controller.isObserving

end Episode

def accounts (gate : Gate) : List Episode → List Account
  | [] => []
  | episode :: rest => episode.account gate :: accounts (episode.after gate) rest

/-- After each of the episodes no task has anything left to do. -/
def Settles (gate : Gate) : List Episode → Prop
  | [] => True
  | episode :: rest => (episode.after gate).IsQuiet ∧ Settles (episode.after gate) rest

/-! ## Episodes -/

private theorem repliesTo_expected (caller : Option Ticketed) (reply : Ticketed → Reply)
    {record : List Effect} (answers : record.filterMap Effect.answer? =
      caller.toList.map fun request => (request.ticket, reply request)) :
    repliesTo caller record = caller.toList.map reply := by
  rw [repliesTo, answers]
  cases caller with
  | none => rfl
  | some request => simp

private theorem ownNotices_append (first second : List Effect) :
    ownNotices (first ++ second) = ownNotices first ++ ownNotices second := by
  rw [ownNotices, List.filterMap_append, List.filter_append]
  rfl

theorem isObserving_prepare (call : Call) (controller : Controller) :
    (call.prepare.run controller).state.isObserving = controller.isObserving := by
  cases call <;> rfl

theorem isObserving_opening (gate : Gate) (controller : Controller) :
    (controller.following gate.opening).isObserving = controller.isObserving := by
  rw [opening]
  split <;> rfl

private theorem Takes.answer {gate : Gate} {call : Call} {called : Outcome Gate (Option Ticketed)}
    {log : List Event} (takes : Takes gate call called log) :
    let outcome := gate.controller.answer gate.opening call
    let operations := called.state.opening ++ called.state.agenda log
    outcome.state = called.state.controller.following operations ∧
      outcome.effects = called.state.controller.recordOf operations ∧
      (called.value.toList.map fun request =>
        ((serve request.request).run (called.state.controller.following gate.opening)).value) =
          outcome.value.toList ∧
      called.state.expected = called.value.toList.map fun request => (request.ticket,
        ((serve request.request).run (called.state.controller.following gate.opening)).value) := by
  have sameOpening : called.state.opening = gate.opening := by
    rw [opening, opening, takes.server]
  have observing : (called.state.controller.following gate.opening).isObserving =
      gate.controller.isObserving := by
    rw [isObserving_opening, takes.controller, isObserving_prepare]
  rcases takes.work _ observing with ⟨state, effects, replies⟩
  rw [Controller.answer, ← takes.controller, run_bind]
  refine ⟨?_, ?_, ?_, ?_⟩
  · rw [sameOpening, Controller.following_append]
    exact state
  · rw [sameOpening, Controller.recordOf_append]
    exact congrArg _ effects
  · rw [← takes.line]
    exact replies
  · rw [expected, sameOpening, takes.line]

theorem Rests.account {gate : Gate} {log : List Event} (rests : gate.Rests log)
    (episode : Episode) (quiet : (episode.after gate).IsQuiet) :
    let outcome := gate.controller.answer gate.opening episode.call
    outcome.state = (episode.after gate).controller ∧
      accountOf outcome.value.toList outcome.effects outcome.state = episode.account gate ∧
      (episode.after gate).opening = [] ∧ ∃ afterLog, (episode.after gate).Rests afterLog := by
  rcases rests.takes episode.call with ⟨calledLog, takes⟩
  rcases advances_turns takes.tidy episode.turns with ⟨afterLog, advances⟩
  rcases rests_of_quiet advances.tidy quiet with ⟨restsAfter, opened, done⟩
  rcases advances.work with ⟨operations, agenda, controller, exchanges, notices⟩
  rcases takes.answer with ⟨state, effects, replies, expected⟩
  rw [opened, done, List.append_nil, List.append_nil] at agenda
  subst agenda
  rw [← effects] at exchanges notices
  have same : (gate.controller.answer gate.opening episode.call).state =
      (episode.after gate).controller := state.trans controller.symm
  refine ⟨same, ?_, opened, afterLog, restsAfter⟩
  have answered := advances.replies
  rw [expected, show Gate.expected _ = [] from congrArg (List.map _) restsAfter.line,
    List.append_nil] at answered
  have told := repliesTo_expected _ _ answered.symm
  rw [replies] at told
  have announced : ownNotices ((episode.called gate).effects ++ episode.record gate) =
      ownNotices (gate.controller.answer gate.opening episode.call).effects := by
    rw [ownNotices_append, show ownNotices (episode.called gate).effects = [] from takes.silent]
    exact congrArg (List.filter _) notices
  rw [accountOf, Episode.account, same, ← told, ← exchanges, announced]
  rfl

/-- As long as every episode ends at rest, so does the whole run. -/
theorem Rests.accounts {gate : Gate} {log : List Event} (rests : gate.Rests log)
    (episodes : List Episode) (settles : gate.Settles episodes) :
    gate.accounts episodes =
      gate.controller.accounts gate.opening (episodes.map Episode.call) := by
  induction episodes generalizing gate log with
  | nil => rfl
  | cons episode rest induction =>
      rcases settles with ⟨quiet, others⟩
      rcases rests.account episode quiet with ⟨state, account, opened, afterLog, restsAfter⟩
      have later := induction restsAfter others
      rw [opened, ← state] at later
      rw [Gate.accounts, List.map_cons, Controller.accounts, later, account]

private theorem Rests.settles {gate : Gate} {log : List Event} (rests : gate.Rests log)
    (calls : List Call) : ∃ episodes, episodes.map Episode.call = calls ∧ gate.Settles episodes := by
  induction calls generalizing gate log with
  | nil => exact ⟨[], rfl, trivial⟩
  | cons call rest induction =>
      rcases rests.takes call with ⟨calledLog, takes⟩
      rcases quiet_reachable takes.tidy with ⟨turns, quiet⟩
      rcases rests.account ⟨call, turns⟩ quiet with ⟨-, -, -, afterLog, restsAfter⟩
      rcases induction restsAfter with ⟨episodes, calls, settles⟩
      exact ⟨⟨call, turns⟩ :: episodes, congrArg _ calls, quiet, settles⟩

/-! ## From the beginning -/

private theorem rests_of_build {settings : Settings} {host : Host} {attached : Bool}
    {built : Outcome Gate Unit} (succeeds : build settings host [] attached = .ok built)
    (slots : 8 ≤ settings.busCapacity) :
    built.state.Rests [] ∧ built.state.opening = [.readinessChanged] := by
  have fresh := fresh_of_build succeeds
  have read (seat : Seat) : built.state.bus.unread [] seat = [] := by
    unfold Bus.unread
    split
    · rfl
    · exact List.drop_nil
  have agenda : built.state.agenda [] = [] := by
    rw [Gate.agenda, fresh.line, read, read]
    rfl
  have undisturbed : built.state.Undisturbed := by
    -- Building may fail over the bus, over the subscribers and over the queue for requests.
    rcases ok_of_bind succeeds with ⟨bus, created, succeeds⟩
    rcases ok_of_bind succeeds with ⟨fanout, nobody, succeeds⟩
    rcases ok_of_bind succeeds with ⟨-, -, succeeds⟩
    cases succeeds
    cases nobody
    cases bus_of_create created
    refine ⟨rfl, Nat.one_ne_zero, rfl, ?_, rfl, rfl, ?_⟩
    · exact Nat.lt_of_lt_of_le Nat.one_pos (Nat.le_max_right ..)
    · have enough := le_slotsFor (max settings.effectiveBusCapacity 1)
      have wanted : settings.busCapacity ≤ settings.effectiveBusCapacity := Nat.le_max_left ..
      change 8 ≤ slotsFor (max settings.effectiveBusCapacity 1)
      omega
  refine ⟨⟨⟨undisturbed, fresh.sound, ?_, ?_, ?_, ?_⟩, fresh.line, fun seat _ => read seat⟩, ?_⟩
  · simp [fresh.server]
  · intro _
    rw [fresh.controller]
    rfl
  · simp [agenda]
  · intro seat _
    simp [agenda, read]
  · exact if_pos fresh.server

def afterAll (gate : Gate) : List Episode → Gate
  | [] => gate
  | episode :: rest => (episode.after gate).afterAll rest

private theorem Rests.afterAll {gate : Gate} {log : List Event} (rests : gate.Rests log)
    {episodes rest : List Episode} (settles : gate.Settles (episodes ++ rest)) :
    (gate.afterAll episodes).Settles rest ∧ (∃ afterLog, (gate.afterAll episodes).Rests afterLog) ∧
      (episodes ≠ [] → (gate.afterAll episodes).opening = []) := by
  induction episodes generalizing gate log with
  | nil => exact ⟨settles, ⟨log, rests⟩, fun some => absurd rfl some⟩
  | cons episode others induction =>
      rcases settles with ⟨quiet, later⟩
      rcases rests.account episode quiet with ⟨-, -, opened, afterLog, restsAfter⟩
      rcases induction restsAfter later with ⟨restSettles, restRests, restOpened⟩
      refine ⟨restSettles, restRests, fun _ => ?_⟩
      -- Only before the first episode is the opening still to come.
      cases others with
      | nil => exact opened
      | cons => exact restOpened (List.cons_ne_nil _ _)

private theorem effects_answer_signal (controller : Controller) (signal : Signal) :
    (controller.answer [] (.publish (.signal signal))).effects =
      if signal = .appReady ∨ controller.isObserving = true then
        ((reread signal).run controller).effects
      else [] := by
  have answer : (controller.answer [] (.publish (.signal signal))).effects =
      ((receive (.signal signal)).run controller).effects := by
    simp [Controller.answer, Call.work, Call.carryOut, Call.prepare]
  have observed : ((rereadIfObserving signal).run controller).effects =
      if controller.isObserving = true then ((reread signal).run controller).effects else [] := by
    rw [rereadIfObserving, run_bind, run_get]
    cases controller.isObserving <;> simp
  rw [answer]
  cases signal with
  | appReady => rfl
  | _ =>
      simp only [reduceCtorEq, false_or]
      exact observed

/-- A gate on a bus with enough slots, in which the tasks come to rest after every call, gives
the same account of the calls as a controller that first reads readiness and then is called
directly. Every signal makes it read once what the signal is about. However many calls there
are, the tasks do come to rest after each of them. -/
theorem accounts_agree (settings : Settings) (host : Host) (attached : Bool)
    (built : Outcome Gate Unit) (succeeds : build settings host [] attached = .ok built)
    (slots : 8 ≤ settings.busCapacity) :
    (∀ episodes, built.state.Settles episodes →
      built.state.accounts episodes =
        (Controller.create.run host).value.accounts [.readinessChanged]
          (episodes.map Episode.call)) ∧
    (∀ episodes signal turns, episodes ≠ [] →
      built.state.Settles (episodes ++ [⟨.publish (.signal signal), turns⟩]) →
      let gate := built.state.afterAll episodes
      (Episode.account ⟨.publish (.signal signal), turns⟩ gate).exchanges =
        if signal = .appReady ∨ gate.controller.isObserving = true then
          ((reread signal).run gate.controller).effects.filterMap Effect.exchange?
        else []) ∧
    ∀ calls, ∃ episodes, episodes.map Episode.call = calls ∧ built.state.Settles episodes := by
  rcases rests_of_build succeeds slots with ⟨rests, opening⟩
  refine ⟨fun episodes settles => ?_, fun episodes signal turns some settles => ?_, rests.settles⟩
  · rw [rests.accounts episodes settles, opening, (fresh_of_build succeeds).controller]
  · intro gate
    rcases rests.afterAll settles with ⟨⟨quiet, -⟩, ⟨log, restsBefore⟩, opened⟩
    rcases restsBefore.account ⟨.publish (.signal signal), turns⟩ quiet with ⟨-, account, -⟩
    rw [← account, opened some]
    change List.filterMap _ (gate.controller.answer [] _).effects = _
    rw [effects_answer_signal]
    split <;> rfl

/-- Readiness is announced while the gate observes, so both seats of the server get it. -/
theorem accounts_agree_of_ready :
    ∃ built, build {} (.create {} .calm true) [] false = .ok built ∧
      8 ≤ ({} : Settings).busCapacity ∧
      let begun : Episode := ⟨.begin .upload, List.replicate 12 .server⟩
      let told : Episode := ⟨.publish (.signal .appReady), List.replicate 3 .server⟩
      built.state.Settles [begun, told] ∧
      (begun.after built.state).controller.isObserving = true ∧
      built.state.accounts [begun, told] =
        (Controller.create.run (.create {} .calm true)).value.accounts [.readinessChanged]
          [.begin .upload, .publish (.signal .appReady)] := by
  refine ⟨_, rfl, by decide, ?settles, rfl,
    (accounts_agree {} (.create {} .calm true) false _ rfl (by decide)).1 _ ?settles⟩
  refine ⟨?_, ?_, trivial⟩
  · exact (isQuiet_iff ⟨rfl, Nat.one_ne_zero, rfl, by decide, rfl, rfl, by decide⟩).mpr rfl
  · exact (isQuiet_iff ⟨rfl, Nat.one_ne_zero, rfl, by decide, rfl, rfl, by decide⟩).mpr rfl

/-- A look at the space that leads to nothing else still spares the server a question: it need not
ask for the size of downloads any more. A controller whose host was not looked at would. -/
theorem accounts_disagree_past_quickCheck :
    ∃ built, build {} (.create {} .calm true) [] false = .ok built ∧
      let looked : Episode := ⟨.quickCheck, [.server]⟩
      let begun : Episode := ⟨.begin .upload, List.replicate 12 .server⟩
      built.state.Settles [looked, begun] ∧ (looked.account built.state).replies = [] ∧
      (built.state.accounts [looked, begun]).map (fun account => account.exchanges.length) ≠
        ((Controller.create.run (.create {} .calm true)).value.accounts [.readinessChanged]
          [.wait, .begin .upload]).map (fun account => account.exchanges.length) := by
  refine ⟨_, rfl, ⟨?_, ?_, trivial⟩, rfl, ?_⟩
  · exact (isQuiet_iff ⟨rfl, Nat.one_ne_zero, rfl, by decide, rfl, rfl, by decide⟩).mpr rfl
  · exact (isQuiet_iff ⟨rfl, Nat.one_ne_zero, rfl, by decide, rfl, rfl, by decide⟩).mpr rfl
  · decide +kernel

end Gate

end TransferGate
