import Mathlib.Data.List.Induction
import TransferGate.Proofs.GateRun

/-! # Observing and work

The controller decides whether to observe only when the recorded emptiness of the
queues changes. `Controller.perform_right` sums this up for one operation. In a run,
a controller observes exactly if it has recorded work and has not given up observing
since the work appeared. The server of a gate gives up only when it stops, so until
then its controller observes exactly if it has recorded work.
-/

namespace TransferGate

namespace Host

private theorem empty_readFor (host : Host) (session : Option Nat) (signal : Signal)
    (conditions : Conditions) :
    (((readFor session signal).run host).value conditions).empty = conditions.empty := by
  cases signal <;> rfl

end Host

namespace Controller

open Activity

/-! ## What decides about observing -/

def idling : Law Controller where
  holds before _ after :=
    after.isObserving = before.isObserving ∧ after.conditions.empty = before.conditions.empty
  idle _ := ⟨rfl, rfl⟩
  join first second := ⟨second.1.trans first.1, second.2.trans first.2⟩

theorem idling_stages : IdleStages idling where
  log _ _ := ⟨rfl, rfl⟩
  requiredBytes _ := ⟨rfl, rfl⟩
  freeSpace _ := ⟨rfl, rfl⟩
  replaceSources _ _ := ⟨rfl, rfl⟩
  recordOutOfSpace _ _ := ⟨rfl, rfl⟩
  readinessChanged _ := ⟨rfl, rfl⟩
  freeSpaceChanged _ := ⟨rfl, rfl⟩
  reread signal controller _ :=
    ⟨rfl, Host.empty_readFor controller.host controller.session? signal controller.conditions⟩
  refresh _ _ := ⟨rfl, rfl⟩

theorem lookAtQueues_idles : Obeys idling lookAtQueues := fun _ => ⟨rfl, rfl⟩

theorem refresh_idles : Obeys idling refresh := fun _ => ⟨rfl, rfl⟩

theorem empty_stopObserving (controller : Controller) :
    (stopObserving.run controller).state.conditions.empty = controller.conditions.empty := by
  rw [stopObserving, run_bind, run_get]
  cases controller.observation <;> rfl

theorem isObserving_ensureObserving (controller : Controller) :
    (ensureObserving.run controller).state.isObserving = true := by
  rw [ensureObserving, run_bind, run_get]
  cases observing : controller.observation with
  | none => rfl
  | some observation => simp [isObserving, observing]

theorem isObserving_startObserving (controller : Controller) :
    (startObserving.run controller).state.isObserving = true := by
  rw [startObserving, run_bind, (refresh_idles _).1]
  exact isObserving_ensureObserving controller

theorem isObserving_stopObserving (controller : Controller) :
    (stopObserving.run controller).state.isObserving = false := by
  rw [stopObserving, run_bind, run_get]
  cases observing : controller.observation with
  | none => simp [isObserving, observing]
  | some observation => rfl

theorem isObserving_discard (controller : Controller) :
    (discard.run controller).state.isObserving = false := by
  rw [discard, run_bind, run_get]
  cases observing : controller.observation with
  | none => simp [isObserving, observing]
  | some observation => rfl

/-! ## One operation -/

/-- Observing afterwards is right if there is work and either there was none before or
observing went on. -/
def ObservesRightly (before after : Controller) : Prop :=
  after.isObserving = true ↔ after.conditions.allEmpty = false ∧
    (before.conditions.allEmpty = true ∨ before.isObserving = true)

def WorkWhileObserving (controller : Controller) : Prop :=
  controller.isObserving = true → controller.conditions.allEmpty = false

theorem allEmpty_congr {left right : Conditions} (same : left.empty = right.empty) :
    left.allEmpty = right.allEmpty := by
  simp only [Conditions.allEmpty, same]

private theorem ObservesRightly.of_idling {before after : Controller} {record : List Effect}
    (work : WorkWhileObserving before) (idles : idling.holds before record after) :
    ObservesRightly before after := by
  have sameWork := allEmpty_congr idles.2
  rw [ObservesRightly, idles.1, sameWork]
  constructor
  · intro observing
    exact ⟨work observing, .inr observing⟩
  · rintro ⟨someWork, wasEmpty | observing⟩
    · rw [someWork] at wasEmpty
      cases wasEmpty
    · exact observing

theorem allEmpty_probe (conditions : Conditions) (probe : QueueProbe) :
    Conditions.allEmpty
        { conditions with empty := ⟨some probe.empty.upload, some probe.empty.download⟩ } =
      probe.allEmpty := by
  simp [Conditions.allEmpty, QueueProbe.allEmpty, Queue.all, PerQueue.get]

theorem isObserving_followWork {controller : Controller} (work : WorkWhileObserving controller)
    (isEmpty : Bool) :
    ((followWork isEmpty).run controller).state.isObserving = true ↔
      isEmpty = false ∧
        (controller.conditions.allEmpty = true ∨ controller.isObserving = true) := by
  rw [followWork, run_bind, run_get]
  cases isEmpty <;> cases recorded : controller.conditions.allEmpty
  · simp
  · simp [isObserving_startObserving]
  · simp [isObserving_stopObserving]
  · have notObserving : controller.isObserving ≠ true := fun observing => by
      have someWork := work observing
      rw [recorded] at someWork
      cases someWork
    simp [notObserving]

private theorem observeIfNeeded_right {controller : Controller}
    (work : WorkWhileObserving controller) :
    ObservesRightly controller (observeIfNeeded.run controller).state := by
  rw [observeIfNeeded, run_bind]
  generalize looked : lookAtQueues.run controller = outcome
  have idles := lookAtQueues_idles controller
  rw [looked] at idles
  have lookedWork : WorkWhileObserving outcome.state := by
    rw [WorkWhileObserving, idles.1, allEmpty_congr idles.2]
    exact work
  have followed := isObserving_followWork lookedWork outcome.value.allEmpty
  rw [idles.1, allEmpty_congr idles.2] at followed
  simp only [ObservesRightly, run_bind, run_revise, run_pure, allEmpty_probe]
  exact followed

theorem allEmpty_setEmpty {conditions : Conditions} {queue : Queue}
    (someWork : (conditions.setEmpty queue true).allEmpty = false) :
    conditions.allEmpty = false := by
  revert someWork
  cases queue <;>
    simp +contextual [Conditions.allEmpty, Conditions.setEmpty, Queue.all, PerQueue.get,
      PerQueue.set]

theorem emptied_right (controller : Controller) (queue : Queue) :
    ObservesRightly controller ((emptied queue).run controller).state := by
  simp only [emptied, stopIfAllEmpty, run_bind, run_revise, run_get, ObservesRightly]
  cases left : (controller.conditions.setEmpty queue true).allEmpty with
  | true =>
      have stopped := isObserving_stopObserving
        { controller with conditions := controller.conditions.setEmpty queue true }
      have stillEmpty := allEmpty_congr (empty_stopObserving
        { controller with conditions := controller.conditions.setEmpty queue true })
      simp [left, stopped, stillEmpty]
  | false =>
      have someWork := allEmpty_setEmpty left
      simp [left, someWork, isObserving]

/-- Every operation that does not give up observing leaves the controller observing
rightly. -/
theorem perform_right {controller : Controller} (work : WorkWhileObserving controller)
    {operation : Operation} (goesOn : operation.givesUp = false) :
    ObservesRightly controller (operation.perform.run controller).state := by
  rcases operation.cases_of_decides with idle | ⟨queue, rfl⟩ | ⟨queue, rfl⟩ | rfl | rfl
  · exact .of_idling work (idling_stages.operation idle controller)
  · exact observeIfNeeded_right work
  · exact emptied_right controller queue
  · cases goesOn
  · cases goesOn

/-! ## Runs -/

def WorkAppears (controller : Controller) (operations : List Operation)
    (operation : Operation) : Prop :=
  (controller.following operations).conditions.allEmpty = true ∧
    (controller.following (operations ++ [operation])).conditions.allEmpty = false

/-- Observing was given up, and no work has appeared since. -/
def GivenUp (controller : Controller) (operations : List Operation) : Prop :=
  ∃ before operation after, operations = before ++ operation :: after ∧
    operation.givesUp = true ∧
    ∀ earlier next later, after = earlier ++ next :: later →
      ¬controller.WorkAppears (before ++ operation :: earlier) next

theorem following_concat (controller : Controller) (operations : List Operation)
    (operation : Operation) :
    controller.following (operations ++ [operation]) =
      (operation.perform.run (controller.following operations)).state := by
  rw [following_append]
  rfl

private theorem givenUp_concat (controller : Controller) (operations : List Operation)
    (last : Operation) :
    controller.GivenUp (operations ++ [last]) ↔
      last.givesUp = true ∨
        (controller.GivenUp operations ∧ ¬controller.WorkAppears operations last) := by
  constructor
  · rintro ⟨before, operation, after, split, givesUp, noWork⟩
    rcases List.eq_nil_or_concat after with rfl | ⟨rest, final, rfl⟩
    · rcases List.append_singleton_inj.mp split with ⟨-, rfl⟩
      exact .inl givesUp
    · rw [List.concat_eq_append] at split noWork
      rw [← List.cons_append, ← List.append_assoc] at split
      rcases List.append_singleton_inj.mp split with ⟨rfl, rfl⟩
      refine .inr ⟨⟨before, operation, rest, rfl, givesUp, ?_⟩, noWork rest last [] rfl⟩
      intro earlier next later restSplit
      apply noWork earlier next (later ++ [last])
      rw [restSplit, List.append_assoc, List.cons_append]
  · rintro (givesUp | ⟨⟨before, operation, after, rfl, givesUp, noWork⟩, notNow⟩)
    · exact ⟨operations, last, [], rfl, givesUp, fun earlier next later split => by
        simp at split⟩
    · refine ⟨before, operation, after ++ [last], by simp, givesUp, ?_⟩
      intro earlier next later split
      rcases List.eq_nil_or_concat later with rfl | ⟨rest, final, rfl⟩
      · rcases List.append_singleton_inj.mp split with ⟨rfl, rfl⟩
        exact notNow
      · rw [List.concat_eq_append, ← List.cons_append, ← List.append_assoc] at split
        rcases List.append_singleton_inj.mp split with ⟨rfl, -⟩
        exact noWork earlier next rest rfl

private theorem isObserving_of_givesUp (controller : Controller) {operation : Operation}
    (givesUp : operation.givesUp = true) :
    (operation.perform.run controller).state.isObserving = false := by
  cases operation with
  | shutDown => exact isObserving_stopObserving controller
  | discard => exact isObserving_discard controller
  | _ => cases givesUp

/-- A controller that begins without work and without observing observes exactly if work is
recorded and observing was not given up since the work appeared. -/
theorem isObserving_following {controller : Controller}
    (resting : controller.isObserving = false) (noWork : controller.conditions.allEmpty = true)
    (operations : List Operation) :
    (controller.following operations).isObserving = true ↔
      (controller.following operations).conditions.allEmpty = false ∧
        ¬controller.GivenUp operations := by
  induction operations using List.reverseRecOn with
  | nil => simp [following, resting, noWork]
  | append_singleton operations last induction =>
      rw [givenUp_concat, following_concat]
      cases givesUp : last.givesUp with
      | true => simp [isObserving_of_givesUp (controller.following operations) givesUp]
      | false =>
          have work : WorkWhileObserving (controller.following operations) :=
            fun observing => (induction.mp observing).1
          have right := perform_right work givesUp
          rw [ObservesRightly] at right
          rw [right, induction, WorkAppears, following_concat]
          cases (controller.following operations).conditions.allEmpty <;> simp +contextual

def HasWork (controller : Controller) : Prop :=
  ∃ queue, controller.conditions.empty.get queue = some false

theorem hasWork_iff (controller : Controller) :
    controller.HasWork ↔ controller.conditions.allEmpty = false := by
  have known (empty : Option Bool) : empty = some false ↔ empty.getD true = false := by
    cases empty with
    | none => simp
    | some isEmpty => cases isEmpty <;> simp
  simp only [HasWork, Conditions.allEmpty, known, Queue.all, List.all_cons, List.all_nil]
  constructor
  · rintro ⟨queue, work⟩
    cases queue <;> simp [work]
  · intro someWork
    cases upload : (controller.conditions.empty.get .upload).getD true with
    | false => exact ⟨.upload, upload⟩
    | true => exact ⟨.download, by simpa [upload] using someWork⟩

def ObservesWork (controller : Controller) : Prop :=
  controller.isObserving = true ↔ controller.HasWork

theorem ObservesWork.perform {controller : Controller} (observes : controller.ObservesWork)
    {operation : Operation} (goesOn : operation.givesUp = false) :
    (operation.perform.run controller).state.ObservesWork := by
  rw [ObservesWork, hasWork_iff] at observes
  have right := perform_right observes.mp goesOn
  rw [ObservesRightly, observes] at right
  rw [ObservesWork, hasWork_iff, right]
  cases controller.conditions.allEmpty <;> simp

def observingWork : Law Controller where
  holds before _ after := before.ObservesWork → after.ObservesWork
  idle _ observes := observes
  join first second observes := second (first observes)

theorem observingWork_obeys {operation : Operation} (goesOn : operation.givesUp = false) :
    Obeys observingWork operation.perform :=
  fun _ observes => observes.perform goesOn

theorem ObservesWork.following {controller : Controller} (observes : controller.ObservesWork)
    {operations : List Operation} (goOn : ∀ operation ∈ operations, operation.givesUp = false) :
    (controller.following operations).ObservesWork :=
  performAll_obeys (fun operation member => observingWork_obeys (goOn operation member))
    controller observes

theorem create_noWork (host : Host) : (create.run host).value.conditions.allEmpty = true := rfl

theorem create_resting (host : Host) : (create.run host).value.isObserving = false := rfl

theorem observesWork_create (host : Host) : (create.run host).value.ObservesWork := by
  rw [ObservesWork, hasWork_iff, create_noWork, create_resting]
  simp

end Controller

namespace Gate

open Controller

private theorem goesOn_of_phaseAfter {gate : Gate} {move : Move}
    (goesOn : move.phaseAfter gate ≠ .stopped) :
    ∀ operation ∈ move.operations gate, operation.givesUp = false := by
  cases move with
  | abandon => exact absurd rfl goesOn
  | turn choice =>
      cases choice with
      | server =>
          cases found : gate.serverTask? with
          | none => simp [Move.operations, found]
          | some task =>
              cases task with
              | stop => simp [Move.phaseAfter, found] at goesOn
              | start => simp [Move.operations, found, ServerTask.operations, Operation.givesUp]
              | serve request rest =>
                  simp [Move.operations, found, ServerTask.operations, Operation.givesUp]
              | lifecycle receipt bus =>
                  cases receipt with
                  | lagged missed =>
                      simp [Move.operations, found, ServerTask.operations, Operation.givesUp]
                  | event event =>
                      simp only [Move.operations, found, ServerTask.operations, Option.map_some,
                        Option.getD_some]
                      split <;> simp [Operation.givesUp]
              | observed receipt bus =>
                  cases receipt with
                  | lagged missed =>
                      simp [Move.operations, found, ServerTask.operations, Operation.givesUp]
                  | event event =>
                      simp [Move.operations, found, ServerTask.operations, Operation.givesUp]
      | _ => simp [Move.operations]
  | _ => simp [Move.operations, Operation.givesUp]

theorem Ignores.follow {law : Law Controller} (ignores : Ignores law)
    (obeyed : ∀ operation : Operation, operation.givesUp = false →
      Activity.Obeys law operation.perform)
    {gate : Gate} {log : List Event} (sound : gate.Sound log) (moves : List Move)
    (running : (gate.following moves).server ≠ .stopped) :
    law.holds gate.controller (gate.recordOf moves) (gate.following moves).controller := by
  induction moves using List.reverseRecOn with
  | nil => exact law.idle _
  | append_singleton moves move induction =>
      rcases sound.follow moves with ⟨more, soundBefore⟩
      rw [following_concat, server_perform] at running
      have wasRunning : (gate.following moves).server ≠ .stopped := fun stopped =>
        running (phaseAfter_of_stopped stopped move)
      have goesOn := goesOn_of_phaseAfter running
      rw [following_concat, recordOf_concat]
      exact law.join (induction wasRunning) (ignores.perform soundBefore
        (performAll_obeys fun operation member => obeyed operation (goesOn operation member)))

theorem observingWork_ignores : Ignores observingWork where
  foreign _ _ _ := id
  signal _ _ := id

end Gate

open Controller

/-- A controller observes exactly if it has recorded work and has not given up observing since
the work appeared; so it observes exactly if there is work in runs without giving up, and in a
gate as long as the server has not stopped. -/
theorem isObserving_iff_hasWork :
    (∀ (host : Host) (operations : List Operation),
      let created := (create.run host).value
      ((created.following operations).isObserving = true ↔
        (created.following operations).conditions.allEmpty = false ∧
          ¬created.GivenUp operations) ∧
      ((∀ operation ∈ operations, operation.givesUp = false) →
        (created.following operations).ObservesWork)) ∧
    ∀ (settings : Settings) (host : Host) (subscribers : List Subscriber) (attached : Bool)
      (built : Outcome Gate Unit) (moves : List Gate.Move),
      Gate.build settings host subscribers attached = .ok built →
      (built.state.following moves).server ≠ .stopped →
      (built.state.following moves).controller.ObservesWork := by
  refine ⟨fun host operations => ⟨?_, ?_⟩, ?_⟩
  · exact isObserving_following (create_resting host) (create_noWork host) operations
  · exact fun goOn => (observesWork_create host).following goOn
  · intro settings host subscribers attached built moves succeeds running
    have fresh := Gate.fresh_of_build succeeds
    refine Gate.observingWork_ignores.follow (fun _ => observingWork_obeys) fresh.sound moves
      running ?_
    rw [fresh.controller]
    exact observesWork_create host

/-- A gate that is asked to look at its queues finds work and observes. -/
theorem isObserving_iff_hasWork_of_busy :
    ∃ built, Gate.build {} (.create {} .calm true) [] false = .ok built ∧
      let gate := built.state.following [.send (.begin .upload), .turn .server, .turn .server]
      gate.server ≠ .stopped ∧ gate.controller.isObserving = true ∧
        gate.controller.ObservesWork :=
  ⟨_, rfl, by decide, rfl, isObserving_iff_hasWork.2 {} _ [] false _ _ rfl (by decide)⟩

end TransferGate
