import Mathlib.Data.List.Forall2
import TransferGate.Proofs.Agreement
import TransferGate.Proofs.GateRun

/-! # Queues do not get in each other's way

Two runs differ in nothing that matters to a queue if they consist of the same operations,
up to some that the queue is spared of, and if the hosts differ only in what does not
matter to it. Then the queue has the same history in both.

An operation that is in one of the runs only may ask the host something. So it is no use
to compare scripts of answers: each operation comes with the sources as they are at that
time, and the same operation finds sources in both runs that look the same to the queue.
-/

namespace TransferGate

namespace Controller

open Activity

variable {queue : Queue}

/-- The operation concerns the other queue only. -/
def Operation.spares : Operation → Queue → Bool
  | .serve .retry, .upload => true
  | .serve .outOfSpace, .upload => true
  | .serve .refreshSpace, .upload => true
  | .jobFailed _ _, .upload => true
  | .jobFailed which _, .download => which == .upload
  | .freeSpaceChanged, .upload => true
  | .receive kind, .upload =>
      kind == .signal .willEnterForeground || kind == .signal .downloadSuspensionChanged
  | .receive kind, .download => kind == .signal .cellularPreferenceChanged
  | _, _ => false

def supplied (controller : Controller) (sources : Sources) : Controller :=
  { controller with host := { controller.host with sources := sources } }

/-- Whatever the sources are, the controllers look the same to the queue. -/
def Resembles (queue : Queue) (left right : Controller) : Prop :=
  ∀ sources, (left.supplied sources).seenBy queue = (right.supplied sources).seenBy queue

private theorem resembles_of_seenBy {left right : Controller}
    (same : left.seenBy queue = right.seenBy queue) : Resembles queue left right := by
  intro sources
  rcases seenBy_eq_iff.mp same with ⟨conditions, observation, host⟩
  rcases Host.seenBy_eq_iff.mp host with ⟨-, others⟩
  exact seenBy_eq_iff.mpr ⟨conditions, observation, Host.seenBy_eq_iff.mpr ⟨rfl, others⟩⟩

theorem Resembles.seenBy {left right : Controller} (resembles : Resembles queue left right)
    {leftSources rightSources : Sources}
    (same : leftSources.seenBy queue = rightSources.seenBy queue) :
    (left.supplied leftSources).seenBy queue = (right.supplied rightSources).seenBy queue := by
  rcases seenBy_eq_iff.mp (resembles rightSources) with ⟨conditions, observation, host⟩
  rcases Host.seenBy_eq_iff.mp host with ⟨-, others⟩
  exact seenBy_eq_iff.mpr ⟨conditions, observation, Host.seenBy_eq_iff.mpr ⟨same, others⟩⟩

theorem Resembles.status {left right : Controller} (resembles : Resembles queue left right) :
    left.status queue = right.status queue :=
  Conditions.status_congr (seenBy_eq_iff.mp (resembles left.host.sources)).1

/-! ## Operations the queue is spared of -/

def sparing (queue : Queue) : Law Controller where
  holds before record after := Resembles queue before after ∧ seen queue record = []
  idle _ := ⟨fun _ => rfl, rfl⟩
  join := by
    rintro before between after earlier later ⟨first, firstSilent⟩ ⟨second, secondSilent⟩
    refine ⟨fun sources => (first sources).trans (second sources), ?_⟩
    rw [seen_append, firstSilent, secondSilent]
    rfl

end Controller

namespace Host

open Activity

def consuming : Law Host where
  holds before record after :=
    after = { before with sources := after.sources } ∧
      ∀ effect ∈ record, effect.isInquiry = true
  idle _ := ⟨rfl, by simp⟩
  join := by
    rintro before between after earlier later ⟨first, firstAsks⟩ ⟨second, secondAsks⟩
    refine ⟨second.trans (by rw [first]), fun effect member => ?_⟩
    rcases List.mem_append.mp member with inFirst | inSecond
    · exact firstAsks effect inFirst
    · exact secondAsks effect inSecond

theorem lookUp_consumes (lookup : Lookup) : Obeys consuming (lookUp lookup) := by
  intro host
  refine ⟨?_, (lookUp_reads lookup host).inquiries⟩
  rw [run_lookUp]

theorem downloadsSuspended_consumes : Obeys consuming downloadsSuspended :=
  downloadsSuspended_obeys (lookUp_consumes _) (lookUp_consumes _) fun host =>
    ⟨rfl, (ask_reads .closeQueues host).inquiries⟩

end Host

namespace Controller

open Activity

variable {queue : Queue}

private theorem seen_of_isInquiry {record : List Effect}
    (inquiries : ∀ effect ∈ record, effect.isInquiry = true) : seen queue record = [] := by
  rw [seen, Effect.notices_of_isInquiry inquiries]
  rfl

theorem sparing_onHost {Value : Type} {activity : Activity Host Value}
    (consumes : Obeys Host.consuming activity) : Obeys (sparing queue) (onHost activity) := by
  intro controller
  rcases consumes controller.host with ⟨same, inquiries⟩
  refine ⟨fun sources => ?_, seen_of_isInquiry inquiries⟩
  rw [supplied, supplied, run_onHost, same]

theorem sparing_revise {change : Conditions → Conditions}
    (hidden : ∀ conditions : Conditions,
      (change conditions).seenBy queue = conditions.seenBy queue) :
    Obeys (sparing queue) (revise change) := by
  intro controller
  have unseen := hidden controller.conditions
  refine ⟨fun sources => seenBy_eq_iff.mpr ⟨unseen.symm, rfl, rfl⟩, ?_⟩
  rw [run_revise]
  change seen queue (List.flatMap _ _) = []
  rw [seen_changes, if_pos (Conditions.status_congr unseen.symm)]

theorem sparing_reread {signal : Signal}
    (consumes : ∀ session, Obeys Host.consuming (Host.readFor session signal))
    (hidden : ∀ session host (conditions : Conditions),
      (((Host.readFor session signal).run host).value conditions).seenBy queue =
        conditions.seenBy queue) : Obeys (sparing queue) (reread signal) :=
  fun controller => update_holds (sparing_onHost (consumes _) controller)
    (sparing_revise (hidden _ _))

theorem sparing_rereadIfObserving {signal : Signal}
    (spares : Obeys (sparing queue) (reread signal)) :
    Obeys (sparing queue) (rereadIfObserving signal) := by
  apply Obeys.get.bind
  intro controller
  cases controller.isObserving with
  | true => exact spares
  | false => exact .pure _

theorem sparing_freeSpaceChanged : Obeys (sparing .upload) (reread .willEnterForeground) :=
  sparing_reread (fun _ => (Host.lookUp_consumes _).bind fun _ => .pure _) fun _ _ _ => rfl

theorem sparing_suspension : Obeys (sparing .upload) (reread .downloadSuspensionChanged) :=
  sparing_reread (fun _ => Host.downloadsSuspended_consumes.bind fun _ => .pure _) fun _ _ _ => rfl

theorem sparing_cellular : Obeys (sparing .download) (reread .cellularPreferenceChanged) :=
  sparing_reread (fun _ => (Host.lookUp_consumes _).bind fun _ => .pure _) fun _ _ _ => rfl

theorem sparing_recordOutOfSpace (ranOut : Bool) :
    Obeys (sparing .upload) (recordOutOfSpace ranOut) := by
  apply Obeys.bind
  · apply sparing_revise
    exact fun _ => rfl
  · exact fun _ => .pure _

theorem sparing_outOfSpace : Obeys (sparing .upload) outOfSpace :=
  (sparing_recordOutOfSpace true).bind fun _ => currentStatus_obeys .download

theorem sparing_jobFailed (which : Queue) (failure : Failure)
    (spared : (Operation.jobFailed which failure).spares queue = true) :
    Obeys (sparing queue) (jobFailed which failure) := by
  rcases jobFailed_cases which failure with nothing | ⟨rfl, ranOut⟩
  · rw [nothing]
    exact .pure _
  · rw [ranOut]
    cases queue with
    | upload => exact sparing_outOfSpace.map _
    | download => cases spared

theorem sparing_receive {kind : EventKind}
    (spared : (Operation.receive kind).spares queue = true) :
    Obeys (sparing queue) (receive kind) := by
  cases queue with
  | upload =>
      simp only [Operation.spares, Bool.or_eq_true, beq_iff_eq] at spared
      rcases spared with rfl | rfl
      · exact sparing_rereadIfObserving sparing_freeSpaceChanged
      · exact sparing_rereadIfObserving sparing_suspension
  | download =>
      simp only [Operation.spares, beq_iff_eq] at spared
      subst spared
      exact sparing_rereadIfObserving sparing_cellular

theorem sparing_operation {operation : Operation} (spared : operation.spares queue = true) :
    Obeys (sparing queue) operation.perform := by
  cases operation with
  | jobFailed which failure => exact (sparing_jobFailed which failure spared).map _
  | receive kind => exact (sparing_receive spared).map _
  | freeSpaceChanged =>
      cases queue with
      | upload => exact sparing_freeSpaceChanged.map _
      | download => cases spared
  | serve request =>
      cases queue with
      | download => cases request <;> cases spared
      | upload =>
          cases request with
          | retry =>
              exact ((sparing_freeSpaceChanged.bind fun _ => sparing_recordOutOfSpace false).bind
                fun _ => .pure _).map _
          | outOfSpace => exact (sparing_outOfSpace.map _).map _
          | refreshSpace =>
              exact ((sparing_freeSpaceChanged.bind fun _ =>
                currentStatus_obeys .download).map _).map _
          | _ => cases spared
  | _ => cases queue <;> cases spared

/-! ## Two runs -/

/-- A step of two runs: an operation in both of them, or one in either that the queue is spared
of. With it come the sources as they are at that time. -/
inductive Pair (queue : Queue) where
  | both (operation : Operation) (leftSources rightSources : Sources)
      (same : leftSources.seenBy queue = rightSources.seenBy queue)
  | left (operation : Operation) (sources : Sources) (spared : operation.spares queue = true)
  | right (operation : Operation) (sources : Sources) (spared : operation.spares queue = true)

namespace Pair

def leftRun : Pair queue → List Operation
  | .both operation sources _ _ => [.replaceSources fun _ => sources, operation]
  | .left operation sources _ => [.replaceSources fun _ => sources, operation]
  | .right _ _ _ => []

def rightRun : Pair queue → List Operation
  | .both operation _ sources _ => [.replaceSources fun _ => sources, operation]
  | .left _ _ _ => []
  | .right operation sources _ => [.replaceSources fun _ => sources, operation]

end Pair

private theorem following_supplied (controller : Controller) (sources : Sources)
    (operation : Operation) :
    controller.following [.replaceSources fun _ => sources, operation] =
      (operation.perform.run (controller.supplied sources)).state :=
  rfl

private theorem seen_supplied (controller : Controller) (sources : Sources)
    (operation : Operation) :
    seen queue (controller.recordOf [.replaceSources fun _ => sources, operation]) =
      seen queue (operation.perform.run (controller.supplied sources)).effects := by
  have record : controller.recordOf [.replaceSources fun _ => sources, operation] =
      .replaced sources :: ((operation.perform.run (controller.supplied sources)).effects ++ []) :=
    rfl
  rw [record, List.append_nil]
  rfl

private theorem resembles_spared {operation : Operation} (spared : operation.spares queue = true)
    (controller : Controller) (sources : Sources) :
    Resembles queue controller
        (controller.following [.replaceSources fun _ => sources, operation]) ∧
      seen queue (controller.recordOf [.replaceSources fun _ => sources, operation]) = [] := by
  rcases sparing_operation spared (controller.supplied sources) with ⟨resembles, silent⟩
  exact ⟨resembles, (seen_supplied controller sources operation).trans silent⟩

theorem Resembles.both {left right : Controller} (resembles : Resembles queue left right)
    (operation : Operation) {leftSources rightSources : Sources}
    (same : leftSources.seenBy queue = rightSources.seenBy queue) :
    Resembles queue (operation.perform.run (left.supplied leftSources)).state
        (operation.perform.run (right.supplied rightSources)).state ∧
      seen queue (operation.perform.run (left.supplied leftSources)).effects =
        seen queue (operation.perform.run (right.supplied rightSources)).effects := by
  by_cases fixed : ∀ change, operation ≠ .replaceSources change
  · rcases perform_alike (.same operation fixed) _ _ (resembles.seenBy same) with ⟨after, told, -⟩
    exact ⟨resembles_of_seenBy after, told⟩
  · -- The sources are replaced, and nothing else is.
    simp only [ne_eq, not_forall, not_not] at fixed
    rcases fixed with ⟨change, rfl⟩
    exact ⟨resembles, rfl⟩

theorem Resembles.step {left right : Controller} (resembles : Resembles queue left right)
    (pair : Pair queue) :
    Resembles queue (left.following pair.leftRun) (right.following pair.rightRun) ∧
      seen queue (left.recordOf pair.leftRun) = seen queue (right.recordOf pair.rightRun) := by
  cases pair with
  | both operation leftSources rightSources same =>
      rw [Pair.leftRun, Pair.rightRun, following_supplied, following_supplied, seen_supplied,
        seen_supplied]
      exact resembles.both operation same
  | left operation sources spared =>
      rcases resembles_spared spared left sources with ⟨unchanged, silent⟩
      exact ⟨fun sources => (unchanged sources).symm.trans (resembles sources), silent⟩
  | right operation sources spared =>
      rcases resembles_spared spared right sources with ⟨unchanged, silent⟩
      exact ⟨fun sources => (resembles sources).trans (unchanged sources), silent.symm⟩

theorem Resembles.run {left right : Controller} (resembles : Resembles queue left right)
    (pairs : List (Pair queue)) :
    Resembles queue (left.following (pairs.flatMap Pair.leftRun))
        (right.following (pairs.flatMap Pair.rightRun)) ∧
      seen queue (left.recordOf (pairs.flatMap Pair.leftRun)) =
        seen queue (right.recordOf (pairs.flatMap Pair.rightRun)) := by
  induction pairs generalizing left right with
  | nil => exact ⟨resembles, rfl⟩
  | cons pair rest induction =>
      rcases resembles.step pair with ⟨between, firstSeen⟩
      rcases induction between with ⟨after, restSeen⟩
      rw [List.flatMap_cons, List.flatMap_cons, following_append, following_append,
        recordOf_append, recordOf_append, seen_append, seen_append, firstSeen, restSeen]
      exact ⟨after, rfl⟩

theorem alike_run {left right : Controller} (same : left.seenBy queue = right.seenBy queue)
    {leftOperations rightOperations : List Operation}
    (alike : List.Forall₂ (Operation.Alike queue) leftOperations rightOperations) :
    (left.following leftOperations).seenBy queue = (right.following rightOperations).seenBy queue ∧
      seen queue (left.recordOf leftOperations) = seen queue (right.recordOf rightOperations) := by
  have agrees : Agrees queue (fun _ _ => True) (performAll leftOperations)
      (performAll rightOperations) := by
    induction alike with
    | nil => exact .pure trivial
    | cons first rest induction => exact (perform_alike first).bind fun _ _ _ => induction
  rcases agrees left right same with ⟨after, told, -⟩
  exact ⟨after, told⟩

theorem create_agrees : Host.Agrees queue (fun left right : Controller =>
    left.seenBy queue = right.seenBy queue) create create := by
  apply (Host.ask_agrees_visibly (by cases queue <;> rfl)).bind
  rintro primary _ rfl
  apply Agree.get.bind
  intro left right same
  exact .pure (seenBy_eq_iff.mpr ⟨rfl, rfl, same⟩)

end Controller

open Controller

/-- What does not matter to a queue never shows in what is announced about it and about observing,
nor in its status. This holds of runs that differ by operations the queue is spared of, if at
every other operation the sources look the same to the queue; and of runs with the same
operations, if the sources look the same to it all the time. -/
theorem unseen_never_leaks (queue : Queue) (settings : Settings) (hasBattery : Bool)
    (left right : Sources) (same : left.seenBy queue = right.seenBy queue) :
    let leftBuilt := (create.run (.create settings left hasBattery)).value
    let rightBuilt := (create.run (.create settings right hasBattery)).value
    (∀ pairs : List (Pair queue),
      seen queue (leftBuilt.recordOf (pairs.flatMap Pair.leftRun)) =
          seen queue (rightBuilt.recordOf (pairs.flatMap Pair.rightRun)) ∧
        ∀ ahead behind, pairs = ahead ++ behind →
          (leftBuilt.following (ahead.flatMap Pair.leftRun)).status queue =
            (rightBuilt.following (ahead.flatMap Pair.rightRun)).status queue) ∧
      ∀ leftOperations rightOperations,
        List.Forall₂ (Operation.Alike queue) leftOperations rightOperations →
        seen queue (leftBuilt.recordOf leftOperations) =
            seen queue (rightBuilt.recordOf rightOperations) ∧
          (leftBuilt.following leftOperations).status queue =
            (rightBuilt.following rightOperations).status queue := by
  intro leftBuilt rightBuilt
  have hosts : (Host.create settings left hasBattery).seenBy queue =
      (Host.create settings right hasBattery).seenBy queue :=
    Host.seenBy_eq_iff.mpr ⟨same, rfl, rfl, rfl, rfl⟩
  have built : leftBuilt.seenBy queue = rightBuilt.seenBy queue :=
    (create_agrees _ _ hosts).2.2
  refine ⟨fun pairs => ⟨((resembles_of_seenBy built).run pairs).2, ?_⟩, ?_⟩
  · intro ahead behind _
    exact ((resembles_of_seenBy built).run ahead).1.status
  · intro leftOperations rightOperations alike
    rcases alike_run built alike with ⟨after, told⟩
    exact ⟨told, Conditions.status_congr (seenBy_eq_iff.mp after).1⟩

/-- Uploads run although there is no space for downloads and one of them has run out of it. -/
theorem unseen_never_leaks_of_full : ∃ (full : Sources) (pairs : List (Pair .upload)),
    full.freeSpace.current.toOption = some 0 ∧
      Sources.calm.seenBy .upload = full.seenBy .upload ∧
      seen .upload ((create.run (.create {} .calm true)).value.recordOf
          (pairs.flatMap Pair.leftRun)) =
        seen .upload ((create.run (.create {} full true)).value.recordOf
          (pairs.flatMap Pair.rightRun)) :=
  let full := { Sources.calm with freeSpace := .always (.ok 0) }
  ⟨full, [.right (.serve .outOfSpace) full rfl, .both (.serve (.begin .upload)) .calm full rfl],
    rfl, rfl, ((unseen_never_leaks .upload {} true .calm full rfl).1 _).1⟩

end TransferGate
