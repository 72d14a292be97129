import TransferGate.Proofs.Chronicle

/-! # The record of a shortage

That a download ran out of space stays recorded until somebody asks for a retry,
whatever else happens to the conditions: only reports of a shortage and retries touch
that record.
-/

namespace TransferGate

/-! ## What is outstanding -/

/-- Something in the list raises a matter, and nothing after that clears it. -/
def Outstanding {Item : Type} (raises clears : Item → Bool) (items : List Item) : Prop :=
  ∃ before item after, items = before ++ item :: after ∧ raises item = true ∧
    ∀ later ∈ after, clears later = false

section

variable {Item : Type} {raises clears : Item → Bool}

theorem not_outstanding_nil : ¬Outstanding raises clears [] := by
  rintro ⟨before, item, after, impossible, -⟩
  simp at impossible

theorem outstanding_concat_iff {items : List Item} {item : Item} :
    Outstanding raises clears (items ++ [item]) ↔
      raises item = true ∨ clears item = false ∧ Outstanding raises clears items := by
  constructor
  · rintro ⟨before, raised, after, split, raising, uncleared⟩
    rcases List.eq_nil_or_concat after with rfl | ⟨others, last, rfl⟩
    · rcases List.append_inj' split rfl with ⟨-, same⟩
      cases same
      exact .inl raising
    · rw [List.concat_eq_append] at split uncleared
      have regrouped : items ++ [item] = (before ++ raised :: others) ++ [last] := by
        rw [split, List.append_assoc, List.cons_append]
      rcases List.append_inj' regrouped rfl with ⟨same, sameLast⟩
      cases sameLast
      refine .inr ⟨uncleared item (by simp), before, raised, others, same, raising, ?_⟩
      exact fun later member => uncleared later (List.mem_append_left _ member)
  · rintro (raising | ⟨goesOn, before, raised, after, rfl, raising, uncleared⟩)
    · exact ⟨items, item, [], rfl, raising, by simp⟩
    · refine ⟨before, raised, after ++ [item], by simp, raising, fun later member => ?_⟩
      rcases List.mem_append.mp member with earlier | isLast
      · exact uncleared later earlier
      · rw [List.mem_singleton.mp isLast]
        exact goesOn

end

namespace Conditions

/-- The rule that applies to downloads before space is looked at, if one of them does. -/
def downloadObstacle? (conditions : Conditions) : Option Status :=
  if conditions.knownEmpty .download then some .empty
  else if conditions.unprepared then some .notReady
  else if conditions.suspends .download then some .suspended
  else none

theorem status_of_lacksSpace {conditions : Conditions}
    (lacking : conditions.lacksSpace .download = true) :
    conditions.status .download = conditions.downloadObstacle?.getD .lowDiskSpace := by
  simp only [status, downloadObstacle?, lacking, if_true]
  cases conditions.knownEmpty .download <;> cases conditions.unprepared <;>
    cases conditions.suspends .download <;> rfl

theorem status_of_shortage {conditions : Conditions} (short : conditions.ranOutOfSpace = true) :
    conditions.status .download = conditions.downloadObstacle?.getD .lowDiskSpace :=
  status_of_lacksSpace (by simp [lacksSpace, short])

theorem held_back_of_shortage {conditions : Conditions} (short : conditions.ranOutOfSpace = true) :
    conditions.status .download ∈ [.empty, .notReady, .suspended, .lowDiskSpace] := by
  rw [status_of_shortage short, downloadObstacle?]
  cases conditions.knownEmpty .download <;> cases conditions.unprepared <;>
    cases conditions.suspends .download <;> decide

private theorem afterAll_cases (conditions : Conditions) (record : List Effect) :
    conditions.afterAll record = conditions ∨ .revised (conditions.afterAll record) ∈ record := by
  induction record using List.reverseRecOn with
  | nil => exact .inl rfl
  | append_singleton record last induction =>
      rw [afterAll_append]
      cases last with
      | revised after => exact .inr (List.mem_append_right _ (List.mem_singleton_self _))
      | _ => exact induction.imp_right (List.mem_append_left _)

end Conditions

namespace Controller

open Activity

namespace Operation

def reportsShortage : Operation → Bool
  | .serve .outOfSpace => true
  | .jobFailed .download failure => failure.isOutOfSpace
  | _ => false

def retries : Operation → Bool
  | .serve .retry => true
  | _ => false

def shortage (operation : Operation) (before : Bool) : Bool :=
  operation.reportsShortage || !operation.retries && before

end Operation

/-! ## What does not touch the record -/

def keepingShortage : Law Controller where
  holds before record after :=
    after.conditions.ranOutOfSpace = before.conditions.ranOutOfSpace ∧
      ∀ conditions, .revised conditions ∈ record →
        conditions.ranOutOfSpace = before.conditions.ranOutOfSpace
  idle _ := ⟨rfl, by simp⟩
  join := by
    rintro before between after earlier later ⟨first, firstKeeps⟩ ⟨second, secondKeeps⟩
    refine ⟨second.trans first, fun conditions member => ?_⟩
    rcases List.mem_append.mp member with inFirst | inSecond
    · exact firstKeeps conditions inFirst
    · exact (secondKeeps conditions inSecond).trans first

private theorem keepsShortage_of_silent {before after : Controller} {record : List Effect}
    (same : after.conditions = before.conditions)
    (silent : ∀ conditions, .revised conditions ∉ record) :
    keepingShortage.holds before record after :=
  ⟨by rw [same], fun conditions member => absurd member (silent conditions)⟩

theorem keepsShortage_onHost {Value : Type} {activity : Activity Host Value}
    (reads : Obeys Host.reading activity) : Obeys keepingShortage (onHost activity) := by
  refine fun controller => keepsShortage_of_silent rfl fun conditions member => ?_
  cases (reads controller.host).inquiries _ member

theorem keepsShortage_emit {effect : Effect} (other : ∀ conditions, .revised conditions ≠ effect) :
    Obeys keepingShortage (Activity.emit effect) :=
  .emit fun _ => keepsShortage_of_silent rfl fun conditions member =>
    other conditions (List.mem_singleton.mp member)

private theorem notMem_changeEffects (conditions : Conditions)
    (changes : List Conditions.StatusChange) :
    .revised conditions ∉ changes.flatMap changeEffects := by
  intro member
  rcases mem_changeEffects member with ⟨line, impossible⟩ | ⟨queue, status, impossible⟩ <;>
    cases impossible

theorem keepsShortage_revise {change : Conditions → Conditions}
    (keeps : ∀ conditions : Conditions,
      (change conditions).ranOutOfSpace = conditions.ranOutOfSpace) :
    Obeys keepingShortage (revise change) := by
  refine fun controller => ⟨keeps _, fun conditions member => ?_⟩
  rcases List.mem_cons.mp member with same | announced
  · cases same
    exact keeps _
  · exact absurd announced (notMem_changeEffects _ _)

theorem keepsShortage_update {reading : Option Nat → Activity Host (Conditions → Conditions)}
    (reads : ∀ session, Obeys Host.reading (reading session))
    (keeps : ∀ session host conditions,
      (((reading session).run host).value conditions).ranOutOfSpace = conditions.ranOutOfSpace) :
    Obeys keepingShortage (update reading) :=
  fun controller => update_holds (keepsShortage_onHost (reads _) controller)
    (keepsShortage_revise (keeps _ _))

theorem keepsShortage_reread (signal : Signal) : Obeys keepingShortage (reread signal) :=
  keepsShortage_update (fun session => Host.readFor_reads session signal) fun _ _ _ => by
    cases signal <;> rfl

theorem keepsShortage_refresh : Obeys keepingShortage refresh :=
  keepsShortage_update Host.readAll_reads fun _ _ _ => rfl

theorem keepsShortage_lookAtQueues : Obeys keepingShortage lookAtQueues :=
  (keepsShortage_onHost Host.probeQueues_reads).bind fun _ =>
    Obeys.bind (keepsShortage_revise fun _ => rfl) fun _ => .pure _

theorem keepsShortage_openObservation : Obeys keepingShortage openObservation :=
  (keepsShortage_emit (by simp)).bind fun _ =>
    (keepsShortage_onHost Host.beginBattery_reads).bind fun _ =>
      Obeys.bind (.modify fun _ => keepsShortage_of_silent rfl (by simp)) fun _ =>
        (keepsShortage_emit (by simp)).bind fun _ => keepsShortage_emit (by simp)

theorem keepsShortage_release (observation : Observation) :
    Obeys keepingShortage (release observation) :=
  Obeys.bind (.modify fun _ => keepsShortage_of_silent rfl (by simp)) fun _ =>
    (keepsShortage_onHost (Host.endBattery_reads _)).bind fun _ => keepsShortage_emit (by simp)

theorem keepsShortage_stopObserving : Obeys keepingShortage stopObserving :=
  stopObserving_obeys keepsShortage_release (keepsShortage_emit (by simp))
    (keepsShortage_emit (by simp))

theorem keepsShortage_begin (queue : Queue) : Obeys keepingShortage (begin queue) := by
  refine Obeys.bind (keepsShortage_lookAtQueues.bind fun probe => ?_) fun _ =>
    currentStatus_obeys queue
  refine Obeys.bind ?_ fun _ => Obeys.bind (keepsShortage_revise fun _ => rfl) fun _ => .pure _
  exact followWork_obeys (startObserving_obeys keepsShortage_openObservation keepsShortage_refresh)
    keepsShortage_stopObserving probe.allEmpty

theorem keepsShortage_emptied (queue : Queue) : Obeys keepingShortage (emptied queue) :=
  Obeys.bind (keepsShortage_revise fun _ => rfl) fun _ =>
    stopIfAllEmpty_obeys keepsShortage_stopObserving

theorem keepsShortage_receive (kind : EventKind) : Obeys keepingShortage (receive kind) := by
  have observed (signal : Signal) : Obeys keepingShortage (rereadIfObserving signal) := by
    apply Obeys.get.bind
    intro controller
    cases controller.isObserving
    · exact .pure _
    · exact keepsShortage_reread signal
  cases kind with
  | signal signal =>
      cases signal with
      | appReady => exact keepsShortage_reread .appReady
      | _ => exact observed _
  | _ => exact .pure _

theorem keepsShortage_recover (missed : Nat) : Obeys keepingShortage (recover missed) := by
  refine (keepsShortage_emit (by simp)).bind fun _ => Obeys.get.bind fun controller => ?_
  cases controller.isObserving
  · exact .pure _
  · exact keepsShortage_refresh

theorem keepsShortage_serve {request : Request}
    (aloof : (Operation.serve request).reportsShortage = false ∧
      (Operation.serve request).retries = false) : Obeys keepingShortage (serve request) := by
  cases request with
  | status queue => exact (currentStatus_obeys queue).map _
  | begin queue => exact (keepsShortage_begin queue).map _
  | emptied queue => exact (keepsShortage_emptied queue).bind fun _ => .pure _
  | refreshSpace =>
      exact ((keepsShortage_reread .willEnterForeground).bind fun _ =>
        currentStatus_obeys .download).map _
  | conditions => exact Obeys.get.map _
  | isObserving => exact Obeys.get.map _
  | retry => cases aloof.2
  | outOfSpace => cases aloof.1

theorem keepsShortage_jobFailed {queue : Queue} {failure : Failure}
    (aloof : (Operation.jobFailed queue failure).reportsShortage = false) :
    Obeys keepingShortage (jobFailed queue failure) := by
  cases queue with
  | upload => exact .pure _
  | download =>
      rw [jobFailed, show failure.isOutOfSpace = false from aloof]
      exact .pure _

theorem keepsShortage_operation {operation : Operation}
    (unreporting : operation.reportsShortage = false) (unretrying : operation.retries = false) :
    Obeys keepingShortage operation.perform := by
  cases operation with
  | serve request => exact (keepsShortage_serve ⟨unreporting, unretrying⟩).map _
  | jobFailed queue failure => exact (keepsShortage_jobFailed unreporting).map _
  | freeSpaceChanged => exact (keepsShortage_reread .willEnterForeground).map _
  | readinessChanged => exact (keepsShortage_reread .appReady).map _
  | receive kind => exact (keepsShortage_receive kind).map _
  | recover missed => exact (keepsShortage_recover missed).map _
  | requiredBytes => exact (keepsShortage_onHost Host.requiredBytes_reads).map _
  | lookAtSpace =>
      exact (keepsShortage_onHost Host.requiredBytes_reads).bind fun _ =>
        (keepsShortage_onHost (Host.lookUp_reads .freeSpace)).bind fun _ => .pure _
  | replaceSources change =>
      exact Obeys.map _ fun _ => keepsShortage_of_silent rfl (by simp [Host.replaceSources])
  | shutDown =>
      exact ((keepsShortage_emit (by simp)).bind fun _ => keepsShortage_stopObserving).map _
  | discard => exact (discard_obeys keepsShortage_release).map _

/-! ## Reports and retries -/

/-- In the end it is recorded whether there is a shortage as `value` says, and in between as at the
beginning or as in the end. -/
def TurnsShortage (value : Bool) (before : Controller) (record : List Effect)
    (after : Controller) : Prop :=
  after.conditions.ranOutOfSpace = value ∧ ∀ conditions, .revised conditions ∈ record →
    conditions.ranOutOfSpace = before.conditions.ranOutOfSpace ∨ conditions.ranOutOfSpace = value

private theorem turnsShortage_of_keeping {before after : Controller} {record : List Effect}
    (keeps : keepingShortage.holds before record after) :
    TurnsShortage before.conditions.ranOutOfSpace before record after :=
  ⟨keeps.1, fun conditions member => .inl (keeps.2 conditions member)⟩

theorem turnsShortage_recordOutOfSpace (ranOut : Bool) (controller : Controller) :
    TurnsShortage ranOut controller ((recordOutOfSpace ranOut).run controller).effects
      ((recordOutOfSpace ranOut).run controller).state := by
  simp only [recordOutOfSpace, run_bind, run_revise, run_pure, List.append_nil]
  refine ⟨rfl, fun conditions member => ?_⟩
  rcases List.mem_cons.mp member with same | announced
  · cases same
    exact .inr rfl
  · exact absurd announced (notMem_changeEffects _ _)

theorem turnsShortage_outOfSpace (controller : Controller) :
    TurnsShortage true controller (outOfSpace.run controller).effects
      (outOfSpace.run controller).state := by
  have recorded := turnsShortage_recordOutOfSpace true controller
  rw [outOfSpace, run_bind]
  refine ⟨recorded.1, fun conditions member => recorded.2 conditions ?_⟩
  simpa [currentStatus] using member

theorem turnsShortage_retry (controller : Controller) :
    TurnsShortage false controller (retry.run controller).effects (retry.run controller).state := by
  have keeps := keepsShortage_reread .willEnterForeground controller
  have recorded := turnsShortage_recordOutOfSpace false (freeSpaceChanged.run controller).state
  rw [retry, run_bind]
  refine ⟨recorded.1, fun conditions member => ?_⟩
  rcases List.mem_append.mp member with inFirst | inSecond
  · exact .inl (keeps.2 conditions inFirst)
  · rcases recorded.2 conditions inSecond with before | after
    · exact .inl (before.trans keeps.1)
    · exact .inr after

theorem perform_of_reportsShortage {operation : Operation}
    (reports : operation.reportsShortage = true) :
    operation.perform = (fun status => some (.status status)) <$> outOfSpace := by
  cases operation with
  | serve request =>
      cases request with
      | outOfSpace => exact (comp_map Reply.status some outOfSpace).symm
      | _ => cases reports
  | jobFailed queue failure =>
      cases queue with
      | upload => cases reports
      | download =>
          rw [Operation.perform, jobFailed, show failure.isOutOfSpace = true from reports]
          exact (comp_map some (Option.map Reply.status) outOfSpace).symm
  | _ => cases reports

private theorem perform_of_retries {operation : Operation} (isRetry : operation.retries = true) :
    operation.perform = (fun _ => some .done) <$> retry := by
  cases operation with
  | serve request =>
      cases request with
      | retry =>
          rw [map_eq_pure_bind]
          exact Activity.bind_assoc retry _ _
      | _ => cases isRetry
  | _ => cases isRetry

theorem turnsShortage_operation (operation : Operation) (controller : Controller) :
    TurnsShortage (operation.shortage controller.conditions.ranOutOfSpace) controller
      (operation.perform.run controller).effects (operation.perform.run controller).state := by
  rw [Operation.shortage]
  cases reports : operation.reportsShortage with
  | true =>
      rw [perform_of_reportsShortage reports, run_map]
      exact turnsShortage_outOfSpace controller
  | false =>
      cases isRetry : operation.retries with
      | true =>
          rw [perform_of_retries isRetry, run_map]
          exact turnsShortage_retry controller
      | false => exact turnsShortage_of_keeping (keepsShortage_operation reports isRetry controller)

theorem value_of_reportsShortage {operation : Operation}
    (reports : operation.reportsShortage = true) (controller : Controller) :
    (operation.perform.run controller).value =
      some (.status (controller.conditions.downloadObstacle?.getD .lowDiskSpace)) := by
  rw [perform_of_reportsShortage reports, run_map]
  exact congrArg (fun status => some (Reply.status status)) (Conditions.status_of_shortage rfl)

theorem TurnsShortage.meanwhile {value : Bool} {before after : Controller} {record : List Effect}
    (turns : TurnsShortage value before record after) {first second : List Effect}
    (split : record = first ++ second) :
    (before.conditions.afterAll first).ranOutOfSpace = before.conditions.ranOutOfSpace ∨
      (before.conditions.afterAll first).ranOutOfSpace = after.conditions.ranOutOfSpace := by
  rcases before.conditions.afterAll_cases first with same | recorded
  · exact .inl (by rw [same])
  · rw [turns.1]
    exact turns.2 _ (split ▸ List.mem_append_left second recorded)

end Controller

end TransferGate
