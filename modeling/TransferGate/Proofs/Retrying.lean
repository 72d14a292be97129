import TransferGate.Proofs.SpaceCheck

/-! # Failed jobs and retries

That space ran out is recorded by one request and forgotten by another. Both concern nothing
but the status of downloads, and both announce it exactly if it differs afterwards. A retry
changes the conditions twice, but only one of the two changes can matter: while it is recorded
that space ran out, free space is of no account, and otherwise there is nothing to forget.

Whether a failed job is worth a request is decided by its reporter, and once more by the
controller. Both decide alike.
-/

namespace TransferGate

open Activity

namespace Controller

/-! ## What is told about downloads -/

/-- At most one thing was told: the status of downloads, if it is not what it was. -/
structure TellsDownloads (before : Conditions) (record : List Effect) (after : Conditions) :
    Prop where
  uploads : after.status .upload = before.status .upload
  notices : record.filterMap Effect.notice? =
    if after.status .download = before.status .download then []
    else [.statusChanged .download (after.status .download)]

namespace TellsDownloads

variable {before between after : Conditions} {first second : List Effect}

theorem join (earlier : TellsDownloads before first between)
    (later : TellsDownloads between second after)
    (once : between.status .download = before.status .download ∨
      after.status .download = between.status .download) :
    TellsDownloads before (first ++ second) after where
  uploads := later.uploads.trans earlier.uploads
  notices := by
    rw [List.filterMap_append, earlier.notices, later.notices]
    rcases once with same | same
    · rw [if_pos same, same, List.nil_append]
    · rw [if_pos same, same, List.append_nil]

private theorem of_inquiries (conditions : Conditions)
    (inquiries : ∀ effect ∈ first, effect.isInquiry = true) :
    TellsDownloads conditions first conditions where
  uploads := rfl
  notices := by rw [Effect.notices_of_isInquiry inquiries, if_pos rfl]

private theorem of_changes (uploads : after.status .upload = before.status .upload) :
    TellsDownloads before (.revised after :: (before.changes after).flatMap changeEffects) after where
  uploads := uploads
  notices := by
    rw [List.filterMap_cons_none rfl, notices_changeEffects]
    by_cases same : after.status .download = before.status .download
    · simp [Conditions.changes, Queue.all, uploads, same]
    · simp [Conditions.changes, Queue.all, uploads, same, Ne.symm same]

end TellsDownloads

theorem tellsDownloads_freeSpaceChanged (controller : Controller) :
    TellsDownloads controller.conditions (freeSpaceChanged.run controller).effects
      (freeSpaceChanged.run controller).state.conditions := by
  rw [run_freeSpaceChanged]
  have inquiries := (Host.lookUp_reads .freeSpace controller.host).inquiries
  exact (TellsDownloads.of_inquiries _ inquiries).join (.of_changes rfl) (.inl rfl)

theorem run_recordOutOfSpace (ranOut : Bool) (controller : Controller) :
    let recorded := { controller.conditions with ranOutOfSpace := ranOut }
    (recordOutOfSpace ranOut).run controller =
      ⟨(), { controller with conditions := recorded },
        .revised recorded :: (controller.conditions.changes recorded).flatMap changeEffects⟩ := by
  simp [recordOutOfSpace]

theorem exchanges_recordOutOfSpace (ranOut : Bool) (controller : Controller) :
    ((recordOutOfSpace ranOut).run controller).effects.filterMap Effect.exchange? = [] := by
  rw [run_recordOutOfSpace, List.filterMap_cons_none rfl, exchanges_changeEffects]

theorem tellsDownloads_recordOutOfSpace (ranOut : Bool) (controller : Controller) :
    TellsDownloads controller.conditions ((recordOutOfSpace ranOut).run controller).effects
      ((recordOutOfSpace ranOut).run controller).state.conditions := by
  rw [run_recordOutOfSpace]
  exact .of_changes rfl

/-! ## Retries -/

private theorem status_of_ranOutOfSpace {conditions : Conditions}
    (ranOut : conditions.ranOutOfSpace = true) (free : Option UInt64) :
    { conditions with freeBytes := free }.status .download = conditions.status .download := by
  rw [Conditions.status_of_shortage ranOut]
  exact Conditions.status_of_shortage ranOut

structure Reconsiders (before : Controller) (retried : Outcome Controller Unit) : Prop where
  asks : retried.effects.filterMap Effect.exchange? =
    [⟨.lookUp .freeSpace, before.host.spaceAnswer⟩]
  records : retried.state.conditions = { before.conditions with
    freeBytes := before.host.spaceAnswer.toOption
    ranOutOfSpace := false }
  observation : retried.state.observation = before.observation
  host : retried.state.host = (Host.freeSpace.run before.host).state
  tells : TellsDownloads before.conditions retried.effects retried.state.conditions

/-- A retry reads free space, forgets that space ran out, and tells at most one thing: the status
in which downloads are in the end. -/
theorem retry_reconsiders (controller : Controller) :
    Reconsiders controller (retry.run controller) := by
  let read := (freeSpaceChanged.run controller).state
  have state : (retry.run controller).state = ((recordOutOfSpace false).run read).state := rfl
  have effects : (retry.run controller).effects =
      (freeSpaceChanged.run controller).effects ++ ((recordOutOfSpace false).run read).effects :=
    rfl
  have conditions : read.conditions = { controller.conditions with
      freeBytes := controller.host.spaceAnswer.toOption } := by
    simp only [read, run_freeSpaceChanged]
  have recorded : ((recordOutOfSpace false).run read).state =
      { read with conditions := { read.conditions with ranOutOfSpace := false } } := rfl
  refine ⟨?_, ?_, ?_, ?_, ?_⟩
  · rw [effects, List.filterMap_append, exchanges_freeSpaceChanged, exchanges_recordOutOfSpace]
    rfl
  · rw [state, recorded, conditions]
  · rfl
  · rfl
  · rw [state, effects]
    refine (tellsDownloads_freeSpaceChanged controller).join
      (tellsDownloads_recordOutOfSpace false read) ?_
    -- One of the two changes does not matter, depending on what was recorded.
    cases ranOut : controller.conditions.ranOutOfSpace with
    | true =>
        refine .inl ?_
        change read.conditions.status .download = controller.conditions.status .download
        rw [conditions]
        exact status_of_ranOutOfSpace ranOut _
    | false =>
        refine .inr ?_
        change Conditions.status { read.conditions with ranOutOfSpace := false } .download =
          read.conditions.status .download
        rw [conditions, ← ranOut]

/-- Space ran out, and there is enough of it now: downloads run again, and nothing else is
announced. -/
example :
    let controller := (create.run (.create {} { Sources.calm with
      ready := .both (.always (.ok true)) } true)).value.following
        [.readinessChanged, .serve (.begin .download), .serve .outOfSpace]
    ((retry.run controller).effects.filterMap Effect.notice?) =
      [.statusChanged .download .running] := by
  decide +kernel

/-! ## Failed jobs -/

structure HearsFailure (queue : Queue) (failure : Failure) (before : Controller)
    (heard : Outcome Controller (Option Status)) : Prop where
  ignored : heard.value = none ↔ queue = .upload ∨ failure.isOutOfSpace = false
  spares : heard.value = none → heard = ⟨none, before, []⟩
  records : ∀ status, heard.value = some status →
    heard.state = { before with conditions := { before.conditions with ranOutOfSpace := true } } ∧
    status = heard.state.status .download
  asks : heard.effects.filterMap Effect.exchange? = []
  tells : TellsDownloads before.conditions heard.effects heard.state.conditions

theorem run_outOfSpace (controller : Controller) :
    outOfSpace.run controller =
      ⟨((recordOutOfSpace true).run controller).state.status .download,
        ((recordOutOfSpace true).run controller).state,
        ((recordOutOfSpace true).run controller).effects⟩ := by
  simp [outOfSpace, currentStatus]

theorem jobFailed_hearsFailure (queue : Queue) (failure : Failure) (controller : Controller) :
    HearsFailure queue failure controller ((jobFailed queue failure).run controller) := by
  cases matters : queue == .download && failure.isOutOfSpace with
  | false =>
      have run : (jobFailed queue failure).run controller = ⟨none, controller, []⟩ := by
        cases queue with
        | upload => rfl
        | download => rw [jobFailed, show failure.isOutOfSpace = false from matters, run_pure]
      rw [run]
      exact {
        ignored := by
          cases queue with
          | upload => simp
          | download => simpa using matters
        spares := fun _ => rfl
        records := fun status impossible => by cases impossible
        asks := rfl
        tells := ⟨rfl, by simp⟩ }
  | true =>
      rcases Bool.and_eq_true_iff.mp matters with ⟨isDownload, isOut⟩
      obtain rfl : queue = .download := eq_of_beq isDownload
      rw [jobFailed, isOut, run_map, run_outOfSpace]
      exact {
        ignored := by simp [isOut]
        spares := fun impossible => by cases impossible
        records := fun status replied => ⟨rfl, (Option.some.inj replied).symm⟩
        asks := exchanges_recordOutOfSpace true controller
        tells := tellsDownloads_recordOutOfSpace true controller }

end Controller

namespace Gate

/-! ## Failures that are reported through a gate -/

structure ReportsFailure (queue : Queue) (failure : Failure) (gate : Gate)
    (reported : Outcome Gate (Option Ticketed)) : Prop where
  ignored : reported.value = none ↔ queue = .upload ∨ failure.isOutOfSpace = false
  spares : reported.value = none → reported = ⟨none, gate, []⟩
  refused : gate.isClosed = true → ∀ request, reported.value = some request →
    request = ⟨gate.nextTicket, .outOfSpace⟩ ∧
    reported.state = { gate with nextTicket := gate.nextTicket + 1 } ∧
    reported.effects = [.answered gate.nextTicket .closed]
  sends : gate.isClosed = false → ∀ request, reported.value = some request →
    request = ⟨gate.nextTicket, .outOfSpace⟩ ∧
    reported.state = { gate with nextTicket := gate.nextTicket + 1 }.enqueue request ∧
    reported.effects = []

theorem jobFailed_reportsFailure (queue : Queue) (failure : Failure) (gate : Gate) :
    gate.ReportsFailure queue failure ((Move.jobFailed queue failure).perform.run gate) := by
  rw [Move.perform, run_map, jobFailed_eq]
  cases matters : queue == .download && failure.isOutOfSpace with
  | false =>
      rw [sendIf, run_pure]
      exact {
        ignored := by
          cases queue with
          | upload => simp
          | download => simpa using matters
        spares := fun _ => rfl
        refused := fun _ request impossible => by cases impossible
        sends := fun _ request impossible => by cases impossible }
  | true =>
      rcases Bool.and_eq_true_iff.mp matters with ⟨isDownload, isOut⟩
      obtain rfl : queue = .download := eq_of_beq isDownload
      rw [sendIf, run_map]
      cases closed : gate.isClosed with
      | true =>
          rw [run_send_closed closed]
          exact {
            ignored := by simp [isOut]
            spares := fun impossible => by cases impossible
            refused := fun _ request sent => by
              cases sent
              exact ⟨rfl, rfl, rfl⟩
            sends := fun isOpen => by cases closed.symm.trans isOpen }
      | false =>
          rw [run_send_open closed]
          exact {
            ignored := by simp [isOut]
            spares := fun impossible => by cases impossible
            refused := fun isClosed => by cases closed.symm.trans isClosed
            sends := fun _ request sent => by
              cases sent
              exact ⟨rfl, rfl, rfl⟩ }

/-- The step takes the request out of the line and has the controller hear of the failure; the
reply is what the controller says. -/
structure Step.HearsFailure (queue : Queue) (failure : Failure) (ticket : Nat) (step : Step) :
    Prop where
  line : step.before.line = ⟨ticket, .outOfSpace⟩ :: step.after.line
  state : step.after =
    { ((onController (Controller.jobFailed queue failure)).run step.before).state with
      line := step.after.line }
  replies : ∃ status,
    ((Controller.jobFailed queue failure).run step.before.controller).value = some status ∧
    step.effects = ((Controller.jobFailed queue failure).run step.before.controller).effects ++
      [.answered ticket (.status status)]

theorem hearsFailure_of_served {queue : Queue} {failure : Failure} {step : Step} {ticket : Nat}
    (matters : queue = .download ∧ failure.isOutOfSpace = true)
    (served : step.served? = some ⟨ticket, .outOfSpace⟩) :
    step.HearsFailure queue failure ticket := by
  rcases matters with ⟨rfl, isOut⟩
  rcases Step.outcome_of_served served with ⟨rest, waiting, outcome⟩
  rw [run_serve] at outcome
  have heard : Controller.jobFailed .download failure = some <$> Controller.outOfSpace := by
    rw [Controller.jobFailed, isOut]
  have line : step.after.line = rest := by rw [Step.after, outcome]
  constructor
  · rw [line, waiting]
  · rw [line, heard, Step.after, outcome]
    rfl
  · refine ⟨(Controller.outOfSpace.run step.before.controller).value, ?_, ?_⟩
    · rw [heard, run_map]
    · rw [(Step.of_served served).2, Step.serving, Controller.serve, heard, run_map, run_map]

/-- What comes of a failure that was sent to the server. -/
structure FailureReaches (queue : Queue) (failure : Failure) (gate : Gate) (request : Ticketed)
    (later : List Move) (steps : List Step) (last : Gate) : Prop where
  settled : SettledBy request steps last
  replied : gate.isClosed = false →
    (rounds (gate.room + 2 * gate.door.length + 3)).Sublist later →
      RepliedTo steps request.ticket
  heard : ∀ step ∈ steps, step.served? = some request →
    step.HearsFailure queue failure request.ticket

/-- Reporters and controllers agree about which failures matter. What does not matter changes
nothing; what does is refused by a closed gate, and by any other handed to the controller, which
records that space ran out and does nothing else. -/
theorem jobFailed_agrees :
    (∀ queue failure gate,
      ReportsFailure queue failure gate ((Move.jobFailed queue failure).perform.run gate)) ∧
    (∀ queue failure controller, Controller.HearsFailure queue failure controller
      ((Controller.jobFailed queue failure).run controller)) ∧
    (∀ queue failure (gate : Gate) (controller : Controller),
      ((Gate.jobFailed queue failure).run gate).value = none ↔
        ((Controller.jobFailed queue failure).run controller).value = none) ∧
    ∀ settings host subscribers attached built,
      build settings host subscribers attached = .ok built →
      ∀ earlier later queue failure,
      let gate := built.state.following earlier
      let reported := (Move.jobFailed queue failure).perform.run gate
      ∀ request, reported.value = some request →
        FailureReaches queue failure gate request later (reported.state.steps later)
          (reported.state.following later) := by
  refine ⟨jobFailed_reportsFailure, Controller.jobFailed_hearsFailure, ?_, ?_⟩
  · intro queue failure gate controller
    have reports := jobFailed_reportsFailure queue failure gate
    have hears := Controller.jobFailed_hearsFailure queue failure controller
    rw [hears.ignored, ← reports.ignored, Move.perform, run_map, Option.map_eq_none_iff]
  · intro settings host subscribers attached built succeeds earlier later queue failure gate
      reported request sent
    have reports := jobFailed_reportsFailure queue failure gate
    have isReport : request = ⟨gate.nextTicket, .outOfSpace⟩ := by
      cases closed : gate.isClosed with
      | true => exact (reports.refused closed request sent).1
      | false => exact (reports.sends closed request sent).1
    have reached : reported.value ≠ none := by simp [sent]
    have matters : queue = .download ∧ failure.isOutOfSpace = true := by
      rcases not_or.mp (mt reports.ignored.mpr reached) with ⟨notUpload, notIgnored⟩
      refine ⟨?_, by simpa using notIgnored⟩
      cases queue with
      | upload => exact absurd rfl notUpload
      | download => rfl
    refine ⟨settledBy_of_sent succeeds earlier later sent, repliedTo_of_sent succeeds sent, ?_⟩
    intro step _ served
    subst isReport
    exact hearsFailure_of_served matters served

/-- A running download fails, and somewhere below its failure the system reports that no space is
left: downloads are held back, and the reporter is told so. -/
theorem jobFailed_agrees_of_shortage :
    let settings : Settings := { requestCapacity := 1 }
    let sources := { Sources.calm with ready := .both (.always (.ok true)) }
    let failure : Failure := .causedBy "download failed" (.ioRead (.system ⟨28⟩))
    let earlier : List Move := [.send (.begin .download), .turn .server, .turn .server]
    let later := rounds 4
    ∃ built, build settings (.create settings sources true) [] false = .ok built ∧
      let gate := built.state.following earlier
      let reported := (Move.jobFailed .download failure).perform.run gate
      let steps := reported.state.steps later
      gate.controller.status .download = .running ∧
      reported.value = some ⟨1, .outOfSpace⟩ ∧
      answers steps = [(1, .status .lowDiskSpace)] ∧
      RepliedTo steps 1 ∧
      FailureReaches .download failure gate ⟨1, .outOfSpace⟩ later steps
        (reported.state.following later) := by
  intro settings sources failure earlier later
  obtain ⟨built, succeeds, running, isOpen, near, sent, replies⟩ :
      ∃ built, build settings (.create settings sources true) [] false = .ok built ∧
        let gate := built.state.following earlier
        let reported := (Move.jobFailed .download failure).perform.run gate
        gate.controller.status .download = .running ∧ gate.isClosed = false ∧
        gate.room + 2 * gate.door.length + 3 = 4 ∧
        reported.value = some ⟨1, .outOfSpace⟩ ∧
        answers (reported.state.steps later) = [(1, .status .lowDiskSpace)] :=
    ⟨_, rfl, by decide +kernel⟩
  have reaches := jobFailed_agrees.2.2.2 settings _ [] false built succeeds earlier later .download
    failure _ sent
  refine ⟨built, succeeds, running, sent, replies, reaches.replied isOpen ?_, reaches⟩
  rw [near]

end Gate

end TransferGate
