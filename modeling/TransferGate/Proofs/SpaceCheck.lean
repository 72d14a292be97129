import TransferGate.Proofs.Awaiting
import TransferGate.Proofs.Calls
import TransferGate.Proofs.RequiredSpace
import TransferGate.Proofs.Shortage

/-! # The check of free space

A caller who checks free space compares it with the requirement past the server. If space
suffices, that is all. If it does not, the server reads free space once more and replies with
the status of downloads, which compares again, with the requirement in the conditions.

Between the two readings anything may happen. But once observing has begun there is only one
requirement, so the caller and the conditions agree whenever they were given the same answer.
-/

namespace TransferGate

open Activity

/-! ## One rule -/

private theorem Conditions.status_of_belowRequirement {conditions : Conditions}
    (below : conditions.belowRequirement = true) :
    conditions.status .download = conditions.downloadObstacle?.getD .lowDiskSpace :=
  status_of_lacksSpace (by simp [lacksSpace, below])

private theorem Gate.isShort_eq_false {answer : Except ReadFailure UInt64} {required : UInt64} :
    isShort answer.toOption required = false ↔ ∀ free, answer = .ok free → required ≤ free := by
  cases answer with
  | error failure => simp [isShort, Except.toOption]
  | ok free => simp [isShort, Except.toOption]

namespace Host

def spaceAnswer (host : Host) : Except ReadFailure UInt64 := (host.sources.lookUp .freeSpace).1

private theorem spaceAnswer_requiredBytes (host : Host) :
    (requiredBytes.run host).state.spaceAnswer = host.spaceAnswer := by
  rw [run_requiredBytes]
  cases host.requirement.known <;> rfl

theorem exchanges_freeSpace (host : Host) :
    (freeSpace.run host).effects.filterMap Effect.exchange? =
      [⟨.lookUp .freeSpace, host.spaceAnswer⟩] := by
  rw [freeSpace, run_lookUp, spaceAnswer]
  cases (host.sources.lookUp .freeSpace).1 <;> rfl

theorem value_freeSpace (host : Host) : (freeSpace.run host).value = host.spaceAnswer.toOption := by
  rw [freeSpace, run_lookUp, spaceAnswer]

end Host

/-! ## What the caller does -/

namespace Gate

/-- The gate when a caller has looked at free space. Only the host is not as before. -/
def looked (gate : Gate) : Gate :=
  { gate with controller := { gate.controller with
      host := (Host.freeSpace.run (Host.requiredBytes.run gate.controller.host).state).state } }

/-- What a check of free space does without the server. -/
structure ChecksSpace (gate : Gate) (checked : Outcome Gate (Option Ticketed)) : Prop where
  asks : checked.effects.filterMap Effect.exchange? =
    (Host.requiredBytes.run gate.controller.host).effects.filterMap Effect.exchange? ++
      [⟨.lookUp .freeSpace, gate.controller.host.spaceAnswer⟩]
  compares : checked.value = none ↔ ∀ free, gate.controller.host.spaceAnswer = .ok free →
    (Host.requiredBytes.run gate.controller.host).value ≤ free
  spares : checked.value = none →
    checked.state = gate.looked ∧ ∀ effect ∈ checked.effects, effect.isInquiry = true
  refused : gate.isClosed = true → ∀ request, checked.value = some request →
    request = ⟨gate.nextTicket, .refreshSpace⟩ ∧
    checked.state = { gate.looked with nextTicket := gate.nextTicket + 1 } ∧
    ∃ inquiries, checked.effects = inquiries ++ [.answered gate.nextTicket .closed] ∧
      ∀ effect ∈ inquiries, effect.isInquiry = true
  sends : gate.isClosed = false → ∀ request, checked.value = some request →
    request = ⟨gate.nextTicket, .refreshSpace⟩ ∧
    checked.state = { gate.looked with nextTicket := gate.nextTicket + 1 }.enqueue request ∧
    ∀ effect ∈ checked.effects, effect.isInquiry = true

private theorem run_quickCheck_looked (gate : Gate) :
    let short := isShort gate.controller.host.spaceAnswer.toOption
      (Host.requiredBytes.run gate.controller.host).value
    Gate.quickCheck.run gate =
      ⟨((sendIf short .refreshSpace).run gate.looked).value,
        ((sendIf short .refreshSpace).run gate.looked).state,
        (Call.quickCheck.prepare.run gate.controller).effects ++
          ((sendIf short .refreshSpace).run gate.looked).effects⟩ := by
  have sameBus := gate.bus.absorbAll_of_isInquiry (quickCheck_reads gate.controller)
  have value : (Call.quickCheck.prepare.run gate.controller).value =
      isShort gate.controller.host.spaceAnswer.toOption
        (Host.requiredBytes.run gate.controller.host).value := by
    rw [← Host.spaceAnswer_requiredBytes, ← Host.value_freeSpace]
    rfl
  rw [run_quickCheck_prepare, run_bind, run_onController, sameBus, value]
  rfl

theorem quickCheck_checksSpace (gate : Gate) :
    gate.ChecksSpace (Move.quickCheck.perform.run gate) := by
  have run := run_quickCheck_looked gate
  have inquiries := quickCheck_reads gate.controller
  have asks : (Call.quickCheck.prepare.run gate.controller).effects.filterMap Effect.exchange? =
      (Host.requiredBytes.run gate.controller.host).effects.filterMap Effect.exchange? ++
        [⟨.lookUp .freeSpace, gate.controller.host.spaceAnswer⟩] := by
    rw [← Host.spaceAnswer_requiredBytes, ← Host.exchanges_freeSpace, ← List.filterMap_append]
    simp [Call.prepare]
  simp only at run
  rw [Move.perform, run_map, run]
  cases short : isShort gate.controller.host.spaceAnswer.toOption
      (Host.requiredBytes.run gate.controller.host).value with
  | false =>
      simp only [sendIf, run_pure, List.append_nil, Option.map_none]
      exact {
        asks := asks
        compares := iff_of_true rfl (isShort_eq_false.mp short)
        spares := fun _ => ⟨rfl, inquiries⟩
        refused := fun _ request sent => by cases sent
        sends := fun _ request sent => by cases sent }
  | true =>
      have falls : ¬∀ free, gate.controller.host.spaceAnswer = .ok free →
          (Host.requiredBytes.run gate.controller.host).value ≤ free := fun enough =>
        Bool.false_ne_true ((isShort_eq_false.mpr enough).symm.trans short)
      simp only [sendIf, run_map]
      cases closed : gate.isClosed with
      | true =>
          rw [run_send_closed (show gate.looked.isClosed = true from closed)]
          exact {
            asks := by rw [List.filterMap_append, asks]; exact List.append_nil _
            compares := iff_of_false (by simp) falls
            spares := fun none => by cases none
            refused := fun _ request sent => by
              cases sent
              exact ⟨rfl, rfl, _, rfl, inquiries⟩
            sends := fun isOpen => by cases closed.symm.trans isOpen }
      | false =>
          rw [run_send_open (show gate.looked.isClosed = false from closed), List.append_nil]
          exact {
            asks := asks
            compares := iff_of_false (by simp) falls
            spares := fun none => by cases none
            refused := fun isClosed => by cases closed.symm.trans isClosed
            sends := fun _ request sent => by
              cases sent
              exact ⟨rfl, rfl, inquiries⟩ }

/-! ## What the server does -/

end Gate

namespace Controller

theorem run_freeSpaceChanged (controller : Controller) :
    let recorded := { controller.conditions with
      freeBytes := controller.host.spaceAnswer.toOption }
    freeSpaceChanged.run controller =
      ⟨(), { controller with
          conditions := recorded
          host := (Host.freeSpace.run controller.host).state },
        (Host.freeSpace.run controller.host).effects ++ .revised recorded ::
          (controller.conditions.changes recorded).flatMap changeEffects⟩ := by
  simp [freeSpaceChanged, reread, update, Host.readFor, Host.value_freeSpace]

theorem exchanges_changeEffects (changes : List Conditions.StatusChange) :
    (changes.flatMap changeEffects).filterMap Effect.exchange? = [] := by
  apply List.filterMap_eq_nil_iff.mpr
  intro effect member
  rcases mem_changeEffects member with ⟨line, rfl⟩ | ⟨queue, status, rfl⟩ <;> rfl

theorem exchanges_freeSpaceChanged (controller : Controller) :
    (freeSpaceChanged.run controller).effects.filterMap Effect.exchange? =
      [⟨.lookUp .freeSpace, controller.host.spaceAnswer⟩] := by
  rw [run_freeSpaceChanged, List.filterMap_append, Host.exchanges_freeSpace, List.filterMap_cons,
    exchanges_changeEffects]
  rfl

end Controller

namespace Gate

/-- The step reads free space once, records it and nothing else, and replies with the status of
downloads. -/
structure Step.RefreshesSpace (step : Step) (ticket : Nat) : Prop where
  asks : step.effects.filterMap Effect.exchange? =
    [⟨.lookUp .freeSpace, step.before.controller.host.spaceAnswer⟩]
  records : step.after.controller.conditions = { step.before.controller.conditions with
    freeBytes := step.before.controller.host.spaceAnswer.toOption }
  observation : step.after.controller.observation = step.before.controller.observation
  replies : step.answers = [(ticket, .status (step.after.controller.status .download))]

theorem refreshesSpace {step : Step} {request : Ticketed} (served : step.served? = some request)
    (asks : request.request = .refreshSpace) : step.RefreshesSpace request.ticket := by
  rcases Step.of_served served with ⟨controller, effects⟩
  have serving : step.serving request =
      ⟨.status ((Controller.freeSpaceChanged.run step.before.controller).state.status .download),
        (Controller.freeSpaceChanged.run step.before.controller).state,
        (Controller.freeSpaceChanged.run step.before.controller).effects⟩ := by
    simp [Step.serving, asks, Controller.serve, Controller.refreshSpace, Controller.currentStatus]
  rw [serving] at controller effects
  constructor
  · rw [effects, List.filterMap_append, Controller.exchanges_freeSpaceChanged]
    rfl
  · rw [controller, Controller.run_freeSpaceChanged]
  · rw [controller, Controller.run_freeSpaceChanged]
  · rw [Step.answers_of_served served, serving, controller]

end Gate

/-! ## One requirement -/

theorem Settings.Requires.unique {settings : Settings} {record : List Effect}
    {first second : UInt64} (isFirst : settings.Requires record first)
    (isSecond : settings.Requires record second) : first = second := by
  rcases isFirst with ⟨limit, told, firstBytes⟩
  rcases isSecond with ⟨other, toldOther, secondBytes⟩
  cases List.cons.inj (told.symm.trans toldOther) with
  | intro same _ =>
      rw [← same] at secondBytes
      exact UInt64.toNat.inj (firstBytes.trans secondBytes.symm)

namespace Controller

private theorem Abreast.recorded {settings : Settings} {record whole : List Effect}
    {before after : Controller} (abreast : Abreast settings record before)
    (abreastAfter : Abreast settings whole after)
    (follows : record ++ (Host.requiredBytes.run before.host).effects <+: whole)
    (begun : everObserved whole = true) :
    after.conditions.requiredBytes = some (Host.requiredBytes.run before.host).value := by
  have governs := abreastAfter.governs
  rcases Option.isSome_iff_exists.mp (governs.required.trans begun) with ⟨bytes, known⟩
  have stored := (governs.stored _ (.inl rfl)).1 bytes known
  rw [known, stored.unique (abreast.requires governs.asksOnce follows)]

/-- Whoever reads free space now decides as the caller did, given the caller's answer. -/
structure DecidesAlike (request : Option Ticketed) (controller : Controller) : Prop where
  rule : request = none ↔
    (freeSpaceChanged.run controller).state.conditions.belowRequirement = false
  status : request ≠ none →
    (freeSpaceChanged.run controller).state.status .download =
      controller.conditions.downloadObstacle?.getD .lowDiskSpace

end Controller

namespace Gate

open Controller

theorem decidesAlike {gate : Gate} {controller : Controller}
    (required : controller.conditions.requiredBytes =
      some (Host.requiredBytes.run gate.controller.host).value)
    (sameAnswer : controller.host.spaceAnswer = gate.controller.host.spaceAnswer) :
    DecidesAlike (Move.quickCheck.perform.run gate).value controller := by
  let after := (freeSpaceChanged.run controller).state.conditions
  have recorded : after = { controller.conditions with
      freeBytes := gate.controller.host.spaceAnswer.toOption } := by
    simp only [after, run_freeSpaceChanged, sameAnswer]
  have below : after.belowRequirement = isShort gate.controller.host.spaceAnswer.toOption
      (Host.requiredBytes.run gate.controller.host).value := by
    rw [Conditions.belowRequirement_of_requiredBytes (by rw [recorded]; exact required), recorded]
  have rule : (Move.quickCheck.perform.run gate).value = none ↔ after.belowRequirement = false := by
    rw [below, isShort_eq_false]
    exact (quickCheck_checksSpace gate).compares
  refine ⟨rule, fun short => ?_⟩
  have isBelow : after.belowRequirement = true := by
    simpa using fun enough => short (rule.mpr enough)
  exact (Conditions.status_of_belowRequirement isBelow).trans (by rw [recorded]; rfl)

/-! ## In a run -/

/-- What comes of the request that a check has sent. -/
structure FollowsUp (gate : Gate) (request : Ticketed) (later : List Move) (steps : List Step)
    (last : Gate) : Prop where
  settled : SettledBy request steps last
  replied : gate.isClosed = false →
    (rounds (gate.room + 2 * gate.door.length + 3)).Sublist later →
      RepliedTo steps request.ticket
  refreshes : ∀ step ∈ steps, step.served? = some request → step.RefreshesSpace request.ticket

theorem followsUp {settings : Settings} {host : Host} {subscribers : List Subscriber}
    {attached : Bool} {built : Outcome Gate Unit}
    (succeeds : build settings host subscribers attached = .ok built) (earlier later : List Move)
    {request : Ticketed}
    (sent : Step.sent? ⟨built.state.following earlier, .quickCheck⟩ = some request) :
    let after := (Move.quickCheck.perform.run (built.state.following earlier)).state
    FollowsUp (built.state.following earlier) request later (after.steps later)
      (after.following later) := by
  have asks : request.request = .refreshSpace := by
    have checks := quickCheck_checksSpace (built.state.following earlier)
    cases closed : (built.state.following earlier).isClosed with
    | true => rw [(checks.refused closed request sent).1]
    | false => rw [(checks.sends closed request sent).1]
  exact {
    settled := settledBy_of_sent succeeds earlier later sent
    replied := repliedTo_of_sent succeeds sent
    refreshes := fun step _ served => refreshesSpace served asks }

private theorem required_after_quickCheck {settings : Settings} {sources : Sources}
    {hasBattery : Bool} {subscribers : List Subscriber} {attached : Bool}
    {built : Outcome Gate Unit}
    (succeeds : build settings (.create settings sources hasBattery) subscribers attached =
      .ok built) (earlier later : List Move)
    (begun : everObserved (built.effects ++ built.state.recordOf earlier) = true) :
    let gate := built.state.following earlier
    ((Move.quickCheck.perform.run gate).state.following later).controller.conditions.requiredBytes =
      some (Host.requiredBytes.run gate.controller.host).value := by
  intro gate
  have fresh := fresh_of_build succeeds
  have begins : Abreast settings built.effects built.state.controller := by
    rw [fresh.effects, fresh.controller]
    exact abreast_create settings sources hasBattery
  have abreast (moves : List Move) :=
    begins.later ((informing_allows _).follow fresh.sound moves)
  have whole := abreast (earlier ++ .quickCheck :: later)
  rw [following_append, recordOf_append, ← List.append_assoc] at whole
  refine (abreast earlier).recorded whole ?_ (by rw [everObserved_append, begun, Bool.true_or])
  rcases quickCheck_compares gate with ⟨answer, behind, effects, -⟩
  rw [recordOf_cons, effects, List.append_assoc (Host.requiredBytes.run _).effects]
  exact (List.prefix_append_right_inj _).mpr (List.prefix_append _ _)

/-- Checks of free space, and the server that reads it again, decide by one rule. -/
theorem quickCheck_agrees :
    (∀ gate : Gate, gate.ChecksSpace (Move.quickCheck.perform.run gate)) ∧
    ∀ settings sources hasBattery subscribers attached built,
      build settings (.create settings sources hasBattery) subscribers attached = .ok built →
      ∀ earlier later,
      let gate := built.state.following earlier
      let checked := Move.quickCheck.perform.run gate
      let steps := checked.state.steps later
      let last := checked.state.following later
      (∀ request, checked.value = some request → FollowsUp gate request later steps last) ∧
      (everObserved (built.effects ++ built.state.recordOf earlier) = true →
        (last.controller.host.spaceAnswer = gate.controller.host.spaceAnswer →
          DecidesAlike checked.value last.controller) ∧
        ∀ step ∈ steps, ∀ request, checked.value = some request → step.served? = some request →
          step.before.controller.host.spaceAnswer = gate.controller.host.spaceAnswer →
          step.answers = [(request.ticket, .status
            (step.before.controller.conditions.downloadObstacle?.getD .lowDiskSpace))]) := by
  refine ⟨quickCheck_checksSpace, ?_⟩
  intro settings sources hasBattery subscribers attached built succeeds earlier later gate checked
    steps last
  have required := fun later begun => required_after_quickCheck succeeds earlier later begun
  refine ⟨fun request sent => followsUp succeeds earlier later sent, fun begun => ⟨?_, ?_⟩⟩
  · exact decidesAlike (required later begun)
  · intro step member request sent served sameAnswer
    rcases before_of_mem_steps member with ⟨part, before⟩
    have alike : DecidesAlike checked.value step.before.controller := by
      refine decidesAlike ?_ sameAnswer
      rw [before]
      exact required part begun
    have status := alike.status (by rw [sent]; exact Option.some_ne_none _)
    have refreshes := (followsUp succeeds earlier later sent).refreshes step member served
    rw [run_freeSpaceChanged, Controller.status] at status
    rw [refreshes.replies, Controller.status, refreshes.records, status]

/-- Observing has begun, and free space stays below the requirement: the caller finds that out,
and so does the server, a few turns later. -/
theorem quickCheck_agrees_of_shortage :
    let settings : Settings := { requestCapacity := 1 }
    let sources := { Sources.calm with
      freeSpace := .always (.ok 300), ready := .both (.always (.ok true)) }
    let earlier : List Move := [.send (.begin .download), .turn .server, .turn .server]
    let later := rounds 4
    ∃ built, build settings (.create settings sources true) [] false = .ok built ∧
      let gate := built.state.following earlier
      let checked := Move.quickCheck.perform.run gate
      let last := checked.state.following later
      checked.value = some ⟨1, .refreshSpace⟩ ∧
      answers (checked.state.steps later) = [(1, .status .lowDiskSpace)] ∧
      gate.ChecksSpace checked ∧
      FollowsUp gate ⟨1, .refreshSpace⟩ later (checked.state.steps later) last ∧
      RepliedTo (checked.state.steps later) 1 ∧
      DecidesAlike checked.value last.controller := by
  intro settings sources earlier later
  obtain ⟨built, succeeds, begun, isOpen, near, sent, replies, sameAnswer⟩ :
      ∃ built, build settings (.create settings sources true) [] false = .ok built ∧
        let gate := built.state.following earlier
        let checked := Move.quickCheck.perform.run gate
        everObserved (built.effects ++ built.state.recordOf earlier) = true ∧
        gate.isClosed = false ∧ gate.room + 2 * gate.door.length + 3 = 4 ∧
        checked.value = some ⟨1, .refreshSpace⟩ ∧
        answers (checked.state.steps later) = [(1, .status .lowDiskSpace)] ∧
        (checked.state.following later).controller.host.spaceAnswer =
          gate.controller.host.spaceAnswer :=
    ⟨_, rfl, by decide +kernel⟩
  obtain ⟨follows, alike⟩ := quickCheck_agrees.2 settings sources true [] false built succeeds
    earlier later
  have followsUp := follows _ sent
  refine ⟨built, succeeds, sent, replies, quickCheck_agrees.1 _, followsUp, ?_, ?_⟩
  · apply followsUp.replied isOpen
    rw [near]
  · exact (alike begun).1 sameAnswer

end Gate

end TransferGate
