import TransferGate.Proofs.Brackets
import TransferGate.Proofs.Tracking

/-! # Battery sessions

While it observes, a controller holds a battery session if there is a battery manager. Sessions
follow one another, and each of them ends once.

`SessionHistory` says what the battery manager gets to see. It describes a whole record;
`Controller.keepingSessions` is the law that a piece of a record continues such a history.
-/

namespace TransferGate

namespace Question

def isSession : Question → Bool
  | .beginBattery _ _ => true
  | .batteryLevel _ => true
  | .endBattery _ => true
  | _ => false

def isBattery (question : Question) : Bool := question.isSession || question == .isLowPower

def isWatched : Question → Bool
  | .isRegistered => true
  | .isOnWifi => true
  | .isLowPower => true
  | .batteryLevel _ => true
  | .lookUp lookup => lookup == .cellularAllowed
  | _ => false

theorem isWatched_of_isPlain {question : Question} (plain : question.isPlain = true) :
    question.isWatched = false := by
  cases question with
  | lookUp lookup => simpa [isPlain, isWatched] using plain
  | _ => first | rfl | cases plain

private theorem eq_batteryLevel {question : Question} {session : Option Nat} {hasBattery : Bool}
    (watching : question.isWatching session hasBattery = true)
    (inSession : question.isSession = true) :
    ∃ opened, session = some opened ∧ question = .batteryLevel opened := by
  cases question with
  | batteryLevel asked => exact ⟨asked, by simpa [isWatching] using watching, rfl⟩
  | beginBattery reason session => cases watching
  | endBattery session => cases watching
  | _ => cases inSession

end Question

namespace Effect

def question? : Effect → Option Question
  | .asked exchange => some exchange.question
  | _ => none

def asks (kind : Question → Bool) (effect : Effect) : Bool := effect.question?.any kind

end Effect

def sessionQuestions (record : List Effect) : List Question :=
  (record.filterMap Effect.question?).filter Question.isSession

@[simp] theorem sessionQuestions_append (first second : List Effect) :
    sessionQuestions (first ++ second) = sessionQuestions first ++ sessionQuestions second := by
  simp [sessionQuestions]

def EventKind.isObservation : EventKind → Bool
  | .observationStarted => true
  | .observationStopped => true
  | _ => false

def observationKinds (record : List Effect) : List EventKind :=
  ((record.filterMap Effect.notice?).map Notice.kind).filter EventKind.isObservation

theorem observationKinds_append (first second : List Effect) :
    observationKinds (first ++ second) = observationKinds first ++ observationKinds second := by
  simp [observationKinds]

/-- What is announced when observing starts and stops so often, and then starts once more if it
goes on. -/
def alternation (rounds : Nat) (observing : Bool) : List EventKind :=
  (List.replicate rounds [.observationStarted, .observationStopped]).flatten ++
    if observing then [.observationStarted] else []

/-- The questions of a session, in which the level was read so often, as long as it is open. -/
def openSession (reason : String) (session reads : Nat) : List Question :=
  .beginBattery reason session :: List.replicate reads (.batteryLevel session)

def endedSession (reason : String) (session reads : Nat) : List Question :=
  openSession reason session reads ++ [.endBattery session]

/-- The questions of sessions that began and ended one after the other. The list tells how often
the level was read in each of them. -/
def endedSessions (reason : String) (readings : List Nat) : List Question :=
  (readings.mapIdx (endedSession reason)).flatten

private theorem endedSessions_concat (reason : String) (readings : List Nat) (reads : Nat) :
    endedSessions reason (readings ++ [reads]) =
      endedSessions reason readings ++ endedSession reason readings.length reads := by
  simp [endedSessions, List.mapIdx_concat]

example : endedSessions "x" [1, 0] = [.beginBattery "x" 0, .batteryLevel 0, .endBattery 0,
    .beginBattery "x" 1, .endBattery 1] := rfl

/-- The questions came from sessions that began and ended one after the other, and from the
session that is open now, if there is one. The last index is the number of the next session. -/
inductive SessionHistory (reason : String) : List Question → Option Nat → Nat → Prop where
  | closed (readings : List Nat) :
      SessionHistory reason (endedSessions reason readings) none readings.length
  | opened (readings : List Nat) (reads : Nat) :
      SessionHistory reason
        (endedSessions reason readings ++ openSession reason readings.length reads)
        (some readings.length) (readings.length + 1)

namespace SessionHistory

variable {reason : String} {past : List Question} {session next : Nat}

theorem begins (history : SessionHistory reason past none next) :
    SessionHistory reason (past ++ [.beginBattery reason next]) (some next) (next + 1) := by
  cases history with
  | closed readings => exact .opened readings 0

theorem reads (history : SessionHistory reason past (some session) next) (count : Nat) :
    SessionHistory reason (past ++ List.replicate count (.batteryLevel session)) (some session)
      next := by
  cases history with
  | opened readings reads =>
      have longer : SessionHistory reason _ _ _ := .opened readings (reads + count)
      rw [openSession, ← List.replicate_append_replicate] at longer
      simpa [openSession] using longer

theorem ends (history : SessionHistory reason past (some session) next) :
    SessionHistory reason (past ++ [.endBattery session]) none next := by
  cases history with
  | opened readings reads =>
      have ended : SessionHistory reason _ _ _ := .closed (readings ++ [reads])
      rw [endedSessions_concat, List.length_append] at ended
      simpa [endedSession] using ended

theorem ended (history : SessionHistory reason past none next) :
    ∃ readings, past = endedSessions reason readings := by
  cases history with
  | closed readings => exact ⟨readings, rfl⟩

end SessionHistory

namespace Controller

open Activity

structure KeepsSessions (before : Controller) (record : List Effect) (after : Controller) :
    Prop where
  hasBattery : after.host.hasBattery = before.host.hasBattery
  batteryReason : after.host.batteryReason = before.host.batteryReason
  equipped : before.Equipped → after.Equipped
  history : before.Equipped → before.host.hasBattery = true → ∀ past,
    SessionHistory before.host.batteryReason past before.session? before.host.nextSession →
      SessionHistory before.host.batteryReason (past ++ sessionQuestions record) after.session?
        after.host.nextSession
  silent : before.Equipped → before.host.hasBattery = false →
    ∀ effect ∈ record, effect.asks Question.isBattery = false

def keepingSessions : Law Controller where
  holds := KeepsSessions
  idle _ := ⟨rfl, rfl, id, fun _ _ past history => by simpa [sessionQuestions] using history,
    by simp⟩
  join first second :=
    { hasBattery := second.hasBattery.trans first.hasBattery
      batteryReason := second.batteryReason.trans first.batteryReason
      equipped := fun equipped => second.equipped (first.equipped equipped)
      history := by
        intro equipped fitted past history
        have between := first.history equipped fitted past history
        rw [← first.batteryReason] at between ⊢
        rw [sessionQuestions_append, ← List.append_assoc]
        exact second.history (first.equipped equipped) (first.hasBattery.trans fitted) _ between
      silent := by
        intro equipped without effect member
        rcases List.mem_append.mp member with inFirst | inSecond
        · exact first.silent equipped without effect inFirst
        · exact second.silent (first.equipped equipped) (first.hasBattery.trans without) effect
            inSecond }

theorem session?_of_resting {controller : Controller} (resting : controller.isObserving = false) :
    controller.session? = none := by
  have noObservation : controller.observation = none := by simpa [isObserving] using resting
  simp [session?, noObservation]

theorem isSome_session? {controller : Controller} (equipped : controller.Equipped)
    (fitted : controller.host.hasBattery = true) :
    controller.session?.isSome = controller.isObserving := by
  cases observing : controller.isObserving with
  | false => simp [session?_of_resting observing]
  | true => exact (equipped observing).trans fitted

private theorem session?_of_unfitted {controller : Controller} (equipped : controller.Equipped)
    (without : controller.host.hasBattery = false) : controller.session? = none := by
  cases observing : controller.isObserving with
  | false => exact session?_of_resting observing
  | true =>
      have noSession : controller.session?.isSome = false := (equipped observing).trans without
      simpa using noSession

theorem questions_revise (change : Conditions → Conditions) (controller : Controller) :
    ((revise change).run controller).effects.filterMap Effect.question? = [] := by
  apply List.filterMap_eq_nil_iff.mpr
  intro effect member
  rcases List.mem_cons.mp member with rfl | announced
  · rfl
  · rcases mem_changeEffects announced with ⟨line, rfl⟩ | ⟨queue, status, rfl⟩ <;> rfl

private theorem keepsSessions_of_unasking {controller : Controller} {record : List Effect}
    (unasking : ∀ effect ∈ record, effect.question? = none) :
    KeepsSessions controller record controller where
  hasBattery := rfl
  batteryReason := rfl
  equipped := id
  history := by
    intro _ _ past history
    have nothing : record.filterMap Effect.question? = [] := List.filterMap_eq_nil_iff.mpr unasking
    simpa [sessionQuestions, nothing] using history
  silent _ _ effect member := by simp [Effect.asks, unasking effect member]

theorem mayAsk_of_question? {controller : Controller} {effect : Effect}
    (steady : effect.isSteady controller.mayAsk = true) {question : Question}
    (asked : effect.question? = some question) : controller.mayAsk question = true := by
  cases effect with
  | asked exchange =>
      cases asked
      exact steady
  | _ => cases asked

theorem sessionQuestions_of_steady {controller : Controller} {record : List Effect}
    (steady : ∀ effect ∈ record, effect.isSteady controller.mayAsk = true) :
    ∀ question ∈ sessionQuestions record, ∃ opened, controller.session? = some opened ∧
      question = .batteryLevel opened := by
  intro question member
  rcases List.mem_filter.mp member with ⟨asked, inSession⟩
  rcases List.mem_filterMap.mp asked with ⟨effect, inRecord, isAsked⟩
  have may := mayAsk_of_question? (steady effect inRecord) isAsked
  have notPlain : question.isPlain = false := by
    cases question <;> first | rfl | cases inSession
  rw [mayAsk, notPlain, Bool.false_or, Bool.and_eq_true] at may
  exact Question.eq_batteryLevel may.2 inSession

private theorem keepsSessions_of_steady {before after : Controller} {record : List Effect}
    (isSteady : steady.holds before record after) : KeepsSessions before record after := by
  rcases isSteady with ⟨observation, battery, effects⟩
  have sameSession : after.session? = before.session? := by simp [session?, observation]
  have sameObserving : after.isObserving = before.isObserving := by
    simp [isObserving, observation]
  refine ⟨battery.hasBattery, battery.batteryReason, ?_, ?_, ?_⟩
  · intro equipped observing
    rw [sameObserving] at observing
    rw [Host.Equipped, sameSession, battery.hasBattery]
    exact equipped observing
  · intro _ _ past history
    have only := sessionQuestions_of_steady effects
    rw [sameSession, battery.nextSession]
    cases session : before.session? with
    | none =>
        have nothing : sessionQuestions record = [] := by
          apply List.eq_nil_iff_forall_not_mem.mpr
          intro question member
          rcases only question member with ⟨opened, isOpen, -⟩
          rw [session] at isOpen
          cases isOpen
        rw [session] at history
        simpa [nothing] using history
    | some opened =>
        have levels : sessionQuestions record =
            List.replicate (sessionQuestions record).length (.batteryLevel opened) := by
          apply List.eq_replicate_of_mem
          intro question member
          rcases only question member with ⟨other, isOpen, rfl⟩
          rw [session] at isOpen
          cases isOpen
          rfl
        rw [session] at history
        rw [levels]
        exact history.reads _
  · intro equipped without effect member
    cases asked : effect.question? with
    | none => simp [Effect.asks, asked]
    | some question =>
        have may := mayAsk_of_question? (effects effect member) asked
        rw [mayAsk, without, session?_of_unfitted equipped without] at may
        cases question <;>
          simp_all [Effect.asks, Question.isBattery, Question.isSession, Question.isPlain,
            Question.isWatching]

theorem keepsSessions_opening {controller : Controller}
    (resting : controller.isObserving = false) :
    KeepsSessions controller (openObservation.run controller).effects
      (openObservation.run controller).state := by
  have noSession := session?_of_resting resting
  rw [run_openObservation, Host.run_beginBattery]
  cases fitted : controller.host.hasBattery with
  | true =>
      refine ⟨fitted.symm, rfl, fun _ _ => rfl, fun _ _ past history => ?_, ?_⟩
      · rw [noSession] at history
        exact history.begins
      · intro _ without
        rw [fitted] at without
        cases without
  | false =>
      refine ⟨rfl, rfl, fun _ _ => fitted.symm, ?_, ?_⟩
      · intro _ hasBattery
        rw [fitted] at hasBattery
        cases hasBattery
      · simp [Effect.asks, Effect.question?]

theorem keepsSessions_release {controller : Controller} {observation : Observation}
    (held : controller.observation = some observation) :
    KeepsSessions controller ((release observation).run controller).effects
      ((release observation).run controller).state := by
  have observing : controller.isObserving = true := by simp [isObserving, held]
  have sameSession : controller.session? = observation.session := by simp [session?, held]
  rw [run_release, Host.run_endBattery]
  refine ⟨rfl, rfl, fun _ stillObserving => ?_, ?_, ?_⟩
  · cases stillObserving
  · intro equipped fitted past history
    have isOpen := isSome_session? equipped fitted
    rw [observing, sameSession] at isOpen
    rcases Option.isSome_iff_exists.mp isOpen with ⟨opened, session⟩
    rw [sameSession, session] at history
    rw [session]
    exact history.ends
  · intro equipped without
    have noSession := session?_of_unfitted equipped without
    rw [sameSession] at noSession
    simp [noSession, Effect.asks, Effect.question?]

theorem keepingSessions_brackets : Brackets keepingSessions where
  steady := keepsSessions_of_steady
  opening _ resting := keepsSessions_opening resting
  closing controller observing := by
    rcases Option.isSome_iff_exists.mp observing with ⟨observation, held⟩
    rw [run_stopObserving held]
    apply keepingSessions.join (keepsSessions_release held)
    exact keepsSessions_of_unasking (by simp [Effect.question?])

theorem keepingSessions_stages : Stages keepingSessions :=
  keepingSessions_brackets.stages fun controller observing => by
    rcases Option.isSome_iff_exists.mp observing with ⟨observation, held⟩
    rw [run_discard held]
    exact keepsSessions_release held

end Controller

end TransferGate
