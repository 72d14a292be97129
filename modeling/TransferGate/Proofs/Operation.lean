import TransferGate.Proofs.Reading

/-! # Operations of the controller

An `Operation` is anything that is ever done with a controller, and a run is any
list of operations.
-/

namespace TransferGate

namespace Effect

/-- A line in the log, or a notice that tells neither a signal nor a status. -/
def isRemark : Effect → Bool
  | .logged _ => true
  | .announced notice => !notice.kind.isSignal && notice.kind != .queueStatusChanged
  | _ => false

/-- An effect that says nothing about the controller and its host. -/
def isPassing : Effect → Bool
  | .answered _ _ => true
  | .relayed _ => true
  | .queued _ _ => true
  | .delivered _ _ => true
  | effect => effect.isRemark

theorem isPassing_of_isRemark {effect : Effect} (remark : effect.isRemark = true) :
    effect.isPassing = true := by
  cases effect <;> first | exact remark | cases remark

/-- An effect of something other than a controller and its host. -/
def isForeign : Effect → Bool
  | .announced notice => notice.kind.isReport
  | .logged _ => true
  | .answered _ _ => true
  | .relayed _ => true
  | .queued _ _ => true
  | .delivered _ _ => true
  | _ => false

theorem isPassing_of_isForeign {effect : Effect} (foreign : effect.isForeign = true) :
    effect.isPassing = true := by
  cases effect with
  | announced notice =>
      rcases notice with ⟨kind⟩
      cases kind <;> first | rfl | cases foreign
  | _ => first | rfl | cases foreign

end Effect

namespace Controller

inductive Operation where
  | serve (request : Request)
  | jobFailed (queue : Queue) (failure : Failure)
  | freeSpaceChanged
  | readinessChanged
  | receive (kind : EventKind)
  | recover (missed : Nat)
  | requiredBytes
  /-- A caller compares free space with the requirement, past the controller. -/
  | lookAtSpace
  | replaceSources (change : Sources → Sources)
  | shutDown
  | discard

namespace Operation

def perform : Operation → Activity Controller (Option Reply)
  | .serve request => some <$> Controller.serve request
  | .jobFailed queue failure => Option.map .status <$> Controller.jobFailed queue failure
  | .freeSpaceChanged => (fun _ => none) <$> Controller.freeSpaceChanged
  | .readinessChanged => (fun _ => none) <$> Controller.readinessChanged
  | .receive kind => (fun _ => none) <$> Controller.receive kind
  | .recover missed => (fun _ => none) <$> Controller.recover missed
  | .requiredBytes => (fun _ => none) <$> onHost Host.requiredBytes
  | .lookAtSpace => do
      let _ ← onHost Host.requiredBytes
      let _ ← onHost Host.freeSpace
      return none
  | .replaceSources change => (fun _ => none) <$> onHost (Host.replaceSources change)
  | .shutDown => (fun _ => none) <$> Controller.shutDown
  | .discard => (fun _ => none) <$> Controller.discard

/-- Gives up observing without looking at the queues. -/
def givesUp : Operation → Bool
  | .shutDown => true
  | .discard => true
  | _ => false

def discards : Operation → Bool
  | .discard => true
  | _ => false

/-- Looks at the queues, hears that one is empty, or gives up observing. Nothing else decides
about observing. -/
def decides : Operation → Bool
  | .serve (.begin _) => true
  | .serve (.emptied _) => true
  | .shutDown => true
  | .discard => true
  | _ => false

theorem cases_of_decides (operation : Operation) :
    operation.decides = false ∨ (∃ queue, operation = .serve (.begin queue)) ∨
      (∃ queue, operation = .serve (.emptied queue)) ∨ operation = .shutDown ∨
      operation = .discard := by
  cases operation with
  | serve request => cases request <;> simp [decides]
  | _ => simp [decides]

def request? : Operation → Option Request
  | .serve request => some request
  | _ => none

end Operation

def performAll : List Operation → Activity Controller Unit
  | [] => return ()
  | operation :: rest => do
      let _ ← operation.perform
      performAll rest

@[simp] theorem run_performAll_nil (controller : Controller) :
    (performAll []).run controller = ⟨(), controller, []⟩ := rfl

@[simp] theorem run_performAll_cons (operation : Operation) (rest : List Operation)
    (controller : Controller) :
    (performAll (operation :: rest)).run controller =
      ⟨(), ((performAll rest).run (operation.perform.run controller).state).state,
        (operation.perform.run controller).effects ++
          ((performAll rest).run (operation.perform.run controller).state).effects⟩ := rfl

theorem run_performAll_append (first second : List Operation) (controller : Controller) :
    (performAll (first ++ second)).run controller =
      ⟨(), ((performAll second).run ((performAll first).run controller).state).state,
        ((performAll first).run controller).effects ++
          ((performAll second).run ((performAll first).run controller).state).effects⟩ := by
  induction first generalizing controller with
  | nil => rfl
  | cons operation rest induction =>
      simp only [List.cons_append, run_performAll_cons, induction, List.append_assoc]

def following (controller : Controller) (operations : List Operation) : Controller :=
  ((performAll operations).run controller).state

def recordOf (controller : Controller) (operations : List Operation) : List Effect :=
  ((performAll operations).run controller).effects

theorem following_append (controller : Controller) (first second : List Operation) :
    controller.following (first ++ second) = (controller.following first).following second := by
  rw [following, run_performAll_append]
  rfl

theorem recordOf_append (controller : Controller) (first second : List Operation) :
    controller.recordOf (first ++ second) =
      controller.recordOf first ++ (controller.following first).recordOf second := by
  rw [recordOf, run_performAll_append]
  rfl

theorem jobFailed_cases (queue : Queue) (failure : Failure) :
    jobFailed queue failure = Pure.pure none ∨
      queue = .download ∧ jobFailed queue failure = some <$> outOfSpace := by
  cases queue with
  | upload => exact .inl rfl
  | download =>
      rw [jobFailed]
      cases failure.isOutOfSpace
      · exact .inl rfl
      · exact .inr ⟨rfl, rfl⟩

end Controller

end TransferGate
