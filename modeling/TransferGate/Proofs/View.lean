import TransferGate.Proofs.Stages

/-! # What matters to a queue

Uploads do not depend on free space and on whether downloads are suspended, and downloads
do not depend on what is allowed on cellular data. `seenBy` blanks out what does not
matter to a queue, so two states that differ in nothing else look the same: to uploads,
the states of hosts that differ in the space or in the suspension of downloads only.

`Activity.Agree` relates two activities that cannot be told apart by whoever sees only
what matters to a queue. Activities that agree compose.
-/

namespace TransferGate

def Conditions.seenBy (conditions : Conditions) : Queue → Conditions
  | .upload =>
      { conditions with
        downloadsSuspended := none
        freeBytes := none
        requiredBytes := none
        ranOutOfSpace := false }
  | .download => { conditions with cellularAllowed := none }

def Sources.seenBy (sources : Sources) : Queue → Sources
  | .upload =>
      { sources with
        suspended := ⟨sources.suspended.upload, .always (.ok false)⟩
        freeSpace := .always (.ok 0)
        maxDownload := .always 0 }
  | .download => { sources with cellularAllowed := .always (.ok false) }

/-- That the requirement has been computed says that the size of downloads was asked for. -/
def Requirement.seenBy (requirement : Requirement) : Queue → Requirement
  | .upload => { requirement with known := none }
  | .download => requirement

def Host.seenBy (host : Host) (queue : Queue) : Host :=
  { host with
    sources := host.sources.seenBy queue
    requirement := host.requirement.seenBy queue }

def Controller.seenBy (controller : Controller) (queue : Queue) : Controller where
  conditions := controller.conditions.seenBy queue
  observation := controller.observation
  host := controller.host.seenBy queue

def Question.isHiddenFrom : Question → Queue → Bool
  | .maxDownload, .upload => true
  | .lookUp .freeSpace, .upload => true
  | .lookUp (.isSuspended .download), .upload => true
  | .lookUp .cellularAllowed, .download => true
  | _, _ => false

/-- A change of the status of the queue, or that observing started or stopped. -/
def Notice.isSeenBy (notice : Notice) (queue : Queue) : Bool :=
  notice.isStatusChangeFor queue || notice.kind == .observationStarted ||
    notice.kind == .observationStopped

def seen (queue : Queue) (record : List Effect) : List Notice :=
  (record.filterMap Effect.notice?).filter fun notice => notice.isSeenBy queue

theorem seen_append (queue : Queue) (first second : List Effect) :
    seen queue (first ++ second) = seen queue first ++ seen queue second := by
  simp [seen]

/-! ## Looking the same -/

private theorem Conditions.status_seenBy (conditions : Conditions) (queue : Queue) :
    (conditions.seenBy queue).status queue = conditions.status queue := by
  cases queue <;> rfl

theorem Conditions.status_congr {left right : Conditions} {queue : Queue}
    (same : left.seenBy queue = right.seenBy queue) : left.status queue = right.status queue := by
  rw [← left.status_seenBy, same, right.status_seenBy]

theorem Conditions.allEmpty_seenBy (conditions : Conditions) (queue : Queue) :
    (conditions.seenBy queue).allEmpty = conditions.allEmpty := by
  cases queue <;> rfl

theorem Conditions.empty_seenBy (conditions : Conditions) (queue : Queue) :
    (conditions.seenBy queue).empty = conditions.empty := by
  cases queue <;> rfl

theorem Sources.seenBy_read (sources : Sources) (question : Question) (queue : Queue) :
    (sources.read question).2.seenBy queue =
      ((sources.seenBy queue).read question).2.seenBy queue := by
  cases question with
  | lookUp lookup =>
      cases lookup with
      | pendingCount other limit => cases queue <;> cases other <;> rfl
      | hasReadyWork other => cases queue <;> cases other <;> rfl
      | isSuspended other => cases queue <;> cases other <;> rfl
      | _ => cases queue <;> rfl
  | _ => cases queue <;> rfl

theorem Sources.answer_seenBy (sources : Sources) {question : Question} {queue : Queue}
    (matters : question.isHiddenFrom queue = false) :
    (sources.read question).1 = ((sources.seenBy queue).read question).1 := by
  cases question with
  | lookUp lookup =>
      cases lookup with
      | isSuspended other => cases queue <;> cases other <;> first | rfl | cases matters
      | _ => cases queue <;> first | rfl | cases matters
  | _ => cases queue <;> first | rfl | cases matters

theorem Host.seenBy_eq_iff {left right : Host} {queue : Queue} :
    left.seenBy queue = right.seenBy queue ↔
      left.sources.seenBy queue = right.sources.seenBy queue ∧
        left.hasBattery = right.hasBattery ∧ left.batteryReason = right.batteryReason ∧
        left.requirement.seenBy queue = right.requirement.seenBy queue ∧
        left.nextSession = right.nextSession := by
  simp [seenBy]

theorem Controller.seenBy_eq_iff {left right : Controller} {queue : Queue} :
    left.seenBy queue = right.seenBy queue ↔
      left.conditions.seenBy queue = right.conditions.seenBy queue ∧
        left.observation = right.observation ∧ left.host.seenBy queue = right.host.seenBy queue := by
  simp [seenBy]

/-! ## Activities that agree -/

namespace Activity

variable {State View Left Right LeftNext RightNext : Type}

/-- Begun in states that look the same, the activities leave states that look the same, announce
the same to those who care for the queue, and yield related values. -/
def Agree (queue : Queue) (view : State → View) (related : Left → Right → Prop)
    (left : Activity State Left) (right : Activity State Right) : Prop :=
  ∀ first second, view first = view second →
    view (left.run first).state = view (right.run second).state ∧
      seen queue (left.run first).effects = seen queue (right.run second).effects ∧
      related (left.run first).value (right.run second).value

namespace Agree

variable {queue : Queue} {view : State → View} {related : Left → Right → Prop}
  {relatedNext : LeftNext → RightNext → Prop}

theorem pure {left : Left} {right : Right} (values : related left right) :
    Agree queue view related (Pure.pure left) (Pure.pure right) :=
  fun _ _ same => ⟨same, rfl, values⟩

theorem get : Agree queue view (fun left right => view left = view right)
    (Activity.get : Activity State State) Activity.get :=
  fun _ _ same => ⟨same, rfl, same⟩

theorem bind {left : Activity State Left} {right : Activity State Right}
    {leftRest : Left → Activity State LeftNext} {rightRest : Right → Activity State RightNext}
    (first : Agree queue view related left right)
    (second : ∀ leftValue rightValue, related leftValue rightValue →
      Agree queue view relatedNext (leftRest leftValue) (rightRest rightValue)) :
    Agree queue view relatedNext (left >>= leftRest) (right >>= rightRest) := by
  intro leftState rightState same
  rcases first leftState rightState same with ⟨between, firstSeen, values⟩
  rcases second _ _ values _ _ between with ⟨after, secondSeen, nextValues⟩
  refine ⟨after, ?_, nextValues⟩
  rw [run_bind, run_bind, seen_append, seen_append, firstSeen, secondSeen]

theorem map {left : Activity State Left} {right : Activity State Right}
    {leftTransform : Left → LeftNext} {rightTransform : Right → RightNext}
    (agree : Agree queue view related left right)
    (values : ∀ leftValue rightValue, related leftValue rightValue →
      relatedNext (leftTransform leftValue) (rightTransform rightValue)) :
    Agree queue view relatedNext (leftTransform <$> left) (rightTransform <$> right) := by
  intro leftState rightState same
  rcases agree leftState rightState same with ⟨after, told, result⟩
  rw [run_map, run_map]
  exact ⟨after, told, values _ _ result⟩

theorem emit (effect : Effect) : Agree queue view (fun _ _ => True)
    (Activity.emit effect : Activity State Unit) (Activity.emit effect) :=
  fun _ _ same => ⟨same, rfl, trivial⟩

theorem modify {change : State → State}
    (same : ∀ left right, view left = view right → view (change left) = view (change right)) :
    Agree queue view (fun _ _ => True) (Activity.modify change) (Activity.modify change) :=
  fun left right looksSame => ⟨same left right looksSame, rfl, trivial⟩

theorem weaken {weaker : Left → Right → Prop} {left : Activity State Left}
    {right : Activity State Right} (agree : Agree queue view related left right)
    (weakens : ∀ leftValue rightValue, related leftValue rightValue →
      weaker leftValue rightValue) : Agree queue view weaker left right := by
  intro leftState rightState same
  rcases agree leftState rightState same with ⟨after, told, values⟩
  exact ⟨after, told, weakens _ _ values⟩

end Agree

end Activity

end TransferGate
