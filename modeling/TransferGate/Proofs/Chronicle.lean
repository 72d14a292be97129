import Mathlib.Data.List.Chain
import Mathlib.Data.List.Induction
import TransferGate.Proofs.Requests

/-! # What is told about statuses

Every change of the conditions is recorded together with the announcements that it
leads to. So a record falls apart into updates and effects that have nothing to do
with statuses: it is a `Chronicle`. From this follows that the statuses announced for
a queue are exactly the statuses that it took on one after the other.
-/

namespace TransferGate

/-! ## Announced statuses -/

def Notice.statusFor? (notice : Notice) (queue : Queue) : Option Status :=
  if notice.isStatusChangeFor queue then notice.status else none

def Effect.statusFor? (queue : Queue) (effect : Effect) : Option Status :=
  effect.notice?.bind fun notice => notice.statusFor? queue

def statusesFor (queue : Queue) (record : List Effect) : List Status :=
  record.filterMap (Effect.statusFor? queue)

@[simp] theorem statusesFor_append (queue : Queue) (first second : List Effect) :
    statusesFor queue (first ++ second) = statusesFor queue first ++ statusesFor queue second :=
  List.filterMap_append

/-- The statuses that were told lead from the earlier status to the later one, and every one
of them was news. -/
structure Recounts (earlier : Status) (told : List Status) (later : Status) : Prop where
  silent : told = [] → later = earlier
  last : ∀ status ∈ told.getLast?, status = later
  first : ∀ status ∈ told.head?, status ≠ earlier
  news : told.IsChain (· ≠ ·)

namespace Recounts

theorem nil (status : Status) : Recounts status [] status :=
  ⟨fun _ => rfl, by simp, by simp, .nil⟩

theorem cons {earlier next later : Status} {told : List Status}
    (rest : Recounts next told later) (differs : next ≠ earlier) :
    Recounts earlier (next :: told) later where
  silent impossible := by cases impossible
  last status isLast := by
    cases told with
    | nil =>
        cases isLast
        exact (rest.silent rfl).symm
    | cons second others =>
        rw [List.getLast?_cons_cons] at isLast
        exact rest.last status isLast
  first status isFirst := by
    cases isFirst
    exact differs
  news :=
    List.isChain_cons.mpr ⟨fun second isSecond => (rest.first second isSecond).symm, rest.news⟩

private theorem getLast?_getD {earlier later : Status} {told : List Status}
    (recounts : Recounts earlier told later) : told.getLast?.getD earlier = later := by
  cases isLast : told.getLast? with
  | none => exact (recounts.silent (List.getLast?_eq_none_iff.mp isLast)).symm
  | some status => exact recounts.last status isLast

end Recounts

/-! ## Updates -/

namespace Conditions

theorem statusesFor_changes (before after : Conditions) (queue : Queue) :
    statusesFor queue ((before.changes after).flatMap Controller.changeEffects) =
      if before.status queue = after.status queue then [] else [after.status queue] := by
  by_cases upload : before.status .upload = after.status .upload <;>
    by_cases download : before.status .download = after.status .download <;>
      cases queue <;>
        simp [changes, Queue.all, upload, download, statusesFor, Controller.changeEffects,
          Effect.statusFor?, Effect.notice?, Notice.statusFor?, Notice.isStatusChangeFor,
          Notice.statusChanged]

end Conditions

namespace Effect

def isPlain : Effect → Bool
  | .revised _ => false
  | .announced notice => notice.kind != .queueStatusChanged
  | _ => true

theorem statusFor?_of_isPlain {effect : Effect} (plain : effect.isPlain = true) (queue : Queue) :
    effect.statusFor? queue = none := by
  cases effect with
  | announced notice =>
      have other : notice.kind ≠ .queueStatusChanged := by simpa [isPlain] using plain
      simp [statusFor?, notice?, Notice.statusFor?, Notice.isStatusChangeFor, other]
  | _ => rfl

theorem isPlain_of_isInquiry {effect : Effect} (inquiry : effect.isInquiry = true) :
    effect.isPlain = true := by
  cases effect <;> first | rfl | cases inquiry

private theorem isPlain_of_isPassing {effect : Effect} (passing : effect.isPassing = true) :
    effect.isPlain = true := by
  cases effect with
  | announced notice =>
      simp only [isPassing, isRemark, Bool.and_eq_true] at passing
      exact passing.2
  | revised conditions => cases passing
  | _ => rfl

def conditions (before : Conditions) : Effect → Conditions
  | .revised after => after
  | _ => before

end Effect

def Conditions.afterAll (conditions : Conditions) (record : List Effect) : Conditions :=
  record.foldl Effect.conditions conditions

@[simp] theorem Conditions.afterAll_append (conditions : Conditions) (first second : List Effect) :
    conditions.afterAll (first ++ second) = (conditions.afterAll first).afterAll second :=
  List.foldl_append

/-- The record consists of whole updates and of plain effects. -/
inductive Chronicle : Conditions → List Effect → Conditions → Prop where
  | done (conditions : Conditions) : Chronicle conditions [] conditions
  | update {before after final : Conditions} {rest : List Effect}
      (later : Chronicle after rest final) :
      Chronicle before
        (.revised after :: ((before.changes after).flatMap Controller.changeEffects ++ rest)) final
  | plain {conditions final : Conditions} {effect : Effect} {rest : List Effect}
      (plain : effect.isPlain = true) (later : Chronicle conditions rest final) :
      Chronicle conditions (effect :: rest) final

/-- The record goes on in the midst of an update. -/
def continuesUpdate : List Effect → Bool
  | .announced notice :: _ => notice.kind == .queueStatusChanged
  | .logged _ :: .announced notice :: _ => notice.kind == .queueStatusChanged
  | _ => false

namespace Chronicle

variable {before between after : Conditions} {record first second : List Effect}

theorem append (earlier : Chronicle before first between) (later : Chronicle between second after) :
    Chronicle before (first ++ second) after := by
  induction earlier with
  | done => exact later
  | update _ induction =>
      rw [List.cons_append, List.append_assoc]
      exact .update (induction later)
  | plain plain _ induction => exact .plain plain (induction later)

private theorem of_plain (conditions : Conditions)
    (plain : ∀ effect ∈ record, effect.isPlain = true) :
    Chronicle conditions record conditions := by
  induction record with
  | nil => exact .done conditions
  | cons effect rest induction =>
      refine .plain (plain effect (List.mem_cons_self ..)) (induction fun other member => ?_)
      exact plain other (List.mem_cons_of_mem _ member)

private theorem afterAll_changes (conditions : Conditions)
    (changes : List Conditions.StatusChange) :
    conditions.afterAll (changes.flatMap Controller.changeEffects) = conditions := by
  induction changes with
  | nil => rfl
  | cons change rest induction =>
      rw [List.flatMap_cons, Conditions.afterAll_append]
      exact induction

private theorem afterAll (chronicle : Chronicle before record after) :
    before.afterAll record = after := by
  induction chronicle with
  | done => rfl
  | @update before after final rest _ induction =>
      change after.afterAll (_ ++ rest) = final
      rw [Conditions.afterAll_append, afterAll_changes, induction]
  | @plain conditions final effect rest plain _ induction =>
      have same : effect.conditions conditions = conditions := by
        cases effect <;> first | rfl | cases plain
      change (effect.conditions conditions).afterAll rest = final
      rw [same, induction]

private theorem recounts (chronicle : Chronicle before record after) (queue : Queue) :
    Recounts (before.status queue) (statusesFor queue record) (after.status queue) := by
  induction chronicle with
  | done conditions => exact .nil _
  | @update before after final rest _ induction =>
      have told := Conditions.statusesFor_changes before after queue
      change Recounts _ (statusesFor queue (_ ++ rest)) _
      rw [statusesFor_append, told]
      by_cases same : before.status queue = after.status queue
      · rw [if_pos same, same]
        exact induction
      · rw [if_neg same]
        exact induction.cons (Ne.symm same)
  | @plain conditions final effect rest plain _ induction =>
      have nothing := effect.statusFor?_of_isPlain plain queue
      rw [statusesFor, List.filterMap_cons_none nothing]
      exact induction

private theorem not_continuesUpdate (chronicle : Chronicle before record after) :
    continuesUpdate record = false := by
  have ofNotice {notice : Notice} (plain : (Effect.announced notice).isPlain = true) :
      (notice.kind == .queueStatusChanged) = false := by
    simpa [Effect.isPlain] using plain
  cases chronicle with
  | done => rfl
  | update later => rfl
  | @plain _ _ effect rest plain later =>
      cases effect with
      | announced notice => exact ofNotice plain
      | logged line =>
          cases later with
          | done => rfl
          | update later => rfl
          | @plain _ _ second others plainSecond later =>
              cases second with
              | announced notice => exact ofNotice plainSecond
              | _ => rfl
      | _ => rfl

private theorem continuesUpdate_of_split {changes : List Conditions.StatusChange}
    {head tail : List Effect}
    (split : changes.flatMap Controller.changeEffects = head ++ tail) (more : tail ≠ [])
    (rest : List Effect) : continuesUpdate (tail ++ rest) = true := by
  induction changes generalizing head with
  | nil =>
      have empty := (List.append_eq_nil_iff.mp split.symm).2
      exact absurd empty more
  | cons change others induction =>
      rw [List.flatMap_cons] at split
      match head with
      | [] =>
          rw [List.nil_append] at split
          subst split
          rfl
      | [first] =>
          rcases List.cons.inj split with ⟨-, rfl⟩
          rfl
      | first :: second :: left =>
          rcases List.cons.inj split with ⟨-, shorter⟩
          rcases List.cons.inj shorter with ⟨-, shorter⟩
          exact induction shorter

private theorem cut (chronicle : Chronicle before (first ++ second) after)
    (whole : continuesUpdate second = false) :
    Chronicle before first (before.afterAll first) ∧
      Chronicle (before.afterAll first) second after := by
  generalize joined : first ++ second = record at chronicle
  induction chronicle generalizing first with
  | done conditions =>
      rcases List.append_eq_nil_iff.mp joined with ⟨rfl, rfl⟩
      exact ⟨.done _, .done _⟩
  | @update before after final rest later induction =>
      cases first with
      | nil =>
          rw [List.nil_append] at joined
          rw [joined]
          exact ⟨.done _, .update later⟩
      | cons effect others =>
          rcases List.cons.inj joined with ⟨rfl, split⟩
          -- The cut is behind the announcements, or else it would be in their midst.
          have behind : ∃ more, others =
              (before.changes after).flatMap Controller.changeEffects ++ more ∧
                more ++ second = rest := by
            rcases List.append_eq_append_iff.mp split with
              ⟨left, announced, rfl⟩ | ⟨more, isOthers, isRest⟩
            · cases left with
              | nil => exact ⟨[], by simp [announced], rfl⟩
              | cons effect left =>
                  have midst := continuesUpdate_of_split announced (by simp) rest
                  rw [midst] at whole
                  cases whole
            · exact ⟨more, isOthers, isRest.symm⟩
          rcases behind with ⟨more, rfl, isRest⟩
          rcases induction isRest with ⟨earlier, later⟩
          have arrived : before.afterAll (.revised after ::
              ((before.changes after).flatMap Controller.changeEffects ++ more)) =
                after.afterAll more := by
            change after.afterAll (_ ++ more) = _
            rw [Conditions.afterAll_append, afterAll_changes]
          rw [arrived]
          exact ⟨.update earlier, later⟩
  | @plain conditions final effect rest plain later induction =>
      cases first with
      | nil =>
          rw [List.nil_append] at joined
          rw [joined]
          exact ⟨.done _, .plain plain later⟩
      | cons head others =>
          rcases List.cons.inj joined with ⟨rfl, split⟩
          rcases induction split with ⟨earlier, later⟩
          have same : head.conditions conditions = conditions := by
            cases head <;> first | rfl | cases plain
          have skipped : conditions.afterAll (head :: others) = conditions.afterAll others := by
            change (head.conditions conditions).afterAll others = _
            rw [same]
          rw [skipped]
          exact ⟨.plain plain earlier, later⟩

end Chronicle

/-- The record tells what has become of the conditions, and the announcements in it tell what
has become of every status. -/
structure TellsStatuses (initial : Conditions) (record : List Effect) (final : Conditions) :
    Prop where
  /-- Between any two moments at which no update is under way. -/
  between : ∀ first middle last queue, record = first ++ (middle ++ last) →
    continuesUpdate (middle ++ last) = false → continuesUpdate last = false →
    Recounts ((initial.afterAll first).status queue) (statusesFor queue middle)
      ((initial.afterAll (first ++ middle)).status queue)
  /-- An update is followed at once by its announcements, and by no others. -/
  updates : ∀ first after rest, record = first ++ .revised after :: rest →
    ∃ others, rest =
        ((initial.afterAll first).changes after).flatMap Controller.changeEffects ++ others ∧
      continuesUpdate others = false
  final : initial.afterAll record = final

theorem Chronicle.tellsStatuses {initial final : Conditions} {record : List Effect}
    (chronicle : Chronicle initial record final) : TellsStatuses initial record final where
  between first middle last queue split wholeMiddle wholeLast := by
    subst split
    have later := (chronicle.cut wholeMiddle).2
    have segment := (later.cut wholeLast).1
    rw [Conditions.afterAll_append]
    exact segment.recounts queue
  updates first after rest split := by
    subst split
    have later := (chronicle.cut rfl).2
    cases later with
    | update later => exact ⟨_, rfl, later.not_continuesUpdate⟩
    | plain plain later => cases plain
  final := chronicle.afterAll

/-- The last status that was announced for the queue, or else the one it had at first. -/
def lastTold (initial : Conditions) (record : List Effect) (queue : Queue) : Status :=
  (statusesFor queue record).getLast?.getD (initial.status queue)

theorem Chronicle.lastTold {initial final : Conditions} {record : List Effect}
    (chronicle : Chronicle initial record final) (queue : Queue) :
    TransferGate.lastTold initial record queue = final.status queue :=
  (chronicle.recounts queue).getLast?_getD

/-! ## Runs -/

namespace Controller

open Activity

def chronicling : Law Controller where
  holds before record after := Chronicle before.conditions record after.conditions
  idle controller := .done controller.conditions
  join first second := first.append second

theorem chronicling_passing (controller : Controller) {effect : Effect}
    (passing : effect.isPassing = true) : chronicling.holds controller [effect] controller :=
  .plain (Effect.isPlain_of_isPassing passing) (.done _)

theorem chronicling_elements : Elements chronicling where
  remark controller _ remark := chronicling_passing controller (Effect.isPassing_of_isRemark remark)
  read _ reads controller := .of_plain _ fun effect member =>
    Effect.isPlain_of_isInquiry ((reads controller.host).inquiries effect member)
  replaceSources _ _ := .plain rfl (.done _)
  revise change controller := by
    have update : Chronicle controller.conditions _ (change controller.conditions) :=
      .update (.done _)
    rw [List.append_nil] at update
    exact update
  openObservation controller := by
    refine .of_plain _ fun effect member => ?_
    rw [run_openObservation, List.mem_cons, List.mem_append] at member
    rcases member with rfl | begun | ending
    · rfl
    · exact Effect.isPlain_of_isInquiry
        ((Host.beginBattery_reads controller.host).inquiries effect begun)
    · simp only [List.mem_cons, List.not_mem_nil, or_false] at ending
      rcases ending with rfl | rfl <;> rfl
  release observation controller := by
    refine .of_plain _ fun effect member => ?_
    rw [run_release, List.mem_append, List.mem_singleton] at member
    rcases member with ended | rfl
    · exact Effect.isPlain_of_isInquiry
        ((Host.endBattery_reads observation.session controller.host).inquiries effect ended)
    · rfl

theorem chronicling_allows : Gate.Allows chronicling where
  stages := chronicling_elements.stages
  foreign controller _ foreign :=
    chronicling_passing controller (Effect.isPassing_of_isForeign foreign)
  signal _ _ := .plain rfl (.done _)

theorem revise_announces (change : Conditions → Conditions) (controller : Controller) :
    ((revise change).run controller).value =
        Queue.all.filter (fun queue =>
          controller.status queue ≠ (((revise change).run controller).state).status queue) ∧
      ((revise change).run controller).effects.filterMap Effect.notice? =
        ((revise change).run controller).value.map fun queue =>
          .statusChanged queue (((revise change).run controller).state.status queue) := by
  simp only [run_revise, status, Conditions.changes, Queue.all]
  by_cases upload : controller.conditions.status .upload =
      (change controller.conditions).status .upload <;>
    by_cases download : controller.conditions.status .download =
      (change controller.conditions).status .download <;>
    simp [upload, download, changeEffects, List.filterMap_cons, Effect.notice?]

end Controller

/-! ## Replies -/

def Request.queue? : Request → Option Queue
  | .status queue => some queue
  | .begin queue => some queue
  | .refreshSpace => some .download
  | .outOfSpace => some .download
  | _ => none

def Controller.Operation.queue? : Controller.Operation → Option Queue
  | .serve request => request.queue?
  | .jobFailed queue _ => some queue
  | _ => none

/-- Any statuses in the reply to a question about this queue are those given. -/
def Reply.Agrees (queue? : Option Queue) (statuses : Queue → Status) : Reply → Prop
  | .status answer => ∃ queue, queue? = some queue ∧ answer = statuses queue
  | .conditions answer => ∀ queue, answer.status queue = statuses queue
  | _ => True

namespace Controller

theorem serve_agrees (request : Request) (controller : Controller) :
    ((serve request).run controller).value.Agrees request.queue?
      ((serve request).run controller).state.status := by
  cases request with
  | status queue => exact ⟨queue, rfl, rfl⟩
  | begin queue => exact ⟨queue, rfl, rfl⟩
  | retry => trivial
  | emptied queue => trivial
  | refreshSpace => exact ⟨.download, rfl, rfl⟩
  | outOfSpace => exact ⟨.download, rfl, rfl⟩
  | conditions => exact fun _ => rfl
  | isObserving => trivial

theorem perform_agrees (operation : Operation) (controller : Controller) {reply : Reply}
    (replied : (operation.perform.run controller).value = some reply) :
    reply.Agrees operation.queue? (operation.perform.run controller).state.status := by
  cases operation with
  | serve request =>
      simp only [Operation.perform, Activity.run_map, Option.some.injEq] at replied ⊢
      subst replied
      exact serve_agrees request controller
  | jobFailed queue failure =>
      simp only [Operation.perform, Activity.run_map] at replied ⊢
      rcases jobFailed_cases queue failure with nothing | ⟨rfl, ranOut⟩
      · rw [nothing] at replied
        cases replied
      · rw [ranOut] at replied ⊢
        cases replied
        exact ⟨.download, rfl, rfl⟩
  | _ => cases replied

end Controller

end TransferGate
