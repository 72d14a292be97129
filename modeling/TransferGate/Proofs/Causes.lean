import TransferGate.Failure

/-! # The search along the causes

Whoever looks for a shortage of space goes from a failure down to its cause, to the cause of
that, and so on: `Failure.link?` counts these steps. What matters is whether one of the failures
met on the way says itself that storage is full, `Failure.ReportsFull`.

How a failure is wrapped decides what is met. Wrappers that name what they wrap add a step and
change nothing else, and those that conceal it end the search. Input/output failures that carry
a failure, and shared ones, stand in for what they wrap: the search passes it by and goes on with
what is strictly below it, `Failure.FullFrom 1`.
-/

namespace TransferGate

private theorem SystemCode.kind_eq_storageFull (code : SystemCode) :
    code.kind = some .storageFull ↔ code = ⟨28⟩ := by
  constructor
  · intro isFull
    have number : code.number = 28 := by
      unfold kind at isFull
      split at isFull <;> first | assumption | cases isFull
    exact congrArg SystemCode.mk number
  · rintro rfl
    rfl

namespace Failure

/-- What is met after so many steps down, if the causes go down that far. -/
def link? (failure : Failure) : Nat → Option Failure
  | 0 => some failure
  | depth + 1 => (failure.link? depth).bind cause

inductive ReportsFull : Failure → Prop where
  | kind : ReportsFull (.io .storageFull)
  | system : ReportsFull (.system ⟨28⟩)
  | message (message : String) : ReportsFull (.ioMessage .storageFull message)
  | carrying (carried : Failure) : ReportsFull (.ioCarrying .storageFull carried)

/-- A failure that says that storage is full is met after `start` steps, or later. -/
def FullFrom (failure : Failure) (start : Nat) : Prop :=
  ∃ depth link, start ≤ depth ∧ failure.link? depth = some link ∧ link.ReportsFull

inductive Layer where
  | host (message : String)
  | read
deriving DecidableEq, Repr

def Layer.over : Layer → Failure → Failure
  | .host message, failure => .causedBy message failure
  | .read, failure => .ioRead failure

def beneath (failure : Failure) (layers : List Layer) : Failure := layers.foldr Layer.over failure

/-! ## The steps down are the chain -/

private theorem link?_succ (failure : Failure) (depth : Nat) :
    failure.link? (depth + 1) = failure.cause.bind fun cause => cause.link? depth := by
  induction depth with
  | zero => simp [link?]
  | succ depth induction =>
      rw [link?, induction, Option.bind_assoc]
      rfl

private theorem link?_eq_chain (failure : Failure) (depth : Nat) :
    failure.link? depth = failure.chain[depth]? := by
  induction depth generalizing failure with
  | zero => rfl
  | succ depth induction =>
      rw [link?_succ, chain, List.getElem?_cons_succ, causes_eq]
      cases failure.cause with
      | none => rfl
      | some cause => exact induction cause

example : (((Failure.io .storageFull).beneath [.read, .host "backup"]).link? 2) =
    some (.io .storageFull) := rfl
example : (Failure.ioCarrying .other (.io .storageFull)).link? 1 = none := rfl

private theorem reportsFull_iff (failure : Failure) :
    failure.ReportsFull ↔ failure.ioKind = some .storageFull := by
  constructor
  · rintro (_ | _ | _ | _) <;> rfl
  · intro isFull
    cases failure with
    | io kind =>
        cases isFull
        exact .kind
    | system code =>
        cases code.kind_eq_storageFull.mp isFull
        exact .system
    | ioMessage kind message =>
        cases isFull
        exact .message message
    | ioCarrying kind carried =>
        cases isFull
        exact .carrying carried
    | _ => cases isFull

private theorem fullFrom_zero_iff (failure : Failure) :
    failure.FullFrom 0 ↔ ∃ link ∈ failure.chain, link.ReportsFull := by
  constructor
  · rintro ⟨depth, link, -, met, isFull⟩
    rw [link?_eq_chain] at met
    exact ⟨link, List.mem_of_getElem? met, isFull⟩
  · rintro ⟨link, member, isFull⟩
    rcases List.mem_iff_getElem?.mp member with ⟨depth, met⟩
    exact ⟨depth, link, Nat.zero_le depth, (failure.link?_eq_chain depth).trans met, isFull⟩

private theorem fullFrom_one_iff (failure : Failure) :
    failure.FullFrom 1 ↔ ∃ cause, failure.cause = some cause ∧ cause.FullFrom 0 := by
  constructor
  · rintro ⟨depth, link, later, met, isFull⟩
    rcases Nat.exists_eq_add_of_le' later with ⟨rest, rfl⟩
    rw [link?_succ] at met
    rcases Option.bind_eq_some_iff.mp met with ⟨cause, named, metLater⟩
    exact ⟨cause, named, rest, link, Nat.zero_le _, metLater, isFull⟩
  · rintro ⟨cause, named, depth, link, -, met, isFull⟩
    have metBelow : failure.link? (depth + 1) = some link := by
      rw [link?_succ, named]
      exact met
    exact ⟨depth + 1, link, Nat.le_add_left .., metBelow, isFull⟩

private theorem isOutOfSpace_iff_fullFrom (failure : Failure) :
    failure.isOutOfSpace = true ↔ failure.FullFrom 0 := by
  simp only [isOutOfSpace_iff, fullFrom_zero_iff, reportsFull_iff]

/-- Either the failure itself says it, or the search goes on below. -/
theorem isOutOfSpace_iff_below (failure : Failure) :
    failure.isOutOfSpace = true ↔ failure.ReportsFull ∨ failure.FullFrom 1 := by
  rw [isOutOfSpace, Bool.or_eq_true, fullFrom_one_iff, reportsFull_iff, isStorageFull, beq_iff_eq]
  apply or_congr_right
  cases failure.cause with
  | none => simp
  | some cause => simp [isOutOfSpace_iff_fullFrom]

/-! ## Wrappers -/

private theorem isOutOfSpace_over (layer : Layer) (failure : Failure) :
    (layer.over failure).isOutOfSpace = failure.isOutOfSpace := by
  cases layer <;> rw [Layer.over, isOutOfSpace] <;> rfl

private theorem isOutOfSpace_beneath (failure : Failure) (layers : List Layer) :
    (failure.beneath layers).isOutOfSpace = failure.isOutOfSpace := by
  induction layers with
  | nil => rfl
  | cons layer rest induction => exact (isOutOfSpace_over layer _).trans induction

private theorem fullFrom_one_congr {left right : Failure} (same : left.cause = right.cause) :
    left.FullFrom 1 ↔ right.FullFrom 1 := by
  rw [fullFrom_one_iff, fullFrom_one_iff, same]

/-- The search for a shortage of space, from a failure and from whatever it is wrapped in. -/
structure Searched (failure : Failure) : Prop where
  ends : ∀ depth, failure.link? depth = none ↔ failure.chain.length ≤ depth
  finds : failure.isOutOfSpace = true ↔ failure.FullFrom 0
  /-- Any number of wrappers that name what they wrap change nothing. -/
  named : ∀ layers, (failure.beneath layers).isOutOfSpace = failure.isOutOfSpace
  /-- Whatever is concealed is not found. -/
  concealed : ∀ message layers,
    ((Failure.concealing message failure).beneath layers).isOutOfSpace = false
  /-- A shared failure is not recognised itself, but what is strictly below it is. -/
  shared : ¬(Failure.shared failure).ReportsFull ∧
    ((Failure.shared failure).isOutOfSpace = true ↔ failure.FullFrom 1)
  /-- So is what is strictly below a carried failure, unless the kind says it all. -/
  carried : ∀ kind, (Failure.ioCarrying kind failure).isOutOfSpace = true ↔
    kind = .storageFull ∨ failure.FullFrom 1

/-- Space has run out exactly if the search along the causes meets a failure that says so. -/
theorem outOfSpace_searched (failure : Failure) : failure.Searched where
  ends depth := by rw [link?_eq_chain, List.getElem?_eq_none_iff]
  finds := failure.isOutOfSpace_iff_fullFrom
  named := failure.isOutOfSpace_beneath
  concealed message layers := by
    rw [isOutOfSpace_beneath, isOutOfSpace]
    rfl
  shared := by
    have notFull : ¬(Failure.shared failure).ReportsFull := by
      intro isFull
      cases isFull
    constructor
    · exact notFull
    · rw [isOutOfSpace_iff_below, or_iff_right notFull]
      exact fullFrom_one_congr rfl
  carried kind := by
    have below : (Failure.ioCarrying kind failure).FullFrom 1 ↔ failure.FullFrom 1 :=
      fullFrom_one_congr rfl
    rw [isOutOfSpace_iff_below, below, reportsFull_iff, ioKind, Option.some.injEq]

end Failure

end TransferGate
