import TransferGate.Activity

/-! # Tasks on a single thread

On a single thread, the tasks that are awake stand in line. The first of them
takes turns until it has nothing to do; then it falls asleep, and the next one
goes on. A sleeping task wakes up when there is something for it to do, and joins
the end of the line.

Who wakes up first matters when several do. An effect can have listeners; those
who sleep wake up in the order in which they fell asleep. What is done can have
several effects, which wake their listeners in the order of the effects. Whatever
else there is to do by then wakes the others.

A task may receive only so much in a row. Then it steps aside, even if there is
nothing more for it to do. Those aside come back when nobody is awake, or when
many tasks have gone on without a break: the one that stepped aside last comes
first, and so do callers who have been waiting outside.

One oddity is kept. A task that steps aside while it passes over things it does
not care for goes on listening. So it may be called back early.
-/

namespace TransferGate

inductive Effort where
  | free
  | receipt
  /-- Something is received and passed over, and the next is awaited in the same breath. -/
  | skip
deriving DecidableEq, Repr

structure Crew (State Task : Type) where
  effort? : State → Task → Option Effort
  turn : Task → Activity State Bool
  listens : Task → Effect → Bool
  letIn : Activity State Bool
  /-- A limit for the steps until the tasks rest, meant to be more than they need. -/
  patience : State → Nat

structure Schedule (State Task : Type) where
  state : State
  awake : List Task
  asleep : List Task := []
  /-- The tasks that stepped aside, the latest first. -/
  aside : List Task := []
  received : Nat := 0
  skipping : Bool := false
  passes : Nat := 0

namespace Schedule

variable {State Task Value : Type}

def allowance : Nat := 128

def stretch : Nat := 61

def tally (effort : Effort) (schedule : Schedule State Task) : Schedule State Task :=
  match effort with
  | .free => schedule
  | .receipt => { schedule with received := schedule.received + 1, skipping := false }
  | .skip => { schedule with received := schedule.received + 1, skipping := true }

def advance (schedule : Schedule State Task) : Schedule State Task :=
  { schedule with
    awake := schedule.awake.drop 1
    received := 0
    skipping := false
    passes := schedule.passes + 1 }

def fallAsleep (task : Task) (schedule : Schedule State Task) : Schedule State Task :=
  { schedule.advance with asleep := schedule.asleep ++ [task] }

def stepAside (task : Task) (schedule : Schedule State Task) : Schedule State Task :=
  let listening := if schedule.skipping then [task] else []
  { schedule.advance with
    asleep := schedule.asleep ++ listening
    aside := task :: schedule.aside }

variable (crew : Crew State Task)

def isBusy (schedule : Schedule State Task) (task : Task) : Bool :=
  (crew.effort? schedule.state task).isSome

/-- Those who sleep wake up if they are called and there is something for them to do. -/
def wake (called : Task → Bool) (schedule : Schedule State Task) : Schedule State Task :=
  let split := schedule.asleep.partition fun task => called task && schedule.isBusy crew task
  { schedule with awake := schedule.awake ++ split.1, asleep := split.2 }

@[simp] theorem state_wake (called : Task → Bool) (schedule : Schedule State Task) :
    (schedule.wake crew called).state = schedule.state := rfl

variable [DecidableEq Task]

def wakeAfter (effects : List Effect) (schedule : Schedule State Task) : Schedule State Task :=
  let heard := effects.foldl
    (fun schedule effect => schedule.wake crew fun task => crew.listens task effect) schedule
  heard.wake crew fun task => !heard.aside.contains task

@[simp] theorem state_wakeAfter (effects : List Effect) (schedule : Schedule State Task) :
    (schedule.wakeAfter crew effects).state = schedule.state := by
  rw [wakeAfter, state_wake]
  induction effects generalizing schedule with
  | nil => rfl
  | cons effect rest induction =>
      rw [List.foldl_cons, induction, state_wake]

def perform (activity : Activity State Value) : Activity (Schedule State Task) Value :=
  fun schedule =>
    let outcome := activity.run schedule.state
    ⟨outcome.value, { schedule with state := outcome.state }.wakeAfter crew outcome.effects,
      outcome.effects⟩

theorem state_perform (activity : Activity State Value) (schedule : Schedule State Task) :
    ((perform crew activity).run schedule).state.state = (activity.run schedule.state).state :=
  state_wakeAfter crew _ _

theorem effects_perform (activity : Activity State Value) (schedule : Schedule State Task) :
    ((perform crew activity).run schedule).effects = (activity.run schedule.state).effects := rfl

/-- A task that had stepped aside joins the line, unless it was called back before and is
in line again or has nothing to do. -/
def rejoin (schedule : Schedule State Task) (task : Task) : Schedule State Task :=
  let settled := schedule.asleep.contains task && !schedule.isBusy crew task
  if schedule.awake.contains task || settled then schedule
  else
    { schedule with
      awake := schedule.awake ++ [task]
      asleep := schedule.asleep.filter (· != task) }

/-- A break: those aside come back, and callers come in. -/
def regroup : Activity (Schedule State Task) Unit := do
  Activity.modify fun schedule =>
    schedule.aside.foldl (rejoin crew) { schedule with aside := [], passes := 0 }
  let _ ← perform crew crew.letIn

def goOn (task : Task) : Activity (Schedule State Task) Unit := do
  let schedule ← Activity.get
  match decide (allowance ≤ schedule.received), crew.effort? schedule.state task with
  | true, _ => Activity.modify (stepAside task)
  | false, none => Activity.modify (fallAsleep task)
  | false, some effort => do
      let _ ← perform crew (crew.turn task)
      Activity.modify (tally effort)

def step : Activity (Schedule State Task) Bool := do
  let schedule ← Activity.get
  match decide (stretch ≤ schedule.passes), schedule.awake with
  | false, task :: _ => do
      goOn crew task
      return true
  | _, _ => do
      regroup crew
      return !(← Activity.get).awake.isEmpty

/-- The tasks go on until none of them is awake and nobody can come in. -/
def settle : Activity (Schedule State Task) Unit := fun schedule =>
  let outcome := (Activity.whileBusy (step crew) (crew.patience schedule.state)).run
    { schedule with passes := 0 }
  ⟨(), outcome.state, outcome.effects⟩

end Schedule

end TransferGate
