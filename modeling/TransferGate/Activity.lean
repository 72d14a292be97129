import TransferGate.Host.Sources
import TransferGate.LogLine
import TransferGate.Request

/-! # Activities and their effects

An activity changes a state, yields a value, and leaves a record of everything
it did towards the outside, in the order in which it did it. Nothing outside is
simulated: whoever runs the activity reads the record. Two things in the record
are not seen from outside: that the conditions changed, and that the host changed.
They say when that happened in relation to everything else.

Activities compose by running one after the other, which concatenates their
records. An activity on a part of a state becomes one on the whole state by
`Activity.on`.
-/

namespace TransferGate

inductive Effect where
  | asked (exchange : Exchange)
  | logged (line : LogLine)
  | revised (conditions : Conditions)
  /-- The sources of the host gave way to these. -/
  | replaced (sources : Sources)
  | announced (notice : Notice)
  /-- The receiver of observed signals took its seat on the bus. -/
  | attached
  | detached
  | answered (ticket : Nat) (reply : Reply)
  /-- An event from the bus was passed on to the subscribers. -/
  | relayed (event : Event)
  | queued (subscriber : Nat) (event : Event)
  | delivered (subscriber : Nat) (event : Event)

namespace Effect

def exchange? : Effect → Option Exchange
  | .asked exchange => some exchange
  | _ => none

def line? : Effect → Option LogLine
  | .logged line => some line
  | _ => none

def notice? : Effect → Option Notice
  | .announced notice => some notice
  | _ => none

end Effect

structure Outcome (State Value : Type) where
  value : Value
  state : State
  effects : List Effect

def Activity (State Value : Type) : Type := State → Outcome State Value

namespace Activity

variable {State Part Value Next : Type}

def run (activity : Activity State Value) (state : State) : Outcome State Value :=
  activity state

instance : Monad (Activity State) where
  pure value := fun state => ⟨value, state, []⟩
  bind activity rest := fun state =>
    let first := activity.run state
    let second := (rest first.value).run first.state
    ⟨second.value, second.state, first.effects ++ second.effects⟩

def get : Activity State State := fun state => ⟨state, state, []⟩

def set (state : State) : Activity State Unit := fun _ => ⟨(), state, []⟩

def modify (change : State → State) : Activity State Unit := fun state => ⟨(), change state, []⟩

def emit (effect : Effect) : Activity State Unit := fun state => ⟨(), state, [effect]⟩

def log (line : LogLine) : Activity State Unit := emit (.logged line)

def announce (notice : Notice) : Activity State Unit := emit (.announced notice)

def on (part : State → Part) (replace : Part → State → State) (activity : Activity Part Value) :
    Activity State Value := fun state =>
  let outcome := activity.run (part state)
  ⟨outcome.value, replace outcome.state state, outcome.effects⟩

def eachFrom (activity : Nat → Activity Part Unit) (number : Nat) :
    List Part → Outcome (List Part) Unit
  | [] => ⟨(), [], []⟩
  | part :: rest =>
      let first := (activity number).run part
      let others := eachFrom activity (number + 1) rest
      ⟨(), first.state :: others.state, first.effects ++ others.effects⟩

def onEach (activity : Nat → Activity Part Unit) : Activity (List Part) Unit :=
  eachFrom activity 0

/-- Runs an activity until it reports that it had nothing to do, at most `limit`
times, and tells whether it ever had something to do. -/
def whileBusy (activity : Activity State Bool) : Nat → Activity State Bool
  | 0 => pure false
  | limit + 1 => fun state =>
      let first := activity.run state
      match first.value with
      | false => first
      | true =>
          let others := (whileBusy activity limit).run first.state
          ⟨true, others.state, first.effects ++ others.effects⟩

@[simp] theorem run_pure (value : Value) (state : State) :
    (pure value : Activity State Value).run state = ⟨value, state, []⟩ := rfl

@[simp] theorem run_bind (activity : Activity State Value) (rest : Value → Activity State Next)
    (state : State) :
    (activity >>= rest).run state =
      ⟨((rest (activity.run state).value).run (activity.run state).state).value,
        ((rest (activity.run state).value).run (activity.run state).state).state,
        (activity.run state).effects ++
          ((rest (activity.run state).value).run (activity.run state).state).effects⟩ := rfl

@[simp] theorem run_map (transform : Value → Next) (activity : Activity State Value)
    (state : State) :
    (transform <$> activity).run state =
      ⟨transform (activity.run state).value, (activity.run state).state,
        (activity.run state).effects⟩ := by
  change (⟨_, _, _ ++ []⟩ : Outcome State Next) = _
  rw [List.append_nil]
  rfl

@[simp] theorem run_get (state : State) : (get : Activity State State).run state =
    ⟨state, state, []⟩ := rfl

@[simp] theorem run_set (next state : State) : (set next).run state = ⟨(), next, []⟩ := rfl

@[simp] theorem run_modify (change : State → State) (state : State) :
    (modify change).run state = ⟨(), change state, []⟩ := rfl

@[simp] theorem run_emit (effect : Effect) (state : State) :
    (emit effect).run state = ⟨(), state, [effect]⟩ := rfl

@[simp] theorem run_log (line : LogLine) (state : State) :
    (log line).run state = ⟨(), state, [.logged line]⟩ := rfl

@[simp] theorem run_announce (notice : Notice) (state : State) :
    (announce notice).run state = ⟨(), state, [.announced notice]⟩ := rfl

@[simp] theorem run_on (part : State → Part) (replace : Part → State → State)
    (activity : Activity Part Value) (state : State) :
    (on part replace activity).run state =
      ⟨(activity.run (part state)).value, replace (activity.run (part state)).state state,
        (activity.run (part state)).effects⟩ := rfl

theorem bind_assoc (activity : Activity State Value) (rest : Value → Activity State Next)
    (last : Next → Activity State Part) :
    activity >>= rest >>= last = activity >>= fun value => rest value >>= last := by
  funext state
  change Activity.run _ state = Activity.run _ state
  simp only [run_bind, List.append_assoc]

theorem map_id (activity : Activity State Value) : id <$> activity = activity := by
  funext state
  exact run_map id activity state

instance : LawfulMonad (Activity State) :=
  LawfulMonad.mk' (Activity State) map_id (fun _ _ => rfl) bind_assoc

end Activity

end TransferGate
