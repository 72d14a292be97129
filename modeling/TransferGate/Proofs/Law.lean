import TransferGate.Activity

/-! # Laws of activities

A law relates the state before something was done to the state after it, given
what was recorded in between. Every law allows doing nothing, and doing one thing
after the other. So an activity obeys a law as soon as all its parts do, and a law
that holds of every step holds of every run.
-/

namespace TransferGate

structure Law (State : Type) where
  holds : State → List Effect → State → Prop
  idle : ∀ state, holds state [] state
  join : ∀ {before between after : State} {first second : List Effect},
    holds before first between → holds between second after →
      holds before (first ++ second) after

namespace Law

variable {State : Type}

def recording (allowed : Effect → Prop) : Law State where
  holds _ record _ := ∀ effect ∈ record, allowed effect
  idle _ := by simp
  join first second effect member := by
    rcases List.mem_append.mp member with inFirst | inSecond
    · exact first effect inFirst
    · exact second effect inSecond

theorem holds_of_forall (law : Law State) {state : State} {record : List Effect}
    (each : ∀ effect ∈ record, law.holds state [effect] state) :
    law.holds state record state := by
  induction record with
  | nil => exact law.idle state
  | cons effect rest induction =>
      have restHolds := induction fun other member =>
        each other (List.mem_cons_of_mem effect member)
      exact law.join (each effect (List.mem_cons_self ..)) restHolds

end Law

namespace Activity

variable {State Value Next : Type}

def Obeys (law : Law State) (activity : Activity State Value) : Prop :=
  ∀ state, law.holds state (activity.run state).effects (activity.run state).state

namespace Obeys

variable {law : Law State}

theorem pure (value : Value) : Obeys law (Pure.pure value : Activity State Value) :=
  fun state => law.idle state

theorem get : Obeys law (Activity.get : Activity State State) :=
  fun state => law.idle state

theorem bind {activity : Activity State Value} {rest : Value → Activity State Next}
    (first : Obeys law activity) (second : ∀ value, Obeys law (rest value)) :
    Obeys law (activity >>= rest) := by
  intro state
  rw [run_bind]
  exact law.join (first state) (second _ _)

theorem map {activity : Activity State Value} (transform : Value → Next)
    (obeys : Obeys law activity) : Obeys law (transform <$> activity) := by
  intro state
  rw [run_map]
  exact obeys state

theorem modify {change : State → State} (allowed : ∀ state, law.holds state [] (change state)) :
    Obeys law (Activity.modify change) :=
  allowed

theorem emit {effect : Effect} (allowed : ∀ state, law.holds state [effect] state) :
    Obeys law (Activity.emit effect) :=
  allowed

end Obeys

end Activity

end TransferGate
