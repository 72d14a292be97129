import TransferGate.Gate.Crew
import TransferGate.Proofs.GateRun

/-! # Runs on a single thread

A schedule only decides who goes on next. What happens to its state are the turns of the tasks
and the coming in of callers, so settling obeys every law that these obey. For a gate this means
that whatever comes of tasks on a single thread comes of a run of moves: the moves of the callers,
in their order, with turns of the tasks in between. What holds along every run of a gate holds of
its schedule, too.
-/

namespace TransferGate

open Activity

def Law.scheduled {State Task : Type} (law : Law State) : Law (Schedule State Task) where
  holds before record after := law.holds before.state record after.state
  idle schedule := law.idle schedule.state
  join first second := law.join first second

private theorem run_whileBusy {State : Type} (activity : Activity State Bool) (limit : Nat)
    (state : State) :
    (whileBusy activity (limit + 1)).run state =
      match (activity.run state).value with
      | false => activity.run state
      | true =>
          ⟨true, ((whileBusy activity limit).run (activity.run state).state).state,
            (activity.run state).effects ++
              ((whileBusy activity limit).run (activity.run state).state).effects⟩ := rfl

private theorem Activity.Obeys.whileBusy {State : Type} {law : Law State}
    {activity : Activity State Bool}
    (obeys : Obeys law activity) (limit : Nat) : Obeys law (Activity.whileBusy activity limit) := by
  induction limit with
  | zero => exact .pure false
  | succ limit induction =>
      intro state
      rw [run_whileBusy]
      cases (activity.run state).value with
      | false => exact obeys state
      | true => exact law.join (obeys state) (induction _)

namespace Schedule

variable {State Task Value : Type} {law : Law State}

private theorem rearrange_obeys {change : Schedule State Task → Schedule State Task}
    (same : ∀ schedule, (change schedule).state = schedule.state) :
    Obeys law.scheduled (Activity.modify change) := by
  intro schedule
  have idle := law.idle schedule.state
  change law.holds schedule.state [] (change schedule).state
  rw [same]
  exact idle

variable (crew : Crew State Task)

private theorem state_rejoin [DecidableEq Task] (schedule : Schedule State Task) (task : Task) :
    (schedule.rejoin crew task).state = schedule.state := by
  unfold rejoin
  extract_lets settled
  split <;> rfl

private theorem state_regrouped [DecidableEq Task] (tasks : List Task)
    (schedule : Schedule State Task) :
    (tasks.foldl (rejoin crew) schedule).state = schedule.state := by
  induction tasks generalizing schedule with
  | nil => rfl
  | cons task rest induction => rw [List.foldl_cons, induction, state_rejoin]

private theorem state_tally (effort : Effort) (schedule : Schedule State Task) :
    (schedule.tally effort).state = schedule.state := by
  cases effort <;> rfl

variable [DecidableEq Task]

theorem perform_obeys {activity : Activity State Value} (obeys : Obeys law activity) :
    Obeys law.scheduled (perform crew activity) := by
  intro schedule
  change law.holds schedule.state _ _
  rw [effects_perform, state_perform]
  exact obeys schedule.state

variable {crew}

private theorem goOn_obeys (turns : ∀ task, Obeys law (crew.turn task)) (task : Task) :
    Obeys law.scheduled (goOn crew task) := by
  apply Obeys.bind .get
  intro schedule
  split
  · exact rearrange_obeys fun _ => rfl
  · exact rearrange_obeys fun _ => rfl
  · apply Obeys.bind (perform_obeys crew (turns task))
    intro _
    exact rearrange_obeys (state_tally _)

private theorem regroup_obeys (letIn : Obeys law crew.letIn) :
    Obeys law.scheduled (regroup crew) := by
  have same (schedule : Schedule State Task) := state_regrouped crew schedule.aside
    { schedule with aside := [], passes := 0 }
  apply Obeys.bind (rearrange_obeys same)
  intro _
  exact (perform_obeys crew letIn).bind fun _ => .pure ()

private theorem step_obeys (turns : ∀ task, Obeys law (crew.turn task))
    (letIn : Obeys law crew.letIn) : Obeys law.scheduled (step crew) := by
  apply Obeys.bind .get
  intro schedule
  split
  · exact (goOn_obeys turns _).bind fun _ => .pure true
  · apply (regroup_obeys letIn).bind
    intro _
    exact Obeys.get.bind fun _ => .pure _

/-- Settling does nothing but what the tasks and the callers do. -/
theorem settle_obeys (turns : ∀ task, Obeys law (crew.turn task)) (letIn : Obeys law crew.letIn) :
    Obeys law.scheduled (settle crew) := by
  intro schedule
  exact (step_obeys turns letIn).whileBusy (crew.patience schedule.state)
    { schedule with passes := 0 }

end Schedule

namespace Gate

def turning : Law Gate where
  holds before record after := ∃ turns : List Turn,
    after = before.following (turns.map .turn) ∧ record = before.recordOf (turns.map .turn)
  idle _ := ⟨[], rfl, rfl⟩
  join := by
    rintro before _ _ _ _ ⟨first, rfl, rfl⟩ ⟨second, rfl, rfl⟩
    refine ⟨first ++ second, ?_, ?_⟩
    · rw [List.map_append, following_append]
    · rw [List.map_append, recordOf_append]

private theorem turn_turns (choice : Turn) : Obeys turning (turn choice) := by
  intro gate
  exact ⟨[choice], by simp [Move.perform], by simp [Move.perform]⟩

private theorem letIn_turns : Obeys turning letIn := by
  intro gate
  exact (turn_turns .door).whileBusy gate.door.length gate

private theorem settle_turns (schedule : Schedule Gate Task) :
    turning.holds schedule.state ((Schedule.settle crew).run schedule).effects
      ((Schedule.settle crew).run schedule).state.state := by
  have obeys : Obeys turning.scheduled (Schedule.settle crew) :=
    Schedule.settle_obeys (fun task => turn_turns task.turn) letIn_turns
  exact obeys schedule

/-- What is done with a gate whose tasks share one thread. -/
inductive Deed where
  | act (moves : List Move)
  | settle

def Deed.perform : Deed → Activity (Schedule Gate Task) Unit
  | .act moves => Schedule.perform crew (follow moves)
  | .settle => Schedule.settle crew

def conduct : List Deed → Activity (Schedule Gate Task) Unit
  | [] => return ()
  | deed :: rest => do
      deed.perform
      conduct rest

/-- The moves are those of the deeds, and turns of the tasks where these settle. -/
inductive Weaves : List Deed → List Move → Prop where
  | nothing : Weaves [] []
  | act {deeds : List Deed} {rest : List Move} (moves : List Move) (weaves : Weaves deeds rest) :
      Weaves (.act moves :: deeds) (moves ++ rest)
  | settle {deeds : List Deed} {rest : List Move} (turns : List Turn) (weaves : Weaves deeds rest) :
      Weaves (.settle :: deeds) (turns.map .turn ++ rest)

/-- Whatever is done with a gate on a single thread is a run of the gate. -/
theorem conduct_weaves (deeds : List Deed) (schedule : Schedule Gate Task) :
    ∃ moves, Weaves deeds moves ∧
      ((conduct deeds).run schedule).state.state = schedule.state.following moves ∧
      ((conduct deeds).run schedule).effects = schedule.state.recordOf moves := by
  induction deeds generalizing schedule with
  | nil => exact ⟨[], .nothing, rfl, rfl⟩
  | cons deed rest induction =>
      rcases induction (deed.perform.run schedule).state with ⟨later, weaves, state, effects⟩
      simp only [conduct, run_bind, state, effects]
      cases deed with
      | act moves =>
          refine ⟨moves ++ later, weaves.act moves, ?_, ?_⟩
          · rw [following_append, Deed.perform, Schedule.state_perform]
            rfl
          · rw [recordOf_append, Deed.perform, Schedule.state_perform, Schedule.effects_perform]
            rfl
      | settle =>
          rcases settle_turns schedule with ⟨turns, stateNow, effectsNow⟩
          refine ⟨turns.map .turn ++ later, weaves.settle turns, ?_, ?_⟩
          · rw [following_append, ← stateNow]
            rfl
          · rw [recordOf_append, ← stateNow, ← effectsNow]
            rfl

end Gate

end TransferGate
