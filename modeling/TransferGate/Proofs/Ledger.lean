import Mathlib.Data.List.Induction
import Mathlib.Data.List.Nodup
import Mathlib.Data.List.Perm.Subperm
import TransferGate.Proofs.RequestSteps

/-! # The ledger of requests

`Gate.Ledger` is what the steps of a run amount to: every request that was sent has
been served, waits, or was refused. The server works on the requests in the order in which they
have entered the line.
-/

namespace TransferGate

open Controller (Operation)

theorem Controller.serve_ne_closed (request : Request) (controller : Controller) :
    ((serve request).run controller).value ≠ .closed := by
  cases request <;> simp [serve]

namespace Gate

open Activity

def sent (steps : List Step) : List Ticketed := steps.filterMap Step.sent?

def entered (steps : List Step) : List Ticketed := steps.flatMap Step.entered

def served (steps : List Step) : List Ticketed := steps.filterMap Step.served?

def answers (steps : List Step) : List (Nat × Reply) := steps.flatMap Step.answers

def Step.reply? (step : Step) : Option (Nat × Reply) :=
  step.served?.map fun request => (request.ticket, (step.serving request).value)

def replies (steps : List Step) : List (Nat × Reply) := steps.filterMap Step.reply?

def refusal (request : Ticketed) : Nat × Reply := (request.ticket, .closed)

/-- Every request that was sent has been served, waits, or was refused. -/
structure Ledger (steps : List Step) (gate : Gate) : Prop where
  tickets : (sent steps).map Ticketed.ticket = List.range gate.nextTicket
  settled : ∃ refused : List Ticketed,
    (sent steps).Perm (served steps ++ (gate.line ++ (gate.door ++ refused))) ∧
      (answers steps).Perm (replies steps ++ refused.map refusal)
  inOrder : served steps <+: entered steps
  running : gate.server ≠ .stopped → entered steps = served steps ++ gate.line
  known : (entered steps).Subperm (sent steps)
  closed : gate.server = .stopped → gate.line = [] ∧ gate.door = []

theorem ledger_nil {gate : Gate} (line : gate.line = []) (door : gate.door = [])
    (nextTicket : gate.nextTicket = 0) : Ledger [] gate where
  tickets := by simp [sent, nextTicket]
  settled := ⟨[], by simp [sent, served, line, door], by simp [answers, replies]⟩
  inOrder := List.prefix_rfl
  running _ := by simp [entered, served, line]
  known := by simp [entered]
  closed _ := ⟨line, door⟩

private theorem perm_insert {Item : Type} {whole first second : List Item}
    (settled : whole.Perm (first ++ second)) (item : Item) :
    (whole ++ [item]).Perm (first ++ [item] ++ second) := by
  refine (settled.append_right [item]).trans ?_
  rw [List.append_assoc, List.append_assoc]
  exact List.perm_append_comm.append_left first

private theorem filterMap_concat {Item Result : Type} (pick : Item → Option Result)
    (items : List Item) (item : Item) :
    (items ++ [item]).filterMap pick = items.filterMap pick ++ (pick item).toList := by
  rw [List.filterMap_append, List.filterMap_cons]
  cases pick item <;> rfl

section

variable (steps : List Step) (step : Step)

private theorem sent_concat : sent (steps ++ [step]) = sent steps ++ step.sent?.toList :=
  filterMap_concat ..

private theorem served_concat : served (steps ++ [step]) = served steps ++ step.served?.toList :=
  filterMap_concat ..

private theorem replies_concat : replies (steps ++ [step]) = replies steps ++ step.reply?.toList :=
  filterMap_concat ..

private theorem entered_concat : entered (steps ++ [step]) = entered steps ++ step.entered := by
  simp [entered]

theorem answers_concat : answers (steps ++ [step]) = answers steps ++ step.answers := by
  simp [answers]

end

namespace Ledger

variable {steps : List Step} {gate : Gate} {refused : List Ticketed}

private theorem of_running (isRunning : gate.server ≠ .stopped)
    (tickets : (sent steps).map Ticketed.ticket = List.range gate.nextTicket)
    (settled : (sent steps).Perm (served steps ++ (gate.line ++ (gate.door ++ refused))))
    (answered : (answers steps).Perm (replies steps ++ refused.map refusal))
    (running : entered steps = served steps ++ gate.line) : Ledger steps gate where
  tickets := tickets
  settled := ⟨refused, settled, answered⟩
  inOrder := by
    rw [running]
    exact List.prefix_append ..
  running _ := running
  known := by
    rw [running]
    rw [← List.append_assoc] at settled
    exact (List.sublist_append_left ..).subperm.trans settled.symm.subperm
  closed stopped := absurd stopped isRunning

private theorem of_stopped (isStopped : gate.server = .stopped) (line : gate.line = [])
    (door : gate.door = [])
    (tickets : (sent steps).map Ticketed.ticket = List.range gate.nextTicket)
    (settled : (sent steps).Perm (served steps ++ refused))
    (answered : (answers steps).Perm (replies steps ++ refused.map refusal))
    (inOrder : served steps <+: entered steps)
    (known : (entered steps).Subperm (sent steps)) : Ledger steps gate where
  tickets := tickets
  settled := ⟨refused, by simpa [line, door] using settled, answered⟩
  inOrder := inOrder
  running goesOn := absurd isStopped goesOn
  known := known
  closed _ := ⟨line, door⟩

end Ledger

private theorem Ledger.step {steps : List Step} (step : Step) (ledger : Ledger steps step.before)
    (handles : step.Handles) : Ledger (steps ++ [step]) step.after := by
  rcases ledger with ⟨tickets, ⟨refused, settled, answered⟩, inOrder, running, known, closed⟩
  have sentMore := sent_concat steps step
  have servedMore := served_concat steps step
  have enteredMore := entered_concat steps step
  have answersMore := answers_concat steps step
  have repliesMore := replies_concat steps step
  cases handles with
  | nothing noneSent noneServed noAnswers line door nextTicket server =>
      have noneEntered : step.entered = [] := by simp [Step.entered, line]
      simp only [noneSent, noneServed, noAnswers, noneEntered, Step.reply?, Option.map_none,
        Option.toList_none, List.append_nil]
        at sentMore servedMore enteredMore answersMore repliesMore
      constructor
      · rw [sentMore, nextTicket, tickets]
      · refine ⟨refused, ?_, ?_⟩
        · rw [sentMore, servedMore, line, door]
          exact settled
        · rw [answersMore, repliesMore]
          exact answered
      · rw [servedMore, enteredMore]
        exact inOrder
      · intro goesOn
        rw [enteredMore, servedMore, line]
        exact running fun stopped => goesOn (server.mpr stopped)
      · rw [enteredMore, sentMore]
        exact known
      · intro stopped
        rw [line, door]
        exact closed (server.mp stopped)
  | accepts request isRunning oneSent noneServed noAnswers waits nextTicket server =>
      simp only [oneSent, noneServed, noAnswers, Step.reply?, Option.map_none,
        Option.toList_none, Option.toList_some, List.append_nil]
        at sentMore servedMore answersMore repliesMore
      apply of_running server
      · rw [sentMore, List.map_append, tickets, nextTicket, List.range_succ]
        rfl
      · rw [sentMore, servedMore]
        rcases waits with ⟨line, door⟩ | ⟨line, door⟩
        · rw [← List.append_assoc] at settled
          simpa [line, door] using perm_insert settled ⟨step.before.nextTicket, request⟩
        · rw [← List.append_assoc, ← List.append_assoc] at settled
          simpa [line, door] using perm_insert settled ⟨step.before.nextTicket, request⟩
      · rw [answersMore, repliesMore]
        exact answered
      · rw [enteredMore, servedMore, running isRunning]
        rcases waits with ⟨line, -⟩ | ⟨line, -⟩ <;> simp [Step.entered, line]
  | refuses request isClosed oneSent noneServed oneAnswer line door nextTicket server =>
      rcases closed isClosed with ⟨noLine, noDoor⟩
      have noneEntered : step.entered = [] := by simp [Step.entered, line]
      simp only [oneSent, noneServed, oneAnswer, noneEntered, Step.reply?, Option.map_none,
        Option.toList_none, Option.toList_some, List.append_nil]
        at sentMore servedMore enteredMore answersMore repliesMore
      rw [noLine, noDoor, List.nil_append, List.nil_append] at settled
      apply of_stopped server (line.trans noLine) (door.trans noDoor)
      · rw [sentMore, List.map_append, tickets, nextTicket, List.range_succ]
        rfl
      · rw [sentMore, servedMore, ← List.append_assoc]
        exact settled.append_right [⟨step.before.nextTicket, request⟩]
      · rw [answersMore, repliesMore, List.map_append, ← List.append_assoc]
        exact answered.append_right [(step.before.nextTicket, .closed)]
      · rw [servedMore, enteredMore]
        exact inOrder
      · rw [enteredMore, sentMore]
        exact known.trans (List.sublist_append_left _ _).subperm
  | comesIn first noneSent noneServed noAnswers line door nextTicket server =>
      have oneEntered : step.entered = [first] := by simp [Step.entered, line]
      simp only [noneSent, noneServed, noAnswers, oneEntered, Step.reply?, Option.map_none,
        Option.toList_none, List.append_nil]
        at sentMore servedMore enteredMore answersMore repliesMore
      have isRunning : step.before.server ≠ .stopped := fun stopped => by
        rw [(closed stopped).2] at door
        cases door
      apply of_running (by rw [server]; exact isRunning)
      · rw [sentMore, nextTicket, tickets]
      · rw [sentMore, servedMore, line]
        simpa [door] using settled
      · rw [answersMore, repliesMore]
        exact answered
      · rw [enteredMore, servedMore, line, running isRunning, List.append_assoc]
  | serves request isRunning noneSent oneServed oneAnswer line door nextTicket server =>
      have noneEntered : step.entered = [] := by simp [Step.entered, line]
      simp only [noneSent, oneServed, oneAnswer, noneEntered, Step.reply?, Option.map_some,
        Option.toList_none, Option.toList_some, List.append_nil]
        at sentMore servedMore enteredMore answersMore repliesMore
      apply of_running server
      · rw [sentMore, nextTicket, tickets]
      · rw [sentMore, servedMore, door]
        simpa [line] using settled
      · rw [answersMore, repliesMore]
        exact perm_insert answered _
      · rw [enteredMore, servedMore, running isRunning, line]
        simp
  | stops noneSent noneServed someAnswers line door nextTicket server =>
      have noneEntered : step.entered = [] := by simp [Step.entered, line]
      simp only [noneSent, noneServed, someAnswers, noneEntered, Step.reply?, Option.map_none,
        Option.toList_none, List.append_nil]
        at sentMore servedMore enteredMore answersMore repliesMore
      have swapped : (step.before.line ++ (step.before.door ++ refused)).Perm
          (refused ++ (step.before.line ++ step.before.door)) := by
        rw [← List.append_assoc]
        exact List.perm_append_comm
      have allRefused : (refused ++ (step.before.line ++ step.before.door)).map refusal =
          refused.map refusal ++ (step.before.line ++ step.before.door).map refusal :=
        List.map_append
      apply of_stopped server line door
      · rw [sentMore, nextTicket, tickets]
      · rw [sentMore, servedMore]
        exact settled.trans (swapped.append_left (served steps))
      · rw [answersMore, repliesMore, allRefused, ← List.append_assoc]
        exact answered.append_right _
      · rw [servedMore, enteredMore]
        exact inOrder
      · rw [enteredMore, sentMore]
        exact known

theorem Ledger.follow {gate : Gate} (ledger : Ledger [] gate) (moves : List Move) :
    Ledger (gate.steps moves) (gate.following moves) := by
  induction moves using List.reverseRecOn with
  | nil => exact ledger
  | append_singleton moves move induction =>
      rw [steps_concat, following_concat]
      exact Ledger.step ⟨gate.following moves, move⟩ induction (Step.handles _)

end Gate

end TransferGate
