import TransferGate.Fanout
import TransferGate.Proofs.Record

/-! # Handing events to subscribers

Whatever the fanout and its workers do leaves behind only what concerns subscribers,
and nothing about the controller, the bus or a reply.
-/

namespace TransferGate

namespace Effect

def isHanding : Effect → Bool
  | .queued _ _ => true
  | .delivered _ _ => true
  | .logged _ => true
  | .announced notice => notice.kind.isReport
  | _ => false

theorem isForeign_of_isHanding {effect : Effect} (handing : effect.isHanding = true) :
    effect.isForeign = true := by
  cases effect <;> first | rfl | exact handing

theorem answer?_of_isHanding {effect : Effect} (handing : effect.isHanding = true) :
    effect.answer? = none := by
  cases effect <;> first | rfl | cases handing

end Effect

def Law.handing {State : Type} : Law State := .recording fun effect => effect.isHanding = true

open Activity

namespace Worker

theorem emit_hands {State : Type} {effect : Effect} (handing : effect.isHanding = true) :
    Obeys (.handing : Law State) (Activity.emit effect) :=
  .emit fun _ => by simpa [Law.handing, Law.recording] using handing

theorem set_hands (worker : Worker) : Obeys .handing (Activity.set worker) :=
  fun _ => Law.handing.idle worker

theorem reportDrop_hands (event : Event) (name reason : String) :
    Obeys .handing (reportDrop event name reason) := by
  unfold reportDrop
  split
  · exact .pure _
  · exact emit_hands rfl

theorem offer_hands (event : Event) (index : Nat) : Obeys .handing (offer event index) := by
  apply Obeys.get.bind
  intro worker
  cases worker.obstacle? with
  | none => exact (set_hands _).bind fun _ => emit_hands rfl
  | some reason => exact reportDrop_hands event _ reason

theorem finish_hands (name : String) (payload : Option PanicPayload) :
    Obeys .handing (finish name payload) := by
  cases payload with
  | none => exact .pure _
  | some payload => exact (emit_hands rfl).bind fun _ => emit_hands rfl

theorem writeLine_hands (line : Option LogLine) : Obeys .handing (writeLine line) := by
  cases line with
  | none => exact .pure _
  | some line => exact emit_hands rfl

theorem doTask_hands (index : Nat) (worker : Worker) (task : Task) :
    Obeys .handing (doTask index worker task) := by
  cases task with
  | resume event permits => exact (set_hands _).bind fun _ => finish_hands _ _
  | fail => exact set_hands _
  | start event rest =>
      refine (emit_hands rfl).bind fun _ => (writeLine_hands _).bind fun _ => ?_
      cases (worker.subscriber.reaction event).waits with
      | true => exact set_hands _
      | false => exact (set_hands _).bind fun _ => finish_hands _ _
  | leave => exact set_hands _

theorem turn_hands (index : Nat) (closed : Bool) : Obeys .handing (turn index closed) := by
  apply Obeys.get.bind
  intro worker
  cases worker.task? closed with
  | none => exact .pure _
  | some task => exact (doTask_hands index worker task).bind fun _ => .pure _

end Worker

namespace Fanout

theorem eachFrom_hands (event : Event) (number : Nat) (workers : List Worker) :
    ∀ effect ∈ (eachFrom (Worker.offer event) number workers).effects,
      effect.isHanding = true := by
  induction workers generalizing number with
  | nil => simp [eachFrom]
  | cons worker rest induction =>
      intro effect member
      rcases List.mem_append.mp member with first | others
      · exact Worker.offer_hands event number worker effect first
      · exact induction (number + 1) effect others

theorem emit_hands (event : Event) : Obeys .handing (emit event) :=
  fun fanout => eachFrom_hands event 0 fanout.workers

theorem workerTurn_hands (index : Nat) : Obeys .handing (workerTurn index) := by
  intro fanout
  change ∀ effect ∈ (workerTurn index fanout).effects, _
  unfold workerTurn
  cases fanout.workers[index]? with
  | none => simp
  | some worker => exact Worker.turn_hands index fanout.closed worker

end Fanout

end TransferGate
