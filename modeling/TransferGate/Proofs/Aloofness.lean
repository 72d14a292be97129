import TransferGate.Proofs.Backlog
import TransferGate.Proofs.Brackets
import TransferGate.Proofs.GateRun

/-! # What has nothing to do with subscribers

Only the relay and the workers have to do with subscribers: nothing else passes an event on, and
nothing else reports on the relaying.
-/

namespace TransferGate

namespace Effect

/-- Passes an event on, hands it to a subscriber, or reports on that. -/
def concernsSubscribers : Effect → Bool
  | .relayed _ => true
  | .queued _ _ => true
  | .delivered _ _ => true
  | .announced notice => notice.kind.isReport
  | _ => false

private theorem aloof_of_isInquiry {effect : Effect} (inquiry : effect.isInquiry = true) :
    effect.concernsSubscribers = false := by
  cases effect <;> first | rfl | cases inquiry

end Effect

open Activity

namespace Controller

/-! ## Controllers -/

def aloof : Law Controller := .recording fun effect => effect.concernsSubscribers = false

theorem aloof_release (observation : Observation) : Obeys aloof (release observation) := by
  intro controller effect member
  rw [run_release, List.mem_append, List.mem_singleton] at member
  rcases member with ended | rfl
  · exact Effect.aloof_of_isInquiry
      ((Host.endBattery_reads observation.session controller.host).inquiries effect ended)
  · rfl

theorem aloof_brackets : Brackets aloof where
  steady := by
    rintro before record after ⟨-, -, steady⟩ effect member
    have isSteady := steady effect member
    cases effect with
    | announced notice =>
        have kind : notice.kind = .queueStatusChanged := by simpa [Effect.isSteady] using isSteady
        simp [Effect.concernsSubscribers, kind, EventKind.isReport]
    | _ => first | rfl | cases isSteady
  opening := by
    intro controller _ effect member
    rw [run_openObservation, List.mem_cons, List.mem_append] at member
    rcases member with rfl | begun | ending
    · rfl
    · exact Effect.aloof_of_isInquiry
        ((Host.beginBattery_reads controller.host).inquiries effect begun)
    · simp only [List.mem_cons, List.not_mem_nil, or_false] at ending
      rcases ending with rfl | rfl <;> rfl
  closing := by
    intro controller observing effect member
    rcases Option.isSome_iff_exists.mp observing with ⟨observation, held⟩
    rw [run_stopObserving held] at member
    rcases List.mem_append.mp member with released | ending
    · exact aloof_release observation controller effect released
    · simp only [List.mem_cons, List.not_mem_nil, or_false] at ending
      rcases ending with rfl | rfl <;> rfl

theorem aloof_stages : Stages aloof :=
  aloof_brackets.stages fun controller observing => by
    rcases Option.isSome_iff_exists.mp observing with ⟨observation, held⟩
    rw [run_discard held]
    exact aloof_release observation controller

theorem aloof_operation (operation : Operation) (controller : Controller) :
    ∀ effect ∈ (operation.perform.run controller).effects, effect.concernsSubscribers = false :=
  aloof_stages.operation operation controller

theorem aloof_reread (signal : Signal) : Obeys aloof (reread signal) := by
  refine fun controller => update_holds (fun effect member => ?_) fun other =>
    aloof_brackets.steady (steady_revise _ other)
  exact Effect.aloof_of_isInquiry ((Host.readFor_reads _ signal controller.host).inquiries _ member)

end Controller

namespace Gate

open Controller (Operation aloof_operation)

/-! ## Moves that have nothing to do with subscribers -/

def Move.relays : Move → Bool
  | .turn (.relay _) => true
  | .turn (.worker _) => true
  | _ => false

def Aloof (record : List Effect) : Prop :=
  ∀ effect ∈ record, effect.concernsSubscribers = false

namespace Aloof

theorem append {first second : List Effect} (firstAloof : Aloof first)
    (secondAloof : Aloof second) : Aloof (first ++ second) :=
  fun effect member => (List.mem_append.mp member).elim (firstAloof effect) (secondAloof effect)

theorem asides {effects : List Effect} (asides : AreAsides effects) : Aloof effects := by
  intro effect member
  have aside := asides effect member
  cases effect <;> first | rfl | cases aside

theorem readinessChanged (controller : Controller) :
    Aloof (Controller.readinessChanged.run controller).effects :=
  Controller.aloof_reread .appReady controller

theorem logged (line : LogLine) : Aloof [.logged line] := by
  simp [Aloof, Effect.concernsSubscribers]

theorem handleLifecycle (receipt : Receipt) (gate : Gate) :
    Aloof ((handleLifecycle receipt).run gate).effects := by
  cases receipt with
  | lagged missed => exact (logged _).append (readinessChanged gate.controller)
  | event event =>
      simp only [Gate.handleLifecycle]
      split
      · exact readinessChanged gate.controller
      · exact List.forall_mem_nil _

theorem handleObserved (receipt : Receipt) (gate : Gate) :
    Aloof ((handleObserved receipt).run gate).effects := by
  cases receipt with
  | lagged missed =>
      have recovered := aloof_operation (.recover missed) gate.controller
      simp only [Operation.perform, run_map] at recovered
      exact recovered
  | event event =>
      simp only [Gate.handleObserved]
      cases event.kind.observedSignal? with
      | none => exact List.forall_mem_nil _
      | some signal => exact Controller.aloof_reread signal gate.controller

theorem doServerTask (task : ServerTask) (gate : Gate) :
    Aloof ((doServerTask task).run gate).effects := by
  cases task with
  | start =>
      simpa [Gate.doServerTask] using readinessChanged gate.controller
  | stop =>
      have shuttingDown := aloof_operation .shutDown gate.controller
      simp only [Operation.perform, run_map] at shuttingDown
      simp only [Gate.doServerTask, run_stopServer]
      exact .append shuttingDown ((logged .serverStopped).append (.asides (.refusals _)))
  | serve request rest =>
      have serving := aloof_operation (.serve request.request) gate.controller
      simp only [Operation.perform, run_map] at serving
      rw [run_serve]
      exact .append serving (.asides (.answered _ _))
  | lifecycle receipt bus => exact handleLifecycle receipt _
  | observed receipt bus => exact handleObserved receipt _

theorem sendIf (needed : Bool) (request : Request) (gate : Gate) :
    Aloof ((sendIf needed request).run gate).effects :=
  .asides (sendIf_frame needed request gate).2

theorem perform {move : Move} (elsewhere : move.relays = false) (gate : Gate) :
    Aloof (move.perform.run gate).effects := by
  cases move with
  | send request =>
      simp only [Move.perform, run_map]
      exact .asides (send_frame request gate).2
  | quickCheck =>
      rcases run_quickCheck gate with ⟨short, run⟩
      rw [run_bind] at run
      simp only [Move.perform, run_map, run]
      exact .append (aloof_operation .lookAtSpace gate.controller) (sendIf short .refreshSpace _)
  | jobFailed queue failure =>
      simp only [Move.perform, run_map, jobFailed_eq]
      exact sendIf _ .outOfSpace gate
  | requiredBytes =>
      have measured := aloof_operation .requiredBytes gate.controller
      simp only [Operation.perform, run_map] at measured
      simp only [Move.perform, run_map]
      exact measured
  | publish kind =>
      cases kind with
      | signal signal => simp [Aloof, run_publish_signal, Effect.concernsSubscribers,
          Notice.signal, EventKind.isReport]
      | _ => exact List.forall_mem_nil _
  | changeSources change =>
      have replaced := aloof_operation (.replaceSources change) gate.controller
      simp only [Operation.perform, run_map] at replaced
      simp only [Move.perform, run_map]
      exact replaced
  | hear =>
      simp only [Move.perform, run_map, Gate.hear, run_bind, run_get]
      cases gate.bus.receive .outside <;> exact List.forall_mem_nil _
  | abandon =>
      have discarded := aloof_operation .discard gate.controller
      simp only [Operation.perform, run_map] at discarded
      simp only [Move.perform, run_map, run_abandon]
      exact .append discarded (.asides (.refusals _))
  | turn choice =>
      simp only [Move.perform, run_map]
      cases choice with
      | door =>
          simp only [Gate.turn, run_doorTurn]
          split
          · exact List.forall_mem_nil _
          · split <;> exact List.forall_mem_nil _
      | server =>
          simp only [Gate.turn, serverTurn, run_bind, run_get]
          cases gate.serverTask? with
          | none => exact List.forall_mem_nil _
          | some task => simpa using doServerTask task gate
      | relay stopFirst => cases elsewhere
      | worker index => cases elsewhere
  | _ => exact List.forall_mem_nil _

end Aloof

end Gate

end TransferGate
