import TransferGate.Proofs.HostAgreement

/-! # Operations agree

Every operation of the controller agrees with itself: to whoever cares for one queue, it
does the same whether or not the states differ in something that does not matter to the
queue.
-/

namespace TransferGate

open Activity

variable {queue : Queue}

namespace Controller

open Host (ChangeAlike)

abbrev Agrees (queue : Queue) (related : Left → Right → Prop) (left : Activity Controller Left)
    (right : Activity Controller Right) : Prop :=
  Agree queue (fun controller : Controller => controller.seenBy queue) related left right

theorem onHost_agrees {Left Right : Type} {related : Left → Right → Prop}
    {left : Activity Host Left} {right : Activity Host Right}
    (agree : Host.Agrees queue related left right) :
    Agrees queue related (onHost left) (onHost right) := by
  intro first second same
  rcases seenBy_eq_iff.mp same with ⟨conditions, observation, host⟩
  rcases agree first.host second.host host with ⟨after, told, values⟩
  exact ⟨seenBy_eq_iff.mpr ⟨conditions, observation, after⟩, told, values⟩

theorem seen_changes (queue : Queue) (before after : Conditions) :
    seen queue ((before.changes after).flatMap changeEffects) =
      if before.status queue = after.status queue then []
      else [.statusChanged queue (after.status queue)] := by
  by_cases upload : before.status .upload = after.status .upload <;>
    by_cases download : before.status .download = after.status .download <;>
    cases queue <;>
    simp [Conditions.changes, Queue.all, upload, download] <;> rfl

theorem revise_agrees {left right : Conditions → Conditions} (alike : ChangeAlike queue left right) :
    Agrees queue (fun _ _ => True) (revise left) (revise right) := by
  intro first second same
  rcases seenBy_eq_iff.mp same with ⟨conditions, observation, host⟩
  have after := alike _ _ conditions
  refine ⟨seenBy_eq_iff.mpr ⟨after, observation, host⟩, ?_, trivial⟩
  rw [run_revise, run_revise]
  change seen queue (List.flatMap _ _) = seen queue (List.flatMap _ _)
  rw [seen_changes, seen_changes, Conditions.status_congr conditions,
    Conditions.status_congr after]

theorem update_agrees {reading : Option Nat → Activity Host (Conditions → Conditions)}
    (agree : ∀ session, Host.Agrees queue (ChangeAlike queue) (reading session) (reading session)) :
    Agrees queue (fun _ _ => True) (update reading) (update reading) := by
  apply Agree.get.bind
  intro first second same
  have session : first.session? = second.session? := by
    rw [session?, session?, (seenBy_eq_iff.mp same).2.1]
  rw [session]
  apply (onHost_agrees (agree _)).bind
  intro left right alike
  apply (revise_agrees alike).bind
  intro _ _ _
  exact .pure trivial

abbrev AgreesWithItself (queue : Queue) (activity : Activity Controller Value) : Prop :=
  Agrees queue (fun _ _ => True) activity activity

theorem then_agrees {Value Next : Type} {activity : Activity Controller Value}
    {rest : Value → Activity Controller Next} (first : AgreesWithItself queue activity)
    (second : ∀ left right, Agrees queue (fun _ _ => True) (rest left) (rest right)) :
    AgreesWithItself queue (activity >>= rest) :=
  first.bind fun left right _ => second left right

theorem get_agrees {Value : Type} {rest : Controller → Activity Controller Value}
    (agree : ∀ left right : Controller, left.seenBy queue = right.seenBy queue →
      Agrees queue (fun _ _ => True) (rest left) (rest right)) :
    AgreesWithItself queue (Activity.get >>= rest) :=
  Agree.get.bind agree

/-! ## Stages -/

theorem reread_agrees (signal : Signal) : AgreesWithItself queue (reread signal) :=
  update_agrees fun session => Host.readFor_agrees session signal

theorem refresh_agrees : AgreesWithItself queue refresh := update_agrees Host.readAll_agrees

theorem recordOutOfSpace_agrees (ranOut : Bool) :
    AgreesWithItself queue (recordOutOfSpace ranOut) := by
  apply then_agrees
  · exact revise_agrees (.of_seen fun _ => by cases queue <;> rfl)
  · exact fun _ _ => .pure trivial

theorem openObservation_agrees : AgreesWithItself queue openObservation := by
  apply then_agrees (.emit _)
  intro _ _
  apply (onHost_agrees Host.beginBattery_agrees).bind
  rintro session _ rfl
  apply Agree.bind
  · apply Agree.modify
    intro left right same
    rcases seenBy_eq_iff.mp same with ⟨conditions, -, host⟩
    exact seenBy_eq_iff.mpr ⟨conditions, rfl, host⟩
  · intro _ _ _
    exact (Agree.emit _).bind fun _ _ _ => .emit _

theorem ensureObserving_agrees : AgreesWithItself queue ensureObserving := by
  apply get_agrees
  intro left right same
  rw [(seenBy_eq_iff.mp same).2.1]
  cases right.observation with
  | none => exact openObservation_agrees
  | some observation => exact .pure trivial

theorem startObserving_agrees : AgreesWithItself queue startObserving :=
  then_agrees ensureObserving_agrees fun _ _ => refresh_agrees

theorem release_agrees (observation : Observation) :
    AgreesWithItself queue (release observation) := by
  apply then_agrees
  · apply Agree.modify
    intro left right same
    rcases seenBy_eq_iff.mp same with ⟨conditions, -, host⟩
    exact seenBy_eq_iff.mpr ⟨conditions, rfl, host⟩
  · intro _ _
    exact (onHost_agrees (Host.endBattery_agrees _)).bind fun _ _ _ => .emit _

theorem stopObserving_agrees : AgreesWithItself queue stopObserving := by
  apply get_agrees
  intro left right same
  rw [(seenBy_eq_iff.mp same).2.1]
  cases right.observation with
  | none => exact .pure trivial
  | some observation =>
      exact then_agrees (release_agrees observation) fun _ _ =>
        (Agree.emit _).bind fun _ _ _ => .emit _

theorem discard_agrees : AgreesWithItself queue discard := by
  apply get_agrees
  intro left right same
  rw [(seenBy_eq_iff.mp same).2.1]
  cases right.observation with
  | none => exact .pure trivial
  | some observation => exact release_agrees observation

private theorem allEmpty_of_seenBy {left right : Controller}
    (same : left.seenBy queue = right.seenBy queue) :
    left.conditions.allEmpty = right.conditions.allEmpty := by
  have conditions := (seenBy_eq_iff.mp same).1
  rw [← Conditions.allEmpty_seenBy _ queue, conditions, Conditions.allEmpty_seenBy]

theorem followWork_agrees (isEmpty : Bool) : AgreesWithItself queue (followWork isEmpty) := by
  apply get_agrees
  intro left right same
  rw [allEmpty_of_seenBy same]
  cases isEmpty <;> cases right.conditions.allEmpty
  · exact .pure trivial
  · exact startObserving_agrees
  · exact stopObserving_agrees
  · exact .pure trivial

theorem lookAtQueues_agrees :
    Agrees queue (fun left right => left.empty = right.empty) lookAtQueues lookAtQueues := by
  apply (onHost_agrees Host.probeQueues_agrees).bind
  rintro left right ⟨empty, suspended⟩
  apply Agree.bind
  · apply revise_agrees
    cases queue with
    | upload => exact .of_hidden (fun _ => rfl) fun _ => rfl
    | download =>
        rw [suspended rfl]
        exact .of_seen fun _ => rfl
  · intro _ _ _
    exact .pure empty

theorem observeIfNeeded_agrees : AgreesWithItself queue observeIfNeeded := by
  apply lookAtQueues_agrees.bind
  intro left right empty
  have allEmpty : left.allEmpty = right.allEmpty := by
    rw [QueueProbe.allEmpty, QueueProbe.allEmpty, empty]
  rw [allEmpty, empty]
  apply then_agrees (followWork_agrees _)
  intro _ _
  apply then_agrees
  · exact revise_agrees (.of_seen fun _ => by cases queue <;> rfl)
  · exact fun _ _ => .pure trivial

theorem currentStatus_agrees (which : Queue) : AgreesWithItself queue (currentStatus which) :=
  Agree.get.map fun _ _ _ => trivial

theorem emptied_agrees (which : Queue) : AgreesWithItself queue (emptied which) := by
  apply then_agrees
  · exact revise_agrees (.of_seen fun _ => by cases queue <;> rfl)
  · intro _ _
    apply get_agrees
    intro left right same
    rw [allEmpty_of_seenBy same]
    cases right.conditions.allEmpty with
    | true => exact stopObserving_agrees
    | false => exact .pure trivial

theorem outOfSpace_agrees : AgreesWithItself queue outOfSpace :=
  then_agrees (recordOutOfSpace_agrees true) fun _ _ => currentStatus_agrees .download

private theorem isObserving_of_seenBy {left right : Controller}
    (same : left.seenBy queue = right.seenBy queue) : left.isObserving = right.isObserving := by
  rw [isObserving, isObserving, (seenBy_eq_iff.mp same).2.1]

theorem rereadIfObserving_agrees (signal : Signal) :
    AgreesWithItself queue (rereadIfObserving signal) := by
  apply get_agrees
  intro left right same
  rw [isObserving_of_seenBy same]
  cases right.isObserving with
  | true => exact reread_agrees signal
  | false => exact .pure trivial

theorem receive_agrees (kind : EventKind) : AgreesWithItself queue (receive kind) := by
  cases kind with
  | signal signal =>
      cases signal with
      | appReady => exact reread_agrees .appReady
      | _ => exact rereadIfObserving_agrees _
  | _ => exact .pure trivial

theorem refreshIfObserving_agrees : AgreesWithItself queue refreshIfObserving := by
  apply get_agrees
  intro left right same
  rw [isObserving_of_seenBy same]
  cases right.isObserving with
  | true => exact refresh_agrees
  | false => exact .pure trivial

/-! ## Operations -/

theorem map_agrees {Value Next : Type} {activity : Activity Controller Value}
    {transform : Value → Next} (agree : AgreesWithItself queue activity) :
    AgreesWithItself queue (transform <$> activity) :=
  agree.map fun _ _ _ => trivial

private theorem serve_alike (request : Request) : AgreesWithItself queue (serve request) := by
  cases request with
  | status which => exact map_agrees (currentStatus_agrees which)
  | begin which =>
      exact map_agrees (then_agrees observeIfNeeded_agrees fun _ _ => currentStatus_agrees which)
  | retry =>
      exact then_agrees (then_agrees (reread_agrees _) fun _ _ => recordOutOfSpace_agrees false)
        fun _ _ => .pure trivial
  | emptied which => exact then_agrees (emptied_agrees which) fun _ _ => .pure trivial
  | refreshSpace =>
      exact map_agrees (then_agrees (reread_agrees _) fun _ _ => currentStatus_agrees .download)
  | outOfSpace => exact map_agrees outOfSpace_agrees
  | conditions => exact Agree.get.map fun _ _ _ => trivial
  | isObserving => exact Agree.get.map fun _ _ _ => trivial

theorem replaceSources_agrees {left right : Sources → Sources}
    (same : ∀ first second : Sources, first.seenBy queue = second.seenBy queue →
      (left first).seenBy queue = (right second).seenBy queue) :
    Host.Agrees queue (fun _ _ => True) (Host.replaceSources left) (Host.replaceSources right) := by
  intro first second looksSame
  rcases Host.seenBy_eq_iff.mp looksSame with ⟨sources, others⟩
  exact ⟨Host.seenBy_eq_iff.mpr ⟨same _ _ sources, others⟩, rfl, trivial⟩

/-- The operations are the same, but sources may be replaced differently as long as that does not
matter to the queue. -/
inductive Operation.Alike (queue : Queue) : Operation → Operation → Prop where
  | same (operation : Operation) (fixed : ∀ change, operation ≠ .replaceSources change) :
      Alike queue operation operation
  | replaceSources {left right : Sources → Sources}
      (same : ∀ first second : Sources, first.seenBy queue = second.seenBy queue →
        (left first).seenBy queue = (right second).seenBy queue) :
      Alike queue (.replaceSources left) (.replaceSources right)

theorem perform_alike {left right : Operation} (alike : Operation.Alike queue left right) :
    Agrees queue (fun _ _ => True) left.perform right.perform := by
  cases alike with
  | replaceSources same =>
      exact (onHost_agrees (replaceSources_agrees same)).map fun _ _ _ => trivial
  | same _ fixed =>
      cases left with
      | serve request => exact map_agrees (serve_alike request)
      | jobFailed which failure =>
          rcases jobFailed_cases which failure with nothing | ⟨-, ranOut⟩
          · simp only [Operation.perform, nothing]
            exact map_agrees (.pure trivial)
          · simp only [Operation.perform, ranOut]
            exact map_agrees (map_agrees outOfSpace_agrees)
      | freeSpaceChanged => exact map_agrees (reread_agrees _)
      | readinessChanged => exact map_agrees (reread_agrees _)
      | receive kind => exact map_agrees (receive_agrees kind)
      | recover missed =>
          exact map_agrees (then_agrees (.emit _) fun _ _ => refreshIfObserving_agrees)
      | requiredBytes =>
          exact (onHost_agrees Host.requiredBytes_agrees).map fun _ _ _ => trivial
      | lookAtSpace =>
          apply (onHost_agrees Host.requiredBytes_agrees).bind
          intro _ _ _
          apply (onHost_agrees (Host.lookUp_agrees .freeSpace)).bind
          intro _ _ _
          exact .pure trivial
      | replaceSources change => exact absurd rfl (fixed change)
      | shutDown => exact map_agrees (then_agrees (.emit _) fun _ _ => stopObserving_agrees)
      | discard => exact map_agrees discard_agrees

end Controller

end TransferGate
