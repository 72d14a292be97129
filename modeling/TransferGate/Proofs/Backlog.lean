import TransferGate.Proofs.BusLog

/-! # Backlogs

What a receiver has not read yet grows with every announcement. No operation of the
controller announces more than seven notices, so on a bus with eight slots a receiver that
has read everything does not lag because of one operation.
-/

namespace TransferGate

namespace Bus

section

variable {Seat : Type} [DecidableEq Seat] {bus next : Bus Seat} {log : List Event} {seat : Seat}

/-- What the receiver on the seat has not read of the log. -/
def unread (bus : Bus Seat) (log : List Event) (seat : Seat) : List Event :=
  match bus.cursor? seat with
  | none => []
  | some cursor => log.drop cursor

theorem unread_of_cursor? {cursor : Nat} (seated : bus.cursor? seat = some cursor) :
    bus.unread log seat = log.drop cursor := by
  rw [unread, seated]

theorem unread_of_free (free : bus.cursor? seat = none) : bus.unread log seat = [] := by
  rw [unread, free]

@[simp] theorem unread_nil (bus : Bus Seat) (seat : Seat) : bus.unread [] seat = [] := by
  unfold unread
  cases bus.cursor? seat <;> simp

theorem unread_congr (same : next.cursor? seat = bus.cursor? seat) :
    next.unread log seat = bus.unread log seat := by
  rw [unread, unread, same]

theorem Keeps.unread_of_receive (keeps : bus.Keeps log)
    (near : (bus.unread log seat).length ≤ bus.slots) {receipt : Receipt}
    (received : bus.receive seat = some (receipt, next)) :
    ∃ event, receipt = .event event ∧
      bus.unread log seat = event :: next.unread log seat := by
  rcases cursor?_of_receive received with ⟨cursor, seated⟩
  rw [unread_of_cursor? seated] at near ⊢
  rcases keeps.receive seated received with ⟨event, rfl, found, rfl⟩ | ⟨missed, -, behind, -⟩
  · refine ⟨event, rfl, ?_⟩
    rcases List.getElem?_eq_some_iff.mp found with ⟨inside, isEvent⟩
    rw [unread_of_cursor? (bus.cursor?_moveTo_self seat (cursor + 1)),
      List.drop_eq_getElem_cons inside, isEvent]
  · rw [List.length_drop, ← keeps.sent] at near
    omega

theorem Keeps.unread_of_nothing (keeps : bus.Keeps log) (nothing : bus.receive seat = none) :
    bus.unread log seat = [] := by
  cases seated : bus.cursor? seat with
  | none => exact unread_of_free seated
  | some cursor =>
      rw [unread_of_cursor? seated, keeps.cursor_of_receive_none seated nothing, List.drop_length]

theorem Keeps.unread_concat (keeps : bus.Keeps log) (event : Event) (seat : Seat) :
    bus.unread (log ++ [event]) seat =
      if (bus.cursor? seat).isSome then bus.unread log seat ++ [event] else [] := by
  cases seated : bus.cursor? seat with
  | none => exact unread_of_free seated
  | some cursor =>
      rw [unread_of_cursor? seated, unread_of_cursor? seated]
      exact List.drop_append_of_le_length (keeps.cursor?_le seated)

end

variable {bus : Bus Seat} {log : List Event}

private theorem Keeps.unread_subscribe (keeps : bus.Keeps log) (seat other : Seat) :
    (bus.subscribe seat).unread log other <:+ bus.unread log other := by
  by_cases same : other = seat
  · subst same
    have seated : (bus.subscribe other).cursor? other = some bus.sent :=
      bus.cursor?_moveTo_self other bus.sent
    rw [unread_of_cursor? seated, keeps.sent, List.drop_length]
    exact List.nil_suffix
  · have elsewhere : (bus.subscribe seat).cursor? other = bus.cursor? other :=
      bus.cursor?_moveTo_other bus.sent same
    simp only [unread_congr elsewhere, List.suffix_rfl]

private theorem unread_leave (bus : Bus Seat) (log : List Event) (seat other : Seat) :
    (bus.leave seat).unread log other <:+ bus.unread log other := by
  by_cases same : other = seat
  · subst same
    rw [unread_of_free (bus.cursor?_leave_self other)]
    exact List.nil_suffix
  · simp only [unread_congr (bus.cursor?_leave_other same), List.suffix_rfl]

private theorem Keeps.unread_absorb (keeps : bus.Keeps log) (somebody : bus.cursors ≠ [])
    (effect : Effect) : ∃ more, (bus.absorb effect).Keeps (log ++ more) ∧
      more.map Event.toNotice = effect.notice?.toList ∧
      ∀ seat, (bus.absorb effect).unread (log ++ more) seat <:+ bus.unread log seat ++ more := by
  cases effect with
  | announced notice =>
      refine ⟨[bus.eventOf notice], keeps.publish notice somebody, rfl, fun seat => ?_⟩
      have seated : (bus.absorb (.announced notice)).cursor? seat = bus.cursor? seat :=
        bus.cursor?_publish notice seat
      rw [unread_congr seated, keeps.unread_concat]
      split
      · exact List.suffix_rfl
      · exact List.nil_suffix
  | attached =>
      refine ⟨[], ?_, rfl, fun seat => ?_⟩
      · rw [List.append_nil]
        exact (Reseats.subscribe bus .observation).keeps keeps
      · rw [List.append_nil, List.append_nil]
        exact keeps.unread_subscribe .observation seat
  | detached =>
      refine ⟨[], ?_, rfl, fun seat => ?_⟩
      · rw [List.append_nil]
        exact (Reseats.leave bus .observation).keeps keeps
      · rw [List.append_nil, List.append_nil]
        exact bus.unread_leave log .observation seat
  | _ =>
      refine ⟨[], ?_, rfl, fun seat => ?_⟩
      · rw [List.append_nil]
        exact keeps
      · rw [List.append_nil, List.append_nil]
        exact List.suffix_rfl

theorem Keeps.unread_absorbAll (keeps : bus.Keeps log)
    (seated : (bus.cursor? .lifecycle).isSome = true) (effects : List Effect) :
    ∃ more, (bus.absorbAll effects).Keeps (log ++ more) ∧
      more.map Event.toNotice = effects.filterMap Effect.notice? ∧
      ∀ seat, (bus.absorbAll effects).unread (log ++ more) seat <:+ bus.unread log seat ++ more := by
  induction effects generalizing bus log with
  | nil => exact ⟨[], by simpa using keeps, rfl, by simp⟩
  | cons effect rest induction =>
      obtain ⟨first, firstKeeps, firstNotices, firstUnread⟩ :=
        keeps.unread_absorb (cursors_ne_nil seated) effect
      have stillSeated : ((bus.absorb effect).cursor? .lifecycle).isSome = true := by
        rw [bus.cursor?_absorb_other effect (by decide), seated]
      rcases induction firstKeeps stillSeated with ⟨more, restKeeps, restNotices, restUnread⟩
      refine ⟨first ++ more, ?_, ?_, fun seat => ?_⟩
      · rw [← List.append_assoc]
        exact restKeeps
      · rw [List.map_append, firstNotices, restNotices, List.filterMap_cons]
        cases effect.notice? <;> rfl
      · rw [← List.append_assoc, ← List.append_assoc]
        rcases firstUnread seat with ⟨ahead, isFirst⟩
        refine (restUnread seat).trans ⟨ahead, ?_⟩
        rw [← List.append_assoc, isFirst]

theorem slots_publish (bus : Bus Seat) (notice : Notice) :
    (bus.publish notice).slots = bus.slots := by
  unfold publish send issue
  by_cases nobody : bus.cursors.isEmpty = true
  · rw [if_pos nobody]
  · rw [if_neg nobody]

theorem slots_absorbAll (bus : Bus Seat) (effects : List Effect) :
    (bus.absorbAll effects).slots = bus.slots := by
  induction effects generalizing bus with
  | nil => rfl
  | cons effect rest induction =>
      apply (induction (bus.absorb effect)).trans
      cases effect with
      | announced notice => exact bus.slots_publish notice
      | _ => rfl

theorem absorbAll_of_isInquiry (bus : Bus Seat) {effects : List Effect}
    (inquiries : ∀ effect ∈ effects, effect.isInquiry = true) : bus.absorbAll effects = bus := by
  induction effects with
  | nil => rfl
  | cons effect rest induction =>
      have restSame := induction fun other member =>
        inquiries other (List.mem_cons_of_mem _ member)
      have inquiry := inquiries effect (List.mem_cons_self ..)
      cases effect <;> first | exact restSame | cases inquiry

end Bus

/-! ## How much is announced -/

namespace Activity

variable {State Part Value Next : Type}

def AnnouncesAtMost (most : Nat) (activity : Activity State Value) : Prop :=
  ∀ state, ((activity.run state).effects.filterMap Effect.notice?).length ≤ most

namespace AnnouncesAtMost

variable {most more : Nat} {activity : Activity State Value}

theorem pure (value : Value) : AnnouncesAtMost 0 (Pure.pure value : Activity State Value) :=
  fun _ => Nat.le_refl 0

theorem get : AnnouncesAtMost 0 (Activity.get : Activity State State) := fun _ => Nat.le_refl 0

theorem modify (change : State → State) : AnnouncesAtMost 0 (Activity.modify change) :=
  fun _ => Nat.le_refl 0

theorem log (line : LogLine) : AnnouncesAtMost 0 (Activity.log line : Activity State Unit) :=
  fun _ => Nat.le_refl 0

theorem announce (notice : Notice) :
    AnnouncesAtMost 1 (Activity.announce notice : Activity State Unit) :=
  fun _ => Nat.le_refl 1

theorem bind {rest : Value → Activity State Next} (first : AnnouncesAtMost most activity)
    (second : ∀ value, AnnouncesAtMost more (rest value)) :
    AnnouncesAtMost (most + more) (activity >>= rest) := by
  intro state
  rw [run_bind, List.filterMap_append, List.length_append]
  exact Nat.add_le_add (first state) (second _ _)

theorem get_bind {rest : State → Activity State Next}
    (each : ∀ state, AnnouncesAtMost most (rest state)) :
    AnnouncesAtMost most (Activity.get >>= rest) := by
  intro state
  rw [run_bind, run_get]
  exact each state state

theorem map {transform : Value → Next} (first : AnnouncesAtMost most activity) :
    AnnouncesAtMost most (transform <$> activity) := by
  intro state
  rw [run_map]
  exact first state

theorem weaken (first : AnnouncesAtMost most activity) (fewer : most ≤ more) :
    AnnouncesAtMost more activity :=
  fun state => Nat.le_trans (first state) fewer

end AnnouncesAtMost

end Activity

namespace Controller

open Activity

theorem announces_onHost {Value : Type} {activity : Activity Host Value}
    (reads : Obeys Host.reading activity) : AnnouncesAtMost 0 (onHost activity) := by
  intro controller
  rw [run_onHost, Effect.notices_of_isInquiry (reads controller.host).inquiries]
  exact Nat.le_refl 0

theorem notices_changeEffects (changes : List Conditions.StatusChange) :
    (changes.flatMap changeEffects).filterMap Effect.notice? =
      changes.map fun change => .statusChanged change.queue change.becomes := by
  induction changes with
  | nil => rfl
  | cons change rest induction =>
      rw [List.flatMap_cons, List.filterMap_append, induction]
      rfl

theorem announces_revise (change : Conditions → Conditions) :
    AnnouncesAtMost 2 (revise change) := by
  intro controller
  rw [run_revise]
  change (List.filterMap _ (List.flatMap _ _)).length ≤ 2
  rw [notices_changeEffects, List.length_map]
  exact List.length_filterMap_le ..

theorem announces_update {reading : Option Nat → Activity Host (Conditions → Conditions)}
    (reads : ∀ session, Obeys Host.reading (reading session)) :
    AnnouncesAtMost 2 (update reading) :=
  AnnouncesAtMost.get.bind fun _ => (announces_onHost (reads _)).bind fun _ =>
    (announces_revise _).bind fun _ => .pure _

theorem announces_reread (signal : Signal) : AnnouncesAtMost 2 (reread signal) :=
  announces_update fun session => Host.readFor_reads session signal

theorem announces_refresh : AnnouncesAtMost 2 refresh := announces_update Host.readAll_reads

theorem announces_recordOutOfSpace (ranOut : Bool) : AnnouncesAtMost 2 (recordOutOfSpace ranOut) :=
  (announces_revise _).bind fun _ => .pure _

theorem announces_openObservation : AnnouncesAtMost 1 openObservation := by
  have attaches : AnnouncesAtMost 0 (Activity.emit .attached : Activity Controller Unit) :=
    fun _ => Nat.le_refl 0
  have begins := announces_onHost Host.beginBattery_reads
  exact attaches.bind fun _ => begins.bind fun _ => (AnnouncesAtMost.modify _).bind fun _ =>
    (AnnouncesAtMost.log _).bind fun _ => .announce _

theorem announces_ensureObserving : AnnouncesAtMost 1 ensureObserving := by
  apply AnnouncesAtMost.get_bind
  intro controller
  cases controller.observation with
  | none => exact announces_openObservation
  | some _ => exact (AnnouncesAtMost.pure _).weaken (by decide)

theorem announces_startObserving : AnnouncesAtMost 3 startObserving :=
  announces_ensureObserving.bind fun _ => announces_refresh

theorem announces_release (observation : Observation) :
    AnnouncesAtMost 0 (release observation) := by
  have detaches : AnnouncesAtMost 0 (Activity.emit .detached : Activity Controller Unit) :=
    fun _ => Nat.le_refl 0
  have ends := announces_onHost (Host.endBattery_reads observation.session)
  exact (AnnouncesAtMost.modify _).bind fun _ => ends.bind fun _ => detaches

theorem announces_stopObserving : AnnouncesAtMost 1 stopObserving := by
  apply AnnouncesAtMost.get_bind
  intro controller
  cases controller.observation with
  | none => exact (AnnouncesAtMost.pure _).weaken (by decide)
  | some observation =>
      exact (announces_release observation).bind fun _ =>
        (AnnouncesAtMost.log _).bind fun _ => .announce _

theorem announces_followWork (isEmpty : Bool) : AnnouncesAtMost 3 (followWork isEmpty) := by
  apply AnnouncesAtMost.get_bind
  intro controller
  cases isEmpty <;> cases controller.conditions.allEmpty
  · exact (AnnouncesAtMost.pure _).weaken (by decide)
  · exact announces_startObserving
  · exact announces_stopObserving.weaken (by decide)
  · exact (AnnouncesAtMost.pure _).weaken (by decide)

theorem announces_observeIfNeeded : AnnouncesAtMost 7 observeIfNeeded := by
  have looks : AnnouncesAtMost 2 lookAtQueues :=
    (announces_onHost Host.probeQueues_reads).bind fun _ => (announces_revise _).bind fun _ =>
      .pure _
  exact looks.bind fun _ => (announces_followWork _).bind fun _ =>
    (announces_revise _).bind fun _ => .pure _

theorem announces_stopIfAllEmpty : AnnouncesAtMost 1 stopIfAllEmpty := by
  apply AnnouncesAtMost.get_bind
  intro controller
  cases controller.conditions.allEmpty with
  | true => exact announces_stopObserving
  | false => exact (AnnouncesAtMost.pure _).weaken (by decide)

theorem announces_emptied (queue : Queue) : AnnouncesAtMost 3 (emptied queue) :=
  (announces_revise _).bind fun _ => announces_stopIfAllEmpty

theorem announces_outOfSpace : AnnouncesAtMost 2 outOfSpace :=
  (announces_recordOutOfSpace true).bind fun _ => AnnouncesAtMost.get.map

theorem announces_receive (kind : EventKind) : AnnouncesAtMost 2 (receive kind) := by
  have nothing : AnnouncesAtMost 2 (Pure.pure () : Activity Controller Unit) :=
    (AnnouncesAtMost.pure _).weaken (by decide)
  have observed (signal : Signal) : AnnouncesAtMost 2 (rereadIfObserving signal) := by
    apply AnnouncesAtMost.get_bind
    intro controller
    cases controller.isObserving with
    | true => exact announces_reread signal
    | false => exact nothing
  cases kind with
  | signal signal =>
      cases signal with
      | appReady => exact announces_reread .appReady
      | _ => exact observed _
  | _ => exact nothing

theorem announces_retry : AnnouncesAtMost 4 retry :=
  (announces_reread .willEnterForeground).bind fun _ => announces_recordOutOfSpace false

theorem announces_refreshSpace : AnnouncesAtMost 2 refreshSpace :=
  (announces_reread .willEnterForeground).bind fun _ => AnnouncesAtMost.get.map

theorem announces_serve (request : Request) : AnnouncesAtMost 7 (serve request) := by
  have asks {Value : Type} (reply : Controller → Value) :
      AnnouncesAtMost 7 (reply <$> (Activity.get : Activity Controller Controller)) :=
    AnnouncesAtMost.get.map.weaken (by decide)
  have done {most : Nat} {activity : Activity Controller Unit}
      (announces : AnnouncesAtMost most activity) (few : most ≤ 7) :
      AnnouncesAtMost 7 (activity >>= fun _ => (return .done : Activity Controller Reply)) :=
    (announces.bind fun _ => .pure _).weaken few
  cases request with
  | status queue => exact (asks _).map
  | begin queue => exact (announces_observeIfNeeded.bind fun _ => AnnouncesAtMost.get.map).map
  | retry => exact done announces_retry (by decide)
  | emptied queue => exact done (announces_emptied queue) (by decide)
  | refreshSpace => exact announces_refreshSpace.map.weaken (by decide)
  | outOfSpace => exact announces_outOfSpace.map.weaken (by decide)
  | conditions => exact asks _
  | isObserving => exact asks _

end Controller

end TransferGate
