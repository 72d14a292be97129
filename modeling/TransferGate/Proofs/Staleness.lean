import TransferGate.Proofs.Backlog
import TransferGate.Proofs.RequiredSpace
import TransferGate.Proofs.SignalValue

/-! # How much is out of date

Readings fill `Facet`s of the conditions: one for each signal, whether this process does
the transfers, and the space requirement. While the sources do not change, every facet has one
value that any reading of it yields, `Host.facet`. A facet that has another value
is stale, and `Controller.stale` counts those. Rereading makes no facet stale, and it
changes the conditions only by making some facet up to date. Since two statuses at most
change with the conditions, what rereading announces is paid for by the
facets that are stale no more: that is the law `Controller.settling`.
-/

namespace TransferGate

open Activity

/-! ## Sources that do not change -/

namespace Sources

private theorem next_of_later {Value : Type} {feed : Feed Value}
    (constant : feed.later.length = 0) :
    feed.next = feed := by
  rw [Feed.next, List.eq_nil_of_length_eq_zero constant]

private theorem set_get {Value : Type} (values : PerQueue Value) (queue : Queue) :
    values.set queue (values.get queue) = values := by
  cases queue <;> rfl

private theorem read_of_constant {sources : Sources} (constant : sources.changesLeft = 0)
    (question : Question) : (sources.read question).2 = sources := by
  simp only [changesLeft, queueChangesLeft, Nat.add_eq_zero_iff] at constant
  obtain ⟨⟨⟨⟨⟨⟨⟨⟨⟨⟨⟨mainApp, appReady⟩, registered⟩, wifi⟩, cellular⟩, maxDownload⟩, freeSpace⟩,
    lowPower⟩, batteryLevel⟩, queues⟩, ⟨uploadPending, uploadReady⟩, uploadSuspended⟩,
    ⟨downloadPending, downloadReady⟩, downloadSuspended⟩ := constant
  have pending (queue : Queue) : (sources.pending.get queue).next = sources.pending.get queue :=
    next_of_later (by cases queue <;> assumption)
  have ready (queue : Queue) : (sources.ready.get queue).next = sources.ready.get queue :=
    next_of_later (by cases queue <;> assumption)
  have suspended (queue : Queue) :
      (sources.suspended.get queue).next = sources.suspended.get queue :=
    next_of_later (by cases queue <;> assumption)
  cases question with
  | lookUp lookup => cases lookup <;>
      simp [read, lookUp, next_of_later, set_get, *]
  | _ => simp [read, next_of_later, *]

private theorem afterAll_of_constant {sources : Sources} (constant : sources.changesLeft = 0)
    {record : List Effect} (inquiries : ∀ effect ∈ record, effect.isInquiry = true) :
    sources.afterAll record = sources := by
  induction record with
  | nil => rfl
  | cons effect rest induction =>
      have others := induction fun other member => inquiries other (List.mem_cons_of_mem _ member)
      have inquiry := inquiries effect (List.mem_cons_self ..)
      rw [afterAll_cons]
      cases effect with
      | asked exchange => rw [after, read_of_constant constant, others]
      | logged line => exact others
      | _ => cases inquiry

end Sources

namespace Host

theorem Reads.sources_of_constant {before after : Host} {record : List Effect}
    (reads : Reads before record after) (constant : before.sources.changesLeft = 0) :
    after.sources = before.sources :=
  reads.sources.trans (Sources.afterAll_of_constant constant reads.inquiries)

def required (host : Host) : UInt64 :=
  host.requirement.known.getD (host.requirement.bytesFor host.sources.maxDownload.current)

theorem value_requiredBytes (host : Host) : (requiredBytes.run host).value = host.required := by
  rw [run_requiredBytes, required]
  cases host.requirement.known <;> rfl

/-! ## Facets -/

end Host

/-- A part of the conditions that readings fill. -/
inductive Facet where
  | about (signal : Signal)
  | primary
  | required

namespace Facet

def all : List Facet := Signal.all.map .about ++ [.primary, .required]

theorem mem_all (facet : Facet) : facet ∈ all := by
  cases facet with
  | about signal => exact List.mem_append_left _ (List.mem_map_of_mem signal.mem_all)
  | _ => simp [all]

abbrev Value : Facet → Type
  | .about signal => signal.Value
  | .primary => Bool
  | .required => Option UInt64

instance : (facet : Facet) → DecidableEq facet.Value
  | .about signal => inferInstanceAs (DecidableEq signal.Value)
  | .primary => inferInstanceAs (DecidableEq Bool)
  | .required => inferInstanceAs (DecidableEq (Option UInt64))

end Facet

namespace Conditions

def facet (conditions : Conditions) : (facet : Facet) → facet.Value
  | .about signal => conditions.about signal
  | .primary => conditions.primary
  | .required => conditions.requiredBytes

theorem eq_of_facets {left right : Conditions} (facets : ∀ facet, left.facet facet = right.facet facet)
    (empty : left.empty = right.empty) (ranOut : left.ranOutOfSpace = right.ranOutOfSpace) :
    left = right := by
  have primary := facets .primary
  have required := facets .required
  have ready := facets (.about .appReady)
  have registered := facets (.about .registrationChanged)
  have cellular := facets (.about .cellularPreferenceChanged)
  have wifi := facets (.about .reachabilityChanged)
  have level := facets (.about .batteryLevelChanged)
  have lowPower := facets (.about .lowPowerModeChanged)
  have free := facets (.about .willEnterForeground)
  have suspended := facets (.about .downloadSuspensionChanged)
  cases left
  cases right
  simp only [facet, about] at *
  simp only [*]

end Conditions

namespace Host

variable {host : Host} {session : Option Nat}

/-- What any reading of the facet would yield now. -/
def facet (host : Host) (session : Option Nat) : (facet : Facet) → facet.Value
  | .about .batteryLevelChanged => session.bind fun _ => host.sources.batteryLevel.current
  | .about signal => host.current signal
  | .primary => host.sources.mainApp.current
  | .required => some host.required

private theorem facet_about {signal : Signal} (other : signal ≠ .batteryLevelChanged) :
    host.facet session (.about signal) = host.current signal := by
  cases signal <;> first | rfl | exact absurd rfl other

private theorem facet_readFor (signal : Signal) (conditions : Conditions) :
    (((readFor session signal).run host).value conditions).facet (.about signal) =
      host.facet session (.about signal) := by
  by_cases isLevel : signal = .batteryLevelChanged
  · subst isLevel
    cases session <;> rfl
  · rw [facet_about isLevel]
    exact about_readFor signal (fun same => absurd same isLevel) conditions

private theorem facet_readFor_other {facet : Facet} {signal : Signal}
    (other : facet ≠ .about signal) (conditions : Conditions) :
    (((readFor session signal).run host).value conditions).facet facet = conditions.facet facet := by
  cases facet with
  | about asked =>
      exact about_readFor_other host session (fun same => other (congrArg _ same)) conditions
  | _ => cases signal <;> rfl

def readOthers (session : Option Nat) : Activity Host Unit := do
  readFirst
  let _ ← cellularAllowed
  let _ ← isOnWifi
  let _ ← batteryLevel session
  let _ ← isLowPower
  let _ ← freeSpace

theorem readFirst_frugal : Obeys frugal readFirst :=
  (ask_frugal (by simp)).bind fun _ => (ask_frugal (by simp)).bind fun _ =>
    (ask_frugal (by simp)).bind fun _ => downloadsSuspended_frugal.bind fun _ => .pure _

theorem readOthers_frugal (session : Option Nat) : Obeys frugal (readOthers session) :=
  readFirst_frugal.bind fun _ => (lookUp_frugal _).bind fun _ => (ask_frugal (by simp)).bind
    fun _ => (batteryLevel_frugal session).bind fun _ => isLowPower_frugal.bind
    fun _ => (lookUp_frugal _).bind fun _ => .pure _

theorem readOthers_reads (session : Option Nat) : Obeys reading (readOthers session) :=
  readFirst_reads.bind fun _ => (lookUp_reads _).bind fun _ => (ask_reads _).bind
    fun _ => (reading_admits.ofSession fun _ _ _ => trivial).bind
    fun _ => (reading_admits.isLowPower trivial).bind fun _ => (lookUp_reads _).bind fun _ => .pure _

theorem required_congr {before after : Host} (sources : after.sources = before.sources)
    (requirement : after.requirement = before.requirement) : after.required = before.required := by
  rw [required, required, sources, requirement]

theorem facet_readAll (constant : host.sources.changesLeft = 0) (session : Option Nat)
    (facet : Facet) (conditions : Conditions) :
    (((readAll session).run host).value conditions).facet facet = host.facet session facet := by
  cases facet with
  | primary => rfl
  | required =>
      have others := (readOthers_reads session host).sources_of_constant constant
      have kept := (readOthers_frugal session host).1
      have yielded := value_requiredBytes ((readOthers session).run host).state
      exact congrArg some (yielded.trans (required_congr others kept))
  | about signal =>
      by_cases isLevel : signal = .batteryLevelChanged
      · subst isLevel
        have ahead := readFirst_reads.bind fun _ => (lookUp_reads .cellularAllowed).bind
          fun _ => ask_reads .isOnWifi
        have same := (ahead host).sources_of_constant constant
        cases session with
        | none => rfl
        | some opened => exact congrArg (fun sources => sources.batteryLevel.current) same
      · rw [facet_about isLevel]
        exact about_readAll signal (fun same => absurd same isLevel) conditions

/-- Neither the sources nor the requirement that would be read have changed. -/
structure Alike (before after : Host) : Prop where
  sources : after.sources = before.sources
  hasBattery : after.hasBattery = before.hasBattery
  required : after.required = before.required

theorem Alike.facet {before after : Host} (alike : Alike before after) (session : Option Nat)
    (facet : Facet) : after.facet session facet = before.facet session facet := by
  cases facet with
  | about signal =>
      cases signal <;> simp only [Host.facet, current, alike.sources, alike.hasBattery]
  | primary => exact congrArg (fun sources => sources.mainApp.current) alike.sources
  | required => exact congrArg some alike.required

theorem readFor_alike (constant : host.sources.changesLeft = 0) (session : Option Nat)
    (signal : Signal) : Alike host ((readFor session signal).run host).state := by
  have reads := readFor_reads session signal host
  have sources := reads.sources_of_constant constant
  exact ⟨sources, reads.hasBattery, required_congr sources (readFor_frugal session signal host).1⟩

private theorem readAll_alike (constant : host.sources.changesLeft = 0) (session : Option Nat) :
    Alike host ((readAll session).run host).state := by
  have reads := readAll_reads session host
  refine ⟨reads.sources_of_constant constant, reads.hasBattery, ?_⟩
  -- What is kept from now on is what was yielded, and that is what would have been yielded.
  have yielded := facet_readAll constant session .required (.unread true)
  have kept := requiredBytes_readAll host session (.unread true)
  have known : ((readAll session).run host).state.requirement.known = some host.required :=
    kept.symm.trans yielded
  rw [required, known]
  rfl

end Host

private theorem countP_lt {Item : Type} {items : List Item} {item : Item}
    {weak strong : Item → Bool} (implies : ∀ other ∈ items, strong other = true → weak other = true)
    (member : item ∈ items) (meets : weak item = true) (fails : strong item = false) :
    items.countP strong < items.countP weak := by
  rcases List.append_of_mem member with ⟨ahead, behind, rfl⟩
  have first := List.countP_mono_left fun other inAhead =>
    implies other (List.mem_append_left _ inAhead)
  have rest := List.countP_mono_left fun other inBehind =>
    implies other (List.mem_append_right _ (List.mem_cons_of_mem _ inBehind))
  rw [List.countP_append, List.countP_append, List.countP_cons, List.countP_cons, meets, fails]
  simp only [Bool.false_eq_true, if_false, if_true]
  omega

namespace Controller

/-! ## Stale facets -/

def isStale (controller : Controller) (facet : Facet) : Bool :=
  decide (controller.conditions.facet facet ≠ controller.host.facet controller.session? facet)

def stale (controller : Controller) : Nat := Facet.all.countP controller.isStale

theorem stale_le (controller : Controller) : controller.stale ≤ 10 := List.countP_le_length

/-- Nothing but facets has changed, and each that has is what a reading would have yielded. -/
structure Freshens (before after : Controller) : Prop where
  host : before.host.Alike after.host
  session : after.session? = before.session?
  facet : ∀ facet, after.conditions.facet facet = before.conditions.facet facet ∨
    after.conditions.facet facet = before.host.facet before.session? facet
  empty : after.conditions.empty = before.conditions.empty
  ranOutOfSpace : after.conditions.ranOutOfSpace = before.conditions.ranOutOfSpace

private theorem length_changes (before after : Conditions) : (before.changes after).length ≤ 2 :=
  List.length_filterMap_le ..

namespace Freshens

variable {before after : Controller}

private theorem isStale (freshens : Freshens before after) {facet : Facet}
    (stale : after.isStale facet = true) :
    after.conditions.facet facet = before.conditions.facet facet ∧
      before.isStale facet = true := by
  simp only [Controller.isStale, freshens.session, freshens.host.facet, ne_eq,
    decide_not, Bool.not_eq_true', decide_eq_false_iff_not] at stale ⊢
  rcases freshens.facet facet with same | renewed
  · exact ⟨same, same ▸ stale⟩
  · exact absurd renewed stale

/-- Every change of a status is paid for by a facet that is stale no more. -/
theorem pays (freshens : Freshens before after) :
    (before.conditions.changes after.conditions).length + 2 * after.stale ≤ 2 * before.stale := by
  by_cases same : after.conditions = before.conditions
  · have fewer : after.stale ≤ before.stale :=
      List.countP_mono_left fun facet _ stale => (freshens.isStale stale).2
    rw [same, Conditions.changes_self, List.length_nil]
    omega
  · obtain ⟨facet, renewed⟩ := Classical.not_forall.mp fun facets =>
      same (Conditions.eq_of_facets facets freshens.empty freshens.ranOutOfSpace)
    have upToDate := (freshens.facet facet).resolve_left renewed
    have fewer : after.stale < before.stale := by
      refine countP_lt (fun other _ stale => (freshens.isStale stale).2) facet.mem_all ?_ ?_
      · simp only [Controller.isStale, ← upToDate, ne_eq, decide_not, Bool.not_eq_true',
          decide_eq_false_iff_not]
        exact fun same => renewed same.symm
      · simp [Controller.isStale, freshens.session, freshens.host.facet, upToDate]
    have few := length_changes before.conditions after.conditions
    omega

end Freshens

/-! ## Rereading settles -/

/-- While the sources do not change, they stay as they are, and what is announced is paid for by
facets that are stale no more. -/
def settling : Law Controller where
  holds before record after := before.host.sources.changesLeft = 0 →
    after.host.sources = before.host.sources ∧
      (record.filterMap Effect.notice?).length + 2 * after.stale ≤ 2 * before.stale
  idle _ _ := ⟨rfl, by simp⟩
  join first second constant := by
    rcases first constant with ⟨firstSame, firstPays⟩
    rcases second (firstSame ▸ constant) with ⟨secondSame, secondPays⟩
    refine ⟨secondSame.trans firstSame, ?_⟩
    rw [List.filterMap_append, List.length_append]
    omega

theorem state_update (reading : Option Nat → Activity Host (Conditions → Conditions))
    (controller : Controller) :
    ((update reading).run controller).state =
      { controller with
        conditions := ((reading controller.session?).run controller.host).value
          controller.conditions
        host := ((reading controller.session?).run controller.host).state } := rfl

theorem settling_update {reading : Option Nat → Activity Host (Conditions → Conditions)}
    (reads : ∀ session, Obeys Host.reading (reading session)) {controller : Controller}
    (freshens : controller.host.sources.changesLeft = 0 →
      Freshens controller ((update reading).run controller).state) :
    settling.holds controller ((update reading).run controller).effects
      ((update reading).run controller).state := by
  intro constant
  refine ⟨(freshens constant).host.sources, ?_⟩
  have pays := (freshens constant).pays
  have notices : (((update reading).run controller).effects.filterMap Effect.notice?).length =
      (controller.conditions.changes
        ((update reading).run controller).state.conditions).length := by
    simp only [update, run_bind, run_get, run_onHost, run_revise, run_pure, List.nil_append,
      List.append_nil, List.filterMap_append,
      Effect.notices_of_isInquiry (reads _ controller.host).inquiries]
    rw [List.filterMap_cons_none rfl, notices_changeEffects, List.length_map]
  rw [notices]
  exact pays

theorem settling_reread (signal : Signal) : Obeys settling (reread signal) := by
  intro controller
  apply settling_update (fun session => Host.readFor_reads session signal)
  intro constant
  refine ⟨Host.readFor_alike constant _ signal, rfl, fun facet => ?_, ?_, ?_⟩
  · by_cases own : facet = .about signal
    · subst own
      exact .inr (Host.facet_readFor signal controller.conditions)
    · exact .inl (Host.facet_readFor_other own controller.conditions)
  · cases signal <;> rfl
  · cases signal <;> rfl

theorem settling_refresh : Obeys settling refresh := by
  intro controller
  apply settling_update Host.readAll_reads
  intro constant
  rw [state_update]
  refine ⟨Host.readAll_alike constant controller.session?, rfl, fun facet => .inr ?_, rfl, rfl⟩
  exact Host.facet_readAll constant controller.session? facet controller.conditions

theorem settling_log (line : LogLine) : Obeys settling (Activity.log line) := fun controller _ =>
  ⟨rfl, Nat.le_of_eq (Nat.zero_add (2 * controller.stale))⟩

theorem settling_rereadIfObserving (signal : Signal) :
    Obeys settling (rereadIfObserving signal) := by
  apply Obeys.get.bind
  intro controller
  cases controller.isObserving with
  | true => exact settling_reread signal
  | false => exact .pure _

theorem settling_receive (kind : EventKind) : Obeys settling (receive kind) := by
  cases kind with
  | signal signal =>
      cases signal with
      | appReady => exact settling_reread .appReady
      | _ => exact settling_rereadIfObserving _
  | _ => exact .pure _

theorem settling_recover (missed : Nat) : Obeys settling (recover missed) := by
  refine (settling_log _).bind fun _ => Obeys.get.bind fun controller => ?_
  cases controller.isObserving with
  | true => exact settling_refresh
  | false => exact .pure _

def Operation.rereads : Operation → Bool
  | .readinessChanged => true
  | .receive _ => true
  | .recover _ => true
  | _ => false

theorem settling_operation {operation : Operation} (rereads : operation.rereads = true) :
    Obeys settling operation.perform := by
  cases operation with
  | readinessChanged => exact (settling_reread .appReady).map _
  | receive kind => exact (settling_receive kind).map _
  | recover missed => exact (settling_recover missed).map _
  | _ => cases rereads

theorem settling_performAll {operations : List Operation}
    (rereads : ∀ operation ∈ operations, operation.rereads = true) :
    Obeys settling (performAll operations) :=
  performAll_obeys fun operation member => settling_operation (rereads operation member)

/-! ## Requests -/

def lasting : Law Controller where
  holds before _ after := before.host.sources.changesLeft = 0 →
    after.host.sources = before.host.sources
  idle _ _ := rfl
  join first second constant := (second (first constant ▸ constant)).trans (first constant)

theorem lasting_onHost {Value : Type} {activity : Activity Host Value}
    (reads : Obeys Host.reading activity) : Obeys lasting (onHost activity) :=
  fun controller constant => (reads controller.host).sources_of_constant constant

theorem lasting_revise (change : Conditions → Conditions) : Obeys lasting (revise change) :=
  fun _ _ => rfl

theorem lasting_emit (effect : Effect) : Obeys lasting (Activity.emit effect) := fun _ _ => rfl

theorem lasting_update {reading : Option Nat → Activity Host (Conditions → Conditions)}
    (reads : ∀ session, Obeys Host.reading (reading session)) : Obeys lasting (update reading) :=
  Obeys.get.bind fun _ => (lasting_onHost (reads _)).bind fun _ =>
    (lasting_revise _).bind fun _ => .pure _

theorem lasting_reread (signal : Signal) : Obeys lasting (reread signal) :=
  lasting_update fun session => Host.readFor_reads session signal

theorem lasting_openObservation : Obeys lasting openObservation :=
  (lasting_emit _).bind fun _ => (lasting_onHost Host.beginBattery_reads).bind fun _ =>
    Obeys.bind (.modify fun _ _ => rfl) fun _ => (lasting_emit _).bind fun _ => lasting_emit _

theorem lasting_stopObserving : Obeys lasting stopObserving := by
  refine stopObserving_obeys (fun observation => ?_) (lasting_emit _) (lasting_emit _)
  exact Obeys.bind (.modify fun _ _ => rfl) fun _ =>
    (lasting_onHost (Host.endBattery_reads _)).bind fun _ => lasting_emit _

theorem lasting_followWork (isEmpty : Bool) : Obeys lasting (followWork isEmpty) :=
  followWork_obeys (startObserving_obeys lasting_openObservation
    (lasting_update Host.readAll_reads)) lasting_stopObserving isEmpty

theorem lasting_observeIfNeeded : Obeys lasting observeIfNeeded := by
  have looked : Obeys lasting lookAtQueues :=
    (lasting_onHost Host.probeQueues_reads).bind fun _ => (lasting_revise _).bind fun _ => .pure _
  exact looked.bind fun _ => (lasting_followWork _).bind fun _ =>
    (lasting_revise _).bind fun _ => .pure _

theorem lasting_emptied (queue : Queue) : Obeys lasting (emptied queue) :=
  (lasting_revise _).bind fun _ => stopIfAllEmpty_obeys lasting_stopObserving

theorem lasting_serve (request : Request) : Obeys lasting (serve request) := by
  have recorded (ranOut : Bool) : Obeys lasting (recordOutOfSpace ranOut) :=
    (lasting_revise _).bind fun _ => .pure _
  cases request with
  | status queue => exact (currentStatus_obeys queue).map _
  | begin queue => exact (lasting_observeIfNeeded.bind fun _ => currentStatus_obeys queue).map _
  | retry =>
      exact ((lasting_reread _).bind fun _ => recorded false).bind fun _ => .pure _
  | emptied queue => exact (lasting_emptied queue).bind fun _ => .pure _
  | refreshSpace =>
      exact ((lasting_reread _).bind fun _ => currentStatus_obeys .download).map _
  | outOfSpace => exact ((recorded true).bind fun _ => currentStatus_obeys .download).map _
  | conditions => exact Obeys.get.map _
  | isObserving => exact Obeys.get.map _

end Controller

end TransferGate
