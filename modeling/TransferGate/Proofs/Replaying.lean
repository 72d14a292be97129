import TransferGate.Proofs.Monitoring
import TransferGate.Proofs.Staleness

/-! # Signals and complete readings

A signal that is honoured sets one field of the conditions, `Conditions.setAbout`, to what
the host tells now, and does nothing else to them. So after any signals every field that
one of them was about is up to date, in whatever order and however often they came, and
the others are as they were.

A controller that missed signals reads everything at once. That comes to the same as
handling each of them at least once: a complete reading also renews whether this process
does the transfers, which no signal is about, and the requirement, which is the same
whenever it is read.
-/

namespace TransferGate

open Activity

namespace Conditions

def setAbout (conditions : Conditions) : (signal : Signal) → signal.Value → Conditions
  | .appReady, ready => { conditions with ready := ready }
  | .registrationChanged, registered => { conditions with registered := registered }
  | .cellularPreferenceChanged, allowed => { conditions with cellularAllowed := allowed }
  | .reachabilityChanged, wifi => { conditions with wifi := wifi }
  | .batteryLevelChanged, level => { conditions with batteryLevel := level }
  | .lowPowerModeChanged, lowPower => { conditions with lowPower := lowPower }
  | .willEnterForeground, free => { conditions with freeBytes := free }
  | .downloadSuspensionChanged, suspended => { conditions with downloadsSuspended := suspended }

private theorem about_setAbout (conditions : Conditions) (signal : Signal) (value : signal.Value) :
    (conditions.setAbout signal value).about signal = value := by
  cases signal <;> rfl

private theorem about_setAbout_other (conditions : Conditions) {signal other : Signal}
    (different : other ≠ signal) (value : signal.Value) :
    (conditions.setAbout signal value).about other = conditions.about other := by
  cases signal <;> cases other <;> first | rfl | exact absurd rfl different

/-- Nothing differs but what signals are about. -/
structure SameApart (before after : Conditions) : Prop where
  empty : after.empty = before.empty
  primary : after.primary = before.primary
  requiredBytes : after.requiredBytes = before.requiredBytes
  ranOutOfSpace : after.ranOutOfSpace = before.ranOutOfSpace

theorem SameApart.refl (conditions : Conditions) : conditions.SameApart conditions :=
  ⟨rfl, rfl, rfl, rfl⟩

theorem SameApart.trans {before between after : Conditions} (first : before.SameApart between)
    (second : between.SameApart after) : before.SameApart after :=
  ⟨second.empty.trans first.empty, second.primary.trans first.primary,
    second.requiredBytes.trans first.requiredBytes,
    second.ranOutOfSpace.trans first.ranOutOfSpace⟩

private theorem sameApart_setAbout (conditions : Conditions) (signal : Signal)
    (value : signal.Value) :
    conditions.SameApart (conditions.setAbout signal value) := by
  cases signal <;> exact ⟨rfl, rfl, rfl, rfl⟩

theorem SameApart.eq {before left right : Conditions} (toLeft : before.SameApart left)
    (toRight : before.SameApart right) (about : ∀ signal, left.about signal = right.about signal) :
    left = right := by
  refine eq_of_facets (fun facet => ?_) (toLeft.empty.trans toRight.empty.symm)
    (toLeft.ranOutOfSpace.trans toRight.ranOutOfSpace.symm)
  cases facet with
  | about signal => exact about signal
  | primary => exact toLeft.primary.trans toRight.primary.symm
  | required => exact toLeft.requiredBytes.trans toRight.requiredBytes.symm

end Conditions

namespace Host

theorem value_readFor {host : Host} {session : Option Nat} (signal : Signal)
    (equipped : signal = .batteryLevelChanged → host.Equipped session) (conditions : Conditions) :
    ((readFor session signal).run host).value conditions =
      conditions.setAbout signal (host.current signal) := by
  rw [← about_readFor signal equipped conditions]
  cases signal <;> rfl

/-- What a reading for the signal asks, in this order. A transaction that cannot be opened is neither
read nor closed. -/
def questionsFor (host : Host) (session : Option Nat) : Signal → List Question
  | .appReady => [.isAppReady]
  | .registrationChanged => [.isRegistered]
  | .cellularPreferenceChanged => [.lookUp .cellularAllowed]
  | .reachabilityChanged => [.isOnWifi]
  | .batteryLevelChanged => session.toList.map .batteryLevel
  | .lowPowerModeChanged => if host.hasBattery then [.isLowPower] else []
  | .willEnterForeground => [.lookUp .freeSpace]
  | .downloadSuspensionChanged =>
      match host.sources.queues.current with
      | .error _ => [.lookUp .openQueues]
      | .ok _ => [.lookUp .openQueues, .lookUp (.isSuspended .download), .closeQueues]

theorem questions_lookUp (lookup : Lookup) (host : Host) :
    ((lookUp lookup).run host).effects.filterMap Effect.question? = [.lookUp lookup] := by
  rw [run_lookUp]
  cases (host.sources.lookUp lookup).1 <;> rfl

theorem questions_downloadsSuspended (host : Host) :
    (downloadsSuspended.run host).effects.filterMap Effect.question? =
      host.questionsFor none .downloadSuspensionChanged := by
  have opening := questions_lookUp .openQueues host
  have looking := questions_lookUp (.isSuspended .download)
    ((lookUp .openQueues).run host).state
  have opened : ((lookUp .openQueues).run host).value = host.sources.queues.current.toOption :=
    value_lookUp .openQueues host
  rw [downloadsSuspended, run_bind, List.filterMap_append, opening]
  simp only [questionsFor, opened]
  cases host.sources.queues.current with
  | error _ => rfl
  | ok _ =>
      simp only [Except.toOption, run_bind, run_pure, List.filterMap_append, looking]
      rfl

theorem questions_readFor (host : Host) (session : Option Nat) (signal : Signal) :
    ((readFor session signal).run host).effects.filterMap Effect.question? =
      host.questionsFor session signal := by
  cases signal with
  | downloadSuspensionChanged =>
      rw [readFor, run_bind, run_pure, List.append_nil]
      exact questions_downloadsSuspended host
  | cellularPreferenceChanged =>
      rw [readFor, run_bind, run_pure, List.append_nil]
      exact questions_lookUp .cellularAllowed host
  | willEnterForeground =>
      rw [readFor, run_bind, run_pure, List.append_nil]
      exact questions_lookUp .freeSpace host
  | batteryLevelChanged => cases session <;> rfl
  | lowPowerModeChanged =>
      rw [readFor, run_bind, run_pure, List.append_nil, isLowPower, run_bind, run_get, questionsFor]
      cases host.hasBattery <;> rfl
  | _ => rfl

end Host

namespace Controller

/-! ## One signal -/

def honours (controller : Controller) (signal : Signal) : Bool :=
  controller.isObserving || signal == .appReady

private theorem honours_iff (controller : Controller) (signal : Signal) :
    controller.honours signal = true ↔ controller.isObserving = true ∨ signal = .appReady := by
  simp [honours]

theorem run_receive (signal : Signal) (controller : Controller) :
    (receive (.signal signal)).run controller =
      if controller.honours signal then (reread signal).run controller
      else ⟨(), controller, []⟩ := by
  have observed : (rereadIfObserving signal).run controller =
      if controller.isObserving then (reread signal).run controller
      else ⟨(), controller, []⟩ := by
    rw [rereadIfObserving, run_bind, run_get]
    cases controller.isObserving <;> simp
  cases signal with
  | appReady => simp [honours, receive, readinessChanged]
  | _ => simpa [honours, receive] using observed

/-- One field of the conditions is what a single reading found, and nothing else has changed. -/
structure Rereads (signal : Signal) (before : Controller) (record : List Effect)
    (after : Controller) : Prop where
  conditions : after.conditions =
    before.conditions.setAbout signal (before.host.current signal)
  observation : after.observation = before.observation
  questions : record.filterMap Effect.question? =
    before.host.questionsFor before.session? signal

variable {controller : Controller}

private theorem equipped_of_honours (equipped : controller.Equipped) {signal : Signal}
    (honoured : controller.honours signal = true) (isLevel : signal = .batteryLevelChanged) :
    controller.host.Equipped controller.session? := by
  subst isLevel
  exact equipped (by simpa [honours] using honoured)

private theorem rereads (equipped : controller.Equipped) {signal : Signal}
    (honoured : controller.honours signal = true) :
    Rereads signal controller ((reread signal).run controller).effects
      ((reread signal).run controller).state := by
  refine ⟨Host.value_readFor signal (equipped_of_honours equipped honoured) _, rfl, ?_⟩
  simp only [reread, update, run_bind, run_get, run_onHost, run_pure, List.nil_append,
    List.append_nil, List.filterMap_append, questions_revise]
  exact Host.questions_readFor controller.host controller.session? signal

/-! ## Any number of signals -/

def replay (signals : List Signal) : List Operation :=
  signals.map fun signal => .receive (.signal signal)

/-- Whatever an honoured one of these signals is about is what the host tells, and nothing else has
changed. -/
structure Replays (signals : List Signal) (before after : Controller) : Prop where
  host : before.host.Alike after.host
  observation : after.observation = before.observation
  apart : before.conditions.SameApart after.conditions
  about : ∀ signal, after.conditions.about signal =
    if before.honours signal = true ∧ signal ∈ signals then before.host.current signal
    else before.conditions.about signal

namespace Replays

variable {before between after : Controller} {first second : List Signal}

private theorem honours (replays : Replays first before after) (signal : Signal) :
    after.honours signal = before.honours signal := by
  rw [Controller.honours, isObserving, replays.observation]
  rfl

private theorem current (replays : Replays first before after) (signal : Signal) :
    after.host.current signal = before.host.current signal := by
  rw [Host.current, Host.current, replays.host.sources, replays.host.hasBattery]

private theorem equipped (replays : Replays first before after) (equipped : before.Equipped) :
    after.Equipped := by
  intro observing
  rw [isObserving, replays.observation] at observing
  rw [session?, replays.observation, Host.Equipped, replays.host.hasBattery]
  exact equipped observing

theorem nil (controller : Controller) : Replays [] controller controller :=
  ⟨⟨rfl, rfl, rfl⟩, rfl, .refl _, by simp⟩

theorem append (earlier : Replays first before between) (later : Replays second between after) :
    Replays (first ++ second) before after where
  host := ⟨later.host.sources.trans earlier.host.sources,
    later.host.hasBattery.trans earlier.host.hasBattery,
    later.host.required.trans earlier.host.required⟩
  observation := later.observation.trans earlier.observation
  apart := earlier.apart.trans later.apart
  about signal := by
    rw [later.about, earlier.about, earlier.honours, earlier.current]
    by_cases honoured : before.honours signal = true <;> by_cases inFirst : signal ∈ first <;>
      by_cases inSecond : signal ∈ second <;> simp [honoured, inFirst, inSecond]

theorem single (equipped : controller.Equipped)
    (constant : controller.host.sources.changesLeft = 0) (signal : Signal) :
    Replays [signal] controller ((receive (.signal signal)).run controller).state := by
  rw [run_receive]
  cases honoured : controller.honours signal with
  | false =>
      refine ⟨⟨rfl, rfl, rfl⟩, rfl, .refl _, fun other => (if_neg ?_).symm⟩
      rintro ⟨otherHonoured, member⟩
      rw [List.mem_singleton.mp member, honoured] at otherHonoured
      cases otherHonoured
  | true =>
      have conditions := (rereads equipped honoured).conditions
      refine ⟨Host.readFor_alike constant _ signal, rfl, ?_, fun other => ?_⟩
      · exact conditions ▸ Conditions.sameApart_setAbout _ _ _
      · change ((reread signal).run controller).state.conditions.about other = _
        rw [conditions]
        by_cases own : other = signal
        · subst own
          simp [honoured, Conditions.about_setAbout]
        · simp [own, Conditions.about_setAbout_other _ own]

end Replays

theorem replays (equipped : controller.Equipped)
    (constant : controller.host.sources.changesLeft = 0) (signals : List Signal) :
    Replays signals controller (controller.following (replay signals)) := by
  induction signals generalizing controller with
  | nil => exact .nil controller
  | cons signal rest induction =>
      have first := Replays.single equipped constant signal
      exact first.append (induction (first.equipped equipped) (first.host.sources ▸ constant))

/-- It does not matter in which order and how often the signals come. -/
theorem replay_congr (equipped : controller.Equipped)
    (constant : controller.host.sources.changesLeft = 0) {left right : List Signal}
    (same : ∀ signal, signal ∈ left ↔ signal ∈ right) :
    (controller.following (replay left)).conditions =
      (controller.following (replay right)).conditions := by
  have onLeft := replays equipped constant left
  have onRight := replays equipped constant right
  apply onLeft.apart.eq onRight.apart
  intro signal
  rw [onLeft.about, onRight.about]
  simp only [same]

theorem state_recover (observing : controller.isObserving = true) (missed : Nat) :
    ((recover missed).run controller).state = (refresh.run controller).state := by
  simp [recover, refreshIfObserving, observing]

/-- Where the requirement is known and this process does what it did, a complete reading amounts to
all signals. -/
theorem replay_eq_recover (observing : controller.isObserving = true)
    (equipped : controller.Equipped) (constant : controller.host.sources.changesLeft = 0)
    (primary : controller.host.sources.mainApp.current = controller.conditions.primary)
    (required : controller.conditions.requiredBytes = some controller.host.required)
    {signals : List Signal} (all : ∀ signal, signal ∈ signals) (missed : Nat) :
    (controller.following (replay signals)).conditions =
      ((recover missed).run controller).state.conditions := by
  have replayed := replays equipped constant signals
  have conditions : ((recover missed).run controller).state.conditions =
      ((Host.readAll controller.session?).run controller.host).value controller.conditions := by
    rw [state_recover observing, refresh, state_update]
  have requirement : ((recover missed).run controller).state.conditions.requiredBytes =
      some controller.host.required := by
    rw [conditions]
    exact Host.facet_readAll constant controller.session? .required controller.conditions
  refine replayed.apart.eq ⟨?_, ?_, requirement.trans required.symm, ?_⟩ fun signal => ?_
  · rw [conditions]
    rfl
  · rw [conditions]
    exact primary
  · rw [conditions]
    rfl
  · rw [replayed.about, if_pos ⟨by simp [Controller.honours, observing], all signal⟩, conditions]
    exact (Host.about_readAll signal (fun _ => equipped observing) _).symm

/-! ## Runs -/

private theorem equipped_following (host : Host) (operations : List Operation) :
    ((create.run host).value.following operations).Equipped :=
  (keepingSessions_stages.run operations _).equipped (equipped_create host)

private theorem informed_following (settings : Settings) (sources : Sources) (hasBattery : Bool)
    (operations : List Operation) :
    ∃ limits begun, Informed settings.effectiveMultiplier limits begun
      ((create.run (.create settings sources hasBattery)).value.following operations) :=
  ⟨_, _, ((abreast_create settings sources hasBattery).later
    ((informing_stages _).run operations _)).informed⟩

theorem required_following (settings : Settings) (sources : Sources) (hasBattery : Bool)
    (operations : List Operation) :
    let controller := (create.run (.create settings sources hasBattery)).value.following operations
    controller.isObserving = true →
      controller.conditions.requiredBytes = some controller.host.required := by
  intro controller observing
  rcases informed_following settings sources hasBattery operations with ⟨limits, begun, informed⟩
  have isKnown := informed.inStep.required.trans (informed.observing observing)
  rcases Option.isSome_iff_exists.mp isKnown with ⟨bytes, recorded⟩
  rw [recorded, Host.required, informed.keeps recorded]
  rfl

/-- What signals and complete readings do. -/
structure TakesSignals (controller : Controller) : Prop where
  honoured : ∀ signal, controller.isObserving = true ∨ signal = .appReady →
    Rereads signal controller ((receive (.signal signal)).run controller).effects
      ((receive (.signal signal)).run controller).state
  ignored : ∀ signal, controller.isObserving = false → signal ≠ .appReady →
    (receive (.signal signal)).run controller = ⟨(), controller, []⟩
  recovers : controller.isObserving = true → controller.host.sources.changesLeft = 0 →
    controller.host.sources.mainApp.current = controller.conditions.primary →
    ∀ signals missed, (∀ signal, signal ∈ signals) →
      (controller.following (replay signals)).conditions =
        ((recover missed).run controller).state.conditions
  reordered : controller.isObserving = true → controller.host.sources.changesLeft = 0 →
    ∀ left right, (∀ signal, signal ∈ left ↔ signal ∈ right) →
      (controller.following (replay left)).conditions =
        (controller.following (replay right)).conditions

/-- After any operations: a signal that is honoured sets its own field to what a single reading
finds, and any other does nothing at all. On a host that goes on giving the same answers, handling
every signal at least once, in any order, yields the conditions that a complete reading yields. -/
theorem replay_agrees (settings : Settings) (sources : Sources) (hasBattery : Bool)
    (operations : List Operation) :
    ((create.run (.create settings sources hasBattery)).value.following
      operations).TakesSignals := by
  have equipped := equipped_following (.create settings sources hasBattery) operations
  have required := required_following settings sources hasBattery operations
  constructor
  · intro signal either
    have honoured := (honours_iff _ signal).mpr either
    rw [run_receive, if_pos honoured]
    exact rereads equipped honoured
  · intro signal resting other
    rw [run_receive, if_neg (by simp [honours, resting, other])]
  · intro observing constant primary signals missed all
    exact replay_eq_recover observing equipped constant primary (required observing) all missed
  · intro _ constant left right same
    exact replay_congr equipped constant same

/-- The network is lost and the battery saved while a controller observes; it hears of everything
backwards and once more, or of nothing but that it missed something. -/
theorem replay_agrees_of_lost_network :
    let changed (sources : Sources) : Sources :=
      { sources with wifi := .always false, lowPower := .always true }
    let operations : List Operation := [.serve (.begin .upload), .replaceSources changed]
    let controller := (create.run (.create {} .calm true)).value.following operations
    controller.isObserving = true ∧ controller.host.sources.changesLeft = 0 ∧
      controller.host.sources.mainApp.current = controller.conditions.primary ∧
      (∀ signal, signal ∈ Signal.all.reverse ++ Signal.all) ∧
      (controller.following (replay (Signal.all.reverse ++ Signal.all))).conditions =
        ((recover 3).run controller).state.conditions := by
  intro changed operations controller
  have all (signal : Signal) : signal ∈ Signal.all.reverse ++ Signal.all :=
    List.mem_append_right _ signal.mem_all
  exact ⟨rfl, rfl, rfl, all, (replay_agrees {} .calm true operations).recovers rfl rfl rfl _ 3 all⟩

end Controller

end TransferGate
