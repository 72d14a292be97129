import TransferGate.Proofs.Reading

/-! # What a signal is about

Each signal stands for one value of the host, and for one field of the conditions
that holds its latest reading. `Sources.current` is what a reading would yield
now, with nothing for a reading that fails, and `Conditions.about` is what is
recorded. Reading for a signal brings its own field up to date and leaves the
others alone; reading everything brings all of them up to date.
-/

namespace TransferGate

abbrev Signal.Value : Signal → Type
  | .appReady => Bool
  | .registrationChanged => Option Bool
  | .cellularPreferenceChanged => Option Bool
  | .reachabilityChanged => Option Bool
  | .batteryLevelChanged => Option BatteryLevel
  | .lowPowerModeChanged => Option Bool
  | .willEnterForeground => Option UInt64
  | .downloadSuspensionChanged => Option Bool

instance : (signal : Signal) → DecidableEq signal.Value
  | .appReady => inferInstanceAs (DecidableEq Bool)
  | .registrationChanged => inferInstanceAs (DecidableEq (Option Bool))
  | .cellularPreferenceChanged => inferInstanceAs (DecidableEq (Option Bool))
  | .reachabilityChanged => inferInstanceAs (DecidableEq (Option Bool))
  | .batteryLevelChanged => inferInstanceAs (DecidableEq (Option BatteryLevel))
  | .lowPowerModeChanged => inferInstanceAs (DecidableEq (Option Bool))
  | .willEnterForeground => inferInstanceAs (DecidableEq (Option UInt64))
  | .downloadSuspensionChanged => inferInstanceAs (DecidableEq (Option Bool))

def Conditions.about (conditions : Conditions) : (signal : Signal) → signal.Value
  | .appReady => conditions.ready
  | .registrationChanged => conditions.registered
  | .cellularPreferenceChanged => conditions.cellularAllowed
  | .reachabilityChanged => conditions.wifi
  | .batteryLevelChanged => conditions.batteryLevel
  | .lowPowerModeChanged => conditions.lowPower
  | .willEnterForeground => conditions.freeBytes
  | .downloadSuspensionChanged => conditions.downloadsSuspended

namespace Sources

def currentSuspension (sources : Sources) : Option Bool :=
  match sources.queues.current with
  | .error _ => none
  | .ok _ => sources.suspended.download.current.toOption

/-- What a reading for the signal would yield now. Without a battery manager nothing is
known about the battery. -/
def current (sources : Sources) (hasBattery : Bool) : (signal : Signal) → signal.Value
  | .appReady => sources.appReady.current
  | .registrationChanged => some sources.registered.current
  | .cellularPreferenceChanged => sources.cellularAllowed.current.toOption
  | .reachabilityChanged => some sources.wifi.current
  | .batteryLevelChanged => if hasBattery then sources.batteryLevel.current else none
  | .lowPowerModeChanged => if hasBattery then some sources.lowPower.current else none
  | .willEnterForeground => sources.freeSpace.current.toOption
  | .downloadSuspensionChanged => sources.currentSuspension

end Sources

def Question.concerns : Question → Signal → Bool
  | .isAppReady, .appReady => true
  | .isRegistered, .registrationChanged => true
  | .lookUp .cellularAllowed, .cellularPreferenceChanged => true
  | .isOnWifi, .reachabilityChanged => true
  | .batteryLevel _, .batteryLevelChanged => true
  | .isLowPower, .lowPowerModeChanged => true
  | .lookUp .freeSpace, .willEnterForeground => true
  | .lookUp .openQueues, .downloadSuspensionChanged => true
  | .lookUp (.isSuspended .download), .downloadSuspensionChanged => true
  | _, _ => false

namespace Host

def current (host : Host) (signal : Signal) : signal.Value :=
  host.sources.current host.hasBattery signal

theorem value_lookUp (lookup : Lookup) (host : Host) :
    ((lookUp lookup).run host).value = (host.sources.lookUp lookup).1.toOption :=
  congrArg Outcome.value (run_lookUp lookup host)

theorem state_lookUp (lookup : Lookup) (host : Host) :
    ((lookUp lookup).run host).state = { host with sources := (host.sources.lookUp lookup).2 } :=
  congrArg Outcome.state (run_lookUp lookup host)

private theorem current_suspension_of_open {host : Host}
    (opened : host.sources.queues.current = .ok ()) :
    host.current .downloadSuspensionChanged =
      host.sources.suspended.download.current.toOption := by
  simp [current, Sources.current, Sources.currentSuspension, opened]

private theorem current_suspension_of_failed {host : Host} {failure : ReadFailure}
    (failed : host.sources.queues.current = .error failure) :
    host.current .downloadSuspensionChanged = none := by
  simp [current, Sources.current, Sources.currentSuspension, failed]

theorem value_downloadsSuspended (host : Host) :
    (downloadsSuspended.run host).value = host.current .downloadSuspensionChanged := by
  rw [downloadsSuspended, Activity.run_bind, run_lookUp]
  cases opened : host.sources.queues.current with
  | ok _ =>
      rw [current_suspension_of_open opened]
      simp only [Sources.lookUp, opened, Except.toOption, Activity.run_bind, Activity.run_pure]
      exact value_lookUp (.isSuspended .download) _
  | error _ =>
      rw [current_suspension_of_failed opened]
      simp only [Sources.lookUp, opened, Except.toOption, Activity.run_pure]

theorem suspension_probeQueues (host : Host) :
    (probeQueues.run host).value.downloadsSuspended =
      host.current .downloadSuspensionChanged := by
  rw [probeQueues, Activity.run_bind, run_lookUp]
  cases opened : host.sources.queues.current with
  | ok _ =>
      rw [current_suspension_of_open opened]
      simp only [Sources.lookUp, opened, Except.toOption, Activity.run_bind, Activity.run_pure]
      -- The two measurements before it leave the source of the suspension alone.
      have measured (host : Host) :
          ((lookUp (.hasReadyWork .download)).run
            ((lookUp (.pendingCount .upload 1)).run host).state).state.sources.suspended =
              host.sources.suspended := by
        rw [state_lookUp, state_lookUp]
        rfl
      refine (value_lookUp (.isSuspended .download) _).trans ?_
      exact congrArg (fun suspended : PerQueue (Feed (Except ReadFailure Bool)) =>
        suspended.download.current.toOption) (measured _)
  | error _ =>
      rw [current_suspension_of_failed opened]
      simp only [Sources.lookUp, opened, Except.toOption, Activity.run_pure]

theorem value_isLowPower (host : Host) :
    (isLowPower.run host).value = host.current .lowPowerModeChanged := by
  rw [isLowPower, Activity.run_bind, Activity.run_get]
  cases known : host.hasBattery with
  | true => simp [known, current, Sources.current]; rfl
  | false => simp [known, current, Sources.current]

/-- The session is open exactly if there is a battery manager. -/
def Equipped (host : Host) (session : Option Nat) : Prop := session.isSome = host.hasBattery

theorem value_batteryLevel {host : Host} {session : Option Nat} (equipped : host.Equipped session) :
    ((batteryLevel session).run host).value = host.current .batteryLevelChanged := by
  cases session with
  | none =>
      have without : host.hasBattery = false := equipped.symm
      simp [batteryLevel, current, Sources.current, without]
  | some session =>
      have fitted : host.hasBattery = true := equipped.symm
      simp [batteryLevel, current, Sources.current, fitted]
      rfl

/-- A reading for a signal brings what the signal is about up to date. -/
theorem about_readFor {host : Host} {session : Option Nat} (signal : Signal)
    (equipped : signal = .batteryLevelChanged → host.Equipped session) (conditions : Conditions) :
    (((readFor session signal).run host).value conditions).about signal = host.current signal := by
  cases signal with
  | appReady => rfl
  | registrationChanged => rfl
  | cellularPreferenceChanged => exact value_lookUp .cellularAllowed host
  | reachabilityChanged => rfl
  | batteryLevelChanged => exact value_batteryLevel (equipped rfl)
  | lowPowerModeChanged => exact value_isLowPower host
  | willEnterForeground => exact value_lookUp .freeSpace host
  | downloadSuspensionChanged => exact value_downloadsSuspended host

theorem about_readFor_other (host : Host) (session : Option Nat) {signal other : Signal}
    (different : other ≠ signal) (conditions : Conditions) :
    (((readFor session signal).run host).value conditions).about other =
      conditions.about other := by
  cases signal <;> cases other <;> first | rfl | exact absurd rfl different

/-! ## Readings do not get in each other's way -/

def sparing (signal : Signal) : Law Host where
  holds before _ after := after.current signal = before.current signal
  idle _ := rfl
  join first second := second.trans first

open Activity

theorem ask_spares (signal : Signal) (question : Question)
    (unrelated : question.concerns signal = false) : Obeys (sparing signal) (ask question) := by
  intro host
  cases question with
  | lookUp lookup =>
      cases lookup with
      | isSuspended queue =>
          cases queue <;> cases signal <;> first | rfl | cases unrelated
      | _ => cases signal <;> first | rfl | cases unrelated
  | _ => cases signal <;> first | rfl | cases unrelated

theorem sparing_admits (signal : Signal) :
    Admits (fun _ question => question.concerns signal = false) (sparing signal) where
  ask question host unrelated := ask_spares signal question unrelated host
  log _ _ := rfl
  keepRequirement _ _ := rfl

theorem lookUp_spares (signal : Signal) (lookup : Lookup)
    (unrelated : (Question.lookUp lookup).concerns signal = false) :
    Obeys (sparing signal) (lookUp lookup) :=
  (sparing_admits signal).lookUp fun _ => unrelated

theorem downloadsSuspended_spares (signal : Signal)
    (unrelated : signal ≠ .downloadSuspensionChanged) :
    Obeys (sparing signal) downloadsSuspended := by
  apply downloadsSuspended_obeys
  · apply lookUp_spares signal _
    cases signal <;> first | rfl | exact absurd rfl unrelated
  · apply lookUp_spares signal _
    cases signal <;> first | rfl | exact absurd rfl unrelated
  · apply ask_spares signal _
    cases signal <;> rfl

theorem batteryLevel_spares (signal : Signal) (unrelated : signal ≠ .batteryLevelChanged)
    (session : Option Nat) : Obeys (sparing signal) (batteryLevel session) := by
  apply (sparing_admits signal).batteryLevel
  intro opened hasBattery _
  cases signal <;> first | rfl | exact absurd rfl unrelated

theorem isLowPower_spares (signal : Signal) (unrelated : signal ≠ .lowPowerModeChanged) :
    Obeys (sparing signal) isLowPower := by
  apply (sparing_admits signal).isLowPower
  cases signal <;> first | rfl | exact absurd rfl unrelated

def readFirst : Activity Host Unit := do
  let _ ← isMainApp
  let _ ← isAppReady
  let _ ← isRegistered
  let _ ← downloadsSuspended

theorem readFirst_spares (signal : Signal) (later : signal ∉
    [.appReady, .registrationChanged, .downloadSuspensionChanged]) :
    Obeys (sparing signal) readFirst := by
  simp only [List.mem_cons, List.not_mem_nil, or_false, not_or] at later
  rcases later with ⟨notReady, notRegistered, notSuspended⟩
  refine (ask_spares _ .isMainApp ?_).bind fun _ =>
    (ask_spares _ .isAppReady ?_).bind fun _ =>
      (ask_spares _ .isRegistered ?_).bind fun _ =>
        (downloadsSuspended_spares signal notSuspended).bind fun _ => .pure _
  · cases signal <;> rfl
  · cases signal <;> first | rfl | exact absurd rfl notReady
  · cases signal <;> first | rfl | exact absurd rfl notRegistered

theorem readFirst_reads : Obeys reading readFirst :=
  (ask_reads _).bind fun _ => (ask_reads _).bind fun _ => (ask_reads _).bind fun _ =>
    downloadsSuspended_reads.bind fun _ => .pure _

/-- Reading everything brings everything up to date. -/
theorem about_readAll {host : Host} {session : Option Nat} (signal : Signal)
    (equipped : signal = .batteryLevelChanged → host.Equipped session) (conditions : Conditions) :
    (((readAll session).run host).value conditions).about signal = host.current signal := by
  cases signal with
  | appReady => rfl
  | registrationChanged => rfl
  | downloadSuspensionChanged => exact value_downloadsSuspended _
  | cellularPreferenceChanged =>
      have ahead := readFirst_spares .cellularPreferenceChanged (by decide)
      exact (value_lookUp .cellularAllowed _).trans (ahead host)
  | reachabilityChanged =>
      have ahead := (readFirst_spares .reachabilityChanged (by decide)).bind
        fun _ => lookUp_spares _ .cellularAllowed rfl
      exact ahead host
  | batteryLevelChanged =>
      have ahead := (readFirst_spares .batteryLevelChanged (by decide)).bind
        fun _ => (lookUp_spares _ .cellularAllowed rfl).bind
        fun _ => ask_spares _ .isOnWifi rfl
      have fitted := readFirst_reads.bind
        fun _ => (lookUp_reads .cellularAllowed).bind fun _ => ask_reads .isOnWifi
      exact (value_batteryLevel ((equipped rfl).trans (fitted host).hasBattery.symm)).trans (ahead host)
  | lowPowerModeChanged =>
      have ahead := (readFirst_spares .lowPowerModeChanged (by decide)).bind
        fun _ => (lookUp_spares _ .cellularAllowed rfl).bind
        fun _ => (ask_spares _ .isOnWifi rfl).bind
        fun _ => batteryLevel_spares _ (by decide) session
      exact (value_isLowPower _).trans (ahead host)
  | willEnterForeground =>
      have ahead := (readFirst_spares .willEnterForeground (by decide)).bind
        fun _ => (lookUp_spares _ .cellularAllowed rfl).bind
        fun _ => (ask_spares _ .isOnWifi rfl).bind
        fun _ => (batteryLevel_spares _ (by decide) session).bind
        fun _ => isLowPower_spares _ (by decide)
      exact (value_lookUp .freeSpace _).trans (ahead host)

end Host

end TransferGate
