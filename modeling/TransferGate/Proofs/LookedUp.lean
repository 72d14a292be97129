import TransferGate.Proofs.Looks

/-! # What was looked up

What the conditions say about free space, cellular data and suspension is at any moment what came
of the last lookup, `Heeded`. A lookup that failed makes that unknown. Readings of the host are
looked at here one by one, with what they tell.
-/

namespace TransferGate

open Activity

/-! ## What is known from lookups -/

/-- The part of the conditions that comes from lookups that may fail. -/
structure LookedUp where
  cellularAllowed : Option Bool
  freeBytes : Option UInt64
  downloadsSuspended : Option Bool
deriving DecidableEq, Repr

def Conditions.lookedUp (conditions : Conditions) : LookedUp where
  cellularAllowed := conditions.cellularAllowed
  freeBytes := conditions.freeBytes
  downloadsSuspended := conditions.downloadsSuspended

namespace LookedUp

/-- What is known after the exchange. Nothing is known from a lookup that failed, nor about
suspension if the queues could not be opened. -/
def heed (known : LookedUp) : Exchange → LookedUp
  | ⟨.lookUp .cellularAllowed, answer⟩ => { known with cellularAllowed := answer.toOption }
  | ⟨.lookUp .freeSpace, answer⟩ => { known with freeBytes := answer.toOption }
  | ⟨.lookUp .openQueues, .error _⟩ => { known with downloadsSuspended := none }
  | ⟨.lookUp (.isSuspended .download), answer⟩ =>
      { known with downloadsSuspended := answer.toOption }
  | _ => known

def after (known : LookedUp) (record : List Effect) : LookedUp :=
  (record.filterMap Effect.exchange?).foldl heed known

theorem after_append (known : LookedUp) (first second : List Effect) :
    known.after (first ++ second) = (known.after first).after second := by
  simp [after]

private theorem after_record (known : LookedUp) (exchange : Exchange) :
    known.after exchange.record = known.heed exchange := by
  rw [after, exchange.exchanges_record]
  rfl

private theorem after_exchanges (known : LookedUp) (exchanges : List Exchange) :
    known.after (exchanges.flatMap Exchange.record) = exchanges.foldl heed known := by
  rw [after, exchanges_flatMap_record]

end LookedUp

/-- Conditions are recorded that say what was looked up last. -/
def Heeded : LookedUp → List Effect → Prop
  | _, [] => True
  | known, effect :: rest =>
      (∀ conditions, effect = .revised conditions → conditions.lookedUp = known) ∧
        Heeded (known.after [effect]) rest

namespace Heeded

variable {known : LookedUp} {first second record : List Effect}

theorem append_iff :
    Heeded known (first ++ second) ↔ Heeded known first ∧ Heeded (known.after first) second := by
  induction first generalizing known with
  | nil => simp [Heeded, LookedUp.after]
  | cons effect rest induction =>
      have later := known.after_append [effect] rest
      rw [List.singleton_append] at later
      rw [List.cons_append, Heeded, Heeded, induction, later, and_assoc]

theorem of_unrevised (unrevised : ∀ conditions, .revised conditions ∉ record) :
    Heeded known record := by
  induction record generalizing known with
  | nil => trivial
  | cons effect rest induction =>
      refine ⟨fun conditions isRevision => ?_, induction fun conditions member => ?_⟩
      · exact absurd (by simp [isRevision]) (unrevised conditions)
      · exact unrevised conditions (List.mem_cons_of_mem _ member)

end Heeded

namespace Controller

/-- The conditions say what was looked up last, in the end and whenever they are recorded. -/
structure UpToDate (before : Controller) (record : List Effect) (after : Controller) : Prop where
  known : after.conditions.lookedUp = before.conditions.lookedUp.after record
  meanwhile : Heeded before.conditions.lookedUp record

/-- Whenever conditions are recorded, they say what was looked up last. -/
theorem UpToDate.at_split {before after : Controller} {record first second : List Effect}
    {conditions : Conditions} (upToDate : UpToDate before record after)
    (split : record = first ++ .revised conditions :: second) :
    conditions.lookedUp = before.conditions.lookedUp.after first := by
  have heeded := upToDate.meanwhile
  rw [split, Heeded.append_iff] at heeded
  exact heeded.2.1 conditions rfl

def keepingUpToDate : Law Controller where
  holds := UpToDate
  idle _ := ⟨rfl, trivial⟩
  join first second :=
    { known := by rw [second.known, first.known, LookedUp.after_append]
      meanwhile := Heeded.append_iff.mpr ⟨first.meanwhile, first.known ▸ second.meanwhile⟩ }

/-- The conditions are up to date, the calls of the queues are these looks, and the warnings are the
failed lookups. -/
structure Heeds (looks : List Look) (before : Controller) (record : List Effect)
    (after : Controller) : Prop extends UpToDate before record after where
  absorbed : Absorbed looks record

theorem Heeds.append {looks others : List Look} {before between after : Controller}
    {first second : List Effect} (earlier : Heeds looks before first between)
    (later : Heeds others between second after) :
    Heeds (looks ++ others) before (first ++ second) after where
  toUpToDate := keepingUpToDate.join earlier.toUpToDate later.toUpToDate
  absorbed := earlier.absorbed.append later.absorbed

private theorem heeds_nil (controller : Controller) : Heeds [] controller [] controller :=
  ⟨keepingUpToDate.idle controller, rfl, rfl⟩

def heeding : Law Controller where
  holds before record after :=
    ∃ looks, (∀ look ∈ looks, look.isProbe = false) ∧ Heeds looks before record after
  idle controller := ⟨[], by simp, heeds_nil controller⟩
  join := by
    rintro before between after first second ⟨looks, unmeasured, earlier⟩
      ⟨others, othersUnmeasured, later⟩
    refine ⟨looks ++ others, fun look member => ?_, earlier.append later⟩
    exact (List.mem_append.mp member).elim (unmeasured look) (othersUnmeasured look)

theorem heeding_of_heeds {before after : Controller} {record : List Effect}
    (heeds : Heeds [] before record after) : heeding.holds before record after :=
  ⟨[], by simp, heeds⟩

/-! ## What looks nothing up -/

def isAside : Effect → Bool
  | .revised _ => false
  | effect => effect.isQuiet

theorem heeds_asides {before after : Controller} {record : List Effect}
    (asides : ∀ effect ∈ record, isAside effect = true)
    (conditions : after.conditions = before.conditions) : Heeds [] before record after where
  absorbed := .of_quiet fun effect member => by
    have aside := asides effect member
    cases effect <;> first | exact aside | rfl
  known := by
    have unasked : record.filterMap Effect.exchange? = [] := by
      apply List.filterMap_eq_nil_iff.mpr
      intro effect member
      have aside := asides effect member
      cases effect <;> first | rfl | cases aside
    rw [conditions, LookedUp.after, unasked]
    rfl
  meanwhile := .of_unrevised fun conditions member => by cases asides _ member

theorem heeding_emit {effect : Effect} (aside : isAside effect = true) :
    Obeys heeding (Activity.emit effect) :=
  .emit fun _ => heeding_of_heeds (heeds_asides (by simpa using aside) rfl)

theorem heeding_modify {change : Controller → Controller}
    (conditions : ∀ controller, (change controller).conditions = controller.conditions) :
    Obeys heeding (Activity.modify change) :=
  .modify fun controller => heeding_of_heeds (heeds_asides (by simp) (conditions controller))

theorem aside_changeEffects (changes : List Conditions.StatusChange) :
    ∀ effect ∈ changes.flatMap changeEffects, isAside effect = true := by
  intro effect member
  rcases List.mem_flatMap.mp member with ⟨change, -, inChange⟩
  simp only [changeEffects, List.mem_cons, List.not_mem_nil, or_false] at inChange
  rcases inChange with rfl | rfl <;> rfl

end Controller

def Question.isSimple : Question → Bool
  | .lookUp _ => false
  | .closeQueues => false
  | _ => true

namespace Host

def askingSimply : Law Host :=
  .recording fun effect => ∃ exchange, effect = .asked exchange ∧ exchange.question.isSimple = true

theorem ask_simply {question : Question} (simple : question.isSimple = true) :
    Obeys askingSimply (ask question) := by
  intro host effect member
  exact ⟨_, List.mem_singleton.mp member, simple⟩

theorem modify_simply (change : Host → Host) : Obeys askingSimply (Activity.modify change) :=
  .modify fun _ effect member => by cases member

theorem isLowPower_simply : Obeys askingSimply isLowPower := isLowPower_obeys (ask_simply rfl)

theorem batteryLevel_simply (session : Option Nat) : Obeys askingSimply (batteryLevel session) :=
  batteryLevel_obeys (fun _ => ask_simply rfl) session

theorem beginBattery_simply : Obeys askingSimply beginBattery :=
  beginBattery_obeys (fun _ _ => ask_simply rfl) fun _ => modify_simply _

theorem endBattery_simply (session : Option Nat) : Obeys askingSimply (endBattery session) :=
  endBattery_obeys (fun _ => ask_simply rfl) session

theorem requiredBytes_simply : Obeys askingSimply requiredBytes :=
  requiredBytes_obeys (ask_simply rfl) fun _ => modify_simply _

theorem exchanges_of_simply {before after : Host} {record : List Effect}
    (simply : askingSimply.holds before record after) :
    ∃ exchanges : List Exchange, record = exchanges.flatMap Exchange.record ∧
      ∀ exchange ∈ exchanges, exchange.question.isSimple = true := by
  induction record with
  | nil => exact ⟨[], rfl, by simp⟩
  | cons effect rest induction =>
      rcases simply effect (List.mem_cons_self ..) with ⟨exchange, rfl, simple⟩
      obtain ⟨others, rfl, othersSimple⟩ :=
        induction fun other member => simply other (List.mem_cons_of_mem _ member)
      refine ⟨exchange :: others, ?_, by simpa [simple] using othersSimple⟩
      have unfailing : exchange.failedLookup? = none := by
        rcases exchange with ⟨question, answer⟩
        cases question <;> first | rfl | cases simple
      rw [List.flatMap_cons, Exchange.record, unfailing]
      rfl

end Host

private theorem Question.isOfQueues_of_isSimple {question : Question}
    (simple : question.isSimple = true) :
    question.isOfQueues = false := by
  cases question <;> first | rfl | cases simple

private theorem LookedUp.heed_of_isSimple (known : LookedUp) {exchange : Exchange}
    (simple : exchange.question.isSimple = true) : known.heed exchange = known := by
  rcases exchange with ⟨question, answer⟩
  cases question <;> first | rfl | cases simple

theorem LookedUp.after_of_simply (known : LookedUp) {before after : Host} {record : List Effect}
    (simply : Host.askingSimply.holds before record after) : known.after record = known := by
  rcases Host.exchanges_of_simply simply with ⟨exchanges, rfl, simple⟩
  clear simply
  rw [known.after_exchanges]
  induction exchanges with
  | nil => rfl
  | cons exchange rest induction =>
      rw [List.foldl_cons, known.heed_of_isSimple (simple exchange (List.mem_cons_self ..))]
      exact induction fun other member => simple other (List.mem_cons_of_mem _ member)

theorem Absorbed.of_simply {before after : Host} {record : List Effect}
    (simply : Host.askingSimply.holds before record after) : Absorbed [] record := by
  rcases Host.exchanges_of_simply simply with ⟨exchanges, rfl, simple⟩
  refine .of_exchanges (List.filter_eq_nil_iff.mpr fun exchange member => ?_)
  rw [Question.isOfQueues_of_isSimple (simple exchange member)]
  exact Bool.false_ne_true

/-! ## What readings tell -/

namespace Host

/-- The change that a reading yields sets what was looked up to what came of it. -/
def Tells (reading : Activity Host (Conditions → Conditions)) : Prop :=
  ∀ host conditions, ((reading.run host).value conditions).lookedUp =
    conditions.lookedUp.after (reading.run host).effects

private theorem after_cellularAllowed (known : LookedUp) (host : Host) :
    known.after (cellularAllowed.run host).effects =
      { known with cellularAllowed := (cellularAllowed.run host).value } := by
  have value := value_lookUp .cellularAllowed host
  rw [cellularAllowed, effects_lookUp, value]
  exact known.after_record _

private theorem after_freeSpace (known : LookedUp) (host : Host) :
    known.after (freeSpace.run host).effects =
      { known with freeBytes := (freeSpace.run host).value } := by
  have value := value_lookUp .freeSpace host
  rw [freeSpace, effects_lookUp, value]
  exact known.after_record _

private theorem after_downloadsSuspended (known : LookedUp) (host : Host) :
    known.after (downloadsSuspended.run host).effects =
      { known with downloadsSuspended := (downloadsSuspended.run host).value } := by
  rw [effects_downloadsSuspended, value_downloadsSuspended, Look.record, known.after_exchanges,
    current, Sources.current, Sources.currentSuspension, Sources.suspension]
  cases host.sources.queues.current <;> rfl

theorem after_probeQueues (known : LookedUp) (host : Host) :
    known.after (probeQueues.run host).effects =
      { known with downloadsSuspended := (probeQueues.run host).value.downloadsSuspended } := by
  rw [effects_probeQueues, suspension_probeQueues, Look.record, known.after_exchanges, current,
    Sources.current, Sources.currentSuspension, Sources.measured]
  cases host.sources.queues.current <;> rfl

theorem tells_of_simply {reading : Activity Host (Conditions → Conditions)}
    (simply : Obeys askingSimply reading)
    (keeps : ∀ host conditions,
      ((reading.run host).value conditions).lookedUp = conditions.lookedUp) : Tells reading := by
  intro host conditions
  rw [keeps, LookedUp.after_of_simply _ (simply host)]

theorem tells_readFor (session : Option Nat) (signal : Signal) : Tells (readFor session signal) := by
  cases signal with
  | appReady =>
      exact tells_of_simply ((ask_simply rfl).bind fun _ => .pure _) fun _ _ => rfl
  | registrationChanged =>
      exact tells_of_simply ((ask_simply rfl).bind fun _ => .pure _) fun _ _ => rfl
  | reachabilityChanged =>
      exact tells_of_simply ((ask_simply rfl).bind fun _ => .pure _) fun _ _ => rfl
  | batteryLevelChanged =>
      exact tells_of_simply ((batteryLevel_simply session).bind fun _ => .pure _) fun _ _ => rfl
  | lowPowerModeChanged =>
      exact tells_of_simply (isLowPower_simply.bind fun _ => .pure _) fun _ _ => rfl
  | cellularPreferenceChanged =>
      intro host conditions
      simp only [readFor, run_bind, run_pure, List.append_nil, after_cellularAllowed]
      rfl
  | willEnterForeground =>
      intro host conditions
      simp only [readFor, run_bind, run_pure, List.append_nil, after_freeSpace]
      rfl
  | downloadSuspensionChanged =>
      intro host conditions
      simp only [readFor, run_bind, run_pure, List.append_nil, after_downloadsSuspended]
      rfl

theorem tells_readAll (session : Option Nat) : Tells (readAll session) := by
  intro host conditions
  have mainApp (known : LookedUp) (host : Host) :
      known.after (isMainApp.run host).effects = known :=
    known.after_of_simply (ask_simply rfl host)
  have appReady (known : LookedUp) (host : Host) :
      known.after (isAppReady.run host).effects = known :=
    known.after_of_simply (ask_simply rfl host)
  have registered (known : LookedUp) (host : Host) :
      known.after (isRegistered.run host).effects = known :=
    known.after_of_simply (ask_simply rfl host)
  have wifi (known : LookedUp) (host : Host) :
      known.after (isOnWifi.run host).effects = known :=
    known.after_of_simply (ask_simply rfl host)
  have level (known : LookedUp) (host : Host) :=
    known.after_of_simply (batteryLevel_simply session host)
  have lowPower (known : LookedUp) (host : Host) :=
    known.after_of_simply (isLowPower_simply host)
  have required (known : LookedUp) (host : Host) :=
    known.after_of_simply (requiredBytes_simply host)
  simp only [readAll, run_bind, run_pure, List.append_nil, LookedUp.after_append, mainApp,
    appReady, registered, wifi, level, lowPower, required, after_downloadsSuspended,
    after_cellularAllowed, after_freeSpace]
  rfl

def absorbing : Law Host where
  holds _ record _ := ∃ looks, (∀ look ∈ looks, look.isProbe = false) ∧ Absorbed looks record
  idle _ := ⟨[], by simp, rfl, rfl⟩
  join := by
    rintro before between after first second ⟨looks, unmeasured, earlier⟩
      ⟨others, othersUnmeasured, later⟩
    refine ⟨looks ++ others, fun look member => ?_, earlier.append later⟩
    exact (List.mem_append.mp member).elim (unmeasured look) (othersUnmeasured look)

theorem absorbing_of_simply {Value : Type} {activity : Activity Host Value}
    (simply : Obeys askingSimply activity) : Obeys absorbing activity :=
  fun host => ⟨[], by simp, .of_simply (simply host)⟩

theorem ask_absorbs {question : Question} (simple : question.isSimple = true) :
    Obeys absorbing (ask question) :=
  absorbing_of_simply (ask_simply simple)

theorem lookUp_absorbs {lookup : Lookup} (other : (Question.lookUp lookup).isOfQueues = false) :
    Obeys absorbing (lookUp lookup) := by
  intro host
  refine ⟨[], by simp, ?_⟩
  rw [effects_lookUp, ← List.flatMap_singleton Exchange.record]
  exact .of_exchanges (by simp [other])

theorem downloadsSuspended_absorbs : Obeys absorbing downloadsSuspended := by
  intro host
  rw [effects_downloadsSuspended]
  exact ⟨[.suspension host.sources.suspension], by simp [Look.isProbe], Look.absorbed _⟩

theorem readFor_absorbs (session : Option Nat) (signal : Signal) :
    Obeys absorbing (readFor session signal) := by
  cases signal with
  | appReady => exact (ask_absorbs rfl).bind fun _ => .pure _
  | registrationChanged => exact (ask_absorbs rfl).bind fun _ => .pure _
  | cellularPreferenceChanged => exact (lookUp_absorbs rfl).bind fun _ => .pure _
  | reachabilityChanged => exact (ask_absorbs rfl).bind fun _ => .pure _
  | batteryLevelChanged =>
      exact (absorbing_of_simply (batteryLevel_simply session)).bind fun _ => .pure _
  | lowPowerModeChanged => exact (absorbing_of_simply isLowPower_simply).bind fun _ => .pure _
  | willEnterForeground => exact (lookUp_absorbs rfl).bind fun _ => .pure _
  | downloadSuspensionChanged => exact downloadsSuspended_absorbs.bind fun _ => .pure _

theorem readAll_absorbs (session : Option Nat) : Obeys absorbing (readAll session) :=
  (ask_absorbs rfl).bind fun _ => (ask_absorbs rfl).bind fun _ => (ask_absorbs rfl).bind fun _ =>
    downloadsSuspended_absorbs.bind fun _ => (lookUp_absorbs rfl).bind fun _ =>
    (ask_absorbs rfl).bind fun _ =>
    (absorbing_of_simply (batteryLevel_simply session)).bind fun _ =>
    (absorbing_of_simply isLowPower_simply).bind fun _ => (lookUp_absorbs rfl).bind fun _ =>
    (absorbing_of_simply requiredBytes_simply).bind fun _ => .pure _

end Host

end TransferGate
