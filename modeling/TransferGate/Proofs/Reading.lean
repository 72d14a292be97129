import TransferGate.Controller
import TransferGate.Proofs.Law

/-! # What readings do

A reading asks the host and may write to the log. It changes the sources exactly
as the questions in its record say, and it changes nothing about whether there is
a battery manager. `Host.reading` is this law, and every reading obeys it.
-/

namespace TransferGate

namespace Sources

def after (sources : Sources) : Effect → Sources
  | .asked exchange => (sources.read exchange.question).2
  | .replaced next => next
  | _ => sources

def afterAll (sources : Sources) (record : List Effect) : Sources := record.foldl after sources

@[simp] theorem afterAll_nil (sources : Sources) : sources.afterAll [] = sources := rfl

@[simp] theorem afterAll_cons (sources : Sources) (effect : Effect) (record : List Effect) :
    sources.afterAll (effect :: record) = (sources.after effect).afterAll record := rfl

@[simp] theorem afterAll_append (sources : Sources) (first second : List Effect) :
    sources.afterAll (first ++ second) = (sources.afterAll first).afterAll second :=
  List.foldl_append

end Sources

namespace Question

/-- May be asked at any time, whether or not anybody observes. -/
def isPlain : Question → Bool
  | .isMainApp => true
  | .isAppReady => true
  | .maxDownload => true
  | .closeQueues => true
  | .lookUp lookup => lookup != .cellularAllowed
  | _ => false

/-- Asked only while observing; `session` is the open battery session. -/
def isWatching (session : Option Nat) (hasBattery : Bool) : Question → Bool
  | .isRegistered => true
  | .isOnWifi => true
  | .isLowPower => hasBattery
  | .batteryLevel asked => session == some asked
  | .lookUp lookup => lookup == .cellularAllowed
  | _ => false

def isRead (session : Option Nat) (hasBattery : Bool) (question : Question) : Bool :=
  question.isPlain || question.isWatching session hasBattery

end Question

def Effect.isInquiry : Effect → Bool
  | .asked _ => true
  | .logged _ => true
  | _ => false

theorem Effect.notices_of_isInquiry {record : List Effect}
    (inquiries : ∀ effect ∈ record, effect.isInquiry = true) :
    record.filterMap Effect.notice? = [] := by
  apply List.filterMap_eq_nil_iff.mpr
  intro effect member
  have inquiry := inquiries effect member
  cases effect <;> first | rfl | cases inquiry

namespace Host

structure Reads (before : Host) (record : List Effect) (after : Host) : Prop where
  inquiries : ∀ effect ∈ record, effect.isInquiry = true
  sources : after.sources = before.sources.afterAll record
  hasBattery : after.hasBattery = before.hasBattery

def reading : Law Host where
  holds := Reads
  idle host := ⟨by simp, rfl, rfl⟩
  join first second :=
    { inquiries := by
        intro effect member
        rcases List.mem_append.mp member with inFirst | inSecond
        · exact first.inquiries effect inFirst
        · exact second.inquiries effect inSecond
      sources := by
        rw [second.sources, first.sources, Sources.afterAll_append]
      hasBattery := second.hasBattery.trans first.hasBattery }

open Activity

variable {Value : Type}

theorem ask_reads (question : Question) : Obeys reading (ask question) := fun _ =>
  ⟨by simp [Effect.isInquiry], rfl, rfl⟩

theorem log_reads (line : LogLine) : Obeys reading (Activity.log line) := fun _ =>
  ⟨by simp [Effect.isInquiry], rfl, rfl⟩

theorem modify_reads (change : Host → Host)
    (sameSources : ∀ host, (change host).sources = host.sources)
    (sameBattery : ∀ host, (change host).hasBattery = host.hasBattery) :
    Obeys reading (Activity.modify change) := fun host =>
  ⟨by simp, sameSources host, sameBattery host⟩

/-! ## Laws of readings -/

theorem downloadsSuspended_obeys {law : Law Host} (opening : Obeys law (lookUp .openQueues))
    (looking : Obeys law (lookUp (.isSuspended .download)))
    (closing : Obeys law (ask .closeQueues)) : Obeys law downloadsSuspended := by
  apply opening.bind
  intro opened
  cases opened with
  | none => exact .pure _
  | some _ => exact looking.bind fun _ => closing.bind fun _ => .pure _

theorem probeQueues_obeys {law : Law Host}
    (looking : ∀ lookup, lookup ≠ .cellularAllowed → Obeys law (lookUp lookup))
    (closing : Obeys law (ask .closeQueues)) : Obeys law probeQueues := by
  apply (looking .openQueues (by simp)).bind
  intro opened
  cases opened with
  | none => exact .pure _
  | some _ =>
      exact (looking (.pendingCount .upload 1) (by simp)).bind fun _ =>
        (looking (.hasReadyWork .download) (by simp)).bind fun _ =>
        (looking (.isSuspended .download) (by simp)).bind fun _ => closing.bind fun _ => .pure _

theorem isLowPower_obeys {law : Law Host} (asking : Obeys law (ask .isLowPower)) :
    Obeys law isLowPower := by
  apply Obeys.get.bind
  intro host
  cases host.hasBattery with
  | false => exact .pure _
  | true => exact asking.bind fun _ => .pure _

theorem batteryLevel_obeys {law : Law Host}
    (asking : ∀ opened, Obeys law (ask (.batteryLevel opened))) (session : Option Nat) :
    Obeys law (batteryLevel session) := by
  cases session with
  | none => exact .pure _
  | some opened => exact asking opened

theorem beginBattery_obeys {law : Law Host}
    (asking : ∀ reason session, Obeys law (ask (.beginBattery reason session)))
    (counting : ∀ session, Obeys law (Activity.modify fun host =>
      { host with nextSession := session + 1 })) : Obeys law beginBattery := by
  refine Obeys.get.bind fun _ => Obeys.get.bind fun host => ?_
  cases host.hasBattery with
  | false => exact .pure _
  | true => exact (asking _ _).bind fun _ => (counting _).bind fun _ => .pure _

theorem endBattery_obeys {law : Law Host}
    (asking : ∀ opened, Obeys law (ask (.endBattery opened))) (session : Option Nat) :
    Obeys law (endBattery session) := by
  cases session with
  | none => exact .pure _
  | some opened => exact asking opened

theorem requiredBytes_obeys {law : Law Host} (asking : Obeys law (ask .maxDownload))
    (keeping : ∀ bytes, Obeys law (Activity.modify fun host =>
      { host with requirement := { host.requirement with known := some bytes } })) :
    Obeys law requiredBytes := by
  apply Obeys.get.bind
  intro host
  cases host.requirement.known with
  | some bytes => exact .pure _
  | none =>
      exact asking.bind fun _ => Obeys.get.bind fun _ => (keeping _).bind fun _ => .pure _

/-- The law holds of asking these questions, and of all else that readings do. What is asked may
depend on whether there is a battery manager. -/
structure Admits (asked : Bool → Question → Prop) (law : Law Host) : Prop where
  ask : ∀ question host, asked host.hasBattery question →
    law.holds host ((ask question).run host).effects ((ask question).run host).state
  log : ∀ line, Obeys law (Activity.log line)
  keepRequirement : ∀ bytes, Obeys law (Activity.modify fun host =>
    { host with requirement := { host.requirement with known := some bytes } })

namespace Admits

variable {asked : Bool → Question → Prop} {law : Law Host}

theorem question (admits : Admits asked law) {question : Question}
    (always : ∀ hasBattery, asked hasBattery question) : Obeys law (Host.ask question) :=
  fun host => admits.ask question host (always _)

theorem lookUp (admits : Admits asked law) {lookup : Lookup}
    (always : ∀ hasBattery, asked hasBattery (.lookUp lookup)) : Obeys law (lookUp lookup) := by
  apply (admits.question always).bind
  intro answer
  cases answer with
  | ok value => exact .pure _
  | error failure => exact (admits.log _).bind fun _ => .pure _

theorem isLowPower (admits : Admits asked law) (fitted : asked true .isLowPower) :
    Obeys law isLowPower := by
  intro host
  rw [Host.isLowPower, run_bind, run_get]
  cases known : host.hasBattery with
  | false => simpa [known] using law.idle host
  | true => simpa [known] using admits.ask .isLowPower host (known ▸ fitted)

theorem batteryLevel (admits : Admits asked law) {session : Option Nat}
    (own : ∀ opened hasBattery, session = some opened →
      asked hasBattery (.batteryLevel opened)) : Obeys law (batteryLevel session) := by
  cases session with
  | none => exact .pure _
  | some opened => exact admits.question fun hasBattery => own opened hasBattery rfl

section

variable (admits : Admits asked law)
  (plain : ∀ hasBattery question, question.isPlain = true → asked hasBattery question)

include admits plain

theorem requiredBytes : Obeys law requiredBytes :=
  requiredBytes_obeys (admits.question fun _ => plain _ .maxDownload rfl) admits.keepRequirement

private theorem downloadsSuspended : Obeys law downloadsSuspended :=
  downloadsSuspended_obeys (admits.lookUp fun _ => plain _ (.lookUp .openQueues) rfl)
    (admits.lookUp fun _ => plain _ (.lookUp (.isSuspended .download)) rfl)
    (admits.question fun _ => plain _ .closeQueues rfl)

theorem probeQueues : Obeys law probeQueues := by
  refine probeQueues_obeys (fun lookup other => ?_)
    (admits.question fun _ => plain _ .closeQueues rfl)
  exact admits.lookUp fun _ => plain _ (.lookUp lookup) (by simpa [Question.isPlain] using other)

end

section

variable (admits : Admits asked law) {session : Option Nat}
  (each : ∀ hasBattery question, question.isRead session hasBattery = true →
    asked hasBattery question)

include admits each

theorem ofSession : Obeys law (Host.batteryLevel session) := by
  apply admits.batteryLevel
  intro opened hasBattery same
  exact each _ _ (by simp [Question.isRead, Question.isWatching, same])

theorem readFor (signal : Signal) : Obeys law (readFor session signal) := by
  have plain := fun hasBattery question (isPlain : question.isPlain = true) =>
    each hasBattery question (by simp [Question.isRead, isPlain])
  cases signal with
  | appReady => exact (admits.question fun _ => each _ .isAppReady rfl).bind fun _ => .pure _
  | registrationChanged =>
      exact (admits.question fun _ => each _ .isRegistered rfl).bind fun _ => .pure _
  | cellularPreferenceChanged =>
      exact (admits.lookUp fun _ => each _ (.lookUp .cellularAllowed) rfl).bind fun _ => .pure _
  | reachabilityChanged =>
      exact (admits.question fun _ => each _ .isOnWifi rfl).bind fun _ => .pure _
  | batteryLevelChanged => exact (admits.ofSession each).bind fun _ => .pure _
  | lowPowerModeChanged => exact (admits.isLowPower (each _ _ rfl)).bind fun _ => .pure _
  | willEnterForeground =>
      exact (admits.lookUp fun _ => each _ (.lookUp .freeSpace) rfl).bind fun _ => .pure _
  | downloadSuspensionChanged => exact (admits.downloadsSuspended plain).bind fun _ => .pure _

theorem readAll : Obeys law (readAll session) := by
  have plain := fun hasBattery question (isPlain : question.isPlain = true) =>
    each hasBattery question (by simp [Question.isRead, isPlain])
  exact (admits.question fun _ => each _ .isMainApp rfl).bind fun _ =>
    (admits.question fun _ => each _ .isAppReady rfl).bind fun _ =>
    (admits.question fun _ => each _ .isRegistered rfl).bind fun _ =>
    (admits.downloadsSuspended plain).bind fun _ =>
    (admits.lookUp fun _ => each _ (.lookUp .cellularAllowed) rfl).bind fun _ =>
    (admits.question fun _ => each _ .isOnWifi rfl).bind fun _ =>
    (admits.ofSession each).bind fun _ =>
    (admits.isLowPower (each _ _ rfl)).bind fun _ =>
    (admits.lookUp fun _ => each _ (.lookUp .freeSpace) rfl).bind fun _ =>
    (admits.requiredBytes plain).bind fun _ => .pure _

end

end Admits

/-! ## Every reading is a reading -/

theorem reading_admits : Admits (fun _ _ => True) reading where
  ask question host _ := ask_reads question host
  log := log_reads
  keepRequirement _ := modify_reads _ (fun _ => rfl) fun _ => rfl

theorem lookUp_reads (lookup : Lookup) : Obeys reading (lookUp lookup) :=
  reading_admits.lookUp fun _ => trivial

theorem beginBattery_reads : Obeys reading beginBattery :=
  beginBattery_obeys (fun _ _ => ask_reads _) fun _ => modify_reads _ (fun _ => rfl) fun _ => rfl

theorem endBattery_reads (session : Option Nat) : Obeys reading (endBattery session) :=
  endBattery_obeys (fun _ => ask_reads _) session

theorem requiredBytes_reads : Obeys reading requiredBytes :=
  reading_admits.requiredBytes fun _ _ _ => trivial

theorem downloadsSuspended_reads : Obeys reading downloadsSuspended :=
  reading_admits.downloadsSuspended fun _ _ _ => trivial

theorem probeQueues_reads : Obeys reading probeQueues :=
  reading_admits.probeQueues fun _ _ _ => trivial

theorem readFor_reads (session : Option Nat) (signal : Signal) :
    Obeys reading (readFor session signal) :=
  reading_admits.readFor (fun _ _ _ => trivial) signal

theorem readAll_reads (session : Option Nat) : Obeys reading (readAll session) :=
  reading_admits.readAll fun _ _ _ => trivial

end Host

end TransferGate
