import TransferGate.Proofs.Restarting

/-! # Looks at the queues

The queues are looked at in transactions. A `Look` is one transaction and what came of it: it
could not be opened, or it was opened, everything was looked up that this kind of look is about,
whatever came of the lookups before, and it was closed. So the calls of the queues in a record
are those of a list of looks, one after the other.

A lookup that fails is logged at once, and nothing else is worth a warning. So the warnings in
a record are the failed lookups in it. `absorbing` is the law that says both.
-/

namespace TransferGate

open Activity

structure Measurement where
  pending : Except ReadFailure Nat
  ready : Except ReadFailure Bool
  suspended : Except ReadFailure Bool

def Measurement.empty (measurement : Measurement) : PerQueue Bool where
  upload := match measurement.pending with
    | .ok count => count == 0
    | .error _ => true
  download := match measurement.ready with
    | .ok ready => !ready
    | .error _ => true

inductive Look where
  | probe (opened : Except ReadFailure Measurement)
  | suspension (opened : Except ReadFailure (Except ReadFailure Bool))

namespace Look

def isProbe : Look → Bool
  | .probe _ => true
  | .suspension _ => false

def calls : Look → List Exchange
  | .probe (.error failure) => [⟨.lookUp .openQueues, .error failure⟩]
  | .probe (.ok found) =>
      [⟨.lookUp .openQueues, .ok ()⟩, ⟨.lookUp (.pendingCount .upload 1), found.pending⟩,
        ⟨.lookUp (.hasReadyWork .download), found.ready⟩,
        ⟨.lookUp (.isSuspended .download), found.suspended⟩, ⟨.closeQueues, ()⟩]
  | .suspension (.error failure) => [⟨.lookUp .openQueues, .error failure⟩]
  | .suspension (.ok suspended) =>
      [⟨.lookUp .openQueues, .ok ()⟩, ⟨.lookUp (.isSuspended .download), suspended⟩,
        ⟨.closeQueues, ()⟩]

end Look

/-- Which queues count as empty after they were measured: both, if they could not be looked at. -/
def emptyIn : Except ReadFailure Measurement → PerQueue Bool
  | .error _ => .both true
  | .ok found => found.empty

/-! ## What a record tells about lookups -/

def Question.isOfQueues : Question → Bool
  | .lookUp .openQueues => true
  | .lookUp (.pendingCount _ _) => true
  | .lookUp (.hasReadyWork _) => true
  | .lookUp (.isSuspended _) => true
  | .closeQueues => true
  | _ => false

def queueCalls (record : List Effect) : List Exchange :=
  (record.filterMap Effect.exchange?).filter (·.question.isOfQueues)

def failedLookups (record : List Effect) : List (Lookup × ReadFailure) :=
  (record.filterMap Effect.exchange?).filterMap Exchange.failedLookup?

def warnings (record : List Effect) : List LogLine :=
  (record.filterMap Effect.line?).filter (·.level == .warn)

def lineOf (failed : Lookup × ReadFailure) : LogLine := failed.1.failureLine failed.2

theorem queueCalls_append (first second : List Effect) :
    queueCalls (first ++ second) = queueCalls first ++ queueCalls second := by
  simp [queueCalls]

theorem failedLookups_append (first second : List Effect) :
    failedLookups (first ++ second) = failedLookups first ++ failedLookups second := by
  simp [failedLookups]

theorem warnings_append (first second : List Effect) :
    warnings (first ++ second) = warnings first ++ warnings second := by
  simp [warnings]

/-- The calls of the queues are these looks, and the warnings are the failed lookups. -/
structure Absorbed (looks : List Look) (record : List Effect) : Prop where
  calls : queueCalls record = looks.flatMap Look.calls
  warns : warnings record = (failedLookups record).map lineOf

def Effect.isQuiet : Effect → Bool
  | .asked _ => false
  | .logged line => line.level != .warn
  | _ => true

namespace Absorbed

variable {looks others : List Look} {first second record : List Effect}

theorem append (earlier : Absorbed looks first) (later : Absorbed others second) :
    Absorbed (looks ++ others) (first ++ second) where
  calls := by rw [queueCalls_append, earlier.calls, later.calls, List.flatMap_append]
  warns := by
    rw [warnings_append, failedLookups_append, earlier.warns, later.warns, List.map_append]

theorem of_quiet (quiet : ∀ effect ∈ record, effect.isQuiet = true) : Absorbed [] record := by
  have unasked : record.filterMap Effect.exchange? = [] := by
    apply List.filterMap_eq_nil_iff.mpr
    intro effect member
    have isQuiet := quiet effect member
    cases effect <;> first | rfl | cases isQuiet
  have unwarned : warnings record = [] := by
    apply List.filter_eq_nil_iff.mpr
    intro line member
    rcases List.mem_filterMap.mp member with ⟨effect, inRecord, logged⟩
    have isQuiet := quiet effect inRecord
    cases effect with
    | logged other =>
        cases logged
        simpa [Effect.isQuiet] using isQuiet
    | _ => cases logged
  exact ⟨by rw [queueCalls, unasked]; rfl, by rw [unwarned, failedLookups, unasked]; rfl⟩

end Absorbed

/-! ## Exchanges that are put on record -/

/-- What the exchange leaves behind: itself, and a line if it is a lookup that failed. -/
def Exchange.record (exchange : Exchange) : List Effect :=
  .asked exchange :: (exchange.failedLookup?.map fun failed => .logged (lineOf failed)).toList

theorem Exchange.exchanges_record (exchange : Exchange) :
    exchange.record.filterMap Effect.exchange? = [exchange] := by
  rw [Exchange.record]
  cases exchange.failedLookup? <;> rfl

private theorem Exchange.warnings_record (exchange : Exchange) :
    warnings exchange.record = exchange.failedLookup?.toList.map lineOf := by
  rw [Exchange.record]
  cases exchange.failedLookup? with
  | none => rfl
  | some failed =>
      rcases failed with ⟨lookup, failure⟩
      cases lookup <;> rfl

theorem exchanges_flatMap_record (exchanges : List Exchange) :
    (exchanges.flatMap Exchange.record).filterMap Effect.exchange? = exchanges := by
  induction exchanges with
  | nil => rfl
  | cons exchange rest induction =>
      rw [List.flatMap_cons, List.filterMap_append, exchange.exchanges_record, induction]
      rfl

private theorem warnings_flatMap_record (exchanges : List Exchange) :
    warnings (exchanges.flatMap Exchange.record) =
      (exchanges.filterMap Exchange.failedLookup?).map lineOf := by
  induction exchanges with
  | nil => rfl
  | cons exchange rest induction =>
      rw [List.flatMap_cons, warnings_append, exchange.warnings_record, induction,
        List.filterMap_cons]
      cases exchange.failedLookup? <;> rfl

theorem Absorbed.of_exchanges {looks : List Look} {exchanges : List Exchange}
    (calls : exchanges.filter (·.question.isOfQueues) = looks.flatMap Look.calls) :
    Absorbed looks (exchanges.flatMap Exchange.record) where
  calls := by rw [queueCalls, exchanges_flatMap_record, calls]
  warns := by rw [warnings_flatMap_record, failedLookups, exchanges_flatMap_record]

def Look.record (look : Look) : List Effect := look.calls.flatMap Exchange.record

theorem Look.absorbed (look : Look) : Absorbed [look] look.record := by
  apply Absorbed.of_exchanges
  rw [List.flatMap_singleton]
  cases look with
  | probe opened => cases opened <;> rfl
  | suspension opened => cases opened <;> rfl

/-! ## What the host is looked at for -/

namespace Sources

def measured (sources : Sources) : Except ReadFailure Measurement :=
  sources.queues.current.map fun _ =>
    ⟨(sources.lookUp (.pendingCount .upload 1)).1, (sources.lookUp (.hasReadyWork .download)).1,
      (sources.lookUp (.isSuspended .download)).1⟩

def suspension (sources : Sources) : Except ReadFailure (Except ReadFailure Bool) :=
  sources.queues.current.map fun _ => (sources.lookUp (.isSuspended .download)).1

theorem emptyIn_measured (sources : Sources) : emptyIn sources.measured = sources.finds := by
  rw [measured, finds]
  cases sources.queues.current with
  | error failure => rfl
  | ok _ =>
      change Measurement.empty _ = _
      rw [Measurement.empty]
      cases (sources.lookUp (.pendingCount .upload 1)).1 <;>
        cases (sources.lookUp (.hasReadyWork .download)).1 <;> rfl

end Sources

namespace Host

theorem effects_lookUp (lookup : Lookup) (host : Host) :
    ((lookUp lookup).run host).effects =
      Exchange.record ⟨.lookUp lookup, (host.sources.lookUp lookup).1⟩ := by
  rw [run_lookUp]
  cases answer : (host.sources.lookUp lookup).1 <;> simp [Exchange.record, Exchange.failedLookup?,
    lineOf]

theorem effects_probeQueues (host : Host) :
    (probeQueues.run host).effects = (Look.probe host.sources.measured).record := by
  have pending (host : Host) := effects_lookUp (.pendingCount .upload 1) host
  have ready (host : Host) := effects_lookUp (.hasReadyWork .download) host
  have suspended (host : Host) := effects_lookUp (.isSuspended .download) host
  have afterPending (host : Host) := state_lookUp (.pendingCount .upload 1) host
  have afterReady (host : Host) := state_lookUp (.hasReadyWork .download) host
  rw [probeQueues, run_bind, effects_lookUp, value_lookUp, state_lookUp]
  cases opened : host.sources.queues.current with
  | error failure =>
      simp [Sources.lookUp, Sources.measured, opened, Except.toOption, Except.map, Look.record,
        Look.calls]
  | ok _ =>
      simp only [Sources.lookUp, opened, Except.toOption, run_bind, run_pure]
      rw [pending, ready, suspended, afterPending, afterReady]
      simp only [Sources.measured, opened, Except.map, Look.record, Look.calls, List.flatMap_cons,
        List.flatMap_nil, List.append_nil]
      rfl

theorem effects_downloadsSuspended (host : Host) :
    (downloadsSuspended.run host).effects = (Look.suspension host.sources.suspension).record := by
  have suspended (host : Host) := effects_lookUp (.isSuspended .download) host
  rw [downloadsSuspended, run_bind, effects_lookUp, value_lookUp, state_lookUp]
  cases opened : host.sources.queues.current with
  | error failure =>
      simp [Sources.lookUp, Sources.suspension, opened, Except.toOption, Except.map, Look.record,
        Look.calls]
  | ok _ =>
      simp only [Sources.lookUp, opened, Except.toOption, run_bind, run_pure]
      rw [suspended]
      simp only [Sources.suspension, opened, Except.map, Look.record, Look.calls,
        List.flatMap_cons, List.flatMap_nil, List.append_nil]
      rfl

end Host

end TransferGate
