import TransferGate.Conditions
import TransferGate.Event
import TransferGate.Host.Question

/-! # Log lines

Every line that the gate may write, with its wording in one place.
-/

namespace TransferGate

inductive LogLevel where
  | debug
  | info
  | warn
deriving DecidableEq, Repr

inductive LogValue where
  | text (text : String)
  | count (count : Nat)
deriving DecidableEq, Repr

structure LogLine where
  level : LogLevel
  message : String
  fields : List (String × LogValue) := []
deriving DecidableEq, Repr

/-- The line that reports a failed lookup. For the queues it names the failure only;
otherwise it gives the label of the failure as well. -/
def Lookup.failureLine (lookup : Lookup) (failure : ReadFailure) : LogLine :=
  let named := [("error", LogValue.text failure.display)]
  let labelled := named ++ [("label", LogValue.text failure.label)]
  match lookup with
  | .cellularAllowed => ⟨.warn, "unable to read cellular backup preference", labelled⟩
  | .freeSpace => ⟨.warn, "unable to determine disk space", labelled⟩
  | .openQueues => ⟨.warn, "unable to open queue read transaction", named⟩
  | .pendingCount _ _ => ⟨.warn, "unable to read pending uploads", named⟩
  | .hasReadyWork _ => ⟨.warn, "unable to read ready downloads", named⟩
  | .isSuspended _ => ⟨.warn, "unable to read download suspension", named⟩

namespace LogLine

def statusChange (change : Conditions.StatusChange) : LogLine where
  level := .debug
  message := "queue status changed"
  fields := [("queue", .text change.queue.label), ("from", .text change.was.label),
    ("to", .text change.becomes.label)]

def observationStarted : LogLine := ⟨.debug, "signal observation started", []⟩

def observationStopped : LogLine := ⟨.debug, "signal observation stopped", []⟩

def shuttingDown : LogLine := ⟨.debug, "status machine shutting down", []⟩

def serverStopped : LogLine := ⟨.debug, "status actor stopped", []⟩

def lifecycleLagged (missed : Nat) : LogLine :=
  ⟨.warn, "lifecycle receiver lagged; re-reading readiness", [("skipped", .count missed)]⟩

def observationLagged (missed : Nat) : LogLine :=
  ⟨.warn, "observation receiver lagged; refreshing all signals", [("skipped", .count missed)]⟩

def relayLagged (missed : Nat) : LogLine :=
  ⟨.warn, "subscriber listener lagged", [("skipped", .count missed)]⟩

def subscriberPanicked (subscriber info : String) : LogLine :=
  ⟨.warn, "subscriber panicked", [("subscriber", .text subscriber), ("info", .text info)]⟩

/-- The line by which a log-writing subscriber reports an event. Parts that the event
does not have are left out of a status line and are "unknown" in a report. -/
def ofNotice (notice : Notice) : LogLine :=
  match notice.kind with
  | .queueStatusChanged =>
      ⟨.info, "[status]",
        (notice.queue.map fun queue => ("queue", LogValue.text queue.label)).toList ++
          (notice.status.map fun status => ("status", LogValue.text status.label)).toList⟩
  | .observationStarted => ⟨.info, "[observation-started]", []⟩
  | .observationStopped => ⟨.info, "[observation-stopped]", []⟩
  | .subscriberOverflow =>
      ⟨.warn, "[subscriber-overflow]",
        [("subscriber", .text (notice.source.getD "unknown")),
          ("reason", .text (notice.reason.getD "unknown"))]⟩
  | .subscriberPanicked =>
      ⟨.warn, "[subscriber-panicked]",
        [("subscriber", .text (notice.source.getD "unknown")),
          ("info", .text (notice.reason.getD "unknown"))]⟩
  | .signal signal =>
      ⟨.debug, "[signal]", [("kind", .text (EventKind.name (.signal signal)))]⟩

end LogLine

end TransferGate
