import TransferGate.Host.Question

/-! # Sources of the host

A `Feed` lists the answers that one source will give, one per reading; its last
answer is repeated for ever. A feed with a single answer is a source that does
not change. Since a run reads every source finitely often, feeds describe
whatever the sources of a host may do during a run, failures included.

`Sources` holds the feed of every source, and `Sources.read` answers a question
from them. Only the feed that is asked moves on.
-/

namespace TransferGate

structure Feed (Value : Type) where
  current : Value
  later : List Value := []
deriving DecidableEq, Repr

namespace Feed

def always (value : Value) : Feed Value := ⟨value, []⟩

def next (feed : Feed Value) : Feed Value :=
  match feed.later with
  | [] => feed
  | value :: rest => ⟨value, rest⟩

@[simp] theorem next_always (value : Value) : (always value).next = always value := rfl

end Feed

structure Sources where
  mainApp : Feed Bool
  appReady : Feed Bool
  registered : Feed Bool
  wifi : Feed Bool
  cellularAllowed : Feed (Except ReadFailure Bool)
  maxDownload : Feed UInt64
  freeSpace : Feed (Except ReadFailure UInt64)
  lowPower : Feed Bool
  batteryLevel : Feed (Option BatteryLevel)
  queues : Feed (Except ReadFailure Unit)
  pending : PerQueue (Feed (Except ReadFailure Nat))
  ready : PerQueue (Feed (Except ReadFailure Bool))
  suspended : PerQueue (Feed (Except ReadFailure Bool))

namespace Sources

def lookUp (sources : Sources) :
    (lookup : Lookup) → Except ReadFailure lookup.Value × Sources
  | .cellularAllowed =>
      (sources.cellularAllowed.current,
        { sources with cellularAllowed := sources.cellularAllowed.next })
  | .freeSpace =>
      (sources.freeSpace.current, { sources with freeSpace := sources.freeSpace.next })
  | .openQueues =>
      (sources.queues.current, { sources with queues := sources.queues.next })
  | .pendingCount queue limit =>
      let feed := sources.pending.get queue
      (feed.current.map (min · limit),
        { sources with pending := sources.pending.set queue feed.next })
  | .hasReadyWork queue =>
      let feed := sources.ready.get queue
      (feed.current, { sources with ready := sources.ready.set queue feed.next })
  | .isSuspended queue =>
      let feed := sources.suspended.get queue
      (feed.current, { sources with suspended := sources.suspended.set queue feed.next })

def read (sources : Sources) : (question : Question) → question.Answer × Sources
  | .isMainApp =>
      (sources.mainApp.current, { sources with mainApp := sources.mainApp.next })
  | .isAppReady =>
      (sources.appReady.current, { sources with appReady := sources.appReady.next })
  | .isRegistered =>
      (sources.registered.current, { sources with registered := sources.registered.next })
  | .isOnWifi =>
      (sources.wifi.current, { sources with wifi := sources.wifi.next })
  | .maxDownload =>
      (sources.maxDownload.current, { sources with maxDownload := sources.maxDownload.next })
  | .isLowPower =>
      (sources.lowPower.current, { sources with lowPower := sources.lowPower.next })
  | .beginBattery _ _ => ((), sources)
  | .batteryLevel _ =>
      (sources.batteryLevel.current, { sources with batteryLevel := sources.batteryLevel.next })
  | .endBattery _ => ((), sources)
  | .lookUp lookup => sources.lookUp lookup
  | .closeQueues => ((), sources)

def queueChangesLeft (sources : Sources) (queue : Queue) : Nat :=
  (sources.pending.get queue).later.length + (sources.ready.get queue).later.length +
    (sources.suspended.get queue).later.length

/-- How many more times any answer may differ from the one before. -/
def changesLeft (sources : Sources) : Nat :=
  sources.mainApp.later.length + sources.appReady.later.length +
    sources.registered.later.length + sources.wifi.later.length +
    sources.cellularAllowed.later.length + sources.maxDownload.later.length +
    sources.freeSpace.later.length + sources.lowPower.later.length +
    sources.batteryLevel.later.length + sources.queues.later.length +
    sources.queueChangesLeft .upload + sources.queueChangesLeft .download

end Sources

end TransferGate
