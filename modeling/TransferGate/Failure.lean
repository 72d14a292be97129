/-! # Failures and their causes

A failed operation hands over a `Failure`. A failure may name another one as its
cause, that one a third, and so on; `Failure.chain` lists them from the top.

An input/output failure that carries another failure stands in for it: it is
displayed as the one it carries, and its cause is the *cause* of the one it
carries, so the carried failure itself never appears in the chain. The same
holds for a shared input/output failure, which in addition is not taken for an
input/output failure itself.

The main statement is `isOutOfSpace_iff`: a failure means that space has run out
exactly when the chain holds an input/output failure of the kind "storage full".
-/

namespace TransferGate

inductive IoKind where
  | storageFull
  | quotaExceeded
  | fileTooLarge
  | writeZero
  | outOfMemory
  | readOnlyFilesystem
  | permissionDenied
  | notFound
  | connectionReset
  | connectionRefused
  | timedOut
  | interrupted
  | unexpectedEof
  | invalidData
  | other
deriving DecidableEq, Repr

def IoKind.description : IoKind → String
  | .storageFull => "no storage space"
  | .quotaExceeded => "quota exceeded"
  | .fileTooLarge => "file too large"
  | .writeZero => "write zero"
  | .outOfMemory => "out of memory"
  | .readOnlyFilesystem => "read-only filesystem or storage medium"
  | .permissionDenied => "permission denied"
  | .notFound => "entity not found"
  | .connectionReset => "connection reset"
  | .connectionRefused => "connection refused"
  | .timedOut => "timed out"
  | .interrupted => "operation interrupted"
  | .unexpectedEof => "unexpected end of file"
  | .invalidData => "invalid data"
  | .other => "other error"

structure SystemCode where
  number : Int
deriving DecidableEq, Repr

namespace SystemCode

def kind (code : SystemCode) : Option IoKind :=
  match code.number with
  | 1 => some .permissionDenied
  | 2 => some .notFound
  | 4 => some .interrupted
  | 12 => some .outOfMemory
  | 13 => some .permissionDenied
  | 27 => some .fileTooLarge
  | 28 => some .storageFull
  | 30 => some .readOnlyFilesystem
  | 104 => some .connectionReset
  | 110 => some .timedOut
  | 111 => some .connectionRefused
  | 122 => some .quotaExceeded
  | _ => none

def text (code : SystemCode) : String :=
  match code.number with
  | 1 => "Operation not permitted"
  | 2 => "No such file or directory"
  | 4 => "Interrupted system call"
  | 5 => "Input/output error"
  | 12 => "Cannot allocate memory"
  | 13 => "Permission denied"
  | 27 => "File too large"
  | 28 => "No space left on device"
  | 30 => "Read-only file system"
  | 104 => "Connection reset by peer"
  | 110 => "Connection timed out"
  | 111 => "Connection refused"
  | 122 => "Disk quota exceeded"
  | other => "Unknown error " ++ toString other

def display (code : SystemCode) : String :=
  code.text ++ " (os error " ++ toString code.number ++ ")"

end SystemCode

inductive Failure where
  | io (kind : IoKind)
  | system (code : SystemCode)
  | ioMessage (kind : IoKind) (message : String)
  | ioCarrying (kind : IoKind) (carried : Failure)
  /-- An input/output failure with several owners. -/
  | shared (failure : Failure)
  | storeRead (message : String)
  | ioRead (failure : Failure)
  | gateClosed
  | plain (message : String)
  | causedBy (message : String) (cause : Failure)
  /-- A failure of the host that keeps its cause to itself. -/
  | concealing (message : String) (cause : Failure)
deriving DecidableEq, Repr

namespace Failure

def cause : Failure → Option Failure
  | .ioCarrying _ carried => carried.cause
  | .shared failure => failure.cause
  | .ioRead failure => some failure
  | .causedBy _ cause => some cause
  | _ => none

theorem sizeOf_cause_lt {failure below : Failure} (named : failure.cause = some below) :
    sizeOf below < sizeOf failure := by
  induction failure with
  | ioCarrying kind carried induction =>
      have smaller := induction named
      simp only [ioCarrying.sizeOf_spec]
      omega
  | shared inner induction =>
      have smaller := induction named
      simp only [shared.sizeOf_spec]
      omega
  | ioRead inner =>
      cases named
      simp only [ioRead.sizeOf_spec]
      omega
  | causedBy message inner =>
      cases named
      simp only [causedBy.sizeOf_spec]
      omega
  | _ => cases named

def ioKind : Failure → Option IoKind
  | .io kind => some kind
  | .system code => code.kind
  | .ioMessage kind _ => some kind
  | .ioCarrying kind _ => some kind
  | _ => none

def isStorageFull (failure : Failure) : Bool := failure.ioKind == some .storageFull

/-- The failures below this one: its cause, the cause of that, and so on. -/
def causes : Failure → List Failure
  | .ioCarrying _ carried => carried.causes
  | .shared failure => failure.causes
  | .ioRead failure => failure :: failure.causes
  | .causedBy _ cause => cause :: cause.causes
  | _ => []

def chain (failure : Failure) : List Failure := failure :: failure.causes

theorem causes_eq (failure : Failure) :
    failure.causes = match failure.cause with
      | none => []
      | some below => below.chain := by
  induction failure with
  | ioCarrying kind carried induction => exact induction
  | shared inner induction => exact induction
  | _ => rfl

/-- Looks along the causes for an input/output failure of kind "storage full". -/
def isOutOfSpace (failure : Failure) : Bool :=
  failure.isStorageFull ||
    match _named : failure.cause with
    | none => false
    | some below => below.isOutOfSpace
termination_by sizeOf failure
decreasing_by exact sizeOf_cause_lt _named

theorem isOutOfSpace_eq_any (failure : Failure) :
    failure.isOutOfSpace = failure.chain.any isStorageFull := by
  rw [isOutOfSpace, chain, List.any_cons, causes_eq failure]
  congr 1
  split
  next unnamed => simp [unnamed]
  next below named =>
    have smaller := sizeOf_cause_lt named
    rw [named, isOutOfSpace_eq_any below]
termination_by sizeOf failure

theorem isOutOfSpace_iff (failure : Failure) :
    failure.isOutOfSpace = true ↔ ∃ link ∈ failure.chain, link.ioKind = some .storageFull := by
  simp [isOutOfSpace_eq_any, isStorageFull]

def display : Failure → String
  | .io kind => kind.description
  | .system code => code.display
  | .ioMessage _ message => message
  | .ioCarrying _ carried => carried.display
  | .shared failure => failure.display
  | .storeRead message => "store read failed: " ++ message
  | .ioRead failure => "io error: " ++ failure.display
  | .gateClosed => "status actor closed"
  | .plain message => message
  | .causedBy message _ => message
  | .concealing message _ => message

/-- The short stable name of the failures that this library raises or absorbs. -/
def label : Failure → Option String
  | .storeRead _ => some "signal_store"
  | .ioRead _ => some "signal_io"
  | .gateClosed => some "gate_closed"
  | _ => none

def under (message : String) (depth : Nat) (failure : Failure) : Failure :=
  match depth with
  | 0 => failure
  | rest + 1 => .causedBy message (failure.under message rest)

end Failure

inductive ReadFailure where
  | store (message : String)
  | io (failure : Failure)
deriving DecidableEq, Repr

namespace ReadFailure

def toFailure : ReadFailure → Failure
  | .store message => .storeRead message
  | .io failure => .ioRead failure

def display (failure : ReadFailure) : String := failure.toFailure.display

def label : ReadFailure → String
  | .store _ => "signal_store"
  | .io _ => "signal_io"

end ReadFailure

end TransferGate
