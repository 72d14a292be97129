/-! # Transfer queues and their admission status

Two queues move attachments: uploads out of the device and downloads into it.
Each of them has exactly one status at a time, and only `Status.running` lets
work proceed.
-/

namespace TransferGate

inductive Queue where
  | upload
  | download
deriving DecidableEq, Repr

def Queue.all : List Queue := [.upload, .download]

theorem Queue.mem_all (queue : Queue) : queue ∈ Queue.all := by
  cases queue <;> simp [Queue.all]

def Queue.label : Queue → String
  | .upload => "upload"
  | .download => "download"

/-- The admission decision for one queue. Only downloads are ever `suspended` or
held back by `lowDiskSpace`. -/
inductive Status where
  | running
  | suspended
  | empty
  | notReady
  | noWifi
  | lowBattery
  | lowDiskSpace
deriving DecidableEq, Repr

namespace Status

def all : List Status :=
  [.running, .suspended, .empty, .notReady, .noWifi, .lowBattery, .lowDiskSpace]

theorem mem_all (status : Status) : status ∈ all := by
  cases status <;> simp [all]

def label : Status → String
  | .running => "running"
  | .suspended => "suspended"
  | .empty => "empty"
  | .notReady => "not_ready"
  | .noWifi => "no_wifi"
  | .lowBattery => "low_battery"
  | .lowDiskSpace => "low_disk_space"

def isRunning : Status → Bool
  | .running => true
  | _ => false

end Status

structure PerQueue (Value : Type) where
  upload : Value
  download : Value
deriving DecidableEq, Repr

namespace PerQueue

def both (value : Value) : PerQueue Value := ⟨value, value⟩

def get (values : PerQueue Value) : Queue → Value
  | .upload => values.upload
  | .download => values.download

def set (values : PerQueue Value) (queue : Queue) (value : Value) : PerQueue Value :=
  match queue with
  | .upload => { values with upload := value }
  | .download => { values with download := value }

@[simp] theorem get_both (value : Value) (queue : Queue) : (both value).get queue = value := by
  cases queue <;> rfl

@[simp] theorem get_set_same (values : PerQueue Value) (queue : Queue) (value : Value) :
    (values.set queue value).get queue = value := by
  cases queue <;> rfl

theorem get_set_other (values : PerQueue Value) {queue other : Queue} (value : Value)
    (different : other ≠ queue) : (values.set queue value).get other = values.get other := by
  cases queue <;> cases other <;> simp_all [set, get]

end PerQueue

end TransferGate
