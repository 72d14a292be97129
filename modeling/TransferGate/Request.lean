import TransferGate.Conditions

/-! # Requests and replies

What may be asked of the server of a gate, and what it answers.
-/

namespace TransferGate

inductive Request where
  | status (queue : Queue)
  | begin (queue : Queue)
  | retry
  | emptied (queue : Queue)
  | refreshSpace
  | outOfSpace
  | conditions
  | isObserving
deriving DecidableEq, Repr

inductive Reply where
  | status (status : Status)
  | done
  | conditions (conditions : Conditions)
  | observing (observing : Bool)
  | closed
deriving DecidableEq, Repr

end TransferGate
