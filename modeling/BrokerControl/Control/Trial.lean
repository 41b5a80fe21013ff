import BrokerControl.Control.Saga

/-!
# Trials of sagas

Sagas whose undoings do nothing but report their label and succeed or fail as told, with the moves
that can be made on them one after the other.
-/

namespace BrokerControl.Control.Trial

/-- An undoing that reports. -/
structure Undoing where
  label : String
  fails : Bool
  deriving DecidableEq

/-- The labels of the undoings that ran and the events counted, in order. -/
structure Report where
  ran : List String := []
  events : List Event := []
  deriving DecidableEq

instance : Undoes Undoing (StateM Report) where
  undo k := fun r => (!k.fails, { r with ran := r.ran ++ [k.label] })
  note e := fun r => ((), { r with events := r.events ++ [e] })

inductive Move (ε α : Type) where
  | push (k : Undoing)
  | guard (step : Except ε α)
  | abort (error : ε)
  /-- Completes the saga and begins a new one. -/
  | complete
  /-- Discards the saga and begins a new one. -/
  | drop

variable {ε α : Type}

/-- The value or error that the move passes on, if it has any, and the saga after it. -/
def Move.make (s : Saga Undoing) :
    Move ε α → StateM Report (Option (Except ε α) × Saga Undoing)
  | .push k => return (none, s.onFailure k)
  | .guard step => do
    let (r, s) ← s.guard (m := StateM Report) (pure step)
    return (some r, s)
  | .abort error => do
    let (error, s) ← s.abort (m := StateM Report) error
    return (some (.error error), s)
  | .complete => do
    s.complete (m := StateM Report)
    return (none, .begin s.name)
  | .drop => return (none, .begin s.name)

end BrokerControl.Control.Trial
