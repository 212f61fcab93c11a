import TopicMesh.Error

/-!
# TopicMesh.Rehearsal.Basic

Running a loop against a script, on a clock of milliseconds that only advances while the loop waits.
A rehearsal ends when the loop ends, when a shutdown reaches it, or at the time limit.
-/

namespace TopicMesh.Rehearsal

/-- When a rehearsal is over at the latest, in milliseconds. -/
def timeLimit : Nat := 100000000

/-- The time up to which a loop is left alone. -/
structure Horizon where
  time : Nat
  /-- Whether it is a shutdown that comes then. -/
  isShutdown : Bool
deriving DecidableEq, Repr

/-- The horizon when the shutdown comes at that time, or not at all. -/
def Horizon.of : Option Nat → Horizon
  | none => ⟨timeLimit, false⟩
  | some time => if time < timeLimit then ⟨time, true⟩ else ⟨timeLimit, false⟩

/-- What a loop did, each thing with its time. -/
abbrev Log (ε : Type) : Type := List (Nat × ε)

/-- The course of a rehearsal. -/
structure Course (ε : Type) where
  log : Log ε
  /-- What the loop returned, if it ended. -/
  result : Option (Except MeshError Unit)
  endTime : Nat

/-- The course of a loop that waits until the horizon: a shutdown ends it well. -/
def Horizon.reached {ε : Type} (h : Horizon) (log : Log ε) : Course ε :=
  { log, result := if h.isShutdown then some (.ok ()) else none, endTime := h.time }

/-- The course with something done before it. -/
def Course.after {ε : Type} (log : Log ε) (c : Course ε) : Course ε := { c with log := log ++ c.log }

end TopicMesh.Rehearsal
