import TopicMesh.Duration

/-!
# TopicMesh.Shutdown

The signal that ends the loops of an instance, and the one trigger that gives it. The signal is
given for good once the trigger fires. Whoever waits for it also stops waiting when the trigger is
dropped, because it can then never fire; but dropping the trigger does not give the signal.
-/

namespace TopicMesh

/-- Where the trigger is. -/
inductive Trigger where
  | held
  /-- It was handed on and fires at that time. -/
  | scheduled (time : Nat)
  | dropped
deriving DecidableEq, Repr

/-- The signal, on a clock that counts milliseconds. -/
structure Shutdown where
  isGiven : Bool := false
  trigger : Trigger := .held
  now : Nat := 0
deriving DecidableEq, Repr, Inhabited

namespace Shutdown

/-- Fires the trigger; says whether it was at hand. -/
def fire (s : Shutdown) : Bool × Shutdown :=
  if s.trigger = .held then (true, { s with isGiven := true }) else (false, s)

/-- Drops the trigger, if it is at hand. -/
def dropTrigger (s : Shutdown) : Shutdown :=
  if s.trigger = .held then { s with trigger := .dropped } else s

/-- Hands the trigger on, if it is at hand, so that it fires after that many milliseconds. -/
def schedule (s : Shutdown) (delay : Nat) : Shutdown :=
  if s.trigger = .held then
    { s with trigger := .scheduled (s.now + min delay Duration.longestWait) }
  else s

/-- When somebody who starts to wait now stops waiting, if that is before `limit`. -/
def release? (s : Shutdown) (limit : Nat) : Option Nat :=
  if s.isGiven then some s.now
  else
    match s.trigger with
    | .held => none
    | .dropped => some s.now
    | .scheduled time => if time < limit then some (max time s.now) else none

/-- Whether somebody who starts to wait now stops at once. -/
def isReleased (s : Shutdown) : Bool := (s.release? s.now).isSome

structure Wait where
  /-- Whether the wait ended before its time. -/
  wasReleased : Bool
  /-- How many milliseconds it took. -/
  elapsed : Nat
deriving DecidableEq, Repr

/-- Waits for the signal for at most that many milliseconds, and never beyond the longest wait. -/
def wait (s : Shutdown) (limit : Nat) : Wait × Shutdown :=
  let limit := min limit Duration.longestWait
  match s.release? (s.now + limit) with
  | some time =>
    let isGiven := s.isGiven || s.trigger ≠ .dropped
    (⟨true, time - s.now⟩, { s with isGiven, now := time })
  | none => (⟨false, limit⟩, { s with now := s.now + limit })

end Shutdown

end TopicMesh
