import TopicMesh.Error

/-!
# TopicMesh.Listener

The discipline of a loop that listens on a channel. After each subscription a connect hook runs
before any payload is handled; whatever goes wrong, the loop rests and subscribes again. It ends only
when it is cancelled, or when the hook or the handling of a payload fails for good.

`Listener.step` is the whole discipline: what the loop does after something has happened to it.
-/

namespace TopicMesh

/-- What a listening loop is about to do. -/
inductive Listener where
  /-- It subscribes. -/
  | connecting
  /-- It has caught up and handles payloads. -/
  | listening
  /-- It waits before it subscribes again. -/
  | resting
  | stopped (result : Except MeshError Unit)

namespace Listener

inductive Event where
  /-- It could not subscribe. -/
  | refused
  /-- It subscribed, and the connect hook ran. -/
  | connected (hook : Except MeshError Unit)
  /-- It handled a payload. -/
  | handled (result : Except MeshError Unit)
  /-- The subscription failed or ended. -/
  | lost
  | rested
  /-- The signal to shut down was given. -/
  | cancelled

/-- What a loop does after an error: only a fatal one ends it. -/
def afterError (e : MeshError) (otherwise : Listener) : Listener :=
  if e.isFatal then .stopped (.error e) else otherwise

/-- One transition of a listening loop. Nothing happens to a loop that has ended. -/
def step : Listener → Event → Listener
  | .stopped result, _ => .stopped result
  | _, .cancelled => .stopped (.ok ())
  | .connecting, .refused => .resting
  | .connecting, .connected (.ok ()) => .listening
  | .connecting, .connected (.error e) => afterError e .resting
  | .listening, .handled (.ok ()) => .listening
  | .listening, .handled (.error e) => afterError e .listening
  | .listening, .lost => .resting
  | .resting, .rested => .connecting
  | s, _ => s

end Listener

end TopicMesh
