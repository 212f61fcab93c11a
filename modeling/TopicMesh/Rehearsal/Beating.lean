import TopicMesh.Cluster.Loops
import TopicMesh.Rehearsal.Basic

/-!
# TopicMesh.Rehearsal.Beating

The heartbeat loop of an instance against a script that says what each heartbeat at the store
returns. After the script every heartbeat finds the lease in place and nothing to reap. What the loop
does after a beat is `HeartLoop.after`.
-/

namespace TopicMesh.Rehearsal

/-- What a heartbeat loop asks of the store. -/
inductive Beat where
  | heartbeat (channel : String) (ttl : Duration)
  | write (change : Change)
deriving DecidableEq

/-- What one beat asks of the store, if that is the answer to the heartbeat. -/
def beatOnce (n : Node) (hasJoined : Bool) (answer : Except MeshError Pulse) : List Beat :=
  let pulse := Beat.heartbeat n.channel n.settings.channelTtl
  match answer with
  | .error _ => [pulse]
  | .ok p =>
    if Node.wasReaped hasJoined p then pulse :: n.reannouncements.map .write else [pulse]

/-- A heartbeat loop from that time on, for at most `fuel` beats. -/
def beatFor (h : Horizon) (n : Node) :
    Nat → List (Except MeshError Pulse) → HeartLoop → Nat → Course Beat
  | 0, _, _, _ => h.reached []
  | fuel + 1, script, l, now =>
    let answer := script.head?.getD (.ok {})
    let log := (beatOnce n l.hasJoined answer).map fun act => (now, act)
    let l := l.after n.settings false now answer
    match l.wakeAt? with
    | none => { log, result := l.result?, endTime := now }
    | some time =>
      if h.time ≤ time then h.reached log else (beatFor h n fuel script.tail l time).after log

/-- A heartbeat loop from its start. Beyond the script every delay takes a millisecond at least. -/
def heartbeats (h : Horizon) (n : Node) (script : List (Except MeshError Pulse)) : Course Beat :=
  beatFor h n (script.length + h.time + 1) script {} 0

end TopicMesh.Rehearsal
