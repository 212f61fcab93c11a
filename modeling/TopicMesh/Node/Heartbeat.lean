import TopicMesh.Node.Basic

/-!
# TopicMesh.Node.Heartbeat

Keeping an instance's lease alive. If a beat finds that the lease had to be made anew, although an
earlier beat had made one, then a peer has reaped this instance and deleted its records; so every
attached client is announced again.
-/

namespace TopicMesh

namespace Settings

/-- The largest jitter of a delay, in milliseconds of 64 bits. -/
def maxJitter (s : Settings) : Nat := min s.heartbeatJitter.milliseconds (Nat.pow 2 64 - 1)

/-- The delay between two beats: the interval less a jitter of so many milliseconds, so that
instances that were started together drift apart. -/
def heartbeatDelay (s : Settings) (jitter : Nat) : Duration :=
  s.heartbeatInterval.sub (.ofMilliseconds jitter)

end Settings

namespace Node

/-- Whether an instance was reaped since the beat that first made its lease. -/
def wasReaped (hasJoined : Bool) (pulse : Pulse) : Bool := pulse.inserted && hasJoined

/-- Whether a beat has made the lease by now. -/
def hasJoinedAfter (hasJoined : Bool) : Except MeshError Pulse → Bool
  | .ok pulse => hasJoined || pulse.inserted
  | .error _ => hasJoined

/-- The changes that announce every attached client again; closed proxies announce nothing. -/
def reannouncements (n : Node) : List Change :=
  n.attached.filterMap fun p =>
    match p.pendingChange n.channel with
    | .ok change => change
    | .error _ => none

/-- Announces one registered client again; a failure is passed over. -/
def reannounceOne (acc : Node × Backend) (entry : String × Proxy) : Node × Backend :=
  if entry.2.isAttached then
    let o := entry.2.broadcast acc.1.channel acc.2
    (acc.1.putBack entry.1 o.subject, o.backend)
  else acc

def reannounce (n : Node) (b : Backend) : Node × Backend :=
  n.registry.entries.foldl reannounceOne (n, b)

/-- One beat, after earlier beats that have made the lease or not. -/
def beat (n : Node) (hasJoined : Bool) (b : Backend) : Outcome Node Pulse :=
  match b.heartbeat n.channel n.settings.channelTtl with
  | { result := .error e, backend } => { result := .error e, subject := n, backend }
  | { result := .ok pulse, backend } =>
    if wasReaped hasJoined pulse then
      let (n, backend) := n.reannounce backend
      { result := .ok pulse, subject := n, backend }
    else { result := .ok pulse, subject := n, backend }

end Node

end TopicMesh
