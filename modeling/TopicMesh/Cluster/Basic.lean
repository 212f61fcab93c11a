import TopicMesh.Cluster.Loops

/-!
# TopicMesh.Cluster.Basic

Several instances that share one bus and one store, and the loops of those that were started. Time
only passes in `Cluster.settle`, `Cluster.wait` and `Cluster.shutdown`, and the loops only run then:
one instance after the other in the order in which they were started, each loop until it has to wait
or its turn is over.
-/

namespace TopicMesh

structure Member where
  node : Node
  /-- Whether a beat made by hand has made the lease. -/
  hasJoined : Bool := false

structure Cluster where
  /-- The instances by channel. -/
  members : Table Member
  backend : Backend
  /-- The started instances in the order of their starts. -/
  running : List Running := []
  /-- Subscriptions of loops that were aborted; they are closed when time passes. -/
  abandoned : List Nat := []
  /-- Milliseconds since the cluster was set up. -/
  time : Nat := 0

namespace Cluster

/-! ## Members -/

/-- A cluster of instances with these channels, settings and schemas. -/
def create (nodes : List (String × Settings × Schema)) (backend : Backend) :
    Except MeshError Cluster :=
  addAll { members := .empty, backend } nodes
where
  addAll (c : Cluster) : List (String × Settings × Schema) → Except MeshError Cluster
    | [] => .ok c
    | (channel, settings, schema) :: rest =>
      match Node.create channel settings schema with
      | .error e => .error e
      | .ok node => addAll { c with members := c.members.insert channel { node } } rest

def node? (c : Cluster) (channel : String) : Option Node :=
  (c.members.find? channel).map (·.node)

/-- Puts an instance back after it did something. -/
def setNode (c : Cluster) (channel : String) (node : Node) : Cluster :=
  match c.members.find? channel with
  | none => c
  | some m => { c with members := c.members.insert channel { m with node } }

def beat (c : Cluster) (channel : String) : Option (Except MeshError Pulse × Cluster) :=
  match c.members.find? channel with
  | none => none
  | some m =>
    let o := m.node.beat m.hasJoined c.backend
    let member := { node := o.subject, hasJoined := Node.hasJoinedAfter m.hasJoined o.result }
    some (o.result, { c with members := c.members.insert channel member, backend := o.backend })

/-! ## Loops -/

/-- Gives the loops of one started instance their turn. -/
def turn (c : Cluster) (r : Running) : Running × Cluster :=
  match c.node? r.channel with
  | none => (r, c)
  | some node =>
    let (r, s) := r.turn c.time ⟨node, c.backend⟩
    (r, { c.setNode r.channel s.node with backend := s.backend })

/-- Gives the loops of every started instance their turn. -/
def round (c : Cluster) : Cluster :=
  let (running, c) := c.running.foldl
    (fun (acc : List Running × Cluster) r =>
      let (r, c) := acc.2.turn r
      (acc.1 ++ [r], c))
    ([], c)
  { c with running }

def isDue (c : Cluster) : Bool :=
  c.running.any fun r =>
    match c.node? r.channel with
    | none => false
    | some node => r.isDue c.time ⟨node, c.backend⟩

/-- Rounds until no loop has anything to do, at most `fuel` of them. -/
def rounds : Nat → Cluster → Cluster
  | 0, c => c
  | fuel + 1, c => if c.isDue then rounds fuel c.round else c

/-- Closes the subscriptions of aborted loops. -/
def sweep (c : Cluster) : Cluster :=
  { c with
    backend := { c.backend with bus := c.abandoned.foldl Bus.unsubscribe c.backend.bus }
    abandoned := [] }

/-- Lets the loops do all they can at this moment. What they hear of each other takes a second round;
each further round uses up outages, reaps channels that cannot be announced, or reads from a
backlog. -/
def runDue (c : Cluster) : Cluster :=
  let c := c.sweep
  let outages := c.backend.outages.foldl (fun n outage => n + outage.times) 0
  rounds (outages + c.backend.store.deadlines.size + Subscription.backlog + 4) c

/-- The next time at which a sleeping loop wakes up. -/
def nextWake (c : Cluster) : Option Nat := (c.running.flatMap Running.wakeTimes).min?

/-- Lets time pass up to `limit`, or until a condition holds; at most `fuel` times do loops wake up.
What is due at the limit itself has to wait. -/
def passTime (isDone : Cluster → Bool) (limit : Nat) : Nat → Cluster → Cluster
  | 0, c => { c with time := limit }
  | fuel + 1, c =>
    let c := c.runDue
    if isDone c then c
    else
      match c.nextWake with
      | none => { c with time := limit }
      | some time =>
        if time < limit then passTime isDone limit fuel { c with time := max time c.time }
        else { c with time := limit }

/-- Lets that many milliseconds pass, but not more than the longest wait, and fewer if a condition
holds earlier. -/
def pass (c : Cluster) (isDone : Cluster → Bool) (ms : Nat) : Cluster :=
  let ms := min ms Duration.longestWait
  if ms = 0 then c else passTime isDone (c.time + ms) (ms + 1) c

def settle (c : Cluster) (ms : Nat) : Cluster := c.pass (fun _ => false) ms

/-! ## Starting and stopping -/

def running? (c : Cluster) (channel : String) : Option Running :=
  c.running.find? fun r => r.channel = channel

def setRunning (c : Cluster) (r : Running) : Cluster :=
  { c with running := c.running.map fun q => if q.channel = r.channel then r else q }

/-- Starts the loops of an instance; loops of an earlier start are aborted. -/
def start (c : Cluster) (channel : String) : Except MeshError Unit × Cluster :=
  match c.backend.ensureSchema with
  | { result := .error e, backend } => (.error e, { c with backend })
  | { result := .ok (), backend } =>
    let old := c.running.filter fun r => r.channel = channel
    let others := c.running.filter fun r => r.channel ≠ channel
    (.ok (),
      { c with
        backend
        running := others ++ [{ channel }]
        abandoned := c.abandoned ++ old.flatMap Running.tickets })

inductive Waited where
  | notStarted
  | timeout
  | finished (result : Except MeshError Unit)

/-- Waits until a loop of an instance fails or all have ended, for at most that many
milliseconds. -/
def wait (c : Cluster) (channel : String) (ms : Nat) : Waited × Cluster :=
  match c.running? channel with
  | none => (.notStarted, c)
  | some r =>
    match r.collect with
    | (some result, r) => (.finished result, c.setRunning r)
    | (none, r) =>
      let hasResult (c : Cluster) : Bool :=
        match c.running? channel with
        | none => true
        | some r => r.collect.1.isSome
      let c := (c.setRunning r).pass hasResult ms
      match c.running? channel with
      | none => (.notStarted, c)
      | some r =>
        match r.collect with
        | (some result, r) => (.finished result, c.setRunning r)
        | (none, r) => (.timeout, c.setRunning r)

/-- Tells the loops of an instance to end and waits for that; gives the first error that one of them
ended with. -/
def shutdown (c : Cluster) (channel : String) : Waited × Cluster :=
  match c.running? channel with
  | none => (.notStarted, c)
  | some r =>
    let c := c.setRunning { r with isCancelled := true }
    let c := if r.hasEnded then c else c.runDue
    match c.running? channel with
    | none => (.notStarted, c)
    | some r =>
      (.finished ((r.finished.find? fun result => !result.isOk).getD (.ok ())),
        { c with running := c.running.filter fun q => q.channel ≠ channel })

end Cluster

end TopicMesh
