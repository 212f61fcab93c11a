import TopicMesh.Listener
import TopicMesh.Node.Announcements
import TopicMesh.Node.Heartbeat
import TopicMesh.Node.Relays

/-!
# TopicMesh.Cluster.Loops

The three loops of a started instance: the heartbeat, the listener on the control channel and the
listener on the instance's own channel. Time is counted in milliseconds; a loop does all it can at
one moment and then waits, for a later moment or for a payload. A wait of no length is over at once.
A loop that finds more to do than `turnLength` lets the other loops have their turn before it goes
on.
-/

namespace TopicMesh

/-- An instance together with the services, as a loop works on them. -/
structure Site where
  node : Node
  backend : Backend

/-- How many payloads a loop reads and how many of its waits may be over at once in one turn. -/
def turnLength : Nat := 128

/-! ## The heartbeat loop -/

inductive HeartPhase where
  | starting
  | sleeping (wakeAt : Nat)
  | ended (result : Except MeshError Unit)

structure HeartLoop where
  hasJoined : Bool := false
  phase : HeartPhase := .starting

namespace HeartLoop

def isDue (l : HeartLoop) (isCancelled : Bool) (time : Nat) : Bool :=
  match l.phase with
  | .starting => true
  | .sleeping wakeAt => isCancelled || wakeAt ≤ time
  | .ended _ => false

/-- The loop after a beat with that result: it sleeps, which a shutdown cuts short. A deadline beyond
the last date breaks the loop. -/
def after (l : HeartLoop) (settings : Settings) (isCancelled : Bool) (time : Nat)
    (result : Except MeshError Pulse) : HeartLoop :=
  let sleep (d : Duration) : HeartPhase :=
    if isCancelled then .ended (.ok ()) else .sleeping (time + d.wait)
  let phase :=
    match result with
    | .ok _ => sleep (settings.heartbeatDelay 0)
    | .error .deadlineOverflow => .ended (.error (.task MeshError.deadlineOverflow.message))
    | .error _ => sleep settings.retryDelay
  { hasJoined := Node.hasJoinedAfter l.hasJoined result, phase }

def beat (l : HeartLoop) (isCancelled : Bool) (time : Nat) (s : Site) : HeartLoop × Site :=
  let o := s.node.beat l.hasJoined s.backend
  (l.after s.node.settings isCancelled time o.result, ⟨o.subject, o.backend⟩)

/-- Beats again as long as the sleep is over, at most `fuel` times. -/
def runFor (time : Nat) : Nat → HeartLoop → Site → HeartLoop × Site
  | 0, l, s => (l, s)
  | fuel + 1, l, s =>
    match l.phase with
    | .sleeping wakeAt =>
      if wakeAt ≤ time then
        let (l, s) := l.beat false time s
        runFor time fuel l s
      else (l, s)
    | _ => (l, s)

/-- One turn of the loop: a shutdown ends its sleep before the next beat. -/
def run (l : HeartLoop) (isCancelled : Bool) (time : Nat) (s : Site) : HeartLoop × Site :=
  match l.phase with
  | .starting =>
    let (l, s) := l.beat isCancelled time s
    runFor time turnLength l s
  | .sleeping _ =>
    if isCancelled then ({ l with phase := .ended (.ok ()) }, s) else runFor time turnLength l s
  | .ended _ => (l, s)

def result? (l : HeartLoop) : Option (Except MeshError Unit) :=
  match l.phase with
  | .ended result => some result
  | _ => none

def wakeAt? (l : HeartLoop) : Option Nat :=
  match l.phase with
  | .sleeping wakeAt => some wakeAt
  | _ => none

end HeartLoop

/-! ## The listening loops -/

/-- The channel that a loop listens on. -/
inductive Line where
  | control
  | relays
deriving DecidableEq, Repr

namespace Line

def channel (l : Line) (n : Node) : String :=
  match l with
  | .control => n.settings.controlChannel
  | .relays => n.channel

def connect (l : Line) (s : Site) : Except MeshError Unit × Site :=
  match l with
  | .control =>
    let o := s.node.catchUp s.backend
    (o.result, ⟨o.subject, o.backend⟩)
  | .relays => (.ok (), s)

def handle (l : Line) (payload : String) (s : Site) : Except MeshError Unit × Site :=
  match l with
  | .control =>
    let o := s.node.handleControl payload s.backend
    (o.result, ⟨o.subject, o.backend⟩)
  | .relays =>
    match s.node.handleRelay payload with
    | (result, node) => (result, { s with node })

end Line

structure ListenLoop where
  line : Line
  state : Listener := .connecting
  /-- The subscription that the loop holds; it keeps one that it could not use while it rests. -/
  ticket : Option Nat := none
  wakeAt : Nat := 0

namespace ListenLoop

/-- Closes the subscription that the loop holds. -/
def hangUp (l : ListenLoop) (s : Site) : ListenLoop × Site :=
  match l.ticket with
  | none => (l, s)
  | some ticket =>
    ({ l with ticket := none },
      { s with backend := { s.backend with bus := s.backend.bus.unsubscribe ticket } })

/-- The loop after something happened to it: a rest begins now, and a loop that ends hangs up. -/
def after (l : ListenLoop) (event : Listener.Event) (time : Nat) (s : Site) : ListenLoop × Site :=
  let l := { l with state := l.state.step event }
  match l.state with
  | .resting => ({ l with wakeAt := time + s.node.settings.retryDelay.wait }, s)
  | .stopped _ => l.hangUp s
  | _ => (l, s)

def connect (l : ListenLoop) (time : Nat) (s : Site) : ListenLoop × Site :=
  match s.backend.subscribe (l.line.channel s.node) with
  | { result := .error _, backend } => l.after .refused time { s with backend }
  | { result := .ok ticket, backend } =>
    let (hook, s) := l.line.connect { s with backend }
    { l with ticket := some ticket }.after (.connected hook) time s

/-- Reads the subscription; nothing happens if there is nothing to read. -/
def readNext (l : ListenLoop) (time : Nat) (s : Site) : Option (ListenLoop × Site) :=
  match s.backend.bus.read (l.ticket.getD s.backend.bus.nextTicket) with
  | (.pending, _) => none
  | (.payload text, bus) =>
    let (result, s) := l.line.handle text { s with backend := { s.backend with bus } }
    some (l.after (.handled result) time s)
  | (_, bus) =>
    some ({ l with ticket := none }.after .lost time { s with backend := { s.backend with bus } })

/-- The next thing that the loop does at this moment, unless it has to wait. -/
def move (l : ListenLoop) (isCancelled : Bool) (time : Nat) (s : Site) :
    Option (ListenLoop × Site) :=
  match l.state with
  | .stopped _ => none
  | .connecting =>
    if isCancelled then some (l.after .cancelled time s) else some (l.connect time s)
  | .listening => if isCancelled then some (l.after .cancelled time s) else l.readNext time s
  | .resting =>
    if isCancelled then some (l.after .cancelled time s)
    else if l.wakeAt ≤ time then
      let (l, s) := l.hangUp s
      some (l.after .rested time s)
    else none

/-- Subscribes first, if the loop has no subscription; that does not use up its turn. -/
def dial (l : ListenLoop) (isCancelled : Bool) (time : Nat) (s : Site) : ListenLoop × Site :=
  match l.state with
  | .connecting => (l.move isCancelled time s).getD (l, s)
  | _ => (l, s)

/-- Reads and rests at most `fuel` times, and subscribes in between. -/
def runFor (isCancelled : Bool) (time : Nat) : Nat → ListenLoop → Site → ListenLoop × Site
  | 0, l, s => (l, s)
  | fuel + 1, l, s =>
    let (l, s) := l.dial isCancelled time s
    match l.move isCancelled time s with
    | none => (l, s)
    | some (l, s) => runFor isCancelled time fuel l s

def run (l : ListenLoop) (isCancelled : Bool) (time : Nat) (s : Site) : ListenLoop × Site :=
  runFor isCancelled time turnLength l s

def isDue (l : ListenLoop) (isCancelled : Bool) (time : Nat) (s : Site) : Bool :=
  (l.move isCancelled time s).isSome

def result? (l : ListenLoop) : Option (Except MeshError Unit) :=
  match l.state with
  | .stopped result => some result
  | _ => none

def wakeAt? (l : ListenLoop) : Option Nat :=
  match l.state with
  | .resting => some l.wakeAt
  | _ => none

end ListenLoop

/-! ## A started instance -/

/-- The loops of a started instance. -/
structure Running where
  channel : String
  heart : HeartLoop := {}
  control : ListenLoop := { line := .control }
  relays : ListenLoop := { line := .relays }
  isCancelled : Bool := false
  /-- Results of loops that have ended, in that order, as far as nobody has asked for them. -/
  finished : List (Except MeshError Unit) := []

namespace Running

/-- The result of a loop that has just ended. -/
def newResult (before after : Option (Except MeshError Unit)) : List (Except MeshError Unit) :=
  match before, after with
  | none, some result => [result]
  | _, _ => []

def turn (r : Running) (time : Nat) (s : Site) : Running × Site :=
  let (heart, s) := r.heart.run r.isCancelled time s
  let (control, s) := r.control.run r.isCancelled time s
  let (relays, s) := r.relays.run r.isCancelled time s
  let ended :=
    newResult r.heart.result? heart.result? ++ newResult r.control.result? control.result?
      ++ newResult r.relays.result? relays.result?
  ({ r with heart, control, relays, finished := r.finished ++ ended }, s)

def isDue (r : Running) (time : Nat) (s : Site) : Bool :=
  r.heart.isDue r.isCancelled time || r.control.isDue r.isCancelled time s
    || r.relays.isDue r.isCancelled time s

def wakeTimes (r : Running) : List Nat :=
  r.heart.wakeAt?.toList ++ r.control.wakeAt?.toList ++ r.relays.wakeAt?.toList

def tickets (r : Running) : List Nat := r.control.ticket.toList ++ r.relays.ticket.toList

def hasEnded (r : Running) : Bool :=
  r.heart.result?.isSome && r.control.result?.isSome && r.relays.result?.isSome

/-- The first error of a loop that has ended, or success once every loop has; nothing if it takes
longer. Results that were looked at are not given again. -/
def collect (r : Running) : Option (Except MeshError Unit) × Running :=
  match r.finished.dropWhile (·.isOk) with
  | error :: rest => (some error, { r with finished := rest })
  | [] => (if r.hasEnded then some (.ok ()) else none, { r with finished := [] })

end Running

end TopicMesh
