import TopicMesh.Duration
import TopicMesh.Listener
import TopicMesh.Rehearsal.Basic
import TopicMesh.Shutdown

/-!
# TopicMesh.Rehearsal.Listening

A listening loop against a script that says how each attempt to subscribe turns out, what the connect
hook returns, what the subscription yields, and what the handling of each payload returns.

* `Loop.step` — one moment of the loop. Where it waits for several things at once, a `Choice` says
  which of them comes first, and when the signal to shut down is given: that may be at any moment, also
  while the hook or the handling of a payload runs.
* `listen`    — the loop on a clock. It goes on until a shutdown at the horizon ends its wait.

What the loop does after anything that happens to it is `Listener.step`.
-/

namespace TopicMesh.Rehearsal

/-! ## Scripts -/

inductive Yield where
  /-- A payload, and what handling it returns. -/
  | payload (text : String) (result : Except MeshError Unit)
  | fault (error : MeshError)

/-- One thing that a subscription yields, and after how many milliseconds. -/
structure Item where
  delay : Nat
  yield : Yield

/-- What is to come of a subscription. -/
structure Stream where
  items : List Item := []
  /-- Whether it stays open, with nothing more to come, after the items. -/
  staysOpen : Bool := false

/-- How an attempt to subscribe turns out. -/
inductive Connection where
  | refused (error : MeshError)
  /-- The result of the connect hook, and what comes of the subscription. -/
  | opened (hook : Except MeshError Unit) (stream : Stream)

/-! ## Calls -/

inductive Act where
  | subscribe
  | connect
  | payload (text : String)
deriving DecidableEq, Repr

/-- A call of a loop with its result. What comes of an attempt to subscribe is in the script. -/
inductive Call where
  | subscribe
  | connect (result : Except MeshError Unit)
  | payload (text : String) (result : Except MeshError Unit)

namespace Call

def act : Call → Act
  | .subscribe => .subscribe
  | .connect _ => .connect
  | .payload text _ => .payload text

/-- The fatal error that the call returns. With what an attempt to subscribe fails does not count. -/
def fatal? : Call → Option MeshError
  | .connect (.error e) | .payload _ (.error e) => if e.isFatal then some e else none
  | _ => none

end Call

/-! ## The loop -/

inductive Phase where
  /-- Next it looks for the signal, and subscribes unless that is given. -/
  | ready
  | subscribing
  /-- The connect hook runs. -/
  | connecting (hook : Except MeshError Unit) (stream : Stream)
  | listening (stream : Stream)
  /-- It handles a payload; the stream is what comes after that. -/
  | handling (text : String) (result : Except MeshError Unit) (stream : Stream)
  | resting
  | stopped (result : Except MeshError Unit)

namespace Phase

def state : Phase → Listener
  | .ready | .subscribing | .connecting .. => .connecting
  | .listening _ | .handling .. => .listening
  | .resting => .resting
  | .stopped result => .stopped result

/-- How a loop enters a state; while it listens, the stream is its subscription. -/
def of (stream : Stream) : Listener → Phase
  | .connecting => .ready
  | .listening => .listening stream
  | .resting => .resting
  | .stopped result => .stopped result

/-- The call that is going on. -/
def current? : Phase → Option Call
  | .subscribing => some .subscribe
  | .connecting hook _ => some (.connect hook)
  | .handling text result _ => some (.payload text result)
  | _ => none

/-- Whether a shutdown ends what the loop does; it does not interrupt the hook or a handling. -/
def heedsShutdown : Phase → Bool
  | .connecting .. | .handling .. => false
  | _ => true

def result? : Phase → Option (Except MeshError Unit)
  | .stopped result => some result
  | _ => none

/-- At least as many as the times that a loop can get what it waits for before the next attempt to
subscribe turns out. -/
def left : Phase → Nat
  | .stopped _ => 0
  | .subscribing => 1
  | .ready => 2
  | .resting => 3
  | .listening stream => 2 * stream.items.length + 4
  | .connecting _ stream | .handling _ _ stream => 2 * stream.items.length + 5

theorem left_of_le (stream : Stream) (s : Listener) :
    (of stream s).left ≤ 2 * stream.items.length + 4 := by
  cases s <;> simp [of, left]

end Phase

structure Loop where
  phase : Phase := .ready
  shutdown : Shutdown := {}
  /-- How the attempts to subscribe from now on turn out; any more of them never return. -/
  script : List Connection
  /-- The calls so far; the last one may be going on. -/
  calls : List Call := []

/-- At least as many as the times that a loop can get what it waits for, from such an attempt to
subscribe to the next. -/
def Connection.left : Connection → Nat
  | .refused _ => 3
  | .opened _ stream => 2 * stream.items.length + 5

/-- What comes first. -/
inductive Choice where
  /-- The loop gets what it waits for besides the shutdown. -/
  | go
  /-- The loop learns of the shutdown. -/
  | quit
  /-- The signal to shut down is given. -/
  | trigger
  /-- The trigger of the signal is dropped. -/
  | drop
deriving DecidableEq, Repr

/-- What happens at the horizon to a loop that waits. -/
def Horizon.choices (h : Horizon) : List Choice := if h.isShutdown then [.trigger, .quit] else []

namespace Loop

def start (script : List Connection) : Loop := { script }

/-- Something happens to the loop. -/
def react (l : Loop) (event : Listener.Event) (stream : Stream := {}) : Loop :=
  { l with phase := .of stream (l.phase.state.step event) }

/-- Makes the call of a phase. -/
def enter (l : Loop) (phase : Phase) : Loop :=
  { l with phase, calls := l.calls ++ phase.current?.toList }

/-- The loop once it got what it waits for, if that comes ever. -/
def next? (l : Loop) : Option Loop :=
  match l.phase with
  | .ready => some (if l.shutdown.isGiven then l.react .cancelled else l.enter .subscribing)
  | .subscribing =>
    match l.script with
    | [] => none
    | .refused _ :: script => some ({ l with script }.react .refused)
    | .opened hook stream :: script => some ({ l with script }.enter (.connecting hook stream))
  | .connecting hook stream => some (l.react (.connected hook) stream)
  | .listening stream =>
    match stream.items with
    | [] => if stream.staysOpen then none else some (l.react .lost)
    | item :: items =>
      match item.yield with
      | .payload text result => some (l.enter (.handling text result { stream with items }))
      | .fault _ => some (l.react .lost)
  | .handling _ result stream => some (l.react (.handled result) stream)
  | .resting => some (l.react .rested)
  | .stopped _ => none

def step (l : Loop) : Choice → Loop
  | .go => l.next?.getD l
  | .quit => if l.phase.heedsShutdown && l.shutdown.isReleased then l.react .cancelled else l
  | .trigger => { l with shutdown := l.shutdown.fire.2 }
  | .drop => { l with shutdown := l.shutdown.dropTrigger }

def run (l : Loop) (choices : List Choice) : Loop := choices.foldl step l

def result? (l : Loop) : Option (Except MeshError Unit) := l.phase.result?

/-! ## The loop on a clock -/

/-- How long it takes until the loop gets what it waits for. No call takes any time. -/
def delay (retryDelay : Duration) (l : Loop) : Nat :=
  match l.phase with
  | .listening { items := item :: _, .. } => item.delay
  | .resting => retryDelay.millisecondsCeil
  | _ => 0

/-- At least as many as the times that the loop can still get what it waits for. -/
def left (l : Loop) : Nat := l.script.foldr (fun c n => c.left + n) 0 + l.phase.left

/-- What is left gets less whenever the loop gets what it waits for. -/
theorem left_lt_of_next? {l l' : Loop} (h : l.next? = some l') : l'.left < l.left := by
  obtain ⟨phase, shutdown, script, calls⟩ := l
  cases phase with
  | ready =>
    cases h
    dsimp only
    split
    · exact Nat.add_lt_add_left Nat.two_pos _
    · exact Nat.add_lt_add_left Nat.one_lt_two _
  | subscribing =>
    match script with
    | .refused _ :: _ | .opened _ _ :: _ =>
      cases h
      simp only [react, enter, left, List.foldr_cons, Connection.left, Phase.left,
        Phase.of, Phase.state, Listener.step]
      omega
  | connecting hook stream =>
    cases h
    exact Nat.add_lt_add_left (Nat.lt_succ_of_le (Phase.left_of_le stream _)) _
  | listening stream =>
    obtain ⟨items, staysOpen⟩ := stream
    match items, staysOpen with
    | [], false | ⟨_, .payload _ _⟩ :: _, _ | ⟨_, .fault _⟩ :: _, _ =>
      cases h
      refine Nat.add_lt_add_left ?_ _
      simp only [react, enter, Phase.left, Phase.of, Phase.state, Listener.step, List.length_cons]
      omega
  | handling text result stream =>
    cases h
    exact Nat.add_lt_add_left (Nat.lt_succ_of_le (Phase.left_of_le stream _)) _
  | resting =>
    cases h
    exact Nat.add_lt_add_left (Nat.lt_succ_self 2) _
  | stopped => cases h

/-- The loop at the horizon: nothing more is called. -/
def halt (h : Horizon) (l : Loop) (now : Nat) : Course Act :=
  { log := []
    result := (l.run h.choices).result?
    endTime := if l.result?.isSome then now else h.time }

/-- A loop from that time on. What would come at the horizon or later does not come. -/
def play (h : Horizon) (retryDelay : Duration) (l : Loop) (now : Nat) : Course Act :=
  match _ : l.next? with
  | some next =>
    let time := now + l.delay retryDelay
    if time < h.time then
      (next.play h retryDelay time).after (next.phase.current?.toList.map fun c => (time, c.act))
    else l.halt h now
  | none => l.halt h now
termination_by l.left
decreasing_by exact left_lt_of_next? ‹_›

end Loop

/-- A listening loop from its start. -/
def listen (h : Horizon) (retryDelay : Duration) (script : List Connection) : Course Act :=
  (Loop.start script).play h retryDelay 0

end TopicMesh.Rehearsal
