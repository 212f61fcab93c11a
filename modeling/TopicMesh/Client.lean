import TopicMesh.Principal
import TopicMesh.Relay

/-!
# TopicMesh.Client

A client connected to this instance. What it is sent waits in a queue of fixed room until its
connection takes it out; a message that finds the queue full, or the connection gone, is dropped and
counted.
-/

namespace TopicMesh

structure Client where
  id : String
  capacity : Nat
  hasRoom : 0 < capacity
  queue : List Message := []
  isOpen : Bool := true
  topics : TopicSet := .empty
  principal : Option Principal := none
  /-- Whether the connection has given up on the client. -/
  isDiscarded : Bool := false
  dropped : Nat := 0
deriving DecidableEq

namespace Client

def drawnIdLength : Nat := 40

/-- A client whose queue has room for `buffer` messages, and for one at least. -/
def connect (id : String) (buffer : Nat) : Client :=
  { id, capacity := max buffer 1, hasRoom := by omega }

def subscribe (c : Client) (topics : List String) : Client :=
  { c with topics := c.topics.insertAll topics }

def unsubscribe (c : Client) (topics : List String) : Client :=
  { c with topics := c.topics.eraseAll topics }

def unsubscribeAll (c : Client) : Client := { c with topics := .empty }

def setPrincipal (c : Client) (principal : Option Principal) : Client := { c with principal }

def discard (c : Client) : Client := { c with isDiscarded := true }

/-- Whether the next message will be queued. -/
def accepts (c : Client) : Bool := c.isOpen && c.queue.length < c.capacity

/-- Queues a message, or drops and counts it. -/
def send (c : Client) (m : Message) : Client :=
  if c.accepts then { c with queue := c.queue ++ [m] } else { c with dropped := c.dropped + 1 }

/-- Hands over a message, unless the connection has given up on the client. -/
def deliver (c : Client) (m : Message) : Client := if c.isDiscarded then c else c.send m

/-- Takes out the oldest messages, at most `limit` if there is a limit. -/
def receive (c : Client) (limit : Option Nat) : List Message × Client :=
  if c.isOpen then
    let n := limit.getD c.queue.length
    (c.queue.take n, { c with queue := c.queue.drop n })
  else ([], c)

/-- The connection is gone: nothing more is queued, and what still waits is never taken out. -/
def close (c : Client) : Client := { c with isOpen := false }

end Client

end TopicMesh
