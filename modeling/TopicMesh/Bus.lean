import TopicMesh.Error

/-!
# TopicMesh.Bus

A bus of named channels. Each subscription keeps the payloads published on its channel until it
reads them, up to a backlog; one that falls further behind loses its oldest payloads, and learns so
at its next read, which is its last. A subscription never skips payloads in silence.

* `Bus.publish`       — a payload for every connected subscription of a channel.
* `Bus.read`          — what one subscription has next.
* `Bus.disconnectAll` — every subscription keeps what it has and gets nothing more.
-/

namespace TopicMesh

structure Subscription where
  /-- The number under which the subscription was opened. -/
  ticket : Nat
  channel : String
  /-- Payloads not read yet, the oldest first. -/
  waiting : List String := []
  /-- Payloads that were overwritten before they were read. -/
  lost : Nat := 0
  isConnected : Bool := true
deriving DecidableEq, Repr, Inhabited

namespace Subscription

/-- The largest number of payloads that wait for one subscription. -/
def backlog : Nat := 1024

/-- Keeps a payload; the oldest one is lost if there is no room. -/
def receive (s : Subscription) (payload : String) : Subscription :=
  if s.waiting.length < backlog then { s with waiting := s.waiting ++ [payload] }
  else { s with waiting := s.waiting.drop 1 ++ [payload], lost := s.lost + 1 }

/-- Whether payloads published on a channel reach the subscription. -/
def hears (s : Subscription) (channel : String) : Bool :=
  s.isConnected && s.channel == channel

end Subscription

structure Bus where
  subscriptions : List Subscription := []
  nextTicket : Nat := 0
deriving DecidableEq, Repr, Inhabited

inductive Reading where
  | payload (text : String)
  /-- Payloads were lost; the subscription is over. -/
  | lagged (fault : BusFault)
  /-- There is nothing yet. -/
  | pending
  /-- There will be nothing more. -/
  | ended
deriving DecidableEq, Repr

namespace Bus

/-- Opens a subscription, which hears what is published from now on. -/
def subscribe (b : Bus) (channel : String) : Nat × Bus :=
  (b.nextTicket,
    { subscriptions := b.subscriptions ++ [{ ticket := b.nextTicket, channel }]
      nextTicket := b.nextTicket + 1 })

def subscriberCount (b : Bus) (channel : String) : Nat :=
  b.subscriptions.countP fun s => s.hears channel

/-- Hands a payload to every connected subscription of a channel. -/
def publish (b : Bus) (channel payload : String) : Bus :=
  { b with
    subscriptions := b.subscriptions.map fun s =>
      if s.hears channel then s.receive payload else s }

def publishAll (b : Bus) (channel : String) (payloads : List String) : Bus :=
  payloads.foldl (fun b payload => b.publish channel payload) b

def unsubscribe (b : Bus) (ticket : Nat) : Bus :=
  { b with subscriptions := b.subscriptions.filter fun s => s.ticket ≠ ticket }

def find? (b : Bus) (ticket : Nat) : Option Subscription :=
  b.subscriptions.find? fun s => s.ticket = ticket

/-- Puts a subscription in the place of the one with its ticket. -/
def update (b : Bus) (subscription : Subscription) : Bus :=
  { b with
    subscriptions := b.subscriptions.map fun s =>
      if s.ticket = subscription.ticket then subscription else s }

/-- The next thing that a subscription has; one that has come to its end is closed. -/
def read (b : Bus) (ticket : Nat) : Reading × Bus :=
  match b.find? ticket with
  | none => (.ended, b)
  | some s =>
    if s.lost = 0 then
      match s.waiting with
      | payload :: rest => (.payload payload, b.update { s with waiting := rest })
      | [] => if s.isConnected then (.pending, b) else (.ended, b.unsubscribe ticket)
    else (.lagged (.lagged s.channel s.lost), b.unsubscribe ticket)

/-- Reads payloads until a read gives something else. -/
def drain (b : Bus) (ticket : Nat) : List String × Bus :=
  match b.find? ticket with
  | none => ([], b)
  | some s =>
    if s.lost ≠ 0 then ([], b.unsubscribe ticket)
    else
      (s.waiting, if s.isConnected then b.update { s with waiting := [] } else b.unsubscribe ticket)

/-- Drains several subscriptions; gives the payloads with their channels, in ascending order. -/
def drainAll (b : Bus) (tickets : List Nat) : List (String × String) × Bus :=
  let (found, b) := tickets.foldl drainNext ([], b)
  (found.mergeSort fun p q => p.1 < q.1 || (p.1 == q.1 && !(q.2 < p.2)), b)
where
  drainNext (acc : List (String × String) × Bus) (ticket : Nat) : List (String × String) × Bus :=
    let channel := ((acc.2.find? ticket).map (·.channel)).getD ""
    let (payloads, b) := acc.2.drain ticket
    (acc.1 ++ payloads.map fun payload => (channel, payload), b)

def disconnectAll (b : Bus) : Bus :=
  { b with subscriptions := b.subscriptions.map fun s => { s with isConnected := false } }

end Bus

end TopicMesh
