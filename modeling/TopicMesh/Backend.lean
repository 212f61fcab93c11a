import TopicMesh.Bus
import TopicMesh.ChannelName
import TopicMesh.Store

/-!
# TopicMesh.Backend

The services that the instances share: the bus, the store, and the store's clock. What a write
announces is published on the control channel together with the write, so nobody hears of a change
that is not in the store yet.

An outage makes calls of one kind fail instead of doing anything; `Backend.attempt` is a call that is
subject to outages.
-/

namespace TopicMesh

/-- The calls that may fail. -/
inductive Call where
  | publish
  | subscribe
  | ensureSchema
  | heartbeat
  | upsert
  | delete
  | foreign
  | reloadCollections
  | reloadSettings
deriving DecidableEq, Repr

/-- The next `times` calls of one kind fail. -/
structure Outage where
  call : Call
  error : MeshError
  times : Nat
deriving DecidableEq, Repr

structure Backend where
  bus : Bus := {}
  store : Store := .empty
  controlChannel : String := ChannelName.defaultControl
  outages : List Outage := []
  /-- The time at the store. -/
  clock : Instant
deriving DecidableEq

/-- The result of a call, and the services after it. -/
structure Reply (α : Type) where
  result : Except MeshError α
  backend : Backend

/-- What an operation of one part of an instance led to: its result, and the part and the services
after it. -/
structure Outcome (σ α : Type) where
  result : Except MeshError α
  subject : σ
  backend : Backend

namespace Outage

/-- The error of the first outage of a kind of call, and the outages that remain. -/
def consume (call : Call) : List Outage → Option MeshError × List Outage
  | [] => (none, [])
  | o :: rest =>
    if o.call = call ∧ 0 < o.times then (some o.error, { o with times := o.times - 1 } :: rest)
    else
      match consume call rest with
      | (found, rest) => (found, o :: rest)

end Outage

namespace Backend

/-- Makes the next calls of a kind fail, after the outages of that kind that are under way. -/
def addOutage (b : Backend) (outage : Outage) : Backend :=
  { b with outages := b.outages ++ [outage] }

/-- A call that fails if there is an outage of its kind. -/
def attempt {α : Type} (b : Backend) (call : Call) (go : Backend → Reply α) : Reply α :=
  match Outage.consume call b.outages with
  | (some e, outages) => { result := .error e, backend := { b with outages } }
  | (none, _) => go b

/-- Makes a write and publishes what it announces. -/
def commit {α : Type} (b : Backend) (w : Written α) : Reply α :=
  { result := w.result
    backend :=
      { b with store := w.store, bus := b.bus.publishAll b.controlChannel w.announced } }

/-- How long the store takes for a heartbeat. -/
def heartbeatTime : Duration := ⟨10000⟩

/-- A moment later: no two heartbeats happen at the same time. -/
def tick (b : Backend) : Backend :=
  { b with clock := (b.clock.add heartbeatTime).getD b.clock }

/-! ## Direct calls of the store -/

def storeHeartbeat (b : Backend) (channel : String) (ttl : Duration) : Reply Pulse :=
  b.tick.commit (b.store.heartbeat b.tick.clock channel ttl)

def storeUpsert (b : Backend) (record : Record) (snapshot : Option Json) : Reply Unit :=
  b.commit (b.store.upsert record snapshot)

def storeDelete (b : Backend) (clientId : String) : Reply Bool := b.commit (b.store.delete clientId)

def expire (b : Backend) (channel : String) : Backend :=
  { b with store := b.store.expire b.clock channel }

def insertRecord (b : Backend) (record : Record) : Backend :=
  { b with store := b.store.insertRecord record }

/-! ## Calls that instances make -/

def publish (b : Backend) (channel payload : String) : Reply Unit :=
  b.attempt .publish fun b =>
    { result := .ok (), backend := { b with bus := b.bus.publish channel payload } }

def subscribe (b : Backend) (channel : String) : Reply Nat :=
  b.attempt .subscribe fun b =>
    match b.bus.subscribe channel with
    | (ticket, bus) => { result := .ok ticket, backend := { b with bus } }

/-- Prepares the tables; there is nothing to prepare. -/
def ensureSchema (b : Backend) : Reply Unit :=
  b.attempt .ensureSchema fun b => { result := .ok (), backend := b }

def heartbeat (b : Backend) (channel : String) (ttl : Duration) : Reply Pulse :=
  b.attempt .heartbeat fun b => b.storeHeartbeat channel ttl

def upsert (b : Backend) (record : Record) (snapshot : Option Json) : Reply Unit :=
  b.attempt .upsert fun b => b.storeUpsert record snapshot

def delete (b : Backend) (clientId : String) : Reply Bool :=
  b.attempt .delete fun b => b.storeDelete clientId

def foreign (b : Backend) (channel : String) : Reply (List Record) :=
  b.attempt .foreign fun b => { result := .ok (b.store.foreign channel), backend := b }

/-- Whether the host takes a request to reload something. -/
def requestReload (b : Backend) (call : Call) : Reply Unit :=
  b.attempt call fun b => { result := .ok (), backend := b }

/-! ## Without outages -/

theorem attempt_of_no_outages {α : Type} {b : Backend} (h : b.outages = []) (call : Call)
    (go : Backend → Reply α) : b.attempt call go = go b := by
  simp [attempt, h, Outage.consume]

end Backend

end TopicMesh
