import TopicMesh.Node.Basic

/-!
# TopicMesh.Node.Resync

Keeping the proxies of clients elsewhere in step with the records of their owners.

* `Node.applyRecord` — takes over one record: creates, updates or replaces the client's proxy.
* `Node.resync`      — takes over every foreign record in the store, and forgets the clients
  elsewhere that have none. Proxies of attached clients are never touched.
-/

namespace TopicMesh

/-- What became of a record. -/
inductive Applied where
  /-- The client was not known. -/
  | created
  /-- The client's proxy took the record over. -/
  | updated
  /-- The client had another owner, so that it got a new proxy. -/
  | replaced
  /-- The client or the record is this instance's own; nothing was done. -/
  | skippedLocal
deriving DecidableEq, Repr

/-- How many proxies a resync made, refreshed and removed. -/
structure ResyncStats where
  created : Nat := 0
  updated : Nat := 0
  pruned : Nat := 0
deriving DecidableEq, Repr, Inhabited

namespace ResyncStats

/-- Counts what became of one record. -/
def count (s : ResyncStats) : Applied → ResyncStats
  | .created | .replaced => { s with created := s.created + 1 }
  | .updated => { s with updated := s.updated + 1 }
  | .skippedLocal => s

end ResyncStats

namespace Node

/-- Registers a new proxy that has taken over a record. -/
def adopt (n : Node) (record : Record) (snapshot : Option Json) : Except MeshError Node :=
  match (Proxy.follow record).receive n.schema record snapshot with
  | .error e => .error e
  | .ok p => .ok (n.register p)

/-- Takes over a record; one that is this instance's own, or is of an attached client, is ignored. -/
def applyRecord (n : Node) (record : Record) (snapshot : Option Json) :
    Except MeshError (Applied × Node) :=
  if record.owner = n.channel then .ok (.skippedLocal, n)
  else
    match n.registry.find? record.clientId with
    | none =>
      match n.adopt record snapshot with
      | .error e => .error e
      | .ok n => .ok (.created, n)
    | some p =>
      if p.isAttached then .ok (.skippedLocal, n)
      else if p.record.owner = record.owner then
        match p.receive n.schema record snapshot with
        | .error e => .error e
        | .ok p => .ok (.updated, n.putBack record.clientId p)
      else
        match n.adopt record snapshot with
        | .error e => .error e
        | .ok n => .ok (.replaced, n)

/-- Takes over records one by one, without snapshots. -/
def applyAll (n : Node) (stats : ResyncStats) : List Record → Except MeshError ResyncStats × Node
  | [] => (.ok stats, n)
  | record :: rest =>
    match n.applyRecord record none with
    | .error e => (.error e, n)
    | .ok (applied, n) => n.applyAll (stats.count applied) rest

/-- Forgets a client unless it is attached; counts it if it was known. -/
def prune (acc : ResyncStats × Node) (clientId : String) : ResyncStats × Node :=
  match acc.2.registry.find? clientId with
  | none => acc
  | some p =>
    if p.isAttached then acc
    else ({ acc.1 with pruned := acc.1.pruned + 1 }, acc.2.unregister clientId)

/-- Makes the proxies of clients elsewhere agree with the foreign records in the store. -/
def resync (n : Node) (b : Backend) : Outcome Node ResyncStats :=
  let known := n.remote.map (·.clientId)
  match b.foreign n.channel with
  | { result := .error e, backend } => { result := .error e, subject := n, backend }
  | { result := .ok records, backend } =>
    match n.applyAll {} records with
    | (.error e, n) => { result := .error e, subject := n, backend }
    | (.ok stats, n) =>
      let stale := known.filter fun id => !(records.any fun r => r.clientId = id)
      let (stats, n) := stale.foldl prune (stats, n)
      { result := .ok stats, subject := n, backend }

end Node

end TopicMesh
