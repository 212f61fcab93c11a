import TopicMesh.Announcement
import TopicMesh.Error
import TopicMesh.Lease

/-!
# TopicMesh.Store

The durable tables that the instances share: a lease for each live channel, and a record for each
client. Every write comes with the announcements of what it changed.

* `Store.heartbeat` — renews one channel's lease and reaps the channels whose lease has run out,
  together with the records they own.
* `Store.upsert`    — writes a record; the owner of a record that exists already is kept.
* `Store.delete`    — deletes a record.
-/

namespace TopicMesh

structure Store where
  deadlines : Table Instant := .empty
  records : Table Record := .empty
  keyed : ∀ id r, records.find? id = some r → r.clientId = id := by simp
deriving DecidableEq

def Store.empty : Store := {}

instance : Inhabited Store := ⟨.empty⟩

/-- What a heartbeat found: whether the channel had no lease, and the channels it reaped. -/
structure Pulse where
  inserted : Bool := false
  reaped : List String := []
deriving DecidableEq, Repr, Inhabited

/-- What a write led to: its result, the tables after it, and the payloads it announced. -/
structure Written (α : Type) where
  result : Except MeshError α
  store : Store
  announced : List String := []

namespace Store

def leases (s : Store) : List Lease := s.deadlines.entries.map fun e => ⟨e.1, e.2⟩

/-- The channels other than `own` whose lease has run out. -/
def expired (s : Store) (own : String) (now : Instant) : List String :=
  (s.leases.filter fun l => l.channel ≠ own && l.isExpiredAt now).map (·.channel)

/-- Puts a record into the table without announcing it. -/
def insertRecord (s : Store) (record : Record) : Store :=
  { s with
    records := s.records.insert record.clientId record
    keyed := by
      intro id r h
      rw [Table.find?_insert] at h
      split at h
      · cases h
        assumption
      · exact s.keyed id r h }

/-- Takes a client's record out of the table without announcing it. -/
def eraseRecord (s : Store) (clientId : String) : Store :=
  { s with
    records := s.records.erase clientId
    keyed := by
      intro id r h
      rw [Table.find?_erase] at h
      split at h
      · cases h
      · exact s.keyed id r h }

/-- The tables without a channel and the records it owns. -/
def withoutChannel (s : Store) (channel : String) : Store :=
  { deadlines := s.deadlines.erase channel
    records := s.records.filter fun _ r => r.owner ≠ channel
    keyed := by
      intro id r h
      rw [Table.find?_filter] at h
      exact s.keyed id r (Option.eq_some_of_filter_eq_some h) }

/-- Reaps channels one by one, up to the first whose name cannot be announced. -/
def reap (s : Store) : List String → Written Unit
  | [] => { result := .ok (), store := s }
  | channel :: rest =>
    match (Announcement.offline channel).encode with
    | .error e => { result := .error (.protocol e), store := s.withoutChannel channel }
    | .ok payload =>
      let w := (s.withoutChannel channel).reap rest
      { w with announced := payload :: w.announced }

/-- The longest time to live, in nanoseconds: the largest number of milliseconds in 64 bits. -/
def maxTtl : Nat := 9223372036854775807 * 1000000

/-- The deadline of a lease that starts now. -/
def deadline (now : Instant) (ttl : Duration) : Except MeshError Instant :=
  if maxTtl < ttl.nanoseconds then .error (.settings .ttlOutOfRange)
  else
    match now.add ttl with
    | none => .error .deadlineOverflow
    | some t => .ok t

/-- Renews a channel's lease, then reaps the channels whose lease has run out. -/
def heartbeat (s : Store) (now : Instant) (channel : String) (ttl : Duration) : Written Pulse :=
  match deadline now ttl with
  | .error e => { result := .error e, store := s }
  | .ok t =>
    let renewed := { s with deadlines := s.deadlines.insert channel t }
    let gone := renewed.expired channel now
    let w := renewed.reap gone
    match w.result with
    | .error e => { w with result := .error e }
    | .ok () => { w with result := .ok ⟨!s.deadlines.contains channel, gone⟩ }

/-- The row for a record: of a row that exists already, the owner is kept. -/
def rowFor (s : Store) (record : Record) : Record :=
  match s.records.find? record.clientId with
  | none => record
  | some row =>
    { row with topics := record.topics, authRef := record.authRef, updatedBy := record.updatedBy }

/-- Writes a record and announces the row, with the snapshot of the client's principal. -/
def upsert (s : Store) (record : Record) (snapshot : Option Json) : Written Unit :=
  let row := s.rowFor record
  let store := s.insertRecord row
  match (Announcement.upsert row snapshot).encode with
  | .error e => { result := .error (.protocol e), store }
  | .ok payload => { result := .ok (), store, announced := [payload] }

/-- Deletes a record and announces it; says whether there was one. -/
def delete (s : Store) (clientId : String) : Written Bool :=
  if s.records.contains clientId then
    let store := s.eraseRecord clientId
    match (Announcement.delete clientId).encode with
    | .error e => { result := .error (.protocol e), store }
    | .ok payload => { result := .ok true, store, announced := [payload] }
  else { result := .ok false, store := s }

/-- The records that other channels own. -/
def foreign (s : Store) (channel : String) : List Record :=
  s.records.values.filter fun r => r.owner ≠ channel

/-- Moves the deadline of a lease, if there is one, into the past. -/
def expire (s : Store) (now : Instant) (channel : String) : Store :=
  if s.deadlines.contains channel then
    { s with deadlines := s.deadlines.insert channel { now with second := now.second - 1 } }
  else s

end Store

end TopicMesh
