import TopicMesh.Proofs.Backing
import TopicMesh.Proofs.Proxy

/-!
# TopicMesh.Proofs.Proxy.Written

What one broadcast writes, whether it succeeds or not.

* `Backend.Touches`           — a call that concerns one client leaves everything else in the tables.
* `Client.recordAt`           — the record that a client should have, given the one it had.
* `SoundAt.touches_broadcast` — a broadcast concerns its own client only.
* `SoundAt.record_broadcast`  — a broadcast that succeeds leaves the record that its client should
  have.
-/

namespace TopicMesh

/-- An announced row is the row that is stored; an upsert can always be announced. -/
theorem Store.store_upsert (s : Store) (r : Record) (snapshot : Option Json) :
    (s.upsert r snapshot).store = s.insertRecord (s.rowFor r) := rfl

theorem Store.find?_records_upsert (s : Store) (r : Record) (snapshot : Option Json) (c : String) :
    (s.upsert r snapshot).store.records.find? c
      = if r.clientId = c then some (s.rowFor r) else s.records.find? c := by
  have hid : (s.rowFor r).clientId = r.clientId := by rw [rowFor_eq]
  rw [store_upsert, insertRecord, Table.find?_insert, hid]

namespace Backend

/-- At most the record of the client `id` is different, and no outage is new. -/
structure Touches (id : String) (b b' : Backend) : Prop where
  deadlines : b'.store.deadlines = b.store.deadlines
  records : ∀ c, id ≠ c → b'.store.records.find? c = b.store.records.find? c
  outages : b.outages = [] → b'.outages = []

variable {b : Backend} {id : String}

theorem Touches.refl (id : String) (b : Backend) : b.Touches id b :=
  ⟨rfl, fun _ _ => rfl, fun h => h⟩

theorem touches_attempt {α : Type} {go : Backend → Reply α} (h : b.Touches id (go b).backend)
    (call : Call) : b.Touches id (b.attempt call go).backend := by
  rcases b.attempt_cases call go with ⟨e, outages, he⟩ | hgo
  · have hout : b.outages = [] → outages = [] := by
      intro hb
      rw [attempt_of_no_outages hb] at he
      have hsame := congrArg (fun r => r.backend.outages) he
      exact hsame.symm.trans (h.outages hb)
    rw [he]
    exact ⟨rfl, fun _ _ => rfl, hout⟩
  · rw [hgo]
    exact h

/-- A call that had a result was made. -/
theorem attempt_made {α : Type} {call : Call} {go : Backend → Reply α}
    (h : (∃ a, (b.attempt call go).result = .ok a) ∨ b.outages = []) :
    b.attempt call go = go b := by
  rcases h with ⟨a, ha⟩ | hb
  · rcases b.attempt_cases call go with ⟨e, outages, he⟩ | hgo
    · rw [he] at ha
      cases ha
    · exact hgo
  · exact attempt_of_no_outages hb call go

theorem touches_upsert (b : Backend) (r : Record) (snapshot : Option Json) :
    b.Touches r.clientId (b.upsert r snapshot).backend := by
  refine touches_attempt ?_ .upsert
  refine ⟨rfl, ?_, fun h => h⟩
  intro c hc
  have hfind := b.store.find?_records_upsert r snapshot c
  rw [if_neg hc] at hfind
  exact hfind

theorem touches_delete (b : Backend) (id : String) : b.Touches id (b.delete id).backend := by
  refine touches_attempt ?_ .delete
  refine ⟨Store.deadlines_delete b.store id, ?_, fun h => h⟩
  intro c hc
  have hrecords := (b.store.delete_logs id).records
  have hfind := congrArg (fun t => t.find? c) hrecords
  refine hfind.trans ?_
  split
  · exact Table.find?_erase_other hc _
  · rfl

end Backend

/-- The record of a client of the instance `own`: none without topics, else one with the owner that it
had. -/
def Client.recordAt (own id : String) (c : Client) (old : Option Record) : Option Record :=
  if c.topics.isEmpty then none
  else
    some
      { clientId := id
        owner := (old.map (·.owner)).getD own
        topics := c.topics
        authRef := (c.principal.map Principal.authRef).getD ""
        updatedBy := own }

namespace Proxy

variable {own id : String} {p : Proxy} {c : Client} {b : Backend}

theorem SoundAt.touches_broadcast (h : p.SoundAt own id) (b : Backend) :
    b.Touches id (p.broadcast own b).backend := by
  rcases p.broadcast_cases own b with hb | ⟨change, hchange, hb⟩
  · rw [hb]
    exact .refl id b
  · rw [hb]
    obtain ⟨c, -, -, ⟨-, rfl⟩ | ⟨-, rfl⟩⟩ := pendingChange_cases hchange
    · rw [(delete_of_write b p.clientId).1, h.clientId]
      exact b.touches_delete id
    · have hid : (p.currentRecord own c).clientId = id := h.recordId
      rw [← hid]
      exact b.touches_upsert _ _

/-- A broadcast that succeeds leaves the record that the client should have; without outages it does
so even if the deletion of a record cannot be announced. -/
theorem SoundAt.record_broadcast (h : p.SoundAt own id) (hc : p.client? = some c)
    (ho : p.isClosed = false) (hok : (p.broadcast own b).result = .ok () ∨ b.outages = []) :
    (p.broadcast own b).backend.store.records.find? id
      = c.recordAt own id (b.store.records.find? id) := by
  cases ht : c.topics.isEmpty with
  | true =>
    obtain ⟨hresult, hbackend, -⟩ := broadcast_write (pendingChange_of_empty own hc ho ht) b
    obtain ⟨hdelete, hisOk⟩ := delete_of_write b p.clientId
    have hmade : (∃ found, (b.delete p.clientId).result = .ok found) ∨ b.outages = [] := by
      refine hok.imp_left ?_
      intro hok
      rw [← hresult, hok] at hisOk
      cases hd : (b.delete p.clientId).result with
      | ok found => exact ⟨found, rfl⟩
      | error e =>
        rw [hd] at hisOk
        cases hisOk
    have hdel : b.delete p.clientId = b.storeDelete p.clientId := Backend.attempt_made hmade
    rw [hbackend, hdelete, hdel, h.clientId, Client.recordAt, ht, if_pos rfl]
    exact b.store.find?_delete id
  | false =>
    obtain ⟨hresult, hbackend, -⟩ := broadcast_write (pendingChange_of_topics own hc ho ht) b
    have hmade : (∃ u, (b.upsert (p.currentRecord own c)
        (c.principal.map Principal.snapshot)).result = .ok u) ∨ b.outages = [] := by
      refine hok.imp_left ?_
      intro hok
      exact ⟨(), hresult.symm.trans hok⟩
    have hup : b.upsert (p.currentRecord own c) (c.principal.map Principal.snapshot)
        = b.storeUpsert (p.currentRecord own c) (c.principal.map Principal.snapshot) :=
      Backend.attempt_made hmade
    have hid : (p.currentRecord own c).clientId = id := h.recordId
    have howner : p.record.owner = own := h.attached_iff.1 (isAttached_of_client? hc)
    have hrow := b.store.find?_records_upsert (p.currentRecord own c)
      (c.principal.map Principal.snapshot) id
    rw [if_pos hid] at hrow
    rw [hbackend, Backend.write, hup, Client.recordAt, ht, if_neg Bool.false_ne_true]
    refine hrow.trans ?_
    rw [Store.rowFor_eq, hid, currentRecord, h.recordId, howner]

/-- What becomes of the proxy itself depends on the client's record only, if no call can fail. -/
theorem SoundAt.broadcast_congr {b' : Backend} (h : p.SoundAt own id) (hb : b.outages = [])
    (hb' : b'.outages = []) (hr : b.store.records.find? id = b'.store.records.find? id) :
    (p.broadcast own b).subject = (p.broadcast own b').subject := by
  cases hchange : p.pendingChange own with
  | error e => rw [broadcast, broadcast, hchange]
  | ok change? =>
    cases change? with
    | none => rw [broadcast, broadcast, hchange]
    | some change =>
      obtain ⟨-, -, hs⟩ := broadcast_write hchange b
      obtain ⟨-, -, hs'⟩ := broadcast_write hchange b'
      rw [hs, hs']
      obtain ⟨c, -, -, ⟨-, rfl⟩ | ⟨-, rfl⟩⟩ := pendingChange_cases hchange
      · have hfound : (b.delete p.clientId).result = (b'.delete p.clientId).result := by
          rw [Backend.delete, Backend.delete, Backend.attempt_of_no_outages hb,
            Backend.attempt_of_no_outages hb', Backend.storeDelete, Backend.storeDelete,
            Backend.commit, Backend.commit, Store.delete, Store.delete, Table.contains,
            Table.contains, h.clientId, hr]
          split
          · split <;> rfl
          · rfl
        rw [(delete_of_write b _).2, (delete_of_write b' _).2, hfound]
      · have hok : ∀ {b : Backend}, b.outages = [] → (b.upsert (p.currentRecord own c)
            (c.principal.map Principal.snapshot)).result = .ok () :=
          fun hb => (Backend.upsert_tells hb _ _).1
        rw [Backend.write, Backend.write, hok hb, hok hb']

end Proxy

end TopicMesh
