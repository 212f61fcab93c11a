import TopicMesh.Proxy

/-!
# TopicMesh.Proofs.Proxy

What no operation on a proxy changes, and what an instance may rely on for the proxies it holds.

* `Proxy.Alike`   — the same client, connected at the same place and owned by the same instance.
* `Proxy.Step`    — one operation on a proxy; it leads to a proxy that is alike (`Step.alike`).
* `Proxy.SoundAt` — a proxy as the instance `own` holds it under the key `id`: an attached client is
  owned by this instance and a client elsewhere by another.
-/

namespace TopicMesh

namespace Proxy

structure Alike (p q : Proxy) : Prop where
  clientId : q.clientId = p.clientId
  isAttached : q.isAttached = p.isAttached
  recordId : q.record.clientId = p.record.clientId
  owner : q.record.owner = p.record.owner
  isClosed : p.isAttached = false → q.isClosed = p.isClosed

structure SoundAt (own id : String) (p : Proxy) : Prop where
  clientId : p.clientId = id
  recordId : p.record.clientId = id
  attached_iff : p.isAttached = true ↔ p.record.owner = own
  /-- Only attached clients go offline for good. -/
  isOpen : p.isAttached = false → p.isClosed = false

inductive Step (own : String) : Proxy → Proxy → Prop where
  | edit (p : Proxy) (f : Client → Client) : Step own p (p.mapClient f)
  | broadcast (p : Proxy) (b : Backend) : Step own p (p.broadcast own b).subject
  | goOffline (p : Proxy) (b : Backend) : Step own p (p.goOffline b).subject
  | receive {p q : Proxy} {schema : Schema} {r : Record} {snapshot : Option Json}
      (h : p.receive schema r snapshot = .ok q) : Step own p q
  | send (p : Proxy) (m : Message) (b : Backend) : Step own p (p.send own m b).subject
  | deliver {p q : Proxy} {m : Message} (h : p.deliver own m = .ok q) : Step own p q

namespace Alike

theorem refl (p : Proxy) : Alike p p := ⟨rfl, rfl, rfl, rfl, fun _ => rfl⟩

theorem soundAt {own id : String} {p q : Proxy} (h : Alike p q) (hp : p.SoundAt own id) :
    q.SoundAt own id where
  clientId := h.clientId.trans hp.clientId
  recordId := h.recordId.trans hp.recordId
  attached_iff := by
    rw [h.isAttached, h.owner]
    exact hp.attached_iff
  isOpen ha := by
    have ha : p.isAttached = false := h.isAttached ▸ ha
    rw [h.isClosed ha]
    exact hp.isOpen ha

end Alike

theorem SoundAt.owner_ne {own id : String} {p : Proxy} (h : p.SoundAt own id)
    (ha : p.isAttached = false) : p.record.owner ≠ own := by
  intro ho
  rw [h.attached_iff.2 ho] at ha
  cases ha

theorem SoundAt.isRemote_eq {own id : String} {p : Proxy} (h : p.SoundAt own id) :
    p.isRemote own = !p.isAttached := by
  rw [isRemote, Bool.eq_iff_iff, decide_eq_true_eq, Bool.not_eq_true', ← Bool.not_eq_true,
    h.attached_iff]

/-! ## The operations -/

theorem isAttached_eq_true_iff {p : Proxy} :
    p.isAttached = true ↔ ∃ serial client, p.attachment = .attached serial client := by
  unfold isAttached
  cases h : p.attachment with
  | attached serial client => simp
  | elsewhere => simp

theorem alike_mapClient (p : Proxy) (f : Client → Client) : Alike p (p.mapClient f) := by
  unfold mapClient
  split
  · rename_i serial client h
    exact ⟨rfl, by simp only [isAttached, h], rfl, rfl, fun _ => rfl⟩
  · exact .refl p

theorem client?_eq_some_iff {p : Proxy} {c : Client} :
    p.client? = some c ↔ ∃ serial, p.attachment = .attached serial c := by
  unfold client?
  cases h : p.attachment with
  | attached serial client => simp
  | elsewhere => simp

theorem isAttached_of_client? {p : Proxy} {c : Client} (h : p.client? = some c) :
    p.isAttached = true := by
  obtain ⟨serial, ha⟩ := client?_eq_some_iff.1 h
  exact isAttached_eq_true_iff.2 ⟨serial, c, ha⟩

/-- What a client without topics has to write, and what one with topics. -/
theorem pendingChange_cases {own : String} {p : Proxy} {change : Change}
    (h : p.pendingChange own = .ok (some change)) :
    ∃ c, p.client? = some c ∧ p.isClosed = false
      ∧ ((c.topics.isEmpty = true ∧ change = .delete p.clientId)
        ∨ (c.topics.isEmpty = false
          ∧ change = .upsert (p.currentRecord own c) (c.principal.map Principal.snapshot))) := by
  unfold pendingChange at h
  split at h
  · cases h
  · rename_i serial c hc
    have hclient : p.client? = some c := client?_eq_some_iff.2 ⟨serial, hc⟩
    split at h
    · cases h
    · rename_i hopen
      rw [Bool.not_eq_true] at hopen
      refine ⟨c, hclient, hopen, ?_⟩
      split at h
      · rename_i ht
        cases h
        exact .inl ⟨ht, rfl⟩
      · rename_i ht
        cases h
        exact .inr ⟨by simpa using ht, rfl⟩

/-- A broadcast does what its write does. -/
theorem broadcast_write {own : String} {p : Proxy} {change : Change}
    (h : p.pendingChange own = .ok (some change)) (b : Backend) :
    (p.broadcast own b).result = (b.write change).result
      ∧ (p.broadcast own b).backend = (b.write change).backend
      ∧ (p.broadcast own b).subject
        = if (b.write change).result.isOk then p.written change else p := by
  rw [broadcast, h]
  simp only
  split <;> rename_i hw <;> rw [hw] <;> exact ⟨rfl, rfl, rfl⟩

/-- A broadcast of a client that is not attached, or is closed, leaves the services alone. -/
theorem broadcast_cases (own : String) (p : Proxy) (b : Backend) :
    (p.broadcast own b).backend = b
    ∨ ∃ change, p.pendingChange own = .ok (some change)
      ∧ (p.broadcast own b).backend = (b.write change).backend := by
  cases h : p.pendingChange own with
  | error e =>
    left
    rw [broadcast, h]
  | ok change? =>
    cases change? with
    | none =>
      left
      rw [broadcast, h]
    | some change => exact .inr ⟨change, rfl, (broadcast_write h b).2.1⟩

theorem pendingChange_of_empty (own : String) {p : Proxy} {c : Client} (hc : p.client? = some c)
    (ho : p.isClosed = false) (ht : c.topics.isEmpty = true) :
    p.pendingChange own = .ok (some (.delete p.clientId)) := by
  obtain ⟨serial, ha⟩ := client?_eq_some_iff.1 hc
  simp [pendingChange, ha, ho, ht]

theorem pendingChange_of_topics (own : String) {p : Proxy} {c : Client} (hc : p.client? = some c)
    (ho : p.isClosed = false) (ht : c.topics.isEmpty = false) : p.pendingChange own
      = .ok (some (.upsert (p.currentRecord own c) (c.principal.map Principal.snapshot))) := by
  obtain ⟨serial, ha⟩ := client?_eq_some_iff.1 hc
  simp [pendingChange, ha, ho, ht]

/-- A deletion that is part of a broadcast does not tell whether there was a record. -/
theorem delete_of_write (b : Backend) (id : String) :
    (b.write (.delete id)).backend = (b.delete id).backend
      ∧ (b.write (.delete id)).result.isOk = (b.delete id).result.isOk := by
  rw [Backend.write]
  split <;> rename_i h <;> rw [h] <;> exact ⟨rfl, rfl⟩

theorem alike_written {own : String} {p : Proxy} {change : Change}
    (h : p.pendingChange own = .ok (some change)) : Alike p (p.written change) := by
  obtain ⟨c, -, -, ⟨-, rfl⟩ | ⟨-, rfl⟩⟩ := pendingChange_cases h
  · exact ⟨rfl, rfl, rfl, rfl, fun _ => rfl⟩
  · exact ⟨rfl, rfl, rfl, rfl, fun _ => rfl⟩

theorem alike_broadcast (own : String) (p : Proxy) (b : Backend) :
    Alike p (p.broadcast own b).subject := by
  unfold broadcast
  split
  · exact .refl p
  · exact .refl p
  · rename_i change h
    split
    · exact .refl p
    · exact alike_written h

/-- Going offline is the deletion of the record; the proxy is closed in either case. -/
theorem goOffline_eq {p : Proxy} (ha : p.isAttached = true) (b : Backend) :
    p.goOffline b
      = { result := (b.delete p.clientId).result
          subject :=
            { if (b.delete p.clientId).result.isOk then p.written (.delete p.clientId) else p with
              isClosed := true }
          backend := (b.delete p.clientId).backend } := by
  obtain ⟨serial, c, hc⟩ := isAttached_eq_true_iff.1 ha
  unfold goOffline
  split <;> rename_i hp
  · rw [hc] at hp
    cases hp
  · simp only
    split <;> rename_i hd <;> rw [hd] <;> rfl

theorem alike_goOffline (p : Proxy) (b : Backend) : Alike p (p.goOffline b).subject := by
  unfold goOffline
  split
  · exact .refl p
  · rename_i serial client hp
    have ha : p.isAttached = true := isAttached_eq_true_iff.2 ⟨serial, client, hp⟩
    split
    · exact ⟨rfl, rfl, rfl, rfl, fun h => absurd (ha.symm.trans h) (by simp)⟩
    · exact ⟨rfl, rfl, rfl, rfl, fun h => absurd (ha.symm.trans h) (by simp)⟩

/-- A principal is resolved from the collections that a schema finds. -/
theorem resolvePrincipal_congr {schema schema' : Schema} (h : schema'.find? = schema.find?) :
    resolvePrincipal schema' = resolvePrincipal schema := by
  funext r snapshot
  unfold resolvePrincipal Principal.ofSnapshot
  rw [h]

/-- What a client elsewhere is after it took a record over. -/
theorem receive_eq_ok {p q : Proxy} {schema : Schema} {r : Record} {snapshot : Option Json}
    (h : p.receive schema r snapshot = .ok q) :
    p.isAttached = false ∧ r.clientId = p.clientId ∧
      q = { p with
            record := { r with clientId := p.record.clientId, owner := p.record.owner }
            lastPrincipal := resolvePrincipal schema r snapshot } := by
  unfold receive at h
  split at h
  · cases h
  · rename_i ha
    split at h
    · cases h
    · rename_i hid
      cases h
      exact ⟨by simpa using ha, Decidable.not_not.1 hid, rfl⟩

theorem receive_of_not_attached {p : Proxy} (h : p.isAttached = false) (schema : Schema)
    {r : Record} (hr : r.clientId = p.clientId) (snapshot : Option Json) :
    p.receive schema r snapshot = .ok { p with
      record := { r with clientId := p.record.clientId, owner := p.record.owner }
      lastPrincipal := resolvePrincipal schema r snapshot } := by
  unfold receive
  rw [if_neg (by simp [h]), if_neg (by simp [hr])]

theorem alike_send (own : String) (p : Proxy) (m : Message) (b : Backend) :
    Alike p (p.send own m b).subject := by
  unfold send
  split
  · split
    · exact .refl p
    · exact .refl p
  · split
    · exact alike_mapClient p _
    · exact .refl p

theorem Step.alike {own : String} {p q : Proxy} (h : Step own p q) : Alike p q := by
  cases h with
  | edit f => exact alike_mapClient p f
  | broadcast b => exact alike_broadcast own p b
  | goOffline b => exact alike_goOffline p b
  | receive h =>
    obtain ⟨-, -, rfl⟩ := receive_eq_ok h
    exact ⟨rfl, rfl, rfl, rfl, fun _ => rfl⟩
  | send m b => exact alike_send own p m b
  | deliver h =>
    unfold Proxy.deliver at h
    split at h
    · cases h
      exact alike_mapClient p _
    · cases h

/-! ## What the operations keep -/

/-- The proxy of a client that has not gone offline for good. -/
def OpenAt (_ : String) (p : Proxy) : Prop := p.isClosed = false

theorem client?_mapClient (p : Proxy) (f : Client → Client) :
    (p.mapClient f).client? = p.client?.map f := by
  unfold mapClient
  split <;> rename_i h
  · simp [client?, h]
  · simp [client?, h]

theorem mapClient_of_elsewhere {p : Proxy} (h : p.isAttached = false) (f : Client → Client) :
    p.mapClient f = p := by
  unfold mapClient
  split
  · rename_i serial c hc
    rw [isAttached_eq_true_iff.2 ⟨serial, c, hc⟩] at h
    cases h
  · rfl

theorem isClosed_mapClient (p : Proxy) (f : Client → Client) :
    (p.mapClient f).isClosed = p.isClosed := by
  unfold mapClient
  split <;> rfl

theorem broadcast_subject (own : String) (p : Proxy) (b : Backend) :
    (p.broadcast own b).subject.client? = p.client?
      ∧ (p.broadcast own b).subject.isClosed = p.isClosed := by
  unfold broadcast
  split
  · exact ⟨rfl, rfl⟩
  · exact ⟨rfl, rfl⟩
  · rename_i change _
    split
    · exact ⟨rfl, rfl⟩
    · cases change <;> exact ⟨rfl, rfl⟩

theorem send_subject (own : String) (p : Proxy) (m : Message) (b : Backend) :
    (p.send own m b).subject = p ∨ (p.send own m b).subject = p.mapClient (·.deliver m) := by
  unfold send
  split
  · split <;> exact .inl rfl
  · split
    · exact .inr rfl
    · exact .inl rfl

theorem send_of_encoded {own : String} {p : Proxy} {m : Message} (hr : p.isRemote own = true) {payload : String}
    (he : (Relay.mk p.clientId m).encode = .ok payload) (b : Backend) :
    p.send own m b = { result := (b.publish p.record.owner payload).result, subject := p,
                       backend := (b.publish p.record.owner payload).backend } := by
  rw [send, if_pos hr, he]

theorem send_of_elsewhere {own : String} {p : Proxy} {m : Message} {b : Backend}
    (ho : p.record.owner ≠ own) (hb : b.outages = []) {payload : String}
    (he : (Relay.mk p.clientId m).encode = .ok payload) :
    p.send own m b = { result := .ok (), subject := p,
                       backend := { b with bus := b.bus.publish p.record.owner payload } } := by
  rw [send_of_encoded (decide_eq_true ho) he]
  simp only [Backend.publish, Backend.attempt_of_no_outages hb]

theorem send_of_refused {own : String} {p : Proxy} {m : Message} {e : ProtocolError}
    (ho : p.record.owner ≠ own) (he : (Relay.mk p.clientId m).encode = .error e) (b : Backend) :
    p.send own m b = { result := .error (.protocol e), subject := p, backend := b } := by
  have hr : p.isRemote own = true := decide_eq_true ho
  rw [send, if_pos hr, he]

theorem send_of_attached {own : String} {p : Proxy} (ha : p.isAttached = true)
    (ho : p.record.owner = own) (m : Message) (b : Backend) :
    p.send own m b
      = { result := .ok (), subject := p.mapClient (·.deliver m), backend := b } := by
  have hr : ¬p.isRemote own = true := by simp [isRemote, ho]
  rw [send, if_neg hr, if_pos ha]

theorem deliver_eq_ok {own : String} {p q : Proxy} {m : Message} (h : p.deliver own m = .ok q) :
    q = p.mapClient (·.deliver m) := by
  unfold deliver at h
  split at h
  · cases h
    rfl
  · cases h

theorem SoundAt.deliver_of_client? {own id : String} {p : Proxy} {c : Client} (h : p.SoundAt own id) (hc : p.client? = some c) (m : Message) :
    p.deliver own m = .ok (p.mapClient (·.deliver m)) := by
  have ha := isAttached_of_client? hc
  rw [deliver, h.isRemote_eq, ha]
  rfl

theorem deliver_of_elsewhere {p : Proxy} (ha : p.isAttached = false) (own : String) (m : Message) :
    p.deliver own m = .error (.wrongChannel p.clientId) := by
  rw [deliver, ha]
  rfl

/-! ## New proxies -/

theorem soundAt_attach (own : String) (serial : Nat) (client : Client) :
    (attach own serial client).SoundAt own client.id where
  clientId := rfl
  recordId := rfl
  attached_iff := by simp [attach, isAttached]
  isOpen h := by simp [attach, isAttached] at h

/-- The proxy of a client elsewhere that has taken over a record. -/
def mirror (r : Record) (principal : Option Principal) : Proxy :=
  { clientId := r.clientId, attachment := .elsewhere, record := r, lastPrincipal := principal }

theorem soundAt_mirror {own : String} {r : Record} (h : r.owner ≠ own)
    (principal : Option Principal) : (mirror r principal).SoundAt own r.clientId where
  clientId := rfl
  recordId := rfl
  attached_iff := by simp [mirror, isAttached, h]
  isOpen _ := rfl

theorem receive_follow (schema : Schema) (r : Record) (snapshot : Option Json) :
    (follow r).receive schema r snapshot = .ok (mirror r (resolvePrincipal schema r snapshot)) := by
  have ha : (follow r).isAttached = false := rfl
  rw [receive_of_not_attached ha schema rfl]
  rfl

/-- A proxy that takes over a record of its own client and owner keeps nothing of what it was. -/
theorem SoundAt.receive_eq {own id : String} {p : Proxy} (h : p.SoundAt own id)
    (ha : p.isAttached = false) {r : Record} (hid : r.clientId = id)
    (ho : p.record.owner = r.owner) (schema : Schema) (snapshot : Option Json) :
    p.receive schema r snapshot = .ok (mirror r (resolvePrincipal schema r snapshot)) := by
  have hp : p.attachment = .elsewhere := by
    unfold isAttached at ha
    split at ha
    · cases ha
    · assumption
  have hr : ({ r with clientId := p.record.clientId, owner := p.record.owner } : Record) = r := by
    rw [h.recordId, ho, ← hid]
  rw [receive_of_not_attached ha schema (hid.trans h.clientId.symm), hr, mirror, hid]
  rw [← h.clientId, ← hp, ← h.isOpen ha]

end Proxy

end TopicMesh
