import TopicMesh.Proofs.Proxy
import TopicMesh.Proofs.Reaping

/-!
# TopicMesh.Proofs.Backing

The records of a channel and its lease. Only a heartbeat of a peer deletes all records of a channel, and
it does so when it deletes the lease; a record without a lease is never found.

* `Store.Backs`   — a channel without a lease owns no record.
* `Store.Forgot`  — the channel has neither a lease nor records.
* `Store.Neutral` — a change of the tables that upholds both. All writes of an instance are neutral for
  all channels but its own.

A heartbeat after a lease ran out leaves nothing of that channel (`Store.forgot_heartbeat`).
-/

namespace TopicMesh

namespace Store

/-- The lease of a channel stands behind its records. -/
def Backs (s : Store) (channel : String) : Prop :=
  s.deadlines.find? channel = none → ∀ id r, s.records.find? id = some r → r.owner ≠ channel

structure Forgot (s : Store) (channel : String) : Prop where
  lease : s.deadlines.find? channel = none
  records : ∀ id r, s.records.find? id = some r → r.owner ≠ channel

/-- What may happen to the tables while a channel is inactive. -/
structure Neutral (channel : String) (s s' : Store) : Prop where
  lease : s.deadlines.find? channel = none → s'.deadlines.find? channel = none
  backs : s.Backs channel → s'.Backs channel

variable {s s' s'' : Store} {channel own : String} {now : Instant} {ttl : Duration}

namespace Neutral

theorem refl (channel : String) (s : Store) : Neutral channel s s := ⟨id, id⟩

theorem trans (h : Neutral channel s s') (h' : Neutral channel s' s'') : Neutral channel s s'' :=
  ⟨fun hl => h'.lease (h.lease hl), fun hb => h'.backs (h.backs hb)⟩

theorem forgot (h : Neutral channel s s') (hf : s.Forgot channel) : s'.Forgot channel :=
  ⟨h.lease hf.lease, h.backs (fun _ => hf.records) (h.lease hf.lease)⟩

/-- Records may go at any time. -/
theorem of_subset (hd : s'.deadlines = s.deadlines)
    (hr : ∀ id r, s'.records.find? id = some r → s.records.find? id = some r) :
    Neutral channel s s' where
  lease hl := by rw [hd, hl]
  backs hb hl id r hf := hb (hd ▸ hl) id r (hr id r hf)

end Neutral

/-! ## Writes -/

/-- A row that exists keeps its owner, so that none of the channel's comes up. -/
theorem neutral_upsert {r : Record} (ho : r.owner ≠ channel) (snapshot : Option Json) :
    Neutral channel s (s.upsert r snapshot).store where
  lease := by
    rw [upsert]
    split <;> exact id
  backs hb hl := by
    have hdeadlines : (s.upsert r snapshot).store.deadlines = s.deadlines := by
      rw [upsert]
      split <;> rfl
    have hold := hb (hdeadlines ▸ hl)
    intro id row hrow
    rw [(s.upsert_logs r snapshot).records] at hrow
    have hrow : (s.records.insert (s.rowFor r).clientId (s.rowFor r)).find? id = some row := hrow
    rw [Table.find?_insert] at hrow
    split at hrow
    · cases hrow
      rw [rowFor_eq]
      cases hf : s.records.find? r.clientId with
      | none => exact ho
      | some old => exact hold _ old hf
    · exact hold id row hrow

theorem neutral_delete (id : String) : Neutral channel s (s.delete id).store := by
  refine .of_subset (s.deadlines_delete id) ?_
  intro other r hr
  rw [(s.delete_logs id).records] at hr
  split at hr
  · have hr : (s.records.erase id).find? other = some r := hr
    rw [Table.find?_erase] at hr
    split at hr
    · cases hr
    · exact hr
  · exact hr

theorem neutral_expire (now : Instant) (other : String) :
    Neutral channel s (s.expire now other) := by
  rw [expire]
  split
  · rename_i hc
    have hlease : ∀ t, (s.deadlines.insert other t).find? channel = none
        → s.deadlines.find? channel = none := by
      intro t hl
      rw [Table.find?_insert] at hl
      split at hl
      · cases hl
      · exact hl
    refine ⟨fun hl => ?_, fun hb hl => hb (hlease _ hl)⟩
    rw [Table.find?_insert, if_neg, hl]
    rintro rfl
    rw [Table.contains, hl] at hc
    cases hc
  · exact .refl channel s

/-! ## Heartbeats -/

theorem find?_withoutChannel_iff {other id : String} {r : Record} :
    (s.withoutChannel other).records.find? id = some r
      ↔ s.records.find? id = some r ∧ r.owner ≠ other := by
  rw [withoutChannel, Table.find?_filter, Option.filter_eq_some_iff, decide_eq_true_eq]

theorem forgot_withoutChannel (s : Store) (channel : String) :
    (s.withoutChannel channel).Forgot channel :=
  ⟨Table.find?_erase_self _ _, fun _ _ hr => (find?_withoutChannel_iff.1 hr).2⟩

theorem neutral_withoutChannel (other : String) : Neutral channel s (s.withoutChannel other) := by
  by_cases hc : other = channel
  · subst hc
    have hf := s.forgot_withoutChannel other
    exact ⟨fun _ => hf.lease, fun _ _ => hf.records⟩
  · have hlease : (s.withoutChannel other).deadlines.find? channel = s.deadlines.find? channel :=
      Table.find?_erase_other hc _
    constructor
    · rw [hlease]
      exact id
    · intro hb hl id r hr
      exact hb (hlease ▸ hl) id r (find?_withoutChannel_iff.1 hr).1

theorem neutral_reap (channels : List String) : Neutral channel s (s.reap channels).store := by
  induction channels generalizing s with
  | nil => exact .refl channel s
  | cons c channels ih =>
    rw [reap]
    split
    · exact neutral_withoutChannel c
    · exact (neutral_withoutChannel c).trans ih

theorem forgot_reap {channels : List String} (hok : (s.reap channels).result = .ok ())
    (hc : channel ∈ channels) : (s.reap channels).store.Forgot channel := by
  induction channels generalizing s with
  | nil => cases hc
  | cons c channels ih =>
    rw [reap] at hok ⊢
    split at hok
    · cases hok
    · rename_i payload he
      obtain rfl | hc := List.mem_cons.1 hc
      · exact (neutral_reap channels).forgot (s.forgot_withoutChannel channel)
      · exact ih hok hc

theorem neutral_renewed (ho : own ≠ channel) (t : Instant) : Neutral channel s (s.renewed own t) where
  lease hl := by rw [renewed, Table.find?_insert_other ho, hl]
  backs hb hl := by
    rw [renewed, Table.find?_insert_other ho] at hl
    exact hb hl

theorem neutral_heartbeat (ho : own ≠ channel) :
    Neutral channel s (s.heartbeat now own ttl).store := by
  rcases s.heartbeat_cases now own ttl with ⟨e, he⟩ | ⟨t, w, rfl, hstore, -, -⟩
  · rw [he]
    exact .refl channel s
  · rw [hstore]
    exact (neutral_renewed ho t).trans (neutral_reap _)

/-- A heartbeat leaves nothing of a channel whose lease has run out by then. -/
theorem forgot_heartbeat (ho : own ≠ channel) (hb : s.Backs channel)
    (hx : ∀ t, s.deadlines.find? channel = some t → (Lease.mk channel t).isExpiredAt now = true)
    {pulse : Pulse} (hok : (s.heartbeat now own ttl).result = .ok pulse) :
    (s.heartbeat now own ttl).store.Forgot channel := by
  cases hl : s.deadlines.find? channel with
  | none => exact (neutral_heartbeat ho).forgot ⟨hl, hb hl⟩
  | some t =>
    rcases s.heartbeat_cases now own ttl with ⟨e, he⟩ | ⟨d, w, rfl, hstore, -, hreap⟩
    · rw [he] at hok
      cases hok
    · have hgone : channel ∈ (s.renewed own d).expired own now :=
        mem_expired_renewed.2 ⟨ho.symm, t, hl, hx t hl⟩
      rw [hstore]
      exact forgot_reap (hreap pulse hok) hgone

end Store

/-! ## Calls of instances -/

open Store (Neutral)

namespace Backend

variable {b : Backend} {channel own : String}

/-- A call is not made at all if there is an outage of its kind. -/
theorem attempt_cases {α : Type} (b : Backend) (call : Call) (go : Backend → Reply α) :
    (∃ e outages, b.attempt call go = { result := .error e, backend := { b with outages } })
      ∨ b.attempt call go = go b := by
  rw [attempt]
  split
  · rename_i e outages _
    exact .inl ⟨e, outages, rfl⟩
  · exact .inr rfl

theorem neutral_attempt {α : Type} (b : Backend) (call : Call) {go : Backend → Reply α}
    (hgo : Neutral channel b.store (go b).backend.store) :
    Neutral channel b.store (b.attempt call go).backend.store := by
  rcases b.attempt_cases call go with ⟨e, outages, he⟩ | he
  · rw [he]
    exact .refl channel b.store
  · rw [he]
    exact hgo

theorem neutral_delete (id : String) : Neutral channel b.store (b.delete id).backend.store :=
  b.neutral_attempt .delete (Store.neutral_delete id)

theorem neutral_upsert {r : Record} (ho : r.owner ≠ channel) (snapshot : Option Json) :
    Neutral channel b.store (b.upsert r snapshot).backend.store :=
  b.neutral_attempt .upsert (Store.neutral_upsert ho snapshot)

theorem neutral_heartbeat (ho : own ≠ channel) (ttl : Duration) :
    Neutral channel b.store (b.heartbeat own ttl).backend.store :=
  b.neutral_attempt .heartbeat (Store.neutral_heartbeat ho)

theorem forgot_heartbeat (ho : own ≠ channel) (hb : b.store.Backs channel)
    (hx : ∀ t, b.store.deadlines.find? channel = some t →
      (Lease.mk channel t).isExpiredAt b.tick.clock = true)
    {ttl : Duration} {pulse : Pulse} (hok : (b.heartbeat own ttl).result = .ok pulse) :
    (b.heartbeat own ttl).backend.store.Forgot channel := by
  rw [heartbeat] at hok ⊢
  rcases b.attempt_cases .heartbeat fun b => b.storeHeartbeat own ttl with ⟨e, outages, he⟩ | he
  · rw [he] at hok
    cases hok
  · rw [he] at hok ⊢
    exact Store.forgot_heartbeat ho hb hx hok

end Backend

namespace Proxy

variable {p : Proxy} {b : Backend} {channel own : String}

theorem neutral_goOffline (p : Proxy) (b : Backend) :
    Neutral channel b.store (p.goOffline b).backend.store := by
  have hdelete : Neutral channel b.store (b.delete p.clientId).backend.store := b.neutral_delete _
  rw [goOffline]
  split
  · exact .refl channel b.store
  · split <;> rename_i hd <;> rw [hd] at hdelete <;> exact hdelete

/-- A broadcast writes a record of the instance that the client is attached to. -/
theorem neutral_broadcast (ho : p.isAttached = true → p.record.owner = own) (hne : own ≠ channel)
    (b : Backend) : Neutral channel b.store (p.broadcast own b).backend.store := by
  rcases p.broadcast_cases own b with hb | ⟨change, hchange, hb⟩
  · rw [hb]
    exact .refl channel b.store
  · rw [hb]
    obtain ⟨c, hclient, -, ⟨-, rfl⟩ | ⟨-, rfl⟩⟩ := pendingChange_cases hchange
    · rw [(delete_of_write b p.clientId).1]
      exact b.neutral_delete _
    · refine Backend.neutral_upsert ?_ _
      have howner : (p.currentRecord own c).owner = own := ho (isAttached_of_client? hclient)
      rw [howner]
      exact hne

end Proxy

end TopicMesh
