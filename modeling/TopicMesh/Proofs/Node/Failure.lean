import TopicMesh.Proofs.Announcement.Domain
import TopicMesh.Proofs.Node.Heard
import TopicMesh.Proofs.Node.Registry
import TopicMesh.Proofs.Proxy.Broadcast
import TopicMesh.Proofs.Reaping

/-!
# TopicMesh.Proofs.Node.Failure

What a call leaves behind that fails.

* `Store.heartbeat_error` — a heartbeat that can announce whatever it reaps fails only if there is no
  deadline for its lease, and then it has not begun.
* `Store.delete_of_split`, `Store.heartbeatIn_of_split` — what cannot be announced is not undone.
* `Node.disconnect_error` — a disconnect that fails has no client to disconnect, or the client's record
  could not be deleted. In the second case the client is gone all the same (`Node.closing`).
-/

namespace TopicMesh

namespace Store

variable {s : Store} {channel id : String} {now t : Instant} {ttl : Duration} {e : MeshError}

theorem reap_ok {channels : List String} (h : ∀ c ∈ channels, delimiter ∉ c.toList) :
    (s.reap channels).result = .ok () := by
  induction channels generalizing s with
  | nil => rfl
  | cons c channels ih =>
    obtain ⟨payload, he⟩ := Announcement.exists_encode_eq (a := .offline c) (h c List.mem_cons_self)
    rw [s.reap_cons he]
    exact ih fun c' hm => h c' (List.mem_cons_of_mem c hm)

/-- Every channel that a heartbeat of `channel` would reap has a name that can be announced. -/
def ReapsPlain (s : Store) (channel : String) (now : Instant) : Prop :=
  ∀ c d, s.deadlines.find? c = some d → c ≠ channel → (Lease.mk c d).isExpiredAt now = true →
    delimiter ∉ c.toList

theorem heartbeatIn_ok (h : s.ReapsPlain channel now) (hd : deadline now ttl = .ok t)
    {rows : List Lease} (hrows : rows.Perm (s.renewed channel t).leases) :
    ∃ pulse, (s.heartbeatIn rows now channel ttl).result = .ok pulse := by
  have hplain : ∀ c ∈ expiredAmong rows channel now, delimiter ∉ c.toList := by
    intro c hc
    obtain ⟨hne, d, hf, hx⟩ := mem_expired_renewed.1 ((expiredAmong_perm hrows channel now).mem_iff.1 hc)
    exact h c d hf hne hx
  rw [heartbeatIn, hd]
  simp only [reap_ok hplain]
  exact ⟨_, rfl⟩

theorem heartbeat_error (h : s.ReapsPlain channel now)
    (he : (s.heartbeat now channel ttl).result = .error e) :
    deadline now ttl = .error e
      ∧ s.heartbeat now channel ttl = { result := .error e, store := s } := by
  cases hd : deadline now ttl with
  | error e' =>
    rw [heartbeat, hd] at he ⊢
    cases he
    exact ⟨rfl, rfl⟩
  | ok t =>
    obtain ⟨pulse, hok⟩ := heartbeatIn_ok h hd (List.Perm.refl _)
    rw [heartbeat_eq_heartbeatIn hd, hok] at he
    cases he

theorem delete_ok (h : delimiter ∉ id.toList) : ∃ found, (s.delete id).result = .ok found := by
  obtain ⟨payload, he⟩ := Announcement.exists_encode_eq (a := .delete id) h
  rw [delete]
  split
  · rw [he]
    exact ⟨true, rfl⟩
  · exact ⟨false, rfl⟩

/-! ### Ids that cannot be announced -/

/-- A deletion that cannot be announced fails, and the record is gone all the same. -/
theorem delete_of_split (hid : delimiter ∈ id.toList) (hr : s.records.contains id = true) :
    s.delete id = { result := .error (.protocol (.malformed (.delimiterInField "client_id" id)))
                    store := s.eraseRecord id } := by
  rw [delete, if_pos hr, Announcement.encode, Announcement.body, Announcement.plainField_of_mem hid]

theorem reap_of_split {before after : List String} {c : String}
    (hbefore : ∀ c ∈ before, delimiter ∉ c.toList) (hc : delimiter ∈ c.toList) :
    ∃ announced, (before.map fun c => (Announcement.offline c).encode) = announced.map .ok
      ∧ s.reap (before ++ c :: after)
        = { result := .error (.protocol (.malformed (.delimiterInField "channel_id" c)))
            store := (before ++ [c]).foldl withoutChannel s, announced } := by
  induction before generalizing s with
  | nil =>
    refine ⟨[], rfl, ?_⟩
    rw [List.nil_append, reap, Announcement.encode, Announcement.body,
      Announcement.plainField_of_mem hc]
    rfl
  | cons c' before ih =>
    obtain ⟨payload, he⟩ :=
      Announcement.exists_encode_eq (a := .offline c') (hbefore c' List.mem_cons_self)
    obtain ⟨announced, hall, heq⟩ :=
      @ih (s.withoutChannel c') fun c hm => hbefore c (List.mem_cons_of_mem c' hm)
    refine ⟨payload :: announced, ?_, ?_⟩
    · rw [List.map_cons, List.map_cons, he, hall]
    · rw [List.cons_append, s.reap_cons he, heq]
      rfl

/-- A heartbeat that cannot announce a channel that it reaps fails once that channel is gone, and has
reaped and announced the ones before it. -/
theorem heartbeatIn_of_split {rows : List Lease} {before after : List String} {c : String}
    (hd : deadline now ttl = .ok t) (hgone : expiredAmong rows channel now = before ++ c :: after)
    (hbefore : ∀ c ∈ before, delimiter ∉ c.toList) (hc : delimiter ∈ c.toList) :
    ∃ announced, (before.map fun c => (Announcement.offline c).encode) = announced.map .ok
      ∧ s.heartbeatIn rows now channel ttl
        = { result := .error (.protocol (.malformed (.delimiterInField "channel_id" c)))
            store := (before ++ [c]).foldl withoutChannel (s.renewed channel t), announced } := by
  obtain ⟨announced, hall, heq⟩ := @reap_of_split (s.renewed channel t) before after c hbefore hc
  refine ⟨announced, hall, ?_⟩
  rw [heartbeatIn, hd]
  dsimp only
  rw [hgone, heq]

example :
    (({ Store.empty with deadlines := .ofList [("d", ⟨50, 0⟩), ("x|y", ⟨50, 0⟩)] } : Store).heartbeat
      ⟨100, 0⟩ "a" (.ofSeconds 40)).announced = ["subscription_channel_offline|d"] := rfl

end Store

/-- Only the services can refuse to delete the record of a client with such an id. -/
theorem Backend.delete_error {b : Backend} {id : String} {e : MeshError}
    (h : delimiter ∉ id.toList) (he : (b.delete id).result = .error e) :
    b.Reports .delete e ∧ b.Rests (b.delete id).backend := by
  rw [delete, attempt] at he ⊢
  split at he
  · rename_i e' outages hc
    cases he
    exact ⟨Outage.consume_error (congrArg Prod.fst hc), outages, rfl⟩
  · obtain ⟨found, hok⟩ := b.store.delete_ok h
    rw [storeDelete, commit, hok] at he
    cases he

namespace Proxy

variable {p : Proxy} {b : Backend} {e : MeshError}

/-- The proxy of a client that went offline, whatever became of the client's record. -/
def closed (p : Proxy) : Proxy := { p with isClosed := true }

theorem goOffline_error (ha : p.isAttached = true) (he : (p.goOffline b).result = .error e) :
    (b.delete p.clientId).result = .error e
      ∧ p.goOffline b
        = { result := .error e, subject := p.closed, backend := (b.delete p.clientId).backend } := by
  rw [goOffline_eq ha] at he ⊢
  have hd : (b.delete p.clientId).result = .error e := he
  rw [hd]
  exact ⟨rfl, rfl⟩

end Proxy

namespace Node

variable {n : Node} {id : String} {p : Proxy} {b : Backend} {e : MeshError}

/-- The instance after it forgot an attached client, whose proxy writes nothing any more. -/
def closing (n : Node) (id : String) (p : Proxy) : Node :=
  { n with registry := n.registry.erase id, retired := n.retired ++ [p.closed] }

theorem disconnect_of_unknown (h : n.localProxy id = .error e) (b : Backend) :
    n.disconnect id b = { result := .error e, subject := n, backend := b } := by
  rw [disconnect, h]

theorem disconnect_error (he : (n.disconnect id b).result = .error e) :
    (n.localProxy id = .error e
      ∧ n.disconnect id b = { result := .error e, subject := n, backend := b })
    ∨ ∃ p, n.localProxy id = .ok p ∧ (b.delete p.clientId).result = .error e
      ∧ n.disconnect id b = { result := .error e, subject := n.closing id p,
                              backend := (b.delete p.clientId).backend } := by
  cases hp : n.localProxy id with
  | error e' =>
    have heq := disconnect_of_unknown hp b
    rw [heq] at he
    cases he
    exact .inl ⟨rfl, heq⟩
  | ok p =>
    have ha : p.isAttached = true := (localProxy_eq_ok hp).2
    rw [disconnect, hp] at he ⊢
    simp only at he ⊢
    split at he
    · rename_i hoff
      cases he
      obtain ⟨hd, heq⟩ := Proxy.goOffline_error ha hoff
      refine .inr ⟨p, rfl, hd, ?_⟩
      have hretire : p.closed.isAttached = true := ha
      rw [heq, retire, if_pos hretire, closing]
    · cases he

theorem localProxy_closing (n : Node) (id : String) (p : Proxy) :
    (n.closing id p).localProxy id = .error (.invalidProxy (.unknownClient id)) := by
  rw [localProxy, closing, Table.find?_erase_self]

/-- Among ids that can be announced, a write to the store that fails has not happened: upserts and
deletions do not fail, and a heartbeat fails only for want of a deadline, before it does anything. A
disconnect that fails for want of an attached client does nothing either. One that fails because the
client's record could not be deleted is not undone: the client has left the registry and its proxy is
closed, so that another attempt finds no such client and no broadcast writes for it any more. -/
theorem failure_frame {n : Node} (hn : n.Reachable) (b : Backend) :
    (∀ r snapshot, (b.storeUpsert r snapshot).result = .ok ())
    ∧ (∀ id, delimiter ∉ id.toList → ∃ found, (b.storeDelete id).result = .ok found)
    ∧ (∀ channel ttl, b.store.ReapsPlain channel b.tick.clock →
        (∀ t, Store.deadline b.tick.clock ttl = .ok t →
          ∀ rows, rows.Perm (b.store.renewed channel t).leases →
            ∃ pulse, (b.store.heartbeatIn rows b.tick.clock channel ttl).result = .ok pulse)
        ∧ ∀ e, (b.storeHeartbeat channel ttl).result = .error e →
            Store.deadline b.tick.clock ttl = .error e
            ∧ (b.storeHeartbeat channel ttl).backend.store = b.store
            ∧ (b.storeHeartbeat channel ttl).backend.bus = b.bus)
    ∧ ∀ id e, (n.disconnect id b).result = .error e →
        (n.isLocal id = false ∧ (n.disconnect id b).subject = n ∧ (n.disconnect id b).backend = b)
        ∨ ∃ p, n.registry.find? id = some p ∧ p.isAttached = true
          ∧ (n.disconnect id b).subject = n.closing id p
          ∧ (delimiter ∉ id.toList →
              b.Reports .delete e ∧ b.Rests (n.disconnect id b).backend)
          ∧ ∀ b', (n.closing id p).disconnect id b'
                = { result := .error (.invalidProxy (.unknownClient id))
                    subject := n.closing id p
                    backend := b' }
              ∧ p.closed.broadcast n.channel b'
                = { result := .ok (), subject := p.closed, backend := b' } := by
  refine ⟨fun _ _ => rfl, fun id hid => b.store.delete_ok hid, ?_, ?_⟩
  · intro channel ttl hplain
    refine ⟨fun t hd rows hrows => Store.heartbeatIn_ok hplain hd hrows, ?_⟩
    intro e he
    obtain ⟨hd, heq⟩ := Store.heartbeat_error hplain he
    rw [Backend.storeHeartbeat, Backend.commit, heq]
    exact ⟨hd, rfl, rfl⟩
  · intro id e he
    rcases disconnect_error he with ⟨hp, heq⟩ | ⟨p, hp, hd, heq⟩
    · rw [heq]
      exact .inl ⟨isLocal_of_localProxy_error hp, rfl, rfl⟩
    · obtain ⟨hf, ha⟩ := localProxy_eq_ok hp
      rw [heq]
      refine .inr ⟨p, hf, ha, rfl, ?_, ?_⟩
      · intro hid
        have hk : p.clientId = id := (hn.soundAs.proxies id p hf).clientId
        rw [hk] at hd ⊢
        exact Backend.delete_error hid hd
      · intro b'
        obtain ⟨serial, c, hc⟩ := Proxy.isAttached_eq_true_iff.1 ha
        have hclient : p.closed.client? = some c := Proxy.client?_eq_some_iff.2 ⟨serial, hc⟩
        exact ⟨disconnect_of_unknown (n.localProxy_closing id p) b',
          Proxy.broadcast_of_closed n.channel hclient rfl b'⟩

/-- Services with a channel to reap, which refuse the next deletion. -/
def failing : Backend :=
  { store :=
      { Store.empty.insertRecord ⟨"mine", "a", TopicSet.empty.insert "news", "", "a"⟩ with
        deadlines := .ofList [("d", ⟨50, 0⟩)] }
    outages := [⟨.delete, .store "down", 1⟩]
    clock := ⟨100, 0⟩ }

theorem failure_frame_outage :
    besieged.Reachable
    ∧ (failing.storeHeartbeat "a" ⟨Store.maxTtl + 1⟩).result = .error (.settings .ttlOutOfRange)
    ∧ (failing.storeHeartbeat "a" ⟨Store.maxTtl + 1⟩).backend.store = failing.store
    ∧ (besieged.disconnect "mine" failing).result = .error (.store "down")
    ∧ (besieged.disconnect "mine" failing).backend.store = failing.store
    ∧ ((besieged.disconnect "mine" failing).subject.disconnect "mine" failing).result
        = .error (.invalidProxy (.unknownClient "mine")) := by
  have hn := reachable_besieged
  have hplain : failing.store.ReapsPlain "a" failing.tick.clock := by
    intro c d hf _ _
    have hall : ∀ e ∈ failing.store.deadlines.entries, delimiter ∉ e.1.toList := by decide
    exact hall (c, d) ((Table.mem_entries_iff _ _ _).2 hf)
  obtain ⟨-, -, hheartbeat, hdisconnect⟩ := failure_frame hn failing
  have hbeat : (failing.storeHeartbeat "a" ⟨Store.maxTtl + 1⟩).result
      = .error (.settings .ttlOutOfRange) := rfl
  obtain ⟨-, hstore, -⟩ := (hheartbeat "a" ⟨Store.maxTtl + 1⟩ hplain).2 _ hbeat
  have hrefused : (besieged.disconnect "mine" failing).result = .error (.store "down") := rfl
  refine ⟨hn, hbeat, hstore, hrefused, ?_⟩
  rcases hdisconnect "mine" _ hrefused with ⟨hl, -⟩ | ⟨p, -, -, hsubject, hrests, hagain⟩
  · cases hl
  · obtain ⟨-, outages, hbackend⟩ := hrests (by decide)
    rw [hbackend, hsubject, (hagain failing).1]
    exact ⟨rfl, rfl⟩

/-- A disconnect fails, and the client has left and can be disconnected no more. -/
theorem failure_leaves_traces :
    (besieged.disconnect "mine" failing).result = .error (.store "down")
    ∧ besieged.registry.contains "mine" = true
    ∧ (besieged.disconnect "mine" failing).subject.registry.contains "mine" = false
    ∧ ((besieged.disconnect "mine" failing).subject.disconnect "mine"
        (besieged.disconnect "mine" failing).backend).result
        = .error (.invalidProxy (.unknownClient "mine")) := by
  exact ⟨rfl, rfl, rfl, rfl⟩

end Node

end TopicMesh
