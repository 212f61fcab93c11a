import TopicMesh.Backend
import TopicMesh.Proofs.Announcement.Replay
import TopicMesh.Proofs.Announcement.RoundTrip
import TopicMesh.Proofs.Bus

/-!
# TopicMesh.Proofs.Log

The announcements as the log of the record table: what a write announces is, read back from the
payloads, what it did to the table.

* `Announcement.Travels` — the announcement can be written and is read back.
* `Written.Logs`         — a write of the store and its announcements; `upsert_logs`, `delete_logs` and
  `heartbeat_logs` give the announcements of each write.
* `Backend.Tells`        — the services before and after any number of writes.
-/

namespace TopicMesh

namespace Announcement

/-- The announcements in some payloads. -/
def heard (payloads : List String) : List Announcement :=
  payloads.filterMap fun payload => (decode payload).toOption

def Travels (a : Announcement) : Prop :=
  ∃ payload, a.encode = .ok payload ∧ decode payload = .ok a

theorem heard_append (ps qs : List String) : heard (ps ++ qs) = heard ps ++ heard qs :=
  List.filterMap_append

theorem heard_cons_of_ok {payload : String} {a : Announcement} (h : decode payload = .ok a)
    (ps : List String) : heard (payload :: ps) = a :: heard ps := by
  rw [heard, List.filterMap_cons, h]
  rfl

theorem heard_cons_of_error {payload : String} {e : ProtocolError} (h : decode payload = .error e)
    (ps : List String) : heard (payload :: ps) = heard ps := by
  rw [heard, List.filterMap_cons, h]
  rfl

theorem travels_upsert (r : Record) {snapshot : Option Json}
    (h : ∀ j ∈ snapshot, IsPlainSnapshot j) : (upsert r snapshot).Travels := by
  have ha : (upsert r snapshot).IsPlain := h
  exact ⟨_, rfl, decode_of_encode ha rfl⟩

theorem travels_delete {id : String} (hne : id ≠ "") (hd : delimiter ∉ id.toList) :
    (delete id).Travels := by
  have he : (delete id).encode
      = .ok (String.ofList ((delete id).kind.toList ++ delimiter :: id.toList)) := by
    simp [encode, body, plainField, hd]
  have ha : (delete id).IsPlain := hne
  exact ⟨_, he, decode_of_encode ha he⟩

theorem delimiter_not_mem_of_isValid {channel : String} (h : ChannelName.isValid channel = true) :
    delimiter ∉ channel.toList := by
  intro hm
  simp only [ChannelName.isValid, Bool.and_eq_true, List.all_eq_true] at h
  have hc := h.2 _ hm
  revert hc
  decide

theorem travels_offline {channel : String} (h : ChannelName.isValid channel = true) :
    (offline channel).Travels := by
  have hd := delimiter_not_mem_of_isValid h
  have hne : channel ≠ "" := by
    rintro rfl
    revert h
    decide
  have he : (offline channel).encode
      = .ok (String.ofList ((offline channel).kind.toList ++ delimiter :: channel.toList)) := by
    simp [encode, body, plainField, hd]
  have ha : (offline channel).IsPlain := hne
  exact ⟨_, he, decode_of_encode ha he⟩

end Announcement

open Announcement (heard)

/-! ## Writes of the store -/

structure Written.Logs {α : Type} (w : Written α) (s : Store) (as : List Announcement) : Prop where
  records : w.store.records = Announcement.applyAll as s.records
  announced : (∀ a ∈ as, a.Travels) → heard w.announced = as

namespace Store

/-- Every lease is of a channel whose name can be announced. -/
def HasValidLeases (s : Store) : Prop :=
  ∀ channel, s.deadlines.contains channel = true → ChannelName.isValid channel = true

/-- The row for a record differs from the record in the owner, if there is a row already. -/
theorem rowFor_eq (s : Store) (r : Record) :
    s.rowFor r
      = { r with owner := ((s.records.find? r.clientId).map (·.owner)).getD r.owner } := by
  rw [rowFor]
  cases h : s.records.find? r.clientId with
  | none => rfl
  | some row =>
    have hk : row.clientId = r.clientId := s.keyed _ _ h
    simp only [hk]
    rfl

theorem upsert_logs (s : Store) (r : Record) (snapshot : Option Json) :
    (s.upsert r snapshot).Logs s [.upsert (s.rowFor r) snapshot] where
  records := rfl
  announced h := by
    obtain ⟨payload, he, hd⟩ := h _ (List.mem_singleton.2 rfl)
    rw [upsert, he]
    exact Announcement.heard_cons_of_ok hd []

theorem delete_logs (s : Store) (id : String) :
    (s.delete id).Logs s (if s.records.contains id = true then [.delete id] else []) := by
  rw [delete]
  split
  · constructor
    · split <;> rfl
    · intro h
      obtain ⟨payload, he, hd⟩ := h _ (List.mem_singleton.2 rfl)
      simp only [he]
      exact Announcement.heard_cons_of_ok hd []
  · exact ⟨rfl, fun _ => rfl⟩

theorem deadlines_delete (s : Store) (id : String) :
    (s.delete id).store.deadlines = s.deadlines := by
  rw [delete]
  split
  · split <;> rfl
  · rfl

theorem reap_cons (s : Store) {channel payload : String}
    (he : (Announcement.offline channel).encode = .ok payload) (rest : List String) :
    s.reap (channel :: rest) = { (s.withoutChannel channel).reap rest with
      announced := payload :: ((s.withoutChannel channel).reap rest).announced } := by
  rw [reap, he]

theorem reap_logs {s : Store} {channels : List String}
    (h : ∀ channel ∈ channels, ChannelName.isValid channel = true) :
    (s.reap channels).result = .ok () ∧ (s.reap channels).Logs s (channels.map .offline)
      ∧ ∀ channel, (s.reap channels).store.deadlines.find? channel
          = if channel ∈ channels then none else s.deadlines.find? channel := by
  induction channels generalizing s with
  | nil => exact ⟨rfl, ⟨rfl, fun _ => rfl⟩, fun _ => rfl⟩
  | cons channel channels ih =>
    obtain ⟨payload, he, hd⟩ := Announcement.travels_offline (h channel List.mem_cons_self)
    have hs := s.reap_cons he channels
    obtain ⟨hr, hl, hf⟩ := @ih (s.withoutChannel channel)
      fun c hc => h c (List.mem_cons_of_mem channel hc)
    rw [hs]
    refine ⟨hr, ⟨hl.records, ?_⟩, ?_⟩
    · intro ht
      rw [Announcement.heard_cons_of_ok hd, List.map_cons]
      congr 1
      exact hl.announced fun a ha => ht a (List.mem_cons_of_mem _ ha)
    · intro c
      rw [hf c, withoutChannel, Table.find?_erase]
      by_cases hc : channel = c
      · simp [hc]
      · simp [hc, Ne.symm hc]

theorem mem_expired_iff {s : Store} {own channel : String} {now : Instant} :
    channel ∈ s.expired own now ↔
      channel ≠ own ∧ ∃ t, s.deadlines.find? channel = some t ∧ t < now := by
  simp only [expired, leases, List.mem_map, List.mem_filter, Bool.and_eq_true, decide_eq_true_eq,
    Lease.isExpiredAt]
  constructor
  · rintro ⟨l, ⟨⟨e, he, rfl⟩, ho, hlt⟩, rfl⟩
    exact ⟨ho, e.2, (Table.mem_entries_iff _ _ _).1 he, hlt⟩
  · rintro ⟨ho, t, hf, hlt⟩
    exact ⟨⟨channel, t⟩, ⟨⟨_, (Table.mem_entries_iff _ _ _).2 hf, rfl⟩, ho, hlt⟩, rfl⟩

/-- A heartbeat whose deadline is out of range does nothing; any other one reaps the channels that it
says it reaped. -/
theorem heartbeat_logs {s : Store} (hs : s.HasValidLeases) {channel : String}
    (hc : ChannelName.isValid channel = true) (now : Instant) (ttl : Duration) :
    (∃ e, s.heartbeat now channel ttl = { result := .error e, store := s })
    ∨ ∃ pulse, (s.heartbeat now channel ttl).result = .ok pulse
      ∧ (s.heartbeat now channel ttl).Logs s (pulse.reaped.map .offline)
      ∧ (∀ c ∈ pulse.reaped, ChannelName.isValid c = true)
      ∧ (s.heartbeat now channel ttl).store.HasValidLeases := by
  rw [heartbeat]
  split
  · rename_i e _
    exact .inl ⟨e, rfl⟩
  · rename_i t _
    right
    simp only
    obtain ⟨renewed, hr⟩ : ∃ r : Store, r = { s with deadlines := s.deadlines.insert channel t } :=
      ⟨_, rfl⟩
    have hrecords : renewed.records = s.records := by rw [hr]
    have hvalid : renewed.HasValidLeases := by
      intro c hm
      rw [hr, Table.contains, Table.find?_insert] at hm
      split at hm
      · rename_i h
        rw [← h]
        exact hc
      · exact hs c hm
    rw [← hr]
    have hgone : ∀ c ∈ renewed.expired channel now, ChannelName.isValid c = true := by
      intro c hm
      obtain ⟨-, d, hf, -⟩ := mem_expired_iff.1 hm
      apply hvalid c
      rw [Table.contains, hf]
      rfl
    obtain ⟨hok, hl, hf⟩ := reap_logs (s := renewed) hgone
    simp only [hok]
    refine ⟨_, rfl, ⟨?_, hl.announced⟩, hgone, ?_⟩
    · rw [← hrecords]
      exact hl.records
    · intro c hm
      rw [Table.contains, hf c] at hm
      split at hm
      · cases hm
      · exact hvalid c hm

end Store

/-! ## Publishing what was written -/

namespace Backend

/-- The services after some announcements: the table that they lead to, and their payloads on the
control channel. -/
structure Tells (b : Backend) (as : List Announcement) (b' : Backend) : Prop where
  outages : b'.outages = b.outages
  controlChannel : b'.controlChannel = b.controlChannel
  records : b'.store.records = Announcement.applyAll as b.store.records
  leases : b.store.HasValidLeases → b'.store.HasValidLeases
  bus : ∃ payloads, b'.bus = b.bus.publishAll b.controlChannel payloads
    ∧ ((∀ a ∈ as, a.Travels) → heard payloads = as)

theorem Tells.refl (b : Backend) : b.Tells [] b := ⟨rfl, rfl, rfl, id, [], rfl, fun _ => rfl⟩

theorem Tells.trans {b b' b'' : Backend} {as bs : List Announcement} (h : b.Tells as b')
    (h' : b'.Tells bs b'') : b.Tells (as ++ bs) b'' where
  outages := h'.outages.trans h.outages
  controlChannel := h'.controlChannel.trans h.controlChannel
  records := by rw [h'.records, h.records, Announcement.applyAll_append]
  leases hl := h'.leases (h.leases hl)
  bus := by
    obtain ⟨ps, hps, ha⟩ := h.bus
    obtain ⟨qs, hqs, hb⟩ := h'.bus
    refine ⟨ps ++ qs, ?_, ?_⟩
    · rw [hqs, hps, h.controlChannel, Bus.publishAll_append]
    · intro ht
      rw [Announcement.heard_append, ha fun a hm => ht a (List.mem_append_left bs hm),
        hb fun a hm => ht a (List.mem_append_right as hm)]

theorem commit_tells {α : Type} {b : Backend} {w : Written α} {as : List Announcement}
    (hw : w.Logs b.store as) (hl : b.store.HasValidLeases → w.store.HasValidLeases) :
    b.Tells as (b.commit w).backend :=
  ⟨rfl, rfl, hw.records, hl, w.announced, rfl, hw.announced⟩

theorem upsert_tells {b : Backend} (hb : b.outages = []) (r : Record) (snapshot : Option Json) :
    (b.upsert r snapshot).result = .ok ()
      ∧ b.Tells [.upsert (b.store.rowFor r) snapshot] (b.upsert r snapshot).backend := by
  rw [upsert, attempt_of_no_outages hb]
  exact ⟨rfl, commit_tells (b.store.upsert_logs r snapshot) id⟩

theorem delete_tells {b : Backend} (hb : b.outages = []) (id : String) :
    b.Tells (if b.store.records.contains id = true then [.delete id] else [])
      (b.delete id).backend := by
  rw [delete, attempt_of_no_outages hb]
  refine commit_tells (b.store.delete_logs id) ?_
  intro hl
  rw [Store.HasValidLeases, Store.deadlines_delete]
  exact hl

/-- A heartbeat tells of the channels that it reaped. -/
theorem heartbeat_tells {b : Backend} (hb : b.outages = []) (hs : b.store.HasValidLeases)
    {channel : String} (hc : ChannelName.isValid channel = true) (ttl : Duration) :
    ((∃ e, (b.heartbeat channel ttl).result = .error e)
      ∧ b.Tells [] (b.heartbeat channel ttl).backend)
    ∨ ∃ pulse, (b.heartbeat channel ttl).result = .ok pulse
      ∧ (∀ c ∈ pulse.reaped, ChannelName.isValid c = true)
      ∧ b.Tells (pulse.reaped.map .offline) (b.heartbeat channel ttl).backend := by
  rw [heartbeat, attempt_of_no_outages hb, storeHeartbeat]
  have htick : b.Tells [] b.tick := ⟨rfl, rfl, rfl, id, [], rfl, fun _ => rfl⟩
  rcases Store.heartbeat_logs hs hc b.tick.clock ttl with
    ⟨e, he⟩ | ⟨pulse, hr, hl, hv, hls⟩
  · left
    rw [he]
    exact ⟨⟨e, rfl⟩, htick⟩
  · right
    refine ⟨pulse, hr, hv, ?_⟩
    have hw : b.tick.Tells (pulse.reaped.map .offline)
        (b.tick.commit (b.store.heartbeat b.tick.clock channel ttl)).backend :=
      commit_tells hl fun _ => hls
    exact htick.trans hw

end Backend

end TopicMesh
