import TopicMesh.Proofs.Log
import TopicMesh.Proofs.Store

/-!
# TopicMesh.Proofs.Reaping

What a heartbeat does to the tables, in whatever order it comes across the leases.

* `Store.heartbeatIn` — a heartbeat that takes the leases in a given order; `Store.heartbeat` takes
  them in the order of their channels.
* `Store.Cascade`     — the tables and the announcements after a heartbeat. It determines the tables
  (`Cascade.store_eq`), and the announcements up to their order (`Cascade.announced_perm`).
-/

namespace TopicMesh.Store

/-- The tables when the lease of a channel lasts until `t`. -/
def renewed (s : Store) (channel : String) (t : Instant) : Store :=
  { s with deadlines := s.deadlines.insert channel t }

/-- The channels other than `own` whose lease has run out, in the order of the leases. -/
def expiredAmong (rows : List Lease) (own : String) (now : Instant) : List String :=
  (rows.filter fun l => l.channel ≠ own && l.isExpiredAt now).map (·.channel)

/-- A heartbeat that comes across the leases in the order of `rows`. -/
def heartbeatIn (s : Store) (rows : List Lease) (now : Instant) (channel : String)
    (ttl : Duration) : Written Pulse :=
  match deadline now ttl with
  | .error e => { result := .error e, store := s }
  | .ok t =>
    let gone := expiredAmong rows channel now
    let w := (s.renewed channel t).reap gone
    match w.result with
    | .error e => { w with result := .error e }
    | .ok () => { w with result := .ok ⟨!s.deadlines.contains channel, gone⟩ }

/-- What a heartbeat of a channel leads to, if its lease lasts until `t` from then on. -/
structure Cascade (s : Store) (channel : String) (now t : Instant) (pulse : Pulse)
    (w : Written Pulse) : Prop where
  result : w.result = .ok pulse
  inserted : pulse.inserted = true ↔ s.deadlines.find? channel = none
  nodup : pulse.reaped.Nodup
  mem_reaped : ∀ c, c ∈ pulse.reaped ↔
    c ≠ channel ∧ ∃ d, s.deadlines.find? c = some d ∧ (Lease.mk c d).isExpiredAt now = true
  deadlines : ∀ c, w.store.deadlines.find? c =
    if c ∈ pulse.reaped then none else if c = channel then some t else s.deadlines.find? c
  records : ∀ id, w.store.records.find? id
    = (s.records.find? id).filter fun r => r.owner ∉ pulse.reaped
  /-- One announcement for each channel that was reaped, in the same order. -/
  announced : (pulse.reaped.map fun c => (Announcement.offline c).encode) = w.announced.map .ok

variable {s : Store} {channel : String} {now t : Instant} {ttl : Duration}

theorem deadline_eq_ok (hr : ttl.nanoseconds ≤ maxTtl) (ht : now.add ttl = some t) :
    deadline now ttl = .ok t := by
  rw [deadline, if_neg (Nat.not_lt.2 hr), ht]

theorem heartbeat_eq_heartbeatIn (h : deadline now ttl = .ok t) :
    s.heartbeat now channel ttl
      = s.heartbeatIn (s.renewed channel t).leases now channel ttl := by
  rw [heartbeat, heartbeatIn, h]
  rfl

/-- A heartbeat with a deadline renews the lease and reaps; one without does nothing. -/
theorem heartbeat_cases (s : Store) (now : Instant) (channel : String) (ttl : Duration) :
    (∃ e, s.heartbeat now channel ttl = { result := .error e, store := s })
    ∨ ∃ t w, w = (s.renewed channel t).reap ((s.renewed channel t).expired channel now)
      ∧ (s.heartbeat now channel ttl).store = w.store
      ∧ (s.heartbeat now channel ttl).announced = w.announced
      ∧ ∀ pulse, (s.heartbeat now channel ttl).result = .ok pulse → w.result = .ok () := by
  rw [heartbeat]
  split
  · rename_i e _
    exact .inl ⟨e, rfl⟩
  · rename_i t _
    refine .inr ⟨t, _, rfl, ?_⟩
    dsimp only
    split
    · refine ⟨rfl, rfl, ?_⟩
      intro pulse hok
      cases hok
    · rename_i hok
      exact ⟨rfl, rfl, fun _ _ => hok⟩

/-! ## The expired channels -/

theorem nodup_leases (s : Store) : (s.leases.map (·.channel)).Nodup := by
  have hk : s.leases.map (·.channel) = s.deadlines.keys := by
    rw [leases, List.map_map]
    rfl
  rw [hk]
  exact s.deadlines.nodup_keys

theorem expiredAmong_perm {rows rows' : List Lease} (h : rows.Perm rows') (own : String)
    (now : Instant) : (expiredAmong rows own now).Perm (expiredAmong rows' own now) :=
  (h.filter _).map _

/-- Renewing a lease changes nothing about the leases of other channels. -/
theorem mem_expired_renewed {c : String} :
    c ∈ (s.renewed channel t).expired channel now ↔
      c ≠ channel ∧ ∃ d, s.deadlines.find? c = some d ∧ (Lease.mk c d).isExpiredAt now = true := by
  rw [mem_expired_iff]
  apply and_congr_right
  intro hc
  rw [renewed, Table.find?_insert_other (Ne.symm hc)]
  simp only [Lease.isExpiredAt, decide_eq_true_eq]

/-! ## Reaping channels -/

theorem find?_records_reap {channels : List String}
    (h : ∀ c ∈ channels, ChannelName.isValid c = true) (id : String) :
    (s.reap channels).store.records.find? id
      = (s.records.find? id).filter fun r => r.owner ∉ channels := by
  induction channels generalizing s with
  | nil =>
    rw [reap]
    cases s.records.find? id <;> simp [Option.filter]
  | cons c channels ih =>
    obtain ⟨payload, he, -⟩ := Announcement.travels_offline (h c List.mem_cons_self)
    have hrest : ∀ c' ∈ channels, ChannelName.isValid c' = true :=
      fun c' hm => h c' (List.mem_cons_of_mem c hm)
    rw [s.reap_cons he]
    simp only
    rw [ih hrest, withoutChannel, Table.find?_filter, Option.filter_filter]
    congr 1
    funext r
    simp

theorem announced_reap {channels : List String}
    (h : ∀ c ∈ channels, ChannelName.isValid c = true) :
    (channels.map fun c => (Announcement.offline c).encode)
      = (s.reap channels).announced.map .ok := by
  induction channels generalizing s with
  | nil => rfl
  | cons c channels ih =>
    obtain ⟨payload, he, -⟩ := Announcement.travels_offline (h c List.mem_cons_self)
    have hrest := @ih (s.withoutChannel c) fun c' hm => h c' (List.mem_cons_of_mem c hm)
    rw [s.reap_cons he, List.map_cons, List.map_cons, he, hrest]

/-! ## The heartbeat -/

theorem heartbeatIn_cascade (hs : s.HasValidLeases) (hd : deadline now ttl = .ok t)
    {rows : List Lease} (hrows : rows.Perm (s.renewed channel t).leases) :
    s.Cascade channel now t ⟨!s.deadlines.contains channel, expiredAmong rows channel now⟩
      (s.heartbeatIn rows now channel ttl) := by
  have hperm := expiredAmong_perm hrows channel now
  have hmem : ∀ c, c ∈ expiredAmong rows channel now ↔ c ≠ channel
      ∧ ∃ d, s.deadlines.find? c = some d ∧ (Lease.mk c d).isExpiredAt now = true := by
    intro c
    rw [hperm.mem_iff]
    exact mem_expired_renewed
  -- only names that stand in the table are reaped, and those can be announced
  have hvalid : ∀ c ∈ expiredAmong rows channel now, ChannelName.isValid c = true := by
    intro c hc
    obtain ⟨-, d, hf, -⟩ := (hmem c).1 hc
    apply hs c
    rw [Table.contains, hf]
    rfl
  obtain ⟨hok, -, hdeadlines⟩ := reap_logs (s := s.renewed channel t) hvalid
  have heq : s.heartbeatIn rows now channel ttl
      = { (s.renewed channel t).reap (expiredAmong rows channel now) with
          result := .ok ⟨!s.deadlines.contains channel, expiredAmong rows channel now⟩ } := by
    rw [heartbeatIn, hd]
    simp only [hok]
  rw [heq]
  constructor
  · rfl
  · rw [Table.contains]
    cases s.deadlines.find? channel <;> simp
  · have hnodup : (rows.map (·.channel)).Nodup :=
      (hrows.map _).nodup_iff.2 (nodup_leases _)
    exact hnodup.sublist (List.filter_sublist.map _)
  · exact hmem
  · intro c
    rw [hdeadlines c, renewed, Table.find?_insert]
    simp only [eq_comm]
  · exact find?_records_reap hvalid
  · exact announced_reap hvalid

namespace Cascade

variable {pulse pulse' : Pulse} {w w' : Written Pulse}

theorem mem_reaped_congr (h : s.Cascade channel now t pulse w)
    (h' : s.Cascade channel now t pulse' w') (c : String) :
    c ∈ pulse.reaped ↔ c ∈ pulse'.reaped :=
  (h.mem_reaped c).trans (h'.mem_reaped c).symm

theorem store_eq (h : s.Cascade channel now t pulse w)
    (h' : s.Cascade channel now t pulse' w') : w.store = w'.store := by
  have hmem := h.mem_reaped_congr h'
  have hdeadlines : w.store.deadlines = w'.store.deadlines := by
    apply Table.ext
    intro c
    rw [h.deadlines c, h'.deadlines c]
    simp only [hmem]
  have hrecords : w.store.records = w'.store.records := by
    apply Table.ext
    intro id
    rw [h.records id, h'.records id]
    simp only [hmem]
  exact eq_of_tables hdeadlines hrecords

theorem announced_eq (h : s.Cascade channel now t pulse w) :
    w.announced = pulse.reaped.filterMap fun c => (Announcement.offline c).encode.toOption := by
  have hf : (w.announced.map (Except.ok : String → Except ProtocolError String)).filterMap
      Except.toOption = w.announced := by
    rw [List.filterMap_map]
    exact List.filterMap_some
  rw [← hf, ← h.announced, List.filterMap_map]
  rfl

theorem announced_perm (h : s.Cascade channel now t pulse w)
    (h' : s.Cascade channel now t pulse' w') (hp : pulse.reaped.Perm pulse'.reaped) :
    w.announced.Perm w'.announced := by
  rw [h.announced_eq, h'.announced_eq]
  exact hp.filterMap _

end Cascade

end TopicMesh.Store
