import TopicMesh.Proofs.Log
import TopicMesh.Proofs.Node.Mirror
import TopicMesh.Proofs.Store

/-!
# TopicMesh.Proofs.Node.Announce

What an instance writes and announces by itself.

* `Node.SameView`  — the same clients are attached, and the same records are followed.
* `Node.Announces` — the services before and after lawful announcements of one instance.

Every operation of an instance comes to this: `subscriptionsChanged_announces`,
`disconnect_announces` and `beat_announces` say of which clients the announcements are.
-/

namespace TopicMesh

open Announcement (AllLawful IsPlainSnapshot allLawful_append allLawful_map_offline)

/-- The snapshot of the client's principal, if it has one, has a property. -/
def Client.Shows (P : Json → Prop) (c : Client) : Prop :=
  ∀ j ∈ c.principal.map Principal.snapshot, P j

/-- The snapshot of the client's principal is read back by peers. -/
def Client.IsPlain (c : Client) : Prop := c.Shows IsPlainSnapshot

/-- Announcements of an attached client are read back by peers. -/
def Proxy.PlainAt (id : String) (p : Proxy) : Prop :=
  ∀ c, p.client? = some c → id ≠ "" ∧ delimiter ∉ id.toList ∧ c.IsPlain

theorem Client.principal_deliver (c : Client) (m : Message) :
    (c.deliver m).principal = c.principal := by
  unfold Client.deliver Client.send
  split
  · rfl
  · split <;> rfl

theorem Proxy.PlainAt.mapClient {id : String} {p : Proxy} (h : p.PlainAt id) {f : Client → Client}
    (hf : ∀ c : Client, c.IsPlain → (f c).IsPlain) : (p.mapClient f).PlainAt id := by
  intro c hc
  rw [client?_mapClient, Option.map_eq_some_iff] at hc
  obtain ⟨c, hc, rfl⟩ := hc
  obtain ⟨hne, hd, hplain⟩ := h c hc
  exact ⟨hne, hd, hf c hplain⟩

theorem Client.isPlain_deliver (c : Client) (h : c.IsPlain) (m : Message) :
    (c.deliver m).IsPlain := by
  rw [Client.IsPlain, Client.Shows, Client.principal_deliver]
  exact h

instance Proxy.kept_plainAt (own : String) : Kept own Proxy.PlainAt where
  broadcast {_ p} b h := by
    rw [PlainAt, (broadcast_subject own p b).1]
    exact h
  send {_ p} m b h := by
    rcases send_subject own p m b with hs | hs
    · rw [hs]
      exact h
    · rw [hs]
      exact h.mapClient fun c hc => c.isPlain_deliver hc m
  deliver {_ _ _ m} hq h := by
    rw [deliver_eq_ok hq]
    exact h.mapClient fun c hc => c.isPlain_deliver hc m

instance Proxy.keptFollowing_plainAt (own : String) (schema : Schema) :
    KeptFollowing own schema Proxy.PlainAt where
  receive {_ p _ _ _} hq h := by
    obtain ⟨ha, -, rfl⟩ := receive_eq_ok hq
    intro c hc
    have hc : p.client? = some c := hc
    rw [isAttached_of_client? hc] at ha
    cases ha
  mirror _ _ := by
    intro c hc
    cases hc

namespace Node

structure SameView (n n' : Node) : Prop where
  isLocal : ∀ id, n'.isLocal id = n.isLocal id
  followed : ∀ id, n'.followed id = n.followed id

/-- The services go from `b` to `b'` by announcements of the instance `own`, on clients in `isLocal`
and channels in `isGone`. -/
structure Announces (n : Node) (own : String) (isLocal isGone : String → Prop) (b b' : Backend) :
    Prop where
  ofList : ∃ as, b.Tells as b' ∧ AllLawful own isLocal b.store.records as
    ∧ (∀ channel, .offline channel ∈ as → isGone channel)
    ∧ (n.Holds own Proxy.PlainAt → ∀ a ∈ as, a.Travels)

variable {own id : String} {n : Node} {isLocal isGone : String → Prop} {b b' b'' : Backend}

theorem SameView.refl (n : Node) : n.SameView n := ⟨fun _ => rfl, fun _ => rfl⟩

theorem SameView.trans {n' n'' : Node} (h : n.SameView n') (h' : n'.SameView n'') :
    n.SameView n'' :=
  ⟨fun id => (h'.isLocal id).trans (h.isLocal id), fun id => (h'.followed id).trans (h.followed id)⟩

/-- The proxy of an attached client may become any other. -/
theorem sameView_putBack {p : Proxy} (hl : n.isLocal id = true) (hp : p.isAttached = true) :
    n.SameView (n.putBack id p) := by
  have hself : (n.putBack id p).isLocal id = true := by
    rw [isLocal_eq_true_iff]
    exact ⟨p, Table.find?_insert_self _ _ _, hp⟩
  have hother : ∀ c, id ≠ c → (n.putBack id p).registry.find? c = n.registry.find? c := by
    intro c hc
    rw [putBack_registry, Table.find?_insert_other hc]
  constructor
  · intro c
    by_cases hc : id = c
    · rw [← hc, hself, hl]
    · exact isLocal_congr (hother c hc)
  · intro c
    by_cases hc : id = c
    · rw [← hc, followed_of_isLocal hself, followed_of_isLocal hl]
    · exact followed_congr (hother c hc)

namespace Announces

theorem refl (n : Node) (own : String) (b : Backend) : n.Announces own isLocal isGone b b :=
  ⟨[], .refl b, trivial, fun _ h => absurd h List.not_mem_nil, fun _ _ h => absurd h List.not_mem_nil⟩

theorem trans (h : n.Announces own isLocal isGone b b') (h' : n.Announces own isLocal isGone b' b'') :
    n.Announces own isLocal isGone b b'' := by
  obtain ⟨as, ht, hl, hg, hp⟩ := h
  obtain ⟨bs, ht', hl', hg', hp'⟩ := h'
  rw [ht.records] at hl'
  refine ⟨as ++ bs, ht.trans ht', allLawful_append.2 ⟨hl, hl'⟩, ?_, ?_⟩
  · intro channel hm
    rcases List.mem_append.1 hm with hm | hm
    · exact hg channel hm
    · exact hg' channel hm
  · intro hplain a hm
    rcases List.mem_append.1 hm with hm | hm
    · exact hp hplain a hm
    · exact hp' hplain a hm

theorem mono {isLocal' isGone' : String → Prop} (h : n.Announces own isLocal isGone b b')
    (hl : ∀ c, isLocal c → isLocal' c) (hg : ∀ c, isGone c → isGone' c) :
    n.Announces own isLocal' isGone' b b' := by
  obtain ⟨as, ht, hlaw, hgone, hp⟩ := h
  exact ⟨as, ht, hlaw.mono hl, fun c hc => hg c (hgone c hc), hp⟩

theorem outages (h : n.Announces own isLocal isGone b b') : b'.outages = b.outages := by
  obtain ⟨as, ht, -⟩ := h
  exact ht.outages

end Announces

/-! ## Attached clients -/

theorem delete_announces (hb : b.outages = []) (hl : n.isLocal id = true) :
    n.Announces own (fun c => c = id ∧ n.isLocal c = true) (fun _ => False) b
      (b.delete id).backend := by
  refine ⟨_, Backend.delete_tells hb id, ?_, ?_, ?_⟩
  · split
    · exact ⟨⟨rfl, hl⟩, trivial⟩
    · trivial
  · intro channel hm
    split at hm <;> simp at hm
  · intro hplain a hm
    obtain ⟨p, hp, ha⟩ := isLocal_eq_true_iff.1 hl
    obtain ⟨serial, c, hc⟩ := Proxy.isAttached_eq_true_iff.1 ha
    have hclient : p.client? = some c := Proxy.client?_eq_some_iff.2 ⟨serial, hc⟩
    obtain ⟨hne, hd, -⟩ := hplain.proxies id p hp c hclient
    split at hm
    · rw [List.mem_singleton.1 hm]
      exact Announcement.travels_delete hne hd
    · cases hm

theorem upsert_announces (hb : b.outages = []) {r : Record} (hl : n.isLocal r.clientId = true)
    (ho : r.owner = own) (hu : r.updatedBy = own) {snapshot : Option Json}
    (hs : n.Holds own Proxy.PlainAt → ∀ j ∈ snapshot, IsPlainSnapshot j) :
    n.Announces own (fun c => c = r.clientId ∧ n.isLocal c = true) (fun _ => False) b
      (b.upsert r snapshot).backend := by
  obtain ⟨-, ht⟩ := Backend.upsert_tells hb r snapshot
  have hrow := b.store.rowFor_eq r
  refine ⟨_, ht, ⟨⟨?_, ?_, ?_⟩, trivial⟩, ?_, ?_⟩
  · rw [hrow]
    exact hu
  · rw [hrow]
    exact ⟨rfl, hl⟩
  · rw [hrow, ← ho]
  · intro channel hm
    simp at hm
  · intro hplain a hm
    rw [List.mem_singleton.1 hm]
    exact Announcement.travels_upsert _ (hs hplain)

/-- A broadcast announces the client's record as it is now, or that there is none. -/
theorem broadcast_announces {p : Proxy} (hb : b.outages = []) (hp : p.SoundAt own id)
    (hf : n.registry.find? id = some p) :
    n.Announces own (fun c => c = id ∧ n.isLocal c = true) (fun _ => False) b
      (p.broadcast own b).backend := by
  rcases p.broadcast_cases own b with he | ⟨change, hchange, he⟩
  · rw [he]
    exact .refl n own b
  · rw [he]
    obtain ⟨c, hclient, -, hwritten⟩ := Proxy.pendingChange_cases hchange
    have ha := Proxy.isAttached_of_client? hclient
    have hl : n.isLocal id = true := isLocal_eq_true_iff.2 ⟨p, hf, ha⟩
    rcases hwritten with ⟨-, rfl⟩ | ⟨-, rfl⟩
    · rw [(Proxy.delete_of_write b p.clientId).1, hp.clientId]
      exact delete_announces hb hl
    · have hid : (p.currentRecord own c).clientId = id := hp.recordId
      have ho : (p.currentRecord own c).owner = own := hp.attached_iff.1 ha
      rw [← hid]
      refine upsert_announces hb (hid ▸ hl) ho rfl ?_
      intro hplain
      exact (hplain.proxies id p hf c hclient).2.2

theorem subscriptionsChanged_announces (h : n.SoundAs own) (hb : b.outages = []) (id : String) :
    n.Announces own (fun c => c = id ∧ n.isLocal c = true) (fun _ => False) b
        (n.subscriptionsChanged id b).backend
      ∧ n.SameView (n.subscriptionsChanged id b).subject := by
  unfold subscriptionsChanged
  split
  · exact ⟨.refl n own b, .refl n⟩
  · rename_i p hp
    obtain ⟨hf, ha⟩ := localProxy_eq_ok hp
    have hs := h.proxies id p hf
    rw [h.channel]
    refine ⟨broadcast_announces hb hs hf, sameView_putBack ?_ ?_⟩
    · exact isLocal_eq_true_iff.2 ⟨p, hf, ha⟩
    · exact (Proxy.alike_broadcast own p b).isAttached.trans ha

/-- A client that is attached leaves the instance and the record table; for any other one nothing
happens. -/
theorem disconnect_announces (h : n.SoundAs own) (hb : b.outages = []) (id : String) :
    n.Announces own (fun c => c = id ∧ n.isLocal c = true) (fun _ => False) b
        (n.disconnect id b).backend
      ∧ (n.isLocal id = true → (n.disconnect id b).backend.store.records.find? id = none
        ∧ (n.disconnect id b).subject.registry = n.registry.erase id)
      ∧ (n.isLocal id = false → n.disconnect id b = { result := (n.disconnect id b).result
                                                      subject := n, backend := b }) := by
  unfold disconnect
  split
  · rename_i e he
    refine ⟨.refl n own b, ?_, fun _ => rfl⟩
    intro hl
    exact absurd (hl.symm.trans (isLocal_of_localProxy_error he)) (by simp)
  · rename_i p hp
    obtain ⟨hf, ha⟩ := localProxy_eq_ok hp
    have hl : n.isLocal id = true := isLocal_eq_true_iff.2 ⟨p, hf, ha⟩
    have hoff : (p.goOffline b).backend = (b.delete id).backend := by
      rw [Proxy.goOffline_eq ha, (h.proxies id p hf).clientId]
    have hgone : (b.delete id).backend.store.records.find? id = none := by
      rw [Backend.delete, Backend.attempt_of_no_outages hb]
      exact b.store.find?_delete id
    have hann : n.Announces own (fun c => c = id ∧ n.isLocal c = true) (fun _ => False) b
        (b.delete id).backend := delete_announces hb hl
    rw [← hoff] at hann hgone
    simp only
    split
    · exact ⟨hann, fun _ => ⟨hgone, retire_registry _ _⟩, fun hn => absurd (hl.symm.trans hn) (by simp)⟩
    · exact ⟨hann, fun _ => ⟨hgone, retire_registry _ _⟩, fun hn => absurd (hl.symm.trans hn) (by simp)⟩

/-! ## Beats -/

theorem reannounceEntries_announces {entries : List (String × Proxy)} {acc : Node × Backend}
    (hc : acc.1.channel = own) (hv : n.SameView acc.1) (hb : acc.2.outages = [])
    (he : ∀ e ∈ entries, n.registry.find? e.1 = some e.2 ∧ e.2.SoundAt own e.1) :
    n.Announces own (fun c => n.isLocal c = true) (fun _ => False) acc.2
        (entries.foldl reannounceOne acc).2
      ∧ n.SameView (entries.foldl reannounceOne acc).1 := by
  induction entries generalizing acc with
  | nil => exact ⟨.refl n own acc.2, hv⟩
  | cons e entries ih =>
    have he' : ∀ e' ∈ entries, n.registry.find? e'.1 = some e'.2 ∧ e'.2.SoundAt own e'.1 :=
      fun e' hm => he e' (List.mem_cons_of_mem e hm)
    obtain ⟨hf, hs⟩ := he e List.mem_cons_self
    rw [List.foldl_cons, reannounceOne]
    split
    · rename_i ha
      have hl : n.isLocal e.1 = true := isLocal_eq_true_iff.2 ⟨e.2, hf, ha⟩
      have hann : n.Announces own (fun c => n.isLocal c = true) (fun _ => False) acc.2
          (e.2.broadcast own acc.2).backend :=
        (broadcast_announces hb hs hf).mono (fun _ hc => hc.2) fun _ hg => hg
      have hput : acc.1.SameView (acc.1.putBack e.1 (e.2.broadcast own acc.2).subject) :=
        sameView_putBack ((hv.isLocal e.1).trans hl)
          ((Proxy.alike_broadcast own e.2 acc.2).isAttached.trans ha)
      rw [hc]
      obtain ⟨hrest, hview⟩ := @ih (acc.1.putBack e.1 (e.2.broadcast own acc.2).subject,
        (e.2.broadcast own acc.2).backend) hc (hv.trans hput) (hann.outages.trans hb) he'
      exact ⟨hann.trans hrest, hview⟩
    · exact ih hc hv hb he'

theorem reannounce_announces (h : n.SoundAs own) (hb : b.outages = []) :
    n.Announces own (fun c => n.isLocal c = true) (fun _ => False) b (n.reannounce b).2
      ∧ n.SameView (n.reannounce b).1 := by
  have hv : n.SameView (n, b).1 := .refl n
  refine reannounceEntries_announces h.channel hv hb ?_
  intro e he
  exact ⟨(Table.mem_entries_iff _ _ _).1 he, h.mem_entries he⟩

theorem beat_of_error (h : n.channel = own) {e : MeshError}
    (he : (b.heartbeat own n.settings.channelTtl).result = .error e) (hasJoined : Bool) :
    n.beat hasJoined b = { result := .error e, subject := n,
                           backend := (b.heartbeat own n.settings.channelTtl).backend } := by
  rw [beat, h]
  split <;> rename_i heq <;> rw [heq] at he <;> cases he
  rw [heq]

theorem beat_of_ok (h : n.channel = own) {pulse : Pulse}
    (hr : (b.heartbeat own n.settings.channelTtl).result = .ok pulse) (hasJoined : Bool) :
    n.beat hasJoined b =
      if wasReaped hasJoined pulse = true then
        { result := .ok pulse
          subject := (n.reannounce (b.heartbeat own n.settings.channelTtl).backend).1
          backend := (n.reannounce (b.heartbeat own n.settings.channelTtl).backend).2 }
      else
        { result := .ok pulse, subject := n,
          backend := (b.heartbeat own n.settings.channelTtl).backend } := by
  rw [beat, h]
  split <;> rename_i heq <;> rw [heq] at hr <;> cases hr
  rw [heq]

/-- The beat finds that the instance was reaped since it joined. -/
def Rejoins (n : Node) (hasJoined : Bool) (b : Backend) : Prop :=
  ∃ pulse, (n.beat hasJoined b).result = .ok pulse ∧ wasReaped hasJoined pulse = true

/-- The beat reaps a channel. -/
def Reaps (n : Node) (hasJoined : Bool) (b : Backend) (channel : String) : Prop :=
  ∃ pulse, (n.beat hasJoined b).result = .ok pulse ∧ channel ∈ pulse.reaped

/-- A beat announces the channels that it reaped and, only if the instance was reaped itself, the
attached clients. -/
theorem beat_announces (h : n.SoundAs own) (hb : b.outages = []) (hs : b.store.HasValidLeases)
    (hc : ChannelName.isValid own = true) (hasJoined : Bool) :
    n.Announces own (fun c => n.Rejoins hasJoined b ∧ n.isLocal c = true) (n.Reaps hasJoined b)
        b (n.beat hasJoined b).backend
      ∧ n.SameView (n.beat hasJoined b).subject := by
  rcases Backend.heartbeat_tells hb hs hc n.settings.channelTtl with
    ⟨⟨e, he⟩, ht⟩ | ⟨pulse, hr, hvalid, ht⟩
  · rw [beat_of_error h.channel he]
    exact ⟨⟨[], ht, trivial, fun _ hm => absurd hm List.not_mem_nil,
      fun _ _ hm => absurd hm List.not_mem_nil⟩, .refl n⟩
  · have hbeat := beat_of_ok h.channel hr hasJoined
    have hresult : (n.beat hasJoined b).result = .ok pulse := by
      rw [hbeat]
      split <;> rfl
    have hreaped : n.Announces own (fun c => n.Rejoins hasJoined b ∧ n.isLocal c = true)
        (n.Reaps hasJoined b) b (b.heartbeat own n.settings.channelTtl).backend := by
      refine ⟨pulse.reaped.map .offline, ht, allLawful_map_offline _, ?_, ?_⟩
      · intro c hm
        obtain ⟨c', hm, hcc⟩ := List.mem_map.1 hm
        cases hcc
        exact ⟨pulse, hresult, hm⟩
      · intro _ a hm
        obtain ⟨c, hc, rfl⟩ := List.mem_map.1 hm
        exact Announcement.travels_offline (hvalid c hc)
    cases hw : wasReaped hasJoined pulse with
    | false =>
      rw [hw, if_neg Bool.false_ne_true] at hbeat
      have hend := congrArg Outcome.backend hbeat
      have hnode := congrArg Outcome.subject hbeat
      exact ⟨hend ▸ hreaped, hnode ▸ .refl n⟩
    | true =>
      rw [hw, if_pos rfl] at hbeat
      have hend := congrArg Outcome.backend hbeat
      have hnode := congrArg Outcome.subject hbeat
      obtain ⟨hre, hview⟩ := reannounce_announces h (hreaped.outages.trans hb)
      refine ⟨hend ▸ hreaped.trans (hre.mono ?_ ?_), hnode ▸ hview⟩
      · intro c hl
        exact ⟨⟨pulse, hresult, hw⟩, hl⟩
      · intro c hf
        exact hf.elim

end Node

end TopicMesh
