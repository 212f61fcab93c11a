import TopicMesh.Proofs.Node.Follow
import TopicMesh.Proofs.Node.Heard
import TopicMesh.Proofs.Reaping

/-!
# TopicMesh.Proofs.Node.Cascade

A heartbeat from the lease table to the registries of the instances: `heartbeat_cascades`. The records
of the reaped channels go with the channels, and an instance that hears of them forgets the clients
elsewhere that they owned, and those only (`Reachable.find?_hearAll_offline`).
-/

namespace TopicMesh

namespace Node

variable {n : Node} {channel payload : String}

theorem hear_offline (hd : Announcement.decode payload = .ok (.offline channel)) (b : Backend) :
    (n.hear (.payload payload) b).subject
      = if channel = n.channel then n else n.forgetChannel channel := by
  have ho : ¬(Announcement.offline channel).origin = some n.channel := by simp [Announcement.origin]
  rw [hear, handleControl, hd]
  simp only
  rw [follow, if_neg ho]

theorem SoundAs.find?_forgetChannel_iff {own : String} (h : n.SoundAs own) (channel id : String)
    (p : Proxy) :
    (n.forgetChannel channel).registry.find? id = some p ↔
      n.registry.find? id = some p ∧ (p.isAttached = true ∨ p.record.owner ≠ channel) := by
  rw [h.find?_forgetChannel]
  cases hq : n.registry.find? id with
  | none => simp
  | some q =>
    cases ha : q.isAttached with
    | true =>
      have hl : n.isLocal id = true := (isLocal_of_find? hq).trans ha
      rw [followed_of_isLocal hl, if_neg (by simp), iff_self_and]
      rintro ⟨⟩
      exact .inl ha
    | false =>
      rw [followed_eq_some_iff.2 ⟨q, hq, ha, rfl⟩]
      by_cases ho : q.record.owner = channel
      · rw [if_pos (by simp [ho])]
        refine iff_of_false (by simp) ?_
        rintro ⟨⟨⟩, hp | hp⟩
        · rw [ha] at hp
          cases hp
        · exact hp ho
      · rw [if_neg (by simp [ho]), iff_self_and]
        rintro ⟨⟩
        exact .inr ho

/-- A reaped instance keeps its own clients; any other one forgets the clients that the reaped one
owned. -/
theorem Reachable.find?_hear_offline (hn : n.Reachable)
    (hd : Announcement.decode payload = .ok (.offline channel)) (b : Backend) (id : String)
    (p : Proxy) :
    (n.hear (.payload payload) b).subject.registry.find? id = some p ↔
      n.registry.find? id = some p ∧ (p.isAttached = true ∨ p.record.owner ≠ channel) := by
  have hs := hn.soundAs
  rw [hear_offline hd b]
  by_cases hc : channel = n.channel
  · rw [if_pos hc, iff_self_and]
    intro hp
    cases ha : p.isAttached with
    | true => exact .inl rfl
    | false => exact .inr (hc ▸ (hs.proxies id p hp).owner_ne ha)
  · rw [if_neg hc]
    exact hs.find?_forgetChannel_iff channel id p

theorem Reachable.find?_hearAll_offline (hn : n.Reachable) {channels payloads : List String}
    (hv : ∀ c ∈ channels, ChannelName.isValid c = true)
    (hp : (channels.map fun c => (Announcement.offline c).encode) = payloads.map .ok)
    {heard : List (Heard × Backend)} (hh : heard.map (·.1) = payloads.map .payload) (id : String)
    (p : Proxy) :
    (n.hearAll heard).registry.find? id = some p ↔
      n.registry.find? id = some p ∧ (p.isAttached = true ∨ p.record.owner ∉ channels) := by
  induction channels generalizing n payloads heard with
  | nil =>
    cases payloads with
    | nil =>
      have hnil : n.hearAll [] = n := rfl
      rw [List.map_eq_nil_iff.1 hh, hnil]
      simp
    | cons payload payloads => cases hp
  | cons c channels ih =>
    cases payloads with
    | nil => cases hp
    | cons payload payloads =>
      cases heard with
      | nil => cases hh
      | cons h heard =>
        rw [List.map_cons, List.map_cons, List.cons.injEq] at hp hh
        obtain ⟨payload', he, hd⟩ := Announcement.travels_offline (hv c List.mem_cons_self)
        have hsame : payload' = payload := Except.ok.inj (he.symm.trans hp.1)
        have hv' : ∀ c' ∈ channels, ChannelName.isValid c' = true :=
          fun c' hm => hv c' (List.mem_cons_of_mem c hm)
        have hstep := hn.find?_hear_offline (hsame ▸ hd) h.2 id p
        have hrest := ih (hn.hear (.payload payload) h.2) hv' hp.2 hh.2
        have hcons : n.hearAll (h :: heard)
            = (n.hear (.payload payload) h.2).subject.hearAll heard := by
          rw [← hh.1]
          rfl
        rw [hcons, hrest, hstep, and_assoc, List.mem_cons, not_or, or_and_left]

end Node

/-- A heartbeat, in whatever order it comes across the leases, renews the lease of its channel, reaps
every other channel whose lease has run out together with the records that the channel owns, and
announces each of them once; the order decides nothing but that of the announcements. Who listens on
the control channel receives these and nobody anything else, and an instance that handles them forgets
exactly the clients elsewhere that a reaped channel owned. -/
theorem heartbeat_cascades {s : Store} (hs : s.HasValidLeases) {now t : Instant} {ttl : Duration}
    (hr : ttl.nanoseconds ≤ Store.maxTtl) (ht : now.add ttl = some t) {channel : String}
    {rows : List Lease} (hrows : rows.Perm (s.renewed channel t).leases) :
    ∃ pulse w, w = s.heartbeatIn rows now channel ttl
      ∧ s.Cascade channel now t pulse w
      ∧ w.store = (s.heartbeat now channel ttl).store
      ∧ w.announced.Perm (s.heartbeat now channel ttl).announced
      ∧ (∀ (b : Backend) ticket, (b.commit w).backend.bus.find? ticket
          = (b.bus.find? ticket).map fun sub =>
              if sub.hears b.controlChannel then w.announced.foldl Subscription.receive sub
              else sub)
      ∧ ∀ n : Node, n.Reachable → ∀ heard : List (Heard × Backend),
          heard.map (·.1) = w.announced.map .payload → ∀ id p,
            ((n.hearAll heard).registry.find? id = some p ↔ n.registry.find? id = some p
              ∧ (p.isAttached = true ∨ p.record.owner ∉ pulse.reaped)) := by
  have hd := Store.deadline_eq_ok hr ht
  have h := Store.heartbeatIn_cascade hs hd hrows
  have h' := Store.heartbeatIn_cascade hs hd (List.Perm.refl (s.renewed channel t).leases)
  rw [← Store.heartbeat_eq_heartbeatIn hd] at h'
  refine ⟨_, _, rfl, h, h.store_eq h', ?_, ?_, ?_⟩
  · exact h.announced_perm h' (Store.expiredAmong_perm hrows channel now)
  · intro b ticket
    exact Bus.find?_publishAll b.bus b.controlChannel _ ticket
  · intro n hn heard hh id p
    refine hn.find?_hearAll_offline ?_ h.announced hh id p
    intro c hc
    obtain ⟨-, d, hf, -⟩ := (h.mem_reaped c).1 hc
    apply hs c
    rw [Table.contains, hf]
    rfl

/-- Four channels with one client each; when the clock is at 100 seconds, only the last lease has not
run out. -/
def lapsed : Store :=
  { [⟨"w", "a", .empty, "", "a"⟩, ⟨"x", "b", .empty, "", "b"⟩, ⟨"y", "c", .empty, "", "c"⟩,
      ⟨"z", "d", .empty, "", "d"⟩].foldl Store.insertRecord .empty with
    deadlines := .ofList [("a", ⟨50, 0⟩), ("b", ⟨60, 0⟩), ("c", ⟨70, 0⟩), ("d", ⟨200, 0⟩)] }

/-- One of the instances that are about to be reaped, with its client attached. -/
def lapsedPeer : Node :=
  ((Node.resync { channel := "b" } { store := lapsed, clock := ⟨100, 0⟩ }).subject.registerLocal
    (.connect "x" 1)).2

/-- What it hears when the first instance beats and comes across the leases backwards. -/
def lapsedNews : List (Heard × Backend) :=
  [(.payload "subscription_channel_offline|c", { clock := ⟨100, 0⟩ }),
    (.payload "subscription_channel_offline|b", { clock := ⟨100, 0⟩ })]

theorem heartbeat_cascades_backwards :
    (lapsed.heartbeatIn (lapsed.renewed "a" ⟨140, 0⟩).leases.reverse ⟨100, 0⟩ "a"
        (.ofSeconds 40)).result = .ok { inserted := false, reaped := ["c", "b"] }
    ∧ (lapsed.heartbeat ⟨100, 0⟩ "a" (.ofSeconds 40)).store.records.find? "w"
        = some ⟨"w", "a", .empty, "", "a"⟩
    ∧ (lapsed.heartbeat ⟨100, 0⟩ "a" (.ofSeconds 40)).store.records.find? "x" = none
    ∧ ((lapsedPeer.hearAll lapsedNews).registry.find? "x").isSome = true
    ∧ (lapsedPeer.hearAll lapsedNews).registry.find? "y" = none
    ∧ ((lapsedPeer.hearAll lapsedNews).registry.find? "z").isSome = true := by
  have hs : lapsed.HasValidLeases := by
    intro c hc
    obtain ⟨d, hd⟩ := Option.isSome_iff_exists.1 hc
    have hall : ∀ e ∈ lapsed.deadlines.entries, ChannelName.isValid e.1 = true := by decide
    exact hall (c, d) ((Table.mem_entries_iff _ _ _).2 hd)
  have hn : lapsedPeer.Reachable := by
    have hc : Node.create "b" {} {} = .ok { channel := "b" } := rfl
    exact .step (.step (.created hc) (.resync _ _)) (.registerLocal _ _)
  obtain ⟨pulse, w, hw, hcascade, hstore, -, -, hpeers⟩ :=
    heartbeat_cascades hs (by decide) (rfl : Instant.add ⟨100, 0⟩ (.ofSeconds 40) = some ⟨140, 0⟩)
      (List.reverse_perm (lapsed.renewed "a" ⟨140, 0⟩).leases)
  have hresult : w.result = .ok { inserted := false, reaped := ["c", "b"] } := by
    rw [hw]
    rfl
  have hpulse : pulse = { inserted := false, reaped := ["c", "b"] } :=
    Except.ok.inj (hcascade.result.symm.trans hresult)
  have hnews : lapsedNews.map (·.1) = w.announced.map .payload := by
    rw [hw]
    rfl
  have hheard := hpeers lapsedPeer hn lapsedNews hnews
  rw [hpulse] at hcascade hheard
  refine ⟨hw ▸ hresult, ?_, ?_, ?_, ?_, ?_⟩
  · rw [← hstore, hcascade.records "w"]
    rfl
  · rw [← hstore, hcascade.records "x"]
    rfl
  · rw [(hheard "x" _).2 ⟨rfl, .inl rfl⟩]
    rfl
  · rw [Option.eq_none_iff_forall_ne_some]
    intro p hp
    obtain ⟨hy, hp⟩ := (hheard "y" p).1 hp
    cases hy
    revert hp
    decide
  · rw [(hheard "z" _).2 ⟨rfl, .inr (by decide)⟩]
    rfl

end TopicMesh
