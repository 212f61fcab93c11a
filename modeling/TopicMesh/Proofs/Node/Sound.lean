import TopicMesh.Proofs.Node.Holds

/-!
# TopicMesh.Proofs.Node.Sound

The invariant of an instance's registry, along every run of one instance.

* `Node.SoundAs`   — the instance `own`, each of its proxies sound under its key.
* `Node.Step`      — one operation on an instance, whatever its peers and the services did meanwhile.
* `Node.Reachable` — an instance after any operations; it is sound (`Reachable.soundAs`).
-/

namespace TopicMesh

instance Proxy.kept_soundAt (own : String) : Kept own (Proxy.SoundAt own) where
  broadcast b h := (alike_broadcast own _ b).soundAt h
  send m b h := (alike_send own _ m b).soundAt h
  deliver hq h := (Step.deliver hq).alike.soundAt h

instance Proxy.keptFollowing_soundAt (own : String) (schema : Schema) :
    KeptFollowing own schema (Proxy.SoundAt own) where
  receive hq h := by
    have hs : Step own _ _ := .receive hq
    exact hs.alike.soundAt h
  mirror _ ho := soundAt_mirror ho _

instance Proxy.kept_openAt (own : String) : Kept own Proxy.OpenAt where
  broadcast {_ p} b h := (broadcast_subject own p b).2.trans h
  send {_ p} m b h := by
    rw [OpenAt] at h ⊢
    rcases send_subject own p m b with hs | hs
    · rw [hs, h]
    · rw [hs, isClosed_mapClient, h]
  deliver hq h := by
    rw [OpenAt] at h ⊢
    rw [deliver_eq_ok hq, isClosed_mapClient, h]

instance Proxy.keptFollowing_openAt (own : String) (schema : Schema) :
    KeptFollowing own schema Proxy.OpenAt where
  receive hq h := by
    obtain ⟨-, -, rfl⟩ := receive_eq_ok hq
    exact h
  mirror _ _ := rfl

namespace Node

abbrev SoundAs (n : Node) (own : String) : Prop := n.Holds own (Proxy.SoundAt own)

variable {own : String} {n : Node}

theorem SoundAs.mem_proxies {p : Proxy} (h : n.SoundAs own) (hp : p ∈ n.proxies) :
    n.registry.find? p.clientId = some p ∧ p.SoundAt own p.clientId := by
  obtain ⟨e, he, rfl⟩ := List.mem_map.1 hp
  have hs := h.mem_entries he
  have hf := (Table.mem_entries_iff _ _ _).1 he
  rw [hs.clientId]
  exact ⟨hf, hs⟩

/-- A proxy that someone got hold of is put back where it was, if it is registered still. -/
theorem SoundAs.update_cases {ref : ProxyRef} {p q : Proxy} (h : n.SoundAs own)
    (hp : n.proxy? ref = some p) (hq : q.clientId = p.clientId) :
    (n.update ref q).channel = n.channel
      ∧ ((n.update ref q).registry = n.registry
        ∨ ∃ id, n.registry.find? id = some p
            ∧ (n.update ref q).registry = n.registry.insert id q) := by
  cases ref with
  | registered id => exact ⟨rfl, .inr ⟨id, hp, rfl⟩⟩
  | held serial =>
    unfold Node.update
    simp only
    split
    · rename_i hany
      have hmem : p ∈ n.proxies := by
        obtain ⟨q, hq, hs⟩ := List.any_eq_true.1 hany
        have hp : (n.proxies ++ n.retired).find? (fun p => p.serial? = some serial) = some p := hp
        rw [List.find?_append] at hp
        cases hf : n.proxies.find? fun p => p.serial? = some serial with
        | none =>
          rw [List.find?_eq_none] at hf
          exact absurd hs (hf q hq)
        | some p' =>
          rw [hf] at hp
          cases hp
          exact List.mem_of_find?_eq_some hf
      rw [hq]
      exact ⟨rfl, .inr ⟨_, (h.mem_proxies hmem).1, rfl⟩⟩
    · exact ⟨rfl, .inl rfl⟩

theorem SoundAs.update {ref : ProxyRef} {p q : Proxy} (h : n.SoundAs own)
    (hp : n.proxy? ref = some p) (hpq : p.Alike q) : (n.update ref q).SoundAs own := by
  obtain ⟨hc, hr | ⟨id, hf, hr⟩⟩ := h.update_cases hp hpq.clientId
  · refine ⟨hc.trans h.channel, ?_⟩
    rw [hr]
    exact h.proxies
  · exact h.of_insert hc hr (hpq.soundAt (h.proxies id p hf))

theorem serial?_eq_some_iff {p : Proxy} {serial : Nat} :
    p.serial? = some serial ↔ ∃ c, p.attachment = .attached serial c := by
  unfold Proxy.serial?
  cases h : p.attachment with
  | attached serial' c => simp
  | elsewhere => simp

/-- A change of an attached client that someone got hold of. -/
theorem SoundAs.mapHeld_cases (h : n.SoundAs own) (serial : Nat) (f : Client → Client) :
    (n.mapHeld serial f).channel = n.channel
      ∧ ((n.mapHeld serial f).registry = n.registry
        ∨ ∃ id p, n.registry.find? id = some p ∧ p.isAttached = true
            ∧ (n.mapHeld serial f).registry = n.registry.insert id (p.mapClient f)) := by
  unfold Node.mapHeld
  split
  · exact ⟨rfl, .inl rfl⟩
  · rename_i p hp
    have hs : p.serial? = some serial := by
      have hs := List.find?_some hp
      simpa using hs
    obtain ⟨c, hc⟩ := serial?_eq_some_iff.1 hs
    have ha : p.isAttached = true := Proxy.isAttached_eq_true_iff.2 ⟨serial, c, hc⟩
    have hp : n.proxy? (.held serial) = some p := hp
    obtain ⟨hch, hr | ⟨id, hf, hr⟩⟩ := h.update_cases hp (Proxy.alike_mapClient p f).clientId
    · exact ⟨hch, .inl hr⟩
    · exact ⟨hch, .inr ⟨id, p, hf, ha, hr⟩⟩

theorem SoundAs.mapHeld (h : n.SoundAs own) (serial : Nat) (f : Client → Client) :
    (n.mapHeld serial f).SoundAs own := by
  obtain ⟨hc, hr | ⟨id, p, hf, -, hr⟩⟩ := h.mapHeld_cases serial f
  · refine ⟨hc.trans h.channel, ?_⟩
    rw [hr]
    exact h.proxies
  · exact h.of_insert hc hr ((Proxy.alike_mapClient p f).soundAt (h.proxies id p hf))

theorem registerLocal_registry (n : Node) (client : Client) :
    (n.registerLocal client).2.registry
      = n.registry.insert client.id (.attach n.channel n.nextSerial client) := by
  simp [registerLocal, Proxy.attach]

theorem registerLocal_channel (n : Node) (client : Client) :
    (n.registerLocal client).2.channel = n.channel := by
  simp [registerLocal]

theorem SoundAs.registerLocal (h : n.SoundAs own) (client : Client) :
    (n.registerLocal client).2.SoundAs own := by
  have hp := Proxy.soundAt_attach n.channel n.nextSerial client
  rw [h.channel] at hp
  have hr := registerLocal_registry n client
  rw [h.channel] at hr
  exact h.of_insert (registerLocal_channel n client) hr hp

/-! ## Runs -/

/-- One operation on an instance. The services are whatever they have become by then. -/
inductive Step : Node → Node → Prop where
  | registerLocal (n : Node) (client : Client) : Step n (n.registerLocal client).2
  | subscriptionsChanged (n : Node) (id : String) (b : Backend) :
      Step n (n.subscriptionsChanged id b).subject
  | disconnect (n : Node) (id : String) (b : Backend) : Step n (n.disconnect id b).subject
  | publish (n : Node) (topic : String) (m : Message) (b : Backend) :
      Step n (n.publish topic m b).node
  | sendTo (n : Node) (id : String) (m : Message) (b : Backend) : Step n (n.sendTo id m b).subject
  | beat (n : Node) (hasJoined : Bool) (b : Backend) : Step n (n.beat hasJoined b).subject
  | resync (n : Node) (b : Backend) : Step n (n.resync b).subject
  | catchUp (n : Node) (b : Backend) : Step n (n.catchUp b).subject
  | handleControl (n : Node) (payload : String) (b : Backend) :
      Step n (n.handleControl payload b).subject
  | handleRelay (n : Node) (payload : String) : Step n (n.handleRelay payload).2
  /-- An operation on a proxy that the host keeps. -/
  | onProxy {n : Node} {ref : ProxyRef} {p q : Proxy} (hp : n.proxy? ref = some p)
      (hq : Proxy.Step n.channel p q) : Step n (n.update ref q)

/-- An instance after any operations. -/
inductive Reachable : Node → Prop where
  | created {channel : String} {settings : Settings} {schema : Schema} {n : Node}
      (h : create channel settings schema = .ok n) : Reachable n
  | step {n n' : Node} (h : Reachable n) (hs : Step n n') : Reachable n'

theorem SoundAs.step {n' : Node} (h : n.SoundAs own) (hs : Step n n') : n'.SoundAs own := by
  cases hs with
  | registerLocal client => exact h.registerLocal client
  | subscriptionsChanged id b => exact h.subscriptionsChanged id b
  | disconnect id b => exact h.disconnect id b
  | publish topic m b => exact h.publish topic m b
  | sendTo id m b => exact h.sendTo id m b
  | beat hasJoined b => exact h.beat hasJoined b
  | resync b => exact h.resync b
  | catchUp b => exact h.catchUp b
  | handleControl payload b => exact h.handleControl payload b
  | handleRelay payload => exact h.handleRelay payload
  | onProxy hp hq => exact h.update hp hq.alike

/-- A new instance knows no clients, and its channel can be an instance's own. -/
theorem create_eq_ok {channel : String} {settings : Settings} {schema : Schema}
    (h : create channel settings schema = .ok n) :
    ChannelName.isValid channel = true ∧ n = { channel, settings, schema } := by
  unfold create at h
  split at h
  · cases h
  · split at h
    · cases h
    · rename_i hv
      split at h
      · cases h
      · cases h
        exact ⟨by simpa using hv, rfl⟩

theorem create_soundAs {channel : String} {settings : Settings} {schema : Schema}
    (h : create channel settings schema = .ok n) : n.SoundAs channel := by
  obtain ⟨-, rfl⟩ := create_eq_ok h
  exact ⟨rfl, fun id p hp => by simp at hp⟩

/-- Every instance is sound at all times. -/
theorem Reachable.soundAs (h : n.Reachable) : n.SoundAs n.channel := by
  induction h with
  | created h =>
    have hs := create_soundAs h
    rw [hs.channel]
    exact hs
  | step _ hs ih =>
    have hs := ih.step hs
    rw [hs.channel]
    exact hs

end Node

end TopicMesh
