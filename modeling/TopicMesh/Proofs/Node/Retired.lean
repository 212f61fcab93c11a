import TopicMesh.Proofs.Node.Heard

/-!
# TopicMesh.Proofs.Node.Retired

The proxies that an instance no longer counts on. Whoever kept one can go on broadcasting through it, and
what it writes is this instance's own for as long as the instance runs (`Owns.step`).
-/

namespace TopicMesh.Node

variable {own : String} {n n' : Node}

/-- Only the registry may be different. -/
def Refiles (n n' : Node) : Prop := ∃ registry, n' = { n with registry }

theorem SoundAs.owner_of_attached (h : n.SoundAs own) {id : String} {p : Proxy}
    (hp : n.registry.find? id = some p) (ha : p.isAttached = true) : p.record.owner = own :=
  (h.proxies id p hp).attached_iff.1 ha

/-- The clients of the instance `own`, registered or retired, are all its own. -/
structure Owns (n : Node) (own : String) : Prop where
  sound : n.SoundAs own
  retired : ∀ p ∈ n.retired, p.record.owner = own

theorem Owns.of_retired (h : n.Owns own) (hs : n'.SoundAs own) (hr : n'.retired = n.retired) :
    n'.Owns own :=
  ⟨hs, hr ▸ h.retired⟩

theorem create_owns {channel : String} {settings : Settings} {schema : Schema}
    (h : create channel settings schema = .ok n) : n.Owns channel := by
  refine ⟨create_soundAs h, ?_⟩
  obtain ⟨-, rfl⟩ := create_eq_ok h
  intro p hp
  cases hp

/-- A proxy that someone got hold of, in the registry or not. -/
theorem Owns.proxy? (h : n.Owns own) {ref : ProxyRef} {p : Proxy} (hp : n.proxy? ref = some p)
    (ha : p.isAttached = true) : p.record.owner = own := by
  cases ref with
  | registered id => exact h.sound.owner_of_attached hp ha
  | held serial =>
    obtain hm | hm := List.mem_append.1 (List.mem_of_find?_eq_some hp)
    · exact h.sound.owner_of_attached (h.sound.mem_proxies hm).1 ha
    · exact h.retired p hm

theorem retired_retire {p : Proxy} {old : Option Proxy} (hp : p ∈ (n.retire old).retired) :
    p ∈ n.retired ∨ old = some p ∧ p.isAttached = true := by
  unfold retire at hp
  split at hp
  · rename_i q
    split at hp
    · rename_i ha
      obtain hp | hp := List.mem_append.1 hp
      · exact .inl hp
      · cases List.mem_singleton.1 hp
        exact .inr ⟨rfl, ha⟩
    · exact .inl hp
  · exact .inl hp

theorem Owns.registerLocal (h : n.Owns own) (client : Client) :
    (n.registerLocal client).2.Owns own where
  sound := h.sound.registerLocal client
  retired p hp := by
    obtain hp | ⟨hf, ha⟩ := retired_retire hp
    · exact h.retired p hp
    · exact h.sound.owner_of_attached hf ha

theorem Owns.disconnect (h : n.Owns own) (id : String) (b : Backend) :
    (n.disconnect id b).subject.Owns own where
  sound := h.sound.disconnect id b
  retired p hp := by
    rw [Node.disconnect] at hp
    split at hp
    · exact h.retired p hp
    · rename_i q hq
      obtain ⟨hf, ha⟩ := localProxy_eq_ok hq
      have howner : (q.goOffline b).subject.record.owner = own :=
        (Proxy.alike_goOffline q b).owner.trans (h.sound.owner_of_attached hf ha)
      have hmem : p ∈ ({ n with registry := n.registry.erase id }.retire
          (some (q.goOffline b).subject)).retired := by
        dsimp only at hp
        split at hp <;> exact hp
      obtain hp | ⟨hp, -⟩ := retired_retire hmem
      · exact h.retired p hp
      · cases hp
        exact howner

theorem Refiles.refl (n : Node) : n.Refiles n := ⟨n.registry, rfl⟩

theorem Refiles.trans {n'' : Node} (h : n.Refiles n') (h' : n'.Refiles n'') : n.Refiles n'' := by
  obtain ⟨_, rfl⟩ := h
  obtain ⟨registry, rfl⟩ := h'
  exact ⟨registry, rfl⟩

theorem Refiles.retired (h : n.Refiles n') : n'.retired = n.retired := by
  obtain ⟨registry, rfl⟩ := h
  rfl

theorem Refiles.schema (h : n.Refiles n') : n'.schema = n.schema := by
  obtain ⟨registry, rfl⟩ := h
  rfl

theorem refiles_putBack (n : Node) (key : String) (p : Proxy) : n.Refiles (n.putBack key p) :=
  ⟨n.registry.insert key p, rfl⟩

theorem refiles_subscriptionsChanged (n : Node) (id : String) (b : Backend) :
    n.Refiles (n.subscriptionsChanged id b).subject := by
  rw [subscriptionsChanged]
  split
  · exact .refl n
  · exact n.refiles_putBack id _

theorem refiles_fanOut {topic : String} {m : Message} {entries : List (String × Proxy)} (f : FanOut) :
    f.node.Refiles (entries.foldl (FanOut.step topic m) f).node := by
  induction entries generalizing f with
  | nil => exact .refl f.node
  | cons e entries ih =>
    refine .trans ?_ (ih (f.step topic m e))
    rw [FanOut.step]
    split
    · exact f.node.refiles_putBack e.1 _
    · exact .refl f.node

theorem refiles_publish (n : Node) (topic : String) (m : Message) (b : Backend) :
    n.Refiles (n.publish topic m b).node :=
  refiles_fanOut { node := n, backend := b }

theorem refiles_sendTo (n : Node) (id : String) (m : Message) (b : Backend) :
    n.Refiles (n.sendTo id m b).subject := by
  rw [sendTo]
  split
  · exact .refl n
  · dsimp only
    split <;> exact n.refiles_putBack id _

theorem refiles_reannounce (entries : List (String × Proxy)) (acc : Node × Backend) :
    acc.1.Refiles (entries.foldl reannounceOne acc).1 := by
  induction entries generalizing acc with
  | nil => exact .refl acc.1
  | cons e entries ih =>
    refine .trans ?_ (ih (reannounceOne acc e))
    rw [reannounceOne]
    split
    · exact acc.1.refiles_putBack e.1 _
    · exact .refl acc.1

theorem refiles_beat (n : Node) (hasJoined : Bool) (b : Backend) :
    n.Refiles (n.beat hasJoined b).subject := by
  rw [beat]
  split
  · exact .refl n
  · rename_i pulse backend _
    split
    · exact refiles_reannounce n.registry.entries (n, backend)
    · exact .refl n

theorem refiles_handleRelay (n : Node) (payload : String) : n.Refiles (n.handleRelay payload).2 := by
  rw [handleRelay]
  split
  · exact .refl n
  · split
    · exact .refl n
    · split
      · exact n.refiles_putBack _ _
      · exact .refl n

theorem Owns.update (h : n.Owns own) {ref : ProxyRef} {p q : Proxy} (hp : n.proxy? ref = some p)
    (hq : Proxy.Step n.channel p q) : (n.update ref q).Owns own where
  sound := h.sound.update hp hq.alike
  retired r hr := by
    cases ref with
    | registered id => exact h.retired r hr
    | held serial =>
      rw [Node.update] at hr
      split at hr
      · exact h.retired r hr
      · have hserial : p.serial? = some serial := by
          have hs := List.find?_some hp
          exact of_decide_eq_true hs
        obtain ⟨c, hc⟩ := serial?_eq_some_iff.1 hserial
        have ha : p.isAttached = true := Proxy.isAttached_eq_true_iff.2 ⟨serial, c, hc⟩
        obtain ⟨old, hold, rfl⟩ := List.mem_map.1 hr
        split
        · exact hq.alike.owner.trans (h.proxy? hp ha)
        · exact h.retired old hold

theorem Owns.step (h : n.Owns own) (hs : Step n n') : n'.Owns own := by
  have hsound := h.sound.step hs
  cases hs with
  | registerLocal client => exact h.registerLocal client
  | subscriptionsChanged id b => exact h.of_retired hsound (n.refiles_subscriptionsChanged id b).retired
  | disconnect id b => exact h.disconnect id b
  | publish topic m b => exact h.of_retired hsound (n.refiles_publish topic m b).retired
  | sendTo id m b => exact h.of_retired hsound (n.refiles_sendTo id m b).retired
  | beat hasJoined b => exact h.of_retired hsound (n.refiles_beat hasJoined b).retired
  | resync b => exact h.of_retired hsound (n.spares_resync b).retired
  | catchUp b => exact h.of_retired hsound (n.spares_catchUp b).retired
  | handleControl payload b =>
    exact h.of_retired hsound (h.sound.spares_handleControl payload b).retired
  | handleRelay payload => exact h.of_retired hsound (n.refiles_handleRelay payload).retired
  | onProxy hp hq => exact h.update hp hq

end TopicMesh.Node
