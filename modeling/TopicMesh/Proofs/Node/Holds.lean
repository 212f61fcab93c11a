import TopicMesh.Node.Announcements
import TopicMesh.Node.Heartbeat
import TopicMesh.Node.Relays
import TopicMesh.Proofs.Proxy

/-!
# TopicMesh.Proofs.Node.Holds

What an instance keeps up for each of its proxies.

* `Proxy.Kept`          — a property of proxies that survives whatever an instance does with them by itself.
* `Proxy.KeptFollowing` — a property that survives the records of peers, their principals resolved in a
  schema.
* `Node.Holds`          — the instance `own`, each of its proxies with a property.

Every operation of an instance keeps up every such property: `Holds.publish`, `Holds.beat`,
`Holds.resync`, `Holds.handleControl` and so on.
-/

namespace TopicMesh

/-- A property of the proxy under a key that the instance `own` keeps up. -/
class Proxy.Kept (own : String) (P : String → Proxy → Prop) : Prop where
  broadcast : ∀ {id : String} {p : Proxy} (b : Backend), P id p → P id (p.broadcast own b).subject
  send : ∀ {id : String} {p : Proxy} (m : Message) (b : Backend),
    P id p → P id (p.send own m b).subject
  deliver : ∀ {id : String} {p q : Proxy} {m : Message},
    p.deliver own m = .ok q → P id p → P id q

/-- A property of the proxy under a key that stays with it when it takes over a record, and comes with
every new proxy of a client elsewhere. -/
class Proxy.KeptFollowing (own : String) (schema : Schema) (P : String → Proxy → Prop) : Prop where
  receive : ∀ {id : String} {p q : Proxy} {r : Record} {snapshot : Option Json},
    p.receive schema r snapshot = .ok q → P id p → P id q
  mirror : ∀ {r : Record} (snapshot : Option Json), r.owner ≠ own →
    P r.clientId (.mirror r (resolvePrincipal schema r snapshot))

namespace Node

structure Holds (n : Node) (own : String) (P : String → Proxy → Prop) : Prop where
  channel : n.channel = own
  proxies : ∀ id p, n.registry.find? id = some p → P id p

variable {own : String} {P : String → Proxy → Prop} {n : Node}

/-! ## The registry -/

@[simp] theorem retire_channel (n : Node) (p : Option Proxy) : (n.retire p).channel = n.channel := by
  unfold retire
  split
  · split <;> rfl
  · rfl

@[simp] theorem retire_registry (n : Node) (p : Option Proxy) :
    (n.retire p).registry = n.registry := by
  unfold retire
  split
  · split <;> rfl
  · rfl

@[simp] theorem retire_schema (n : Node) (p : Option Proxy) : (n.retire p).schema = n.schema := by
  unfold retire
  split
  · split <;> rfl
  · rfl

@[simp] theorem register_channel (n : Node) (p : Proxy) : (n.register p).channel = n.channel := by
  simp [register]

@[simp] theorem register_registry (n : Node) (p : Proxy) :
    (n.register p).registry = n.registry.insert p.clientId p := by
  simp [register]

@[simp] theorem register_schema (n : Node) (p : Proxy) : (n.register p).schema = n.schema := by
  simp [register]

@[simp] theorem unregister_channel (n : Node) (id : String) :
    (n.unregister id).channel = n.channel := by
  simp [unregister]

@[simp] theorem unregister_registry (n : Node) (id : String) :
    (n.unregister id).registry = n.registry.erase id := by
  simp [unregister]

@[simp] theorem unregister_schema (n : Node) (id : String) :
    (n.unregister id).schema = n.schema := by
  simp [unregister]

@[simp] theorem putBack_registry (n : Node) (key : String) (p : Proxy) :
    (n.putBack key p).registry = n.registry.insert key p := rfl

/-- Putting back what stands there already changes nothing. -/
theorem putBack_self {id : String} {p : Proxy} (h : n.registry.find? id = some p) :
    n.putBack id p = n := by
  have hr : n.registry.insert id p = n.registry := by
    apply Table.ext
    intro key
    rw [Table.find?_insert]
    split
    · rename_i hk
      rw [← hk, h]
    · rfl
  rw [putBack, hr]

namespace Holds

theorem of_subset {n' : Node} (h : n.Holds own P) (hc : n'.channel = n.channel)
    (hr : ∀ id p, n'.registry.find? id = some p →
      n.registry.find? id = some p ∨ P id p) : n'.Holds own P where
  channel := hc.trans h.channel
  proxies id p hp := by
    rcases hr id p hp with hp | hp
    · exact h.proxies id p hp
    · exact hp

theorem of_insert {n' : Node} {key : String} {p : Proxy} (h : n.Holds own P)
    (hc : n'.channel = n.channel) (hr : n'.registry = n.registry.insert key p)
    (hp : P key p) : n'.Holds own P := by
  refine h.of_subset hc ?_
  intro id q hq
  rw [hr, Table.find?_insert] at hq
  split at hq
  · rename_i hk
    cases hq
    exact .inr (hk ▸ hp)
  · exact .inl hq

theorem of_erase {n' : Node} {key : String} (h : n.Holds own P) (hc : n'.channel = n.channel)
    (hr : n'.registry = n.registry.erase key) : n'.Holds own P := by
  refine h.of_subset hc ?_
  intro id q hq
  rw [hr, Table.find?_erase] at hq
  split at hq
  · cases hq
  · exact .inl hq

theorem putBack {key : String} {p : Proxy} (h : n.Holds own P) (hp : P key p) :
    (n.putBack key p).Holds own P :=
  h.of_insert rfl rfl hp

theorem register {p : Proxy} (h : n.Holds own P) (hp : P p.clientId p) :
    (n.register p).Holds own P :=
  h.of_insert (by simp) (by simp) hp

theorem unregister (h : n.Holds own P) (id : String) : (n.unregister id).Holds own P :=
  h.of_erase (unregister_channel n id) (unregister_registry n id)

theorem mem_entries {e : String × Proxy} (h : n.Holds own P) (he : e ∈ n.registry.entries) :
    P e.1 e.2 :=
  h.proxies e.1 e.2 ((Table.mem_entries_iff _ _ _).1 he)

end Holds

/-! ## Operations that only take proxies out -/

theorem Holds.disconnect (h : n.Holds own P) (id : String) (b : Backend) :
    (n.disconnect id b).subject.Holds own P := by
  unfold Node.disconnect
  split
  · exact h
  · rename_i p hp
    have hs : ∀ q, ({ n with registry := n.registry.erase id }.retire (some q)).Holds own P :=
      fun q => h.of_erase (retire_channel _ _) (retire_registry _ _)
    simp only
    split
    · exact hs _
    · exact hs _

theorem Holds.forget (h : n.Holds own P) (id : String) : (n.forget id).Holds own P := by
  unfold Node.forget
  split
  · exact h
  · split
    · exact h
    · exact h.unregister id

/-- Pruning a client is forgetting it. -/
theorem prune_subject (acc : ResyncStats × Node) (id : String) :
    (prune acc id).2 = acc.2.forget id := by
  unfold prune forget
  cases acc.2.registry.find? id with
  | none => rfl
  | some p => cases ha : p.isAttached <;> simp [ha]

theorem Holds.prune {acc : ResyncStats × Node} (h : acc.2.Holds own P) (id : String) :
    (Node.prune acc id).2.Holds own P := by
  rw [prune_subject]
  exact h.forget id

theorem Holds.pruneAll {acc : ResyncStats × Node} {ids : List String} (h : acc.2.Holds own P) :
    (ids.foldl Node.prune acc).2.Holds own P := by
  induction ids generalizing acc with
  | nil => exact h
  | cons id ids ih => exact ih (h.prune id)

theorem Holds.unregisterAll {ids : List String} (h : n.Holds own P) :
    (ids.foldl Node.unregister n).Holds own P := by
  induction ids generalizing n with
  | nil => exact h
  | cons id ids ih => exact ih (h.unregister id)

theorem Holds.reloadCollections (h : n.Holds own P) (b : Backend) :
    (n.reloadCollections b).1.Holds own P := by
  unfold Node.reloadCollections
  split
  · exact h
  · exact ⟨h.channel, h.proxies⟩

theorem Holds.reloadSettings (h : n.Holds own P) (b : Backend) :
    (n.reloadSettings b).1.Holds own P := by
  unfold Node.reloadSettings
  split
  · exact h
  · exact ⟨h.channel, h.proxies⟩

/-! ## Clients that are attached here -/

theorem localProxy_eq_ok {id : String} {p : Proxy} (h : n.localProxy id = .ok p) :
    n.registry.find? id = some p ∧ p.isAttached = true := by
  unfold localProxy at h
  split at h
  · cases h
  · rename_i q hq
    split at h
    · rename_i ha
      cases h
      exact ⟨hq, ha⟩
    · cases h

section Kept

variable [Proxy.Kept own P]

theorem Holds.subscriptionsChanged (h : n.Holds own P) (id : String) (b : Backend) :
    (n.subscriptionsChanged id b).subject.Holds own P := by
  unfold Node.subscriptionsChanged
  split
  · exact h
  · rename_i p hp
    rw [h.channel]
    exact h.putBack (Proxy.Kept.broadcast b (h.proxies id p (localProxy_eq_ok hp).1))

theorem Holds.fanOut {topic : String} {m : Message} {entries : List (String × Proxy)} {f : FanOut}
    (hf : f.node.Holds own P) (he : ∀ e ∈ entries, P e.1 e.2) :
    (entries.foldl (FanOut.step topic m) f).node.Holds own P := by
  induction entries generalizing f with
  | nil => exact hf
  | cons e entries ih =>
    refine ih ?_ fun e' he' => he e' (List.mem_cons_of_mem e he')
    unfold FanOut.step
    split
    · rw [hf.channel]
      exact hf.putBack (Proxy.Kept.send m f.backend (he e List.mem_cons_self))
    · exact hf

theorem Holds.publish (h : n.Holds own P) (topic : String) (m : Message) (b : Backend) :
    (n.publish topic m b).node.Holds own P := by
  refine Holds.fanOut h ?_
  intro e he
  exact h.mem_entries he

theorem Holds.sendTo (h : n.Holds own P) (id : String) (m : Message) (b : Backend) :
    (n.sendTo id m b).subject.Holds own P := by
  unfold Node.sendTo
  split
  · exact h
  · rename_i p hp
    have hs : (n.putBack id (p.send own m b).subject).Holds own P :=
      h.putBack (Proxy.Kept.send m b (h.proxies id p hp))
    rw [h.channel]
    simp only
    split
    · exact hs
    · exact hs

theorem Holds.handleRelay (h : n.Holds own P) (payload : String) :
    (n.handleRelay payload).2.Holds own P := by
  unfold Node.handleRelay
  split
  · exact h
  · split
    · exact h
    · rename_i p hp
      split
      · rename_i q hq
        rw [h.channel] at hq
        exact h.putBack (Proxy.Kept.deliver hq (h.proxies _ p hp))
      · exact h

/-! ## Beats -/

theorem Holds.reannounceEntries {entries : List (String × Proxy)} {acc : Node × Backend}
    (h : acc.1.Holds own P) (he : ∀ e ∈ entries, P e.1 e.2) :
    (entries.foldl reannounceOne acc).1.Holds own P := by
  induction entries generalizing acc with
  | nil => exact h
  | cons e entries ih =>
    refine ih ?_ fun e' he' => he e' (List.mem_cons_of_mem e he')
    unfold reannounceOne
    split
    · rw [h.channel]
      exact h.putBack (Proxy.Kept.broadcast acc.2 (he e List.mem_cons_self))
    · exact h

theorem Holds.beat (h : n.Holds own P) (hasJoined : Bool) (b : Backend) :
    (n.beat hasJoined b).subject.Holds own P := by
  unfold Node.beat
  split
  · exact h
  · rename_i pulse backend _
    split
    · have he : ∀ e ∈ n.registry.entries, P e.1 e.2 := fun e he => h.mem_entries he
      have hs : (n, backend).1.Holds own P := h
      exact hs.reannounceEntries he
    · exact h

end Kept

/-! ## Records and announcements -/

theorem adopt_eq (n : Node) (r : Record) (snapshot : Option Json) :
    n.adopt r snapshot
      = .ok (n.register (.mirror r (Proxy.resolvePrincipal n.schema r snapshot))) := by
  simp only [adopt, Proxy.receive_follow]

theorem applyRecord_schema {n' : Node} {r : Record} {snapshot : Option Json} {applied : Applied}
    (h : n.applyRecord r snapshot = .ok (applied, n')) : n'.schema = n.schema := by
  unfold applyRecord at h
  simp only [adopt_eq] at h
  split at h
  · cases h
    rfl
  · split at h
    · cases h
      exact register_schema n _
    · split at h
      · cases h
        rfl
      · split at h
        · split at h
          · cases h
          · cases h
            rfl
        · cases h
          exact register_schema n _

section KeptFollowing

variable [hk : Proxy.KeptFollowing own n.schema P]
include hk

theorem Holds.applyRecord {n' : Node} {r : Record} {snapshot : Option Json} {applied : Applied}
    (h : n.Holds own P) (hr : n.applyRecord r snapshot = .ok (applied, n')) : n'.Holds own P := by
  unfold Node.applyRecord at hr
  split at hr
  · cases hr
    exact h
  · rename_i ho
    rw [h.channel] at ho
    have hadopt : (n.register (.mirror r (Proxy.resolvePrincipal n.schema r snapshot))).Holds own P :=
      h.register (hk.mirror snapshot ho)
    split at hr
    · simp only [adopt_eq] at hr
      cases hr
      exact hadopt
    · rename_i p hp
      split at hr
      · cases hr
        exact h
      · split at hr
        · split at hr
          · cases hr
          · rename_i q hq
            cases hr
            exact h.putBack (hk.receive hq (h.proxies _ p hp))
        · simp only [adopt_eq] at hr
          cases hr
          exact hadopt

theorem Holds.applyAll {records : List Record} {stats : ResyncStats} (h : n.Holds own P) :
    (n.applyAll stats records).2.Holds own P := by
  induction records generalizing n stats with
  | nil => exact h
  | cons r records ih =>
    unfold Node.applyAll
    split
    · exact h
    · rename_i hr
      have hk' := hk
      rw [← applyRecord_schema hr] at hk'
      exact ih (h.applyRecord hr)

theorem Holds.resync (h : n.Holds own P) (b : Backend) : (n.resync b).subject.Holds own P := by
  unfold Node.resync
  simp only
  split
  · exact h
  · rename_i records _ _
    have hall : (n.applyAll {} records).2.Holds own P := h.applyAll
    split
    · rename_i heq
      rw [heq] at hall
      exact hall
    · rename_i stats n' heq
      rw [heq] at hall
      have hs : (stats, n').2.Holds own P := hall
      exact hs.pruneAll

theorem Holds.follow (h : n.Holds own P) (a : Announcement) (b : Backend) :
    (n.follow a b).subject.Holds own P := by
  unfold Node.follow
  split
  · exact h
  · split
    · split
      · exact h
      · rename_i hr
        exact h.applyRecord hr
    · exact h.forget _
    · simp only
      split
      · exact h
      · exact h.unregisterAll
    · exact h.reloadCollections b
    · exact h.reloadSettings b

theorem Holds.handleControl (h : n.Holds own P) (payload : String) (b : Backend) :
    (n.handleControl payload b).subject.Holds own P := by
  unfold Node.handleControl
  split
  · exact h
  · exact h.follow _ b

theorem Holds.catchUp (h : n.Holds own P) (b : Backend) : (n.catchUp b).subject.Holds own P := by
  have hr := h.resync b
  unfold Node.catchUp
  simp only
  split
  · exact hr
  · exact (hr.reloadCollections _).reloadSettings _

end KeptFollowing

end Node

end TopicMesh
