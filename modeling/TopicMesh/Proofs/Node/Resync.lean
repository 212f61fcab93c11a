import TopicMesh.Proofs.Node.Mirror
import TopicMesh.Proofs.Store

/-!
# TopicMesh.Proofs.Node.Resync

What a resync leaves of the registry, and what it counts.

* `applyAll_absorbs` — taking over records one by one, by induction over the records.
* `pruneAll_eq`      — forgetting clients one by one.
* `Node.Refreshed`   — the registry after a resync, client by client: it depends on the record table
  and the attached clients and on nothing else.
-/

namespace TopicMesh

namespace Node

variable {own : String} {n : Node}

/-! ## Taking records over -/

/-- What taking over records does to an instance and its counts. -/
structure Absorbs (n : Node) (stats : ResyncStats) (records : List Record) (n' : Node)
    (stats' : ResyncStats) : Prop where
  find? : ∀ id, n'.registry.find? id = if n.isLocal id = true then n.registry.find? id else
    ((records.find? fun r => r.clientId = id).map (Proxy.mirror · none)).or (n.registry.find? id)
  total : stats'.created + stats'.updated =
    stats.created + stats.updated + records.countP fun r => !n.isLocal r.clientId
  updated : stats'.updated = stats.updated + records.countP n.knows
  pruned : stats'.pruned = stats.pruned

theorem knows_of_isLocal {r : Record} (h : n.isLocal r.clientId = true) : n.knows r = false := by
  rw [knows, followed_of_isLocal h]
  rfl

theorem knows_congr {n' : Node} {r : Record}
    (h : n'.registry.find? r.clientId = n.registry.find? r.clientId) : n'.knows r = n.knows r := by
  rw [knows, knows, followed_congr h]

theorem resolvePrincipal_none (schema : Schema) (r : Record) :
    Proxy.resolvePrincipal schema r none = none := by
  cases h : r.hasAuth <;> simp [Proxy.resolvePrincipal, h]

theorem Absorbs.skip {r : Record} {rest : List Record} {n' : Node} {stats stats' : ResyncStats}
    (hl : n.isLocal r.clientId = true) (h : n.Absorbs stats rest n' stats') :
    n.Absorbs stats (r :: rest) n' stats' where
  find? id := by
    rw [h.find? id, List.find?_cons]
    by_cases hid : r.clientId = id
    · rw [← hid, if_pos hl, if_pos hl]
    · rw [decide_eq_false hid]
  total := by
    rw [h.total, List.countP_cons, hl]
    rfl
  updated := by
    rw [h.updated, List.countP_cons, knows_of_isLocal hl]
    rfl
  pruned := h.pruned

theorem Absorbs.take {r : Record} {rest : List Record} {n₁ n' : Node} {stats stats' : ResyncStats}
    (hl : n.isLocal r.clientId = false) (hd : ∀ r' ∈ rest, r'.clientId ≠ r.clientId)
    (hn : n₁.registry = n.registry.insert r.clientId (.mirror r none))
    (h : n₁.Absorbs (if n.knows r then { stats with updated := stats.updated + 1 }
      else { stats with created := stats.created + 1 }) rest n' stats') :
    n.Absorbs stats (r :: rest) n' stats' := by
  have hother : ∀ id, r.clientId ≠ id → n₁.registry.find? id = n.registry.find? id := by
    intro id hid
    rw [hn, Table.find?_insert_other hid]
  have hloc : ∀ id, r.clientId ≠ id → n₁.isLocal id = n.isLocal id :=
    fun id hid => isLocal_congr (hother id hid)
  have htotal : (rest.countP fun r' => !n₁.isLocal r'.clientId)
      = rest.countP fun r' => !n.isLocal r'.clientId := by
    apply List.countP_congr
    intro r' hr'
    rw [hloc _ (Ne.symm (hd r' hr'))]
  have hknows : rest.countP n₁.knows = rest.countP n.knows := by
    apply List.countP_congr
    intro r' hr'
    rw [knows_congr (hother _ (Ne.symm (hd r' hr')))]
  constructor
  · intro id
    rw [h.find? id, List.find?_cons]
    by_cases hid : r.clientId = id
    · have hself : n₁.registry.find? id = some (.mirror r none) := by
        rw [hn, hid, Table.find?_insert_self]
      have hnone : (rest.find? fun r' => r'.clientId = id) = none := by
        rw [List.find?_eq_none]
        intro r' hr'
        rw [decide_eq_true_eq, ← hid]
        exact hd r' hr'
      have hl₁ : n₁.isLocal id = false := by simp [isLocal, hself, Proxy.mirror, Proxy.isAttached]
      rw [hl₁, ← hid, hl, decide_eq_true rfl, hid, hnone, hself]
      rfl
    · rw [hother id hid, hloc id hid, decide_eq_false hid]
  · have ht := h.total
    rw [htotal] at ht
    rw [ht, List.countP_cons, hl]
    split
    · simp
      omega
    · simp
      omega
  · rw [h.updated, hknows, List.countP_cons]
    split
    · simp
      omega
    · simp
  · rw [h.pruned]
    split <;> rfl

theorem applyAll_absorbs {records : List Record} (h : n.SoundAs own)
    (ho : ∀ r ∈ records, r.owner ≠ own) (hd : (records.map (·.clientId)).Nodup)
    (stats : ResyncStats) :
    ∃ stats' n', n.applyAll stats records = (.ok stats', n') ∧ n.Absorbs stats records n' stats' := by
  induction records generalizing n stats with
  | nil => exact ⟨stats, n, rfl, by intro id; simp, by simp, by simp, rfl⟩
  | cons r rest ih =>
    rw [List.map_cons, List.nodup_cons] at hd
    have ho' : ∀ r' ∈ rest, r'.owner ≠ own := fun r' hr' => ho r' (List.mem_cons_of_mem r hr')
    rw [applyAll]
    cases hl : n.isLocal r.clientId with
    | true =>
      obtain ⟨stats', n', hn', ha⟩ := ih h ho' hd.2 stats
      rw [applyRecord_of_isLocal hl]
      exact ⟨stats', n', hn', ha.skip hl⟩
    | false =>
      obtain ⟨applied, n₁, h₁, hn₁, hcount⟩ :=
        applyRecord_taken h (ho r List.mem_cons_self) hl none
      rw [resolvePrincipal_none] at hn₁
      obtain ⟨stats', n', hn', ha⟩ := ih (h.applyRecord h₁) ho' hd.2 (stats.count applied)
      rw [hcount] at ha
      rw [h₁]
      refine ⟨stats', n', hn', ha.take hl ?_ hn₁⟩
      intro r' hr' hid
      exact hd.1 (List.mem_map.2 ⟨r', hr', hid⟩)

theorem applyRecord_of_known (h : n.SoundAs own) {r : Record} (ho : r.owner ≠ own)
    (hf : n.registry.find? r.clientId = some (.mirror r none)) :
    n.applyRecord r none = .ok (.updated, n) := by
  have hown : r.owner ≠ n.channel := h.channel ▸ ho
  have ha : (Proxy.mirror r none).isAttached = false := rfl
  have hsame : (Proxy.mirror r none).record.owner = r.owner := rfl
  have hrec := (h.proxies _ _ hf).receive_eq ha rfl hsame n.schema none
  rw [resolvePrincipal_none] at hrec
  rw [applyRecord, if_neg hown]
  simp only [hf]
  rw [ha, if_neg Bool.false_ne_true, if_pos hsame, hrec]
  simp only
  rw [putBack_self hf]

/-- Records that are followed already are taken over without a trace. -/
theorem applyAll_of_known {records : List Record} (h : n.SoundAs own)
    (hr : ∀ r ∈ records, r.owner ≠ own ∧
      (n.isLocal r.clientId = true ∨ n.registry.find? r.clientId = some (.mirror r none)))
    (stats : ResyncStats) :
    ∃ k, n.applyAll stats records = (.ok { stats with updated := stats.updated + k }, n) := by
  induction records generalizing stats with
  | nil => exact ⟨0, rfl⟩
  | cons r rest ih =>
    have ih := ih fun r' hr' => hr r' (List.mem_cons_of_mem r hr')
    obtain ⟨ho, hl | hf⟩ := hr r List.mem_cons_self
    · rw [applyAll, applyRecord_of_isLocal hl]
      exact ih stats
    · obtain ⟨k, hk⟩ := ih (stats.count .updated)
      refine ⟨1 + k, ?_⟩
      rw [applyAll, applyRecord_of_known h ho hf, ← Nat.add_assoc]
      exact hk

/-! ## Forgetting clients -/

theorem pruneAll_eq {ids : List String} (hd : ids.Nodup)
    (hids : ∀ id ∈ ids, (n.followed id).isSome = true) (stats : ResyncStats) :
    ∃ n', ids.foldl prune (stats, n) = ({ stats with pruned := stats.pruned + ids.length }, n')
      ∧ n'.channel = n.channel
      ∧ ∀ id, n'.registry.find? id = if id ∈ ids then none else n.registry.find? id := by
  induction ids generalizing n stats with
  | nil => exact ⟨n, rfl, rfl, by simp⟩
  | cons id ids ih =>
    rw [List.nodup_cons] at hd
    obtain ⟨r, hr⟩ := Option.isSome_iff_exists.1 (hids id List.mem_cons_self)
    obtain ⟨p, hp, ha, -⟩ := followed_eq_some_iff.1 hr
    have hids' : ∀ id' ∈ ids, ((n.unregister id).followed id').isSome = true := by
      intro id' hid'
      have hne : id ≠ id' := fun e => hd.1 (e ▸ hid')
      rw [followed_congr (n := n)]
      · exact hids id' (List.mem_cons_of_mem id hid')
      · rw [unregister_registry, Table.find?_erase_other hne]
    obtain ⟨n', hn', hc, hf⟩ := ih hd.2 hids' { stats with pruned := stats.pruned + 1 }
    refine ⟨n', ?_, hc.trans (unregister_channel n id), ?_⟩
    · have hstep : prune (stats, n) id
          = ({ stats with pruned := stats.pruned + 1 }, n.unregister id) := by
        simp [prune, hp, ha]
      rw [List.foldl_cons, hstep, hn', List.length_cons, Nat.add_comm ids.length 1, ← Nat.add_assoc]
    · intro key
      rw [hf key, unregister_registry, Table.find?_erase]
      by_cases hkey : id = key
      · simp [hkey]
      · simp [hkey, Ne.symm hkey]

/-! ## The resync -/

/-- The clients elsewhere that the records of a list do not tell of. -/
def stale (n : Node) (records : List Record) : List String :=
  (n.remote.map (·.clientId)).filter fun id => !(records.any fun r => r.clientId = id)

theorem SoundAs.map_clientId_proxies (h : n.SoundAs own) :
    n.proxies.map (·.clientId) = n.registry.keys := by
  rw [Node.proxies, Table.values, Table.keys, List.map_map]
  apply List.map_congr_left
  intro e he
  exact (h.mem_entries he).clientId

theorem SoundAs.nodup_stale (h : n.SoundAs own) (records : List Record) :
    (n.stale records).Nodup := by
  have hp : (n.proxies.map (·.clientId)).Nodup := by
    rw [h.map_clientId_proxies]
    exact n.registry.nodup_keys
  have hr : (n.remote.map (·.clientId)).Nodup := hp.sublist (List.filter_sublist.map _)
  exact hr.sublist List.filter_sublist

theorem SoundAs.mem_stale_iff (h : n.SoundAs own) {records : List Record} {id : String} :
    id ∈ n.stale records ↔
      (n.followed id).isSome = true ∧ (records.find? fun r => r.clientId = id) = none := by
  rw [stale, List.mem_filter, List.mem_map]
  have hrec : (!(records.any fun r => r.clientId = id)) = true
      ↔ (records.find? fun r => r.clientId = id) = none := by
    rw [List.find?_eq_none, Bool.not_eq_true', List.any_eq_false]
  rw [hrec]
  apply and_congr_left
  intro _
  constructor
  · rintro ⟨p, hp, rfl⟩
    obtain ⟨hf, ha⟩ := h.mem_remote_iff.1 hp
    rw [followed_eq_some_iff.2 ⟨p, hf, ha, rfl⟩]
    rfl
  · intro hs
    obtain ⟨r, hr⟩ := Option.isSome_iff_exists.1 hs
    obtain ⟨p, hf, ha, -⟩ := followed_eq_some_iff.1 hr
    have hid := (h.proxies id p hf).clientId
    exact ⟨p, h.mem_remote_iff.2 ⟨hid.symm ▸ hf, ha⟩, hid⟩

theorem SoundAs.length_stale (h : n.SoundAs own) (records : List Record) :
    (n.stale records).length = n.proxies.countP fun p =>
      !p.isAttached && !(records.any fun r => r.clientId = p.clientId) := by
  rw [stale, ← List.countP_eq_length_filter, List.countP_map, remote, List.countP_filter]
  apply List.countP_congr
  intro p hp
  have hs := (h.mem_proxies hp).2
  rw [h.channel, hs.isRemote_eq, Function.comp_apply, Bool.and_comm]

/-- The registry of an instance after a resync: the attached clients are as they were, and every other
client is as its record says. -/
def Refreshed (n : Node) (own : String) (records : Table Record) (n' : Node) : Prop :=
  ∀ id, n'.registry.find? id = if n.isLocal id = true then n.registry.find? id else
    ((records.find? id).filter fun r => r.owner ≠ own).map (Proxy.mirror · none)

/-- Taking over all foreign records and forgetting the clients that none of them is about. -/
theorem SoundAs.refreshed (h : n.SoundAs own) {s : Store} {n₁ n₂ : Node} {stats stats' : ResyncStats}
    (ha : n.Absorbs stats (s.foreign own) n₁ stats')
    (hf : ∀ id, n₂.registry.find? id
      = if id ∈ n.stale (s.foreign own) then none else n₁.registry.find? id) :
    n.Refreshed own s.records n₂ := by
  intro id
  rw [hf id, ha.find? id, Store.find?_foreign]
  by_cases hid : id ∈ n.stale (s.foreign own)
  · obtain ⟨hs, hnone⟩ := h.mem_stale_iff.1 hid
    rw [Store.find?_foreign] at hnone
    have hl : n.isLocal id ≠ true := by
      intro hl
      rw [followed_of_isLocal hl] at hs
      cases hs
    rw [if_pos hid, if_neg hl, hnone]
    rfl
  · rw [if_neg hid]
    cases hl : n.isLocal id with
    | true => rfl
    | false =>
      simp only [Bool.false_eq_true, if_false]
      cases hr : (s.records.find? id).filter fun r => r.owner ≠ own with
      | some r => rfl
      | none =>
        -- without a record the client is not even followed, or it would be stale
        rw [h.mem_stale_iff, Store.find?_foreign, hr] at hid
        cases hp : n.registry.find? id with
        | none => rfl
        | some p =>
          have hap := isLocal_eq_false_iff.1 hl p hp
          have hfp : n.followed id = some p.record := followed_eq_some_iff.2 ⟨p, hp, hap, rfl⟩
          exact absurd ⟨by rw [hfp]; rfl, rfl⟩ hid

/-- What a resync does if the store answers. -/
theorem SoundAs.resync_eq (h : n.SoundAs own) {b : Backend}
    (hb : b.foreign own = { result := .ok (b.store.foreign own), backend := b }) :
    ∃ stats n', n.resync b = { result := .ok stats, subject := n', backend := b }
      ∧ n.Refreshed own b.store.records n'
      ∧ (stats.created + stats.updated
          = (b.store.foreign own).countP fun r => !n.isLocal r.clientId)
      ∧ stats.updated = (b.store.foreign own).countP n.knows
      ∧ stats.pruned = (n.stale (b.store.foreign own)).length := by
  have ho : ∀ r ∈ b.store.foreign own, r.owner ≠ own :=
    fun r hr => (Store.mem_foreign_iff.1 hr).2
  obtain ⟨stats, n₁, h₁, ha⟩ := applyAll_absorbs h ho (b.store.nodup_foreign own) {}
  have hstale : ∀ id ∈ n.stale (b.store.foreign own), (n₁.followed id).isSome = true := by
    intro id hid
    obtain ⟨hs, hnone⟩ := h.mem_stale_iff.1 hid
    rw [followed_congr (n := n)]
    · exact hs
    · rw [ha.find? id, hnone]
      split <;> rfl
  obtain ⟨n₂, h₂, -, hf⟩ := pruneAll_eq (h.nodup_stale _) hstale stats
  refine ⟨{ stats with pruned := stats.pruned + (n.stale (b.store.foreign own)).length }, n₂,
    ?_, h.refreshed ha hf, ?_, ?_, ?_⟩
  · rw [Node.resync, h.channel, hb]
    simp only [h₁]
    rw [stale] at h₂
    simp only [h₂]
    rfl
  · have ht := ha.total
    simpa using ht
  · have hu := ha.updated
    simpa using hu
  · have hp := ha.pruned
    simpa using hp

theorem foreign_eq (b : Backend) (channel : String) :
    b.foreign channel = { result := .ok (b.store.foreign channel), backend := b }
      ∨ ∃ e b', b.foreign channel = { result := .error e, backend := b' } := by
  unfold Backend.foreign Backend.attempt
  split
  · exact .inr ⟨_, _, rfl⟩
  · exact .inl rfl

theorem foreign_of_resync_ok (h : n.SoundAs own) {b : Backend} {stats : ResyncStats}
    (hr : (n.resync b).result = .ok stats) :
    b.foreign own = { result := .ok (b.store.foreign own), backend := b } := by
  rcases foreign_eq b own with hb | ⟨e, b', hb⟩
  · exact hb
  · rw [resync, h.channel, hb] at hr
    cases hr

/-- A resync that finds nothing new. -/
theorem SoundAs.resync_of_known (h : n.SoundAs own) {b : Backend}
    (hb : b.foreign own = { result := .ok (b.store.foreign own), backend := b })
    (hf : ∀ id, n.isLocal id = false → n.registry.find? id
      = ((b.store.records.find? id).filter fun r => r.owner ≠ own).map (Proxy.mirror · none)) :
    ∃ k, n.resync b = { result := .ok { updated := k }, subject := n, backend := b } := by
  have hknown : ∀ r ∈ b.store.foreign own, r.owner ≠ own ∧
      (n.isLocal r.clientId = true ∨ n.registry.find? r.clientId = some (.mirror r none)) := by
    intro r hr
    obtain ⟨hrec, ho⟩ := Store.mem_foreign_iff.1 hr
    refine ⟨ho, ?_⟩
    cases hl : n.isLocal r.clientId with
    | true => exact .inl rfl
    | false =>
      rw [hf _ hl, hrec, Option.filter_some, if_pos (decide_eq_true ho)]
      exact .inr rfl
  have hstale : n.stale (b.store.foreign own) = [] := by
    rw [List.eq_nil_iff_forall_not_mem]
    intro id hid
    obtain ⟨hs, hnone⟩ := h.mem_stale_iff.1 hid
    rw [Store.find?_foreign] at hnone
    have hl : n.isLocal id = false := by
      rw [← Bool.not_eq_true]
      intro hl
      rw [followed_of_isLocal hl] at hs
      cases hs
    have hp := hf id hl
    rw [hnone] at hp
    rw [followed, hp] at hs
    cases hs
  obtain ⟨k, hk⟩ := applyAll_of_known h hknown {}
  refine ⟨0 + k, ?_⟩
  rw [stale] at hstale
  rw [Node.resync, h.channel, hb]
  simp only [hk, hstale, List.foldl_nil]

namespace Refreshed

variable {n' : Node} {records : Table Record} {id : String} {p : Proxy}

theorem isLocal (h : n.Refreshed own records n') (id : String) : n'.isLocal id = n.isLocal id := by
  cases hl : n.isLocal id with
  | true =>
    rw [isLocal_congr (n := n), hl]
    rw [h id, if_pos hl]
  | false =>
    rw [isLocal_eq_false_iff]
    intro p hp
    rw [h id, hl, if_neg Bool.false_ne_true, Option.map_eq_some_iff] at hp
    obtain ⟨r, -, rfl⟩ := hp
    rfl

theorem of_elsewhere (h : n.Refreshed own records n') (hl : n'.isLocal id = false) :
    n'.registry.find? id
      = ((records.find? id).filter fun r => r.owner ≠ own).map (Proxy.mirror · none) := by
  rw [h.isLocal id] at hl
  rw [h id, hl, if_neg Bool.false_ne_true]

theorem find?_of_attached (h : n.Refreshed own records n') (ha : p.isAttached = true) :
    n'.registry.find? id = some p ↔ n.registry.find? id = some p := by
  constructor
  · intro hp
    have hl : n.isLocal id = true := by
      rw [← h.isLocal id, isLocal_eq_true_iff]
      exact ⟨p, hp, ha⟩
    rw [h id, if_pos hl] at hp
    exact hp
  · intro hp
    have hl : n.isLocal id = true := isLocal_eq_true_iff.2 ⟨p, hp, ha⟩
    rw [h id, if_pos hl]
    exact hp

theorem find?_elsewhere_iff (h : n.Refreshed own records n')
    (hkeyed : ∀ id r, records.find? id = some r → r.clientId = id) :
    n'.registry.find? id = some p ∧ p.isAttached = false ↔
      ∃ r, records.find? id = some r ∧ r.owner ≠ own ∧ n.isLocal id = false
        ∧ p.clientId = id ∧ p.record = r ∧ p.principal = none ∧ p = .mirror r none := by
  constructor
  · rintro ⟨hp, ha⟩
    have hl : n'.isLocal id = false := (isLocal_of_find? hp).trans ha
    rw [h.of_elsewhere hl, Option.map_eq_some_iff] at hp
    obtain ⟨r, hr, rfl⟩ := hp
    rw [Option.filter_eq_some_iff] at hr
    exact ⟨r, hr.1, of_decide_eq_true hr.2, h.isLocal id ▸ hl, hkeyed id r hr.1, rfl, rfl, rfl⟩
  · rintro ⟨r, hr, ho, hl, -, -, -, rfl⟩
    rw [h id, hl, if_neg Bool.false_ne_true, hr, Option.filter_some, if_pos (decide_eq_true ho)]
    exact ⟨rfl, rfl⟩

end Refreshed

/-- After a resync the clients elsewhere are those of the foreign records, whatever was registered
before; attached clients are untouched, the counts are exact, and a second resync finds nothing to
do. -/
theorem resync_exact {n : Node} (hn : n.Reachable) {b : Backend} {stats : ResyncStats}
    (h : (n.resync b).result = .ok stats) :
    (∀ id p, ((n.resync b).subject.registry.find? id = some p ∧ p.isAttached = false) ↔
      ∃ r, b.store.records.find? id = some r ∧ r.owner ≠ n.channel ∧ n.isLocal id = false
        ∧ p.clientId = id ∧ p.record = r ∧ p.principal = none ∧ p = .mirror r none)
    ∧ (∀ id p, p.isAttached = true →
      ((n.resync b).subject.registry.find? id = some p ↔ n.registry.find? id = some p))
    ∧ stats.created + stats.updated
        = ((b.store.foreign n.channel).countP fun r => !n.isLocal r.clientId)
    ∧ stats.updated = (b.store.foreign n.channel).countP n.knows
    ∧ stats.pruned = (n.proxies.countP fun p => !p.isAttached
        && !((b.store.foreign n.channel).any fun r => r.clientId = p.clientId))
    ∧ ∀ b₂ : Backend, b₂.store = b.store →
        ((n.resync b).subject.resync b₂).subject = (n.resync b).subject
        ∧ ((b₂.foreign n.channel).result.isOk = true → ∃ k,
            ((n.resync b).subject.resync b₂).result
              = .ok { created := 0, updated := k, pruned := 0 }) := by
  have hs := hn.soundAs
  obtain ⟨stats', n', hr, hf, htotal, hupdated, hpruned⟩ :=
    hs.resync_eq (foreign_of_resync_ok hs h)
  have hs' : n'.SoundAs n.channel := by
    have hs' := hs.resync b
    rw [hr] at hs'
    exact hs'
  rw [hr] at h ⊢
  cases h
  refine ⟨fun id p => hf.find?_elsewhere_iff b.store.keyed, fun id p ha => hf.find?_of_attached ha,
    htotal, hupdated, ?_, ?_⟩
  · rw [hpruned, hs.length_stale]
  · intro b₂ hb₂
    -- the second resync fails at the store or finds the records that the first one found
    rcases foreign_eq b₂ n.channel with hb | ⟨e, b', hb⟩
    · obtain ⟨k, hk⟩ := hs'.resync_of_known hb fun id hl => hb₂ ▸ hf.of_elsewhere hl
      simp only [hk]
      exact ⟨trivial, fun _ => ⟨k, rfl⟩⟩
    · constructor
      · simp only [resync, hs'.channel, hb]
      · intro hok
        rw [hb] at hok
        cases hok

/-- The services with records of some clients. -/
def servicesOf (records : List Record) : Backend :=
  { store := records.foldl Store.insertRecord .empty, clock := ⟨0, 0⟩ }

/-- The records of three clients, and what becomes of them: one goes, one moves and one stays. By then
a peer claims a client that is attached. -/
def earlier : Backend :=
  servicesOf [⟨"gone", "b", .empty, "", "b"⟩, ⟨"moved", "b", .empty, "", "b"⟩,
    ⟨"stayed", "b", .empty, "", "b"⟩]

def later : Backend :=
  servicesOf [⟨"mine", "b", .empty, "", "b"⟩, ⟨"moved", "c", .empty, "", "c"⟩,
    ⟨"new", "c", .empty, "", "c"⟩, ⟨"stayed", "b", .empty, "", "b"⟩]

/-- An instance that resynced before a client was attached to it. -/
def resyncedThenJoined : Node :=
  ((Node.resync { channel := "a" } earlier).subject.registerLocal (.connect "mine" 1)).2

theorem resync_exact_mixed :
    resyncedThenJoined.Reachable
    ∧ (resyncedThenJoined.resync later).result = .ok { created := 2, updated := 1, pruned := 1 }
    ∧ (2 + 1 = (later.store.foreign "a").countP fun r => !resyncedThenJoined.isLocal r.clientId)
    ∧ (resyncedThenJoined.resync later).subject.registry.find? "moved"
        = some (.mirror ⟨"moved", "c", .empty, "", "c"⟩ none) := by
  have hc : create "a" {} {} = .ok { channel := "a" } := rfl
  have hn : resyncedThenJoined.Reachable :=
    .step (.step (.created hc) (.resync _ _)) (.registerLocal _ _)
  have h : (resyncedThenJoined.resync later).result
      = .ok { created := 2, updated := 1, pruned := 1 } := rfl
  obtain ⟨helsewhere, -, htotal, -, -, -⟩ := resync_exact hn h
  have hl : resyncedThenJoined.isLocal "moved" = false := rfl
  have hr : later.store.records.find? "moved" = some ⟨"moved", "c", .empty, "", "c"⟩ := rfl
  have hmoved := (helsewhere "moved" (.mirror ⟨"moved", "c", .empty, "", "c"⟩ none)).2
    ⟨_, hr, by decide, hl, rfl, rfl, rfl, rfl⟩
  exact ⟨hn, h, htotal, hmoved.1⟩

end Node

end TopicMesh
