import TopicMesh.Proofs.Node.Sound

/-!
# TopicMesh.Proofs.Node.Mirror

What an instance knows of one client, and what a record that it takes over does to that.

* `Node.isLocal`  — the client is attached here.
* `Node.followed` — the record of a client elsewhere.
* `Node.Mirrors`  — the clients elsewhere are those of the foreign records in a table, each with its
  record.

A record that is taken over leads to one and the same proxy, whatever the instance knew of the client
before (`applyRecord_taken`).
-/

namespace TopicMesh

namespace Node

def isLocal (n : Node) (id : String) : Bool := (n.registry.find? id).any Proxy.isAttached

def followed (n : Node) (id : String) : Option Record :=
  ((n.registry.find? id).filter fun p => !p.isAttached).map (·.record)

structure Mirrors (n : Node) (records : Table Record) : Prop where
  sound : ∀ id p, n.registry.find? id = some p → p.isAttached = false →
    p.clientId = id ∧ p.record.owner ≠ n.channel ∧ records.find? id = some p.record
  complete : ∀ id r, records.find? id = some r → r.owner ≠ n.channel →
    n.isLocal id = true ∨ ∃ p, n.registry.find? id = some p ∧ p.isAttached = false ∧ p.record = r

variable {own : String} {n : Node}

theorem isLocal_eq_true_iff {id : String} :
    n.isLocal id = true ↔ ∃ p, n.registry.find? id = some p ∧ p.isAttached = true := by
  unfold isLocal
  cases h : n.registry.find? id with
  | none => simp
  | some p => simp

theorem isLocal_eq_false_iff {id : String} :
    n.isLocal id = false ↔ ∀ p, n.registry.find? id = some p → p.isAttached = false := by
  unfold isLocal
  cases h : n.registry.find? id with
  | none => simp
  | some p => simp

theorem isLocal_of_localProxy_error {id : String} {e : MeshError}
    (h : n.localProxy id = .error e) : n.isLocal id = false := by
  apply isLocal_eq_false_iff.2
  intro p hp
  cases ha : p.isAttached with
  | false => rfl
  | true => simp [localProxy, hp, ha] at h

theorem isLocal_of_find? {id : String} {p : Proxy} (h : n.registry.find? id = some p) :
    n.isLocal id = p.isAttached := by
  rw [isLocal, h]
  rfl

theorem followed_eq_some_iff {id : String} {r : Record} :
    n.followed id = some r ↔
      ∃ p, n.registry.find? id = some p ∧ p.isAttached = false ∧ p.record = r := by
  unfold followed
  cases h : n.registry.find? id with
  | none => simp
  | some p => cases hp : p.isAttached <;> simp [Option.filter, hp]

theorem followed_of_isLocal {id : String} (h : n.isLocal id = true) : n.followed id = none := by
  obtain ⟨p, hp, ha⟩ := isLocal_eq_true_iff.1 h
  simp [followed, hp, ha, Option.filter]

/-- Views of one client depend on its entry only. -/
theorem isLocal_congr {n' : Node} {id : String}
    (h : n'.registry.find? id = n.registry.find? id) : n'.isLocal id = n.isLocal id := by
  rw [isLocal, isLocal, h]

theorem followed_congr {n' : Node} {id : String}
    (h : n'.registry.find? id = n.registry.find? id) : n'.followed id = n.followed id := by
  rw [followed, followed, h]

theorem SoundAs.owner_of_followed (h : n.SoundAs own) {id : String} {r : Record}
    (hr : n.followed id = some r) : r.clientId = id ∧ r.owner ≠ own := by
  obtain ⟨p, hp, ha, rfl⟩ := followed_eq_some_iff.1 hr
  have hs := h.proxies id p hp
  exact ⟨hs.recordId, hs.owner_ne ha⟩

theorem SoundAs.mirrors_iff (h : n.SoundAs own) {records : Table Record} :
    n.Mirrors records ↔ ∀ id, n.isLocal id = false →
      n.followed id = (records.find? id).filter fun r => r.owner ≠ own := by
  constructor
  · intro hm id hl
    apply Option.ext
    intro r
    rw [followed_eq_some_iff, Option.filter_eq_some_iff]
    constructor
    · rintro ⟨p, hp, ha, rfl⟩
      obtain ⟨-, ho, hr⟩ := hm.sound id p hp ha
      rw [h.channel] at ho
      exact ⟨hr, decide_eq_true ho⟩
    · rintro ⟨hr, ho⟩
      have ho : r.owner ≠ n.channel := h.channel ▸ of_decide_eq_true ho
      rcases hm.complete id r hr ho with hloc | hp
      · rw [hl] at hloc
        cases hloc
      · exact hp
  · intro hv
    constructor
    · intro id p hp ha
      have hl : n.isLocal id = false := (isLocal_of_find? hp).trans ha
      have hf : n.followed id = some p.record := followed_eq_some_iff.2 ⟨p, hp, ha, rfl⟩
      rw [hv id hl, Option.filter_eq_some_iff] at hf
      rw [h.channel]
      exact ⟨(h.proxies id p hp).clientId, of_decide_eq_true hf.2, hf.1⟩
    · intro id r hr ho
      cases hl : n.isLocal id with
      | true => exact .inl rfl
      | false =>
        rw [h.channel] at ho
        have hf : n.followed id = some r := by
          rw [hv id hl, hr, Option.filter_some, if_pos (decide_eq_true ho)]
        exact .inr (followed_eq_some_iff.1 hf)

theorem SoundAs.mem_remote_iff (h : n.SoundAs own) {p : Proxy} :
    p ∈ n.remote ↔ n.registry.find? p.clientId = some p ∧ p.isAttached = false := by
  rw [remote, List.mem_filter, h.channel]
  constructor
  · rintro ⟨hp, hr⟩
    obtain ⟨hf, hs⟩ := h.mem_proxies hp
    rw [hs.isRemote_eq, Bool.not_eq_true'] at hr
    exact ⟨hf, hr⟩
  · rintro ⟨hf, ha⟩
    refine ⟨List.mem_map.2 ⟨_, (Table.mem_entries_iff _ _ _).2 hf, rfl⟩, ?_⟩
    rw [(h.proxies _ _ hf).isRemote_eq, ha]
    rfl

/-! ## One record -/

/-- Whether the record's client is followed already, under the same owner. -/
def knows (n : Node) (r : Record) : Bool :=
  (n.followed r.clientId).any fun old => old.owner = r.owner

theorem applyRecord_of_owner (h : n.SoundAs own) {r : Record} (ho : r.owner = own)
    (snapshot : Option Json) : n.applyRecord r snapshot = .ok (.skippedLocal, n) := by
  rw [applyRecord, h.channel, if_pos ho]

theorem applyRecord_of_isLocal {r : Record} (hl : n.isLocal r.clientId = true)
    (snapshot : Option Json) : n.applyRecord r snapshot = .ok (.skippedLocal, n) := by
  obtain ⟨p, hp, ha⟩ := isLocal_eq_true_iff.1 hl
  rw [applyRecord]
  split
  · rfl
  · simp [hp, ha]

theorem applyRecord_taken (h : n.SoundAs own) {r : Record} (ho : r.owner ≠ own)
    (hl : n.isLocal r.clientId = false) (snapshot : Option Json) :
    ∃ applied n', n.applyRecord r snapshot = .ok (applied, n')
      ∧ n'.registry = n.registry.insert r.clientId
          (.mirror r (Proxy.resolvePrincipal n.schema r snapshot))
      ∧ (∀ s : ResyncStats, s.count applied = if n.knows r then { s with updated := s.updated + 1 }
          else { s with created := s.created + 1 }) := by
  rw [applyRecord, if_neg (h.channel ▸ ho)]
  cases hf : n.registry.find? r.clientId with
  | none =>
    have hk : n.knows r = false := by simp [knows, followed, hf]
    simp only [adopt_eq]
    refine ⟨_, _, rfl, register_registry _ _, ?_⟩
    intro s
    simp [ResyncStats.count, hk]
  | some p =>
    have ha := isLocal_eq_false_iff.1 hl p hf
    have hk : n.knows r = decide (p.record.owner = r.owner) := by
      simp [knows, followed, hf, ha, Option.filter]
    simp only [ha, Bool.false_eq_true, if_false]
    split
    · rename_i hsame
      rw [(h.proxies _ p hf).receive_eq ha rfl hsame]
      refine ⟨_, _, rfl, putBack_registry _ _ _, ?_⟩
      intro s
      simp [ResyncStats.count, hk, hsame]
    · rename_i hother
      simp only [adopt_eq]
      refine ⟨_, _, rfl, register_registry _ _, ?_⟩
      intro s
      simp [ResyncStats.count, hk, hother]

end Node

end TopicMesh
