import TopicMesh.Proofs.Log
import TopicMesh.Proofs.Node.Heard
import TopicMesh.Proofs.Node.Resync

/-!
# TopicMesh.Proofs.Node.Follow

What an instance follows after it heard something. An announcement changes what is kept of a client
elsewhere as `Announcement.revise` says (`find?_follow`), so that the view of its record changes as
`Announcement.effect` says (`follow_view`); catching up copies the view from the record table
(`catchUp_view`). Neither touches an attached client or the services.
-/

namespace TopicMesh.Node

variable {own : String} {n : Node} {b : Backend}

theorem find?_foldl_unregister (ids : List String) (n : Node) (id : String) :
    (ids.foldl unregister n).registry.find? id
      = if id ∈ ids then none else n.registry.find? id := by
  induction ids generalizing n with
  | nil => rfl
  | cons c ids ih =>
    rw [List.foldl_cons, ih, unregister_registry, Table.find?_erase]
    by_cases hc : c = id
    · simp [hc]
    · simp [hc, Ne.symm hc]

theorem SoundAs.find?_forgetChannel (h : n.SoundAs own) (channel id : String) :
    (n.forgetChannel channel).registry.find? id
      = if (n.followed id).any (fun r => r.owner = channel) = true then none
        else n.registry.find? id := by
  rw [forgetChannel, find?_foldl_unregister]
  congr 1
  rw [eq_iff_iff, List.mem_map, Option.any_eq_true]
  constructor
  · rintro ⟨p, hp, rfl⟩
    obtain ⟨hr, ho⟩ := List.mem_filter.1 hp
    obtain ⟨hf, ha⟩ := h.mem_remote_iff.1 hr
    exact ⟨p.record, followed_eq_some_iff.2 ⟨p, hf, ha, rfl⟩, ho⟩
  · rintro ⟨r, hr, ho⟩
    obtain ⟨p, hf, ha, rfl⟩ := followed_eq_some_iff.1 hr
    have hid := (h.proxies id p hf).clientId
    exact ⟨p, List.mem_filter.2 ⟨h.mem_remote_iff.2 ⟨hid.symm ▸ hf, ha⟩, ho⟩, hid⟩

/-! ## The proxy of a client elsewhere -/

/-- What an instance keeps of a record that a peer announced. -/
def keep (n : Node) (r : Record) (snapshot : Option Json) : Proxy :=
  .mirror r (Proxy.resolvePrincipal n.schema r snapshot)

theorem applyRecord_view (h : n.SoundAs own) (r : Record) (snapshot : Option Json) :
    ∃ applied n', n.applyRecord r snapshot = .ok (applied, n')
      ∧ ∀ id, n.isLocal id = false → n'.registry.find? id
          = if r.clientId = id ∧ r.owner ≠ own then some (n.keep r snapshot)
            else n.registry.find? id := by
  by_cases ho : r.owner = own
  · refine ⟨_, n, applyRecord_of_owner h ho snapshot, ?_⟩
    intro id _
    rw [if_neg fun hc => hc.2 ho]
  · cases hl : n.isLocal r.clientId with
    | true =>
      refine ⟨_, n, applyRecord_of_isLocal hl snapshot, ?_⟩
      intro id hid
      rw [if_neg]
      rintro ⟨rfl, -⟩
      rw [hl] at hid
      cases hid
    | false =>
      obtain ⟨applied, n', happ, hreg, -⟩ := applyRecord_taken h ho hl snapshot
      refine ⟨applied, n', happ, ?_⟩
      intro id _
      rw [hreg, Table.find?_insert]
      simp only [ho, ne_eq, not_false_eq_true, and_true]
      rfl

theorem find?_forget {id : String} (hl : n.isLocal id = false) (c : String) :
    (n.forget c).registry.find? id = if c = id then none else n.registry.find? id := by
  unfold forget
  split
  · rename_i hc
    split
    · rename_i hid
      rw [← hid, hc]
    · rfl
  · rename_i p hp
    split
    · rename_i ha
      rw [if_neg]
      rintro rfl
      rw [isLocal_of_find? hp, ha] at hl
      cases hl
    · rw [unregister_registry, Table.find?_erase]

theorem SoundAs.filter_forgetChannel (h : n.SoundAs own) {id : String} (hl : n.isLocal id = false)
    (channel : String) : (n.forgetChannel channel).registry.find? id
      = (n.registry.find? id).filter fun p => p.record.owner ≠ channel := by
  rw [h.find?_forgetChannel]
  cases hp : n.registry.find? id with
  | none =>
    split
    · rfl
    · rfl
  | some p =>
    have ha : p.isAttached = false := isLocal_eq_false_iff.1 hl p hp
    have hf : n.followed id = some p.record := followed_eq_some_iff.2 ⟨p, hp, ha, rfl⟩
    rw [hf, Option.filter_some]
    by_cases ho : p.record.owner = channel
    · simp [ho]
    · simp [ho]

/-- One announcement revises what an instance keeps of a client elsewhere, whatever the services
do. -/
theorem SoundAs.find?_follow (h : n.SoundAs own) {id : String} (hl : n.isLocal id = false)
    (a : Announcement) (b : Backend) : (n.follow a b).subject.registry.find? id
      = a.revise own id n.keep (fun p => p.record.owner) (n.registry.find? id) := by
  unfold follow
  rw [h.channel]
  split
  · rename_i ho
    cases a with
    | upsert r snapshot =>
      have hu : r.updatedBy = own := Option.some.inj ho
      rw [Announcement.revise, if_neg fun hc => hc.2.1 hu]
    | delete c => cases ho
    | offline channel => cases ho
    | collectionsUpdated => rfl
    | settingsUpdated => rfl
  · rename_i ho
    cases a with
    | upsert r snapshot =>
      have hu : r.updatedBy ≠ own := fun hu => ho (congrArg some hu)
      obtain ⟨applied, n', happ, hf⟩ := applyRecord_view h r snapshot
      simp only [happ]
      rw [hf id hl, Announcement.revise]
      simp only [hu, ne_eq, not_false_eq_true, true_and]
    | delete c => exact find?_forget hl c
    | offline channel =>
      simp only [Announcement.revise]
      split
      · rfl
      · exact h.filter_forgetChannel hl channel
    | collectionsUpdated =>
      simp only [reloadCollections]
      split <;> rfl
    | settingsUpdated =>
      simp only [reloadSettings]
      split <;> rfl

/-! ## The record of a client elsewhere -/

theorem reloadCollections_eq (n : Node) (hb : b.outages = []) :
    n.reloadCollections b = ({ n with schema := n.schema.reloadCollections }, b) := by
  rw [reloadCollections, Backend.requestReload, Backend.attempt_of_no_outages hb]

theorem reloadSettings_eq (n : Node) (hb : b.outages = []) :
    n.reloadSettings b = ({ n with schema := n.schema.reloadSettings }, b) := by
  rw [reloadSettings, Backend.requestReload, Backend.attempt_of_no_outages hb]

theorem follow_backend (n : Node) (a : Announcement) (hb : b.outages = []) :
    (n.follow a b).backend = b := by
  unfold follow
  split
  · rfl
  · cases a with
    | upsert r snapshot =>
      simp only
      split <;> rfl
    | delete c => rfl
    | offline channel => rfl
    | collectionsUpdated => simp only [reloadCollections_eq n hb]
    | settingsUpdated => simp only [reloadSettings_eq n hb]

/-- Nothing is attached under the id of a client elsewhere. -/
theorem followed_of_elsewhere {id : String} (hl : n.isLocal id = false) :
    n.followed id = (n.registry.find? id).map (·.record) := by
  rw [followed]
  cases hp : n.registry.find? id with
  | none => rfl
  | some p =>
    rw [Option.filter_some, isLocal_eq_false_iff.1 hl p hp]
    rfl

theorem follow_view (h : n.SoundAs own) (hb : b.outages = []) (a : Announcement) :
    (n.follow a b).backend = b
      ∧ (∀ id, (n.follow a b).subject.isLocal id = n.isLocal id)
      ∧ ∀ id, n.isLocal id = false →
          (n.follow a b).subject.followed id = a.effect own id (n.followed id) := by
  have hl := (h.spares_follow a b).isLocal
  refine ⟨follow_backend n a hb, hl, ?_⟩
  intro id hid
  rw [followed_of_elsewhere ((hl id).trans hid), h.find?_follow hid, Announcement.map_revise,
    Announcement.effect_eq_revise, followed_of_elsewhere hid]
  rfl

/-- What is heard in a payload is followed; a payload that cannot be read changes nothing. -/
theorem handleControl_view (h : n.SoundAs own) (hb : b.outages = []) (payload : String) :
    (n.handleControl payload b).backend = b
      ∧ (∀ id, (n.handleControl payload b).subject.isLocal id = n.isLocal id)
      ∧ ∀ id, n.isLocal id = false → (n.handleControl payload b).subject.followed id
          = Announcement.replay own id (Announcement.heard [payload]) (n.followed id) := by
  unfold handleControl
  split
  · rename_i e he
    refine ⟨rfl, fun _ => rfl, ?_⟩
    intro id _
    rw [Announcement.heard_cons_of_error he]
    rfl
  · rename_i a ha
    obtain ⟨hback, hl, hf⟩ := follow_view h hb a
    refine ⟨hback, hl, ?_⟩
    intro id hid
    rw [Announcement.heard_cons_of_ok ha]
    exact hf id hid

theorem catchUp_view (h : n.SoundAs own) (hb : b.outages = []) :
    (n.catchUp b).result = .ok () ∧ (n.catchUp b).backend = b
      ∧ (∀ id, (n.catchUp b).subject.isLocal id = n.isLocal id)
      ∧ ∀ id, n.isLocal id = false →
          (n.catchUp b).subject.followed id = visibleTo own b.store.records id := by
  have hforeign : b.foreign own = { result := .ok (b.store.foreign own), backend := b } := by
    rw [Backend.foreign, Backend.attempt_of_no_outages hb]
  obtain ⟨stats, n', hr, hf, -, -, -⟩ := h.resync_eq hforeign
  have hcatch : n.catchUp b
      = { result := .ok ()
          subject := { n' with schema := n'.schema.reloadCollections.reloadSettings }
          backend := b } := by
    unfold catchUp
    simp only [hr]
    rw [reloadCollections_eq n' hb]
    simp only
    rw [reloadSettings_eq _ hb]
  rw [hcatch]
  refine ⟨rfl, rfl, ?_, ?_⟩
  · intro id
    have hid := hf id
    cases hl : n.isLocal id with
    | true =>
      rw [if_pos hl] at hid
      rw [← hl]
      exact isLocal_congr hid
    | false =>
      rw [hl, if_neg Bool.false_ne_true] at hid
      rw [isLocal_eq_false_iff]
      intro p hp
      have hp : n'.registry.find? id = some p := hp
      rw [hid, Option.map_eq_some_iff] at hp
      obtain ⟨r, -, rfl⟩ := hp
      rfl
  · intro id hl
    have hid := hf id
    rw [hl, if_neg Bool.false_ne_true] at hid
    have hfollow : n'.followed id = visibleTo own b.store.records id := by
      rw [followed, hid, visibleTo]
      cases (b.store.records.find? id).filter fun r => r.owner ≠ own with
      | none => rfl
      | some r => rfl
    exact hfollow

end TopicMesh.Node
