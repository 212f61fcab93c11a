import TopicMesh.Proofs.Node.Mirror

/-!
# TopicMesh.Proofs.Node.Heard

What an instance hears on the control channel, and what it leaves alone then, whoever wrote it.

* `Node.hearAll`  — an instance that hears any payloads and reconnects any number of times.
* `Node.Spares`   — the attached clients, registered or retired, are as they were.
* `Backend.Rests` — nothing was written to the store, and nothing was published.

Each way in which a registry changes here replaces the proxy of a client that is not attached by
another one like that, or by none (`spares_of_replaced`).
-/

namespace TopicMesh

/-- Something that happens on the control channel of an instance. -/
inductive Heard where
  | payload (text : String)
  /-- The channel was connected, and announcements may have been missed. -/
  | connected
deriving DecidableEq, Repr

namespace Backend

/-- Only the outages may be different: nothing was written and nothing was published. -/
def Rests (b b' : Backend) : Prop := ∃ outages, b' = { b with outages }

theorem Rests.refl (b : Backend) : b.Rests b := ⟨b.outages, rfl⟩

theorem Rests.trans {b b' b'' : Backend} (h : b.Rests b') (h' : b'.Rests b'') : b.Rests b'' := by
  obtain ⟨_, rfl⟩ := h
  obtain ⟨outages, rfl⟩ := h'
  exact ⟨outages, rfl⟩

theorem attempt_rests {α : Type} {b : Backend} {go : Backend → Reply α}
    (h : b.Rests (go b).backend) (call : Call) : b.Rests (b.attempt call go).backend := by
  unfold attempt
  split
  · exact ⟨_, rfl⟩
  · exact h

theorem foreign_rests (b : Backend) (channel : String) : b.Rests (b.foreign channel).backend :=
  attempt_rests (.refl b) .foreign

theorem requestReload_rests (b : Backend) (call : Call) : b.Rests (b.requestReload call).backend :=
  attempt_rests (.refl b) call

end Backend

namespace Node

def hear (n : Node) (heard : Heard) (b : Backend) : Outcome Node Unit :=
  match heard with
  | .payload text => n.handleControl text b
  | .connected => n.catchUp b

/-- The instance after it heard several things, each with the services as they have become by then. -/
def hearAll (n : Node) (heard : List (Heard × Backend)) : Node :=
  heard.foldl (fun n h => (n.hear h.1 h.2).subject) n

/-- The attached clients are the same in both, and their proxies too. -/
structure Spares (n n' : Node) : Prop where
  channel : n'.channel = n.channel
  attached : ∀ id p, p.isAttached = true →
    (n'.registry.find? id = some p ↔ n.registry.find? id = some p)
  retired : n'.retired = n.retired

variable {own : String} {n n' n'' : Node}

namespace Spares

theorem refl (n : Node) : n.Spares n := ⟨rfl, fun _ _ _ => Iff.rfl, rfl⟩

theorem trans (h : n.Spares n') (h' : n'.Spares n'') : n.Spares n'' where
  channel := h'.channel.trans h.channel
  attached id p ha := (h'.attached id p ha).trans (h.attached id p ha)
  retired := h'.retired.trans h.retired

theorem isLocal (h : n.Spares n') (id : String) : n'.isLocal id = n.isLocal id := by
  rw [Bool.eq_iff_iff, isLocal_eq_true_iff, isLocal_eq_true_iff]
  constructor
  · rintro ⟨p, hp, ha⟩
    exact ⟨p, (h.attached id p ha).1 hp, ha⟩
  · rintro ⟨p, hp, ha⟩
    exact ⟨p, (h.attached id p ha).2 hp, ha⟩

end Spares

/-! ## The registry -/

theorem spares_of_replaced {id : String} (hl : n.isLocal id = false) (hl' : n'.isLocal id = false)
    (hother : ∀ c, id ≠ c → n'.registry.find? c = n.registry.find? c)
    (hc : n'.channel = n.channel) (hr : n'.retired = n.retired) : n.Spares n' := by
  refine ⟨hc, ?_, hr⟩
  intro c p ha
  by_cases hid : id = c
  · have hnot : ∀ {m : Node}, m.isLocal id = false → m.registry.find? c ≠ some p := by
      intro m hm hp
      rw [← hid] at hp
      rw [isLocal_eq_true_iff.2 ⟨p, hp, ha⟩] at hm
      cases hm
    exact iff_of_false (hnot hl') (hnot hl)
  · rw [hother c hid]

/-- Nothing is retired for a client that is not attached. -/
theorem retire_of_elsewhere {id : String} (hl : n.isLocal id = false) (n' : Node) :
    n'.retire (n.registry.find? id) = n' := by
  unfold retire
  split
  · rename_i p hp
    rw [isLocal_eq_false_iff.1 hl p hp]
    rfl
  · rfl

theorem spares_putBack {id : String} {p : Proxy} (hl : n.isLocal id = false)
    (hp : p.isAttached = false) : n.Spares (n.putBack id p) := by
  refine spares_of_replaced hl ?_ ?_ rfl rfl
  · rw [isLocal_of_find? (Table.find?_insert_self _ _ _), hp]
  · intro c hc
    rw [putBack_registry, Table.find?_insert_other hc]

theorem spares_register {p : Proxy} (hl : n.isLocal p.clientId = false)
    (hp : p.isAttached = false) : n.Spares (n.register p) := by
  rw [register, retire_of_elsewhere hl]
  exact spares_putBack hl hp

theorem spares_unregister {id : String} (hl : n.isLocal id = false) :
    n.Spares (n.unregister id) := by
  rw [unregister, retire_of_elsewhere hl]
  refine spares_of_replaced hl ?_ ?_ rfl rfl
  · rw [isLocal, Table.find?_erase_self]
    rfl
  · intro c hc
    rw [Table.find?_erase_other hc]

theorem spares_unregisterAll {ids : List String} (h : ∀ id ∈ ids, n.isLocal id = false) :
    n.Spares (ids.foldl unregister n) := by
  induction ids generalizing n with
  | nil => exact .refl n
  | cons id ids ih =>
    have hs := spares_unregister (h id List.mem_cons_self)
    refine hs.trans (ih ?_)
    intro c hc
    rw [hs.isLocal c]
    exact h c (List.mem_cons_of_mem id hc)

/-! ## Records -/

theorem spares_applyRecord {r : Record} {snapshot : Option Json} {applied : Applied}
    (h : n.applyRecord r snapshot = .ok (applied, n')) : n.Spares n' := by
  have hadopt : n.isLocal r.clientId = false →
      n.Spares (n.register (.mirror r (Proxy.resolvePrincipal n.schema r snapshot))) :=
    fun hl => spares_register hl rfl
  unfold applyRecord at h
  split at h
  · cases h
    exact .refl n
  · split at h
    · rename_i hnone
      simp only [adopt_eq] at h
      cases h
      exact hadopt (by rw [isLocal, hnone]; rfl)
    · rename_i p hp
      split at h
      · cases h
        exact .refl n
      · rename_i ha
        have hl : n.isLocal r.clientId = false :=
          (isLocal_of_find? hp).trans (Bool.eq_false_iff.2 ha)
        split at h
        · split at h
          · cases h
          · rename_i q hq
            cases h
            obtain ⟨ha, -, rfl⟩ := Proxy.receive_eq_ok hq
            exact spares_putBack hl ha
        · simp only [adopt_eq] at h
          cases h
          exact hadopt hl

theorem spares_applyAll (n : Node) (stats : ResyncStats) (records : List Record) :
    n.Spares (n.applyAll stats records).2 := by
  induction records generalizing n stats with
  | nil => exact .refl n
  | cons r records ih =>
    rw [applyAll]
    split
    · exact .refl n
    · rename_i n' hr
      exact (spares_applyRecord hr).trans (ih n' _)

theorem spares_forget (n : Node) (id : String) : n.Spares (n.forget id) := by
  unfold forget
  split
  · exact .refl n
  · rename_i p hp
    split
    · exact .refl n
    · rename_i ha
      exact spares_unregister ((isLocal_of_find? hp).trans (Bool.eq_false_iff.2 ha))

theorem spares_pruneAll (acc : ResyncStats × Node) (ids : List String) :
    acc.2.Spares (ids.foldl prune acc).2 := by
  induction ids generalizing acc with
  | nil => exact .refl acc.2
  | cons id ids ih =>
    have hs := spares_forget acc.2 id
    rw [← prune_subject] at hs
    exact hs.trans (ih (prune acc id))

theorem spares_resync (n : Node) (b : Backend) : n.Spares (n.resync b).subject := by
  unfold resync
  simp only
  split
  · exact .refl n
  · rename_i records _ _
    have hall := spares_applyAll n {} records
    split
    · rename_i heq
      rw [heq] at hall
      exact hall
    · rename_i stats n' heq
      rw [heq] at hall
      exact hall.trans (spares_pruneAll (stats, n') _)

/-! ## Announcements -/

/-- Only clients elsewhere are forgotten with their channel; an instance takes all those that are not
its own for clients elsewhere, so that soundness is needed here. -/
theorem SoundAs.spares_forgetChannel (h : n.SoundAs own) (channel : String) :
    n.Spares (n.forgetChannel channel) := by
  refine spares_unregisterAll ?_
  intro id hid
  obtain ⟨p, hp, rfl⟩ := List.mem_map.1 hid
  obtain ⟨hf, ha⟩ := h.mem_remote_iff.1 (List.mem_filter.1 hp).1
  rw [isLocal_of_find? hf, ha]

theorem spares_reloadCollections (n : Node) (b : Backend) :
    n.Spares (n.reloadCollections b).1 := by
  unfold reloadCollections
  split
  · exact .refl n
  · exact ⟨rfl, fun _ _ _ => Iff.rfl, rfl⟩

theorem spares_reloadSettings (n : Node) (b : Backend) : n.Spares (n.reloadSettings b).1 := by
  unfold reloadSettings
  split
  · exact .refl n
  · exact ⟨rfl, fun _ _ _ => Iff.rfl, rfl⟩

theorem SoundAs.spares_follow (h : n.SoundAs own) (a : Announcement) (b : Backend) :
    n.Spares (n.follow a b).subject := by
  unfold follow
  split
  · exact .refl n
  · cases a with
    | upsert record snapshot =>
      simp only
      split
      · exact .refl n
      · rename_i hr
        exact spares_applyRecord hr
    | delete id => exact spares_forget n id
    | offline channel =>
      simp only
      split
      · exact .refl n
      · exact h.spares_forgetChannel channel
    | collectionsUpdated => exact spares_reloadCollections n b
    | settingsUpdated => exact spares_reloadSettings n b

theorem SoundAs.spares_handleControl (h : n.SoundAs own) (payload : String) (b : Backend) :
    n.Spares (n.handleControl payload b).subject := by
  unfold handleControl
  split
  · exact .refl n
  · exact h.spares_follow _ b

theorem spares_catchUp (n : Node) (b : Backend) : n.Spares (n.catchUp b).subject := by
  have hr := spares_resync n b
  unfold catchUp
  simp only
  split
  · exact hr
  · exact (hr.trans (spares_reloadCollections _ _)).trans (spares_reloadSettings _ _)

/-! ## The services -/

theorem resync_rests (n : Node) (b : Backend) : b.Rests (n.resync b).backend := by
  have hf := b.foreign_rests n.channel
  unfold resync
  simp only
  split <;> rename_i heq <;> rw [heq] at hf
  · exact hf
  · split <;> exact hf

theorem reloadCollections_rests (n : Node) (b : Backend) :
    b.Rests (n.reloadCollections b).2 := by
  have hr := b.requestReload_rests .reloadCollections
  unfold reloadCollections
  split <;> rename_i heq <;> rw [heq] at hr <;> exact hr

theorem reloadSettings_rests (n : Node) (b : Backend) : b.Rests (n.reloadSettings b).2 := by
  have hr := b.requestReload_rests .reloadSettings
  unfold reloadSettings
  split <;> rename_i heq <;> rw [heq] at hr <;> exact hr

theorem follow_rests (n : Node) (a : Announcement) (b : Backend) :
    b.Rests (n.follow a b).backend := by
  unfold follow
  split
  · exact .refl b
  · cases a with
    | upsert record snapshot =>
      simp only
      split <;> exact .refl b
    | delete id => exact .refl b
    | offline channel => exact .refl b
    | collectionsUpdated => exact n.reloadCollections_rests b
    | settingsUpdated => exact n.reloadSettings_rests b

theorem hear_rests (n : Node) (heard : Heard) (b : Backend) : b.Rests (n.hear heard b).backend := by
  cases heard with
  | payload text =>
    rw [hear, handleControl]
    split
    · exact .refl b
    · exact n.follow_rests _ b
  | connected =>
    have hr := n.resync_rests b
    rw [hear, catchUp]
    simp only
    split
    · exact hr
    · exact (hr.trans (reloadCollections_rests _ _)).trans (reloadSettings_rests _ _)

/-! ## Hearing several things -/

theorem Reachable.hear (hn : n.Reachable) (heard : Heard) (b : Backend) :
    (n.hear heard b).subject.Reachable := by
  cases heard with
  | payload text => exact hn.step (.handleControl n text b)
  | connected => exact hn.step (.catchUp n b)

theorem Reachable.spares_hear (hn : n.Reachable) (heard : Heard) (b : Backend) :
    n.Spares (n.hear heard b).subject := by
  cases heard with
  | payload text => exact hn.soundAs.spares_handleControl text b
  | connected => exact spares_catchUp n b

theorem Reachable.spares_hearAll (hn : n.Reachable) (heard : List (Heard × Backend)) :
    n.Spares (n.hearAll heard) := by
  induction heard generalizing n with
  | nil => exact .refl n
  | cons h heard ih => exact (hn.spares_hear h.1 h.2).trans (ih (hn.hear h.1 h.2))

/-- No peer disturbs an attached client: whatever an instance hears, and whatever its store holds when
it catches up, every attached client keeps its proxy as it is, the queue included, and no call writes
to the store or publishes anything. -/
theorem hearAll_frame {n : Node} (hn : n.Reachable) (heard : List (Heard × Backend)) :
    (∀ id p, p.isAttached = true →
      ((n.hearAll heard).registry.find? id = some p ↔ n.registry.find? id = some p))
    ∧ (n.hearAll heard).retired = n.retired
    ∧ ∀ before e after, heard = before ++ e :: after →
        ((n.hearAll before).hear e.1 e.2).backend.store = e.2.store
        ∧ ((n.hearAll before).hear e.1 e.2).backend.bus = e.2.bus := by
  have hs := hn.spares_hearAll heard
  refine ⟨hs.attached, hs.retired, ?_⟩
  intro before e after _
  obtain ⟨outages, hb⟩ := (n.hearAll before).hear_rests e.1 e.2
  rw [hb]
  exact ⟨rfl, rfl⟩

/-- An instance with one attached client. -/
def besieged : Node :=
  (({ channel := "a" } : Node).registerLocal ((Client.connect "mine" 2).subscribe ["news"])).2

theorem reachable_besieged : besieged.Reachable :=
  have hc : create "a" {} {} = .ok { channel := "a" } := rfl
  .step (.created hc) (.registerLocal _ _)

/-- Services whose store has the client under another owner. -/
def claiming : Backend :=
  { store := Store.empty.insertRecord ⟨"mine", "b", .empty, "", "b"⟩, clock := ⟨0, 0⟩ }

/-- A peer takes over the client, deletes it, reaps its instance and sends garbage. -/
def siege : List (Heard × Backend) :=
  [(.payload ("subscription_upsert|" ++ Record.write ⟨"mine", "b", .empty, "", "b"⟩ ++ "|"), claiming),
    (.payload "subscription_delete|mine", claiming),
    (.payload "subscription_channel_offline|a", claiming),
    (.connected, claiming),
    (.payload "garbage", claiming)]

theorem hearAll_frame_siege :
    besieged.Reachable
    ∧ (besieged.hearAll siege).registry.find? "mine"
        = some (.attach "a" 0 ((Client.connect "mine" 2).subscribe ["news"]))
    ∧ (besieged.hearAll siege).retired = [] := by
  have hn := reachable_besieged
  obtain ⟨hattached, hretired, -⟩ := hearAll_frame hn siege
  exact ⟨hn, (hattached "mine" _ rfl).2 rfl, hretired⟩

end Node

end TopicMesh
