import TopicMesh.Proofs.Node.Follow

/-!
# TopicMesh.Proofs.Node.Redelivery

Announcements that are heard twice. The bus may deliver again what an instance has followed already,
and by then the clients have other owners than when it was heard first.

* `Node.followAll`          — an instance that follows announcements one after the other.
* `SoundAs.find?_followAll` — what becomes of one client: its announcements fold over its proxy, and
  no other client's proxy has a part in it.
* `followAll_redelivered`   — hearing all of them again, or the last of them, changes no proxy.

For one client any announcements either lead to one proxy, whatever it was before, or they only ever
take it away (`Settles`). A second round of the same finds that settled.
-/

namespace TopicMesh.Node

/-- The instance after it followed announcements one after the other, and what became of the services
meanwhile. -/
def followAll (n : Node) (b : Backend) (as : List Announcement) : Node × Backend :=
  as.foldl (fun acc a => ((acc.1.follow a acc.2).subject, (acc.1.follow a acc.2).backend)) (n, b)

/-- What announcements make of the proxy of a client elsewhere. -/
def reviseAll (n : Node) (id : String) (as : List Announcement) (x : Option Proxy) : Option Proxy :=
  as.foldl (fun x a => a.revise n.channel id n.keep (fun p => p.record.owner) x) x

variable {own : String} {n : Node}

theorem followAll_cons (n : Node) (b : Backend) (a : Announcement) (as : List Announcement) :
    n.followAll b (a :: as)
      = (n.follow a b).subject.followAll (n.follow a b).backend as := rfl

theorem reviseAll_append (n : Node) (id : String) (as bs : List Announcement) (x : Option Proxy) :
    n.reviseAll id (as ++ bs) x = n.reviseAll id bs (n.reviseAll id as x) :=
  List.foldl_append

theorem settles_reviseAll (n : Node) (id : String) (as : List Announcement) :
    Settles (n.reviseAll id as) :=
  .foldl (Announcement.settles_revise n.channel id n.keep _) as

/-! ## What the instance keeps of a record -/

theorem forget_schema (n : Node) (id : String) : (n.forget id).schema = n.schema := by
  unfold forget
  split
  · rfl
  · split
    · rfl
    · exact unregister_schema n id

theorem unregisterAll_schema (n : Node) (ids : List String) :
    (ids.foldl unregister n).schema = n.schema := by
  induction ids generalizing n with
  | nil => rfl
  | cons id ids ih => exact (ih (n.unregister id)).trans (unregister_schema n id)

/-- A reload asks the host and changes no collection here; nothing else touches the schema. -/
theorem find?_schema_follow (n : Node) (a : Announcement) (b : Backend) :
    (n.follow a b).subject.schema.find? = n.schema.find? := by
  unfold follow
  split
  · rfl
  · cases a with
    | upsert r snapshot =>
      simp only
      split
      · rfl
      · rename_i happ
        rw [applyRecord_schema happ]
    | delete id => rw [forget_schema]
    | offline channel =>
      simp only
      split
      · rfl
      · rw [forgetChannel, unregisterAll_schema]
    | collectionsUpdated =>
      simp only [reloadCollections]
      split <;> rfl
    | settingsUpdated =>
      simp only [reloadSettings]
      split <;> rfl

/-- The principal of a record is resolved from the collections. -/
theorem keep_follow (n : Node) (a : Announcement) (b : Backend) :
    (n.follow a b).subject.keep = n.keep := by
  funext r snapshot
  rw [keep, keep, Proxy.resolvePrincipal_congr (find?_schema_follow n a b)]

/-! ## Announcements one after the other -/

theorem SoundAs.spares_followAll (h : n.SoundAs own) (b : Backend) (as : List Announcement) :
    n.Spares (n.followAll b as).1 := by
  induction as generalizing n b with
  | nil => exact .refl n
  | cons a as ih => exact (h.spares_follow a b).trans (ih (h.follow a b) _)

/-- The announcements make of each client elsewhere what they make of its proxy alone. -/
theorem SoundAs.find?_followAll (h : n.SoundAs own) {id : String} (hl : n.isLocal id = false)
    (b : Backend) (as : List Announcement) :
    (n.followAll b as).1.registry.find? id = n.reviseAll id as (n.registry.find? id) := by
  induction as generalizing n b with
  | nil => rfl
  | cons a as ih =>
    have hs := h.follow a b
    have hl' : (n.follow a b).subject.isLocal id = false :=
      ((h.spares_follow a b).isLocal id).trans hl
    rw [followAll_cons, ih hs hl', h.find?_follow hl, reviseAll, reviseAll, List.foldl_cons,
      keep_follow, hs.channel, h.channel]

/-- The second of two rounds of the same announcements finds nothing to do, whatever came before. -/
theorem reviseAll_again (n : Node) (id : String) (before last : List Announcement)
    (x : Option Proxy) :
    n.reviseAll id (before ++ last ++ last) x = n.reviseAll id (before ++ last) x := by
  rw [reviseAll_append n id (before ++ last) last, reviseAll_append n id before last]
  exact (settles_reviseAll n id last).idem _

theorem SoundAs.registry_followAll_again (h : n.SoundAs own) (b : Backend)
    (before last : List Announcement) :
    (n.followAll b (before ++ last ++ last)).1.registry
      = (n.followAll b (before ++ last)).1.registry := by
  apply Table.ext
  intro id
  cases hl : n.isLocal id with
  | true =>
    -- an attached client keeps the proxy it has
    obtain ⟨p, hp, ha⟩ := isLocal_eq_true_iff.1 hl
    have hsame : ∀ as, (n.followAll b as).1.registry.find? id = some p := fun as =>
      ((h.spares_followAll b as).attached id p ha).2 hp
    rw [hsame, hsame]
  | false => rw [h.find?_followAll hl, h.find?_followAll hl, reviseAll_again]

/-- Announcements may be delivered again: an instance that follows all of them twice in a row has the
same clients with the same kinds of proxies, records and principals as one that follows them once, and
so has one that hears the last of them once more, however many these are. -/
theorem followAll_redelivered {own : String} {n : Node} (h : n.SoundAs own) (b : Backend)
    (as : List Announcement) :
    (n.followAll b (as ++ as)).1.registry = (n.followAll b as).1.registry
    ∧ ∀ last, last <:+ as →
        (n.followAll b (as ++ last)).1.registry = (n.followAll b as).1.registry := by
  refine ⟨h.registry_followAll_again b [] as, ?_⟩
  rintro last ⟨before, rfl⟩
  exact h.registry_followAll_again b before last

/-- A client moves from one peer to another, the first of them is reaped, and somebody deletes a
client of the instance itself. -/
def gossip : List Announcement :=
  [.upsert ⟨"moved", "b", .empty, "", "b"⟩ none,
    .upsert ⟨"stayed", "b", .empty, "", "b"⟩ none,
    .upsert ⟨"moved", "c", .empty, "", "c"⟩ none,
    .offline "b",
    .delete "mine"]

theorem followAll_redelivered_gossip :
    besieged.SoundAs "a"
    ∧ (besieged.followAll claiming gossip).1.registry.find? "moved"
        = some (.mirror ⟨"moved", "c", .empty, "", "c"⟩ none)
    ∧ (besieged.followAll claiming gossip).1.registry.find? "stayed" = none
    ∧ (besieged.followAll claiming gossip).1.isLocal "mine" = true
    ∧ (besieged.followAll claiming (gossip ++ gossip)).1.registry
        = (besieged.followAll claiming gossip).1.registry
    ∧ (besieged.followAll claiming (gossip ++ gossip.drop 2)).1.registry
        = (besieged.followAll claiming gossip).1.registry := by
  have hs : besieged.SoundAs "a" := reachable_besieged.soundAs
  obtain ⟨htwice, hlast⟩ := followAll_redelivered hs claiming gossip
  exact ⟨hs, rfl, rfl, rfl, htwice, hlast _ (List.drop_suffix 2 gossip)⟩

end TopicMesh.Node
