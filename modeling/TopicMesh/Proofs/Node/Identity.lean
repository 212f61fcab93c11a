import TopicMesh.Proofs.Node.Requests
import TopicMesh.Proofs.Proxy.Identity

/-!
# TopicMesh.Proofs.Node.Identity

No instance takes a client elsewhere for someone else (`identity_faithful`): the principal that it shows
for such a client is the one that the client's own record refers to, whatever the instance was asked
for.

* `Node.Identifies` — every proxy of a client elsewhere is identified in the schema; it stays so with
  every request (`Identifies.serve`), and so over a run of them (`Identifies.serveAll`).
-/

namespace TopicMesh

instance Proxy.kept_identifiedIn (own : String) (schema : Schema) : Kept own (IdentifiedIn schema) where
  broadcast {_ p} b h :=
    h.of_alike (alike_broadcast own p b) fun ha => broadcast_of_elsewhere ha own b
  send {_ p} m b h := h.of_alike (alike_send own p m b) fun ha => send_subject_of_elsewhere ha own m b
  deliver {_ p _ m} hq h := by
    rw [deliver_eq_ok hq]
    exact h.of_alike (alike_mapClient p _) fun ha => mapClient_of_elsewhere ha _

/-- A schema that finds the same collections identifies in the same way. -/
theorem Proxy.keptFollowing_identifiedIn {schema schema' : Schema}
    (hs : schema'.find? = schema.find?) (own : String) :
    KeptFollowing own schema' (IdentifiedIn schema) where
  receive {_ _ _ _ snapshot} hq _ := by
    obtain ⟨ha, hid, rfl⟩ := receive_eq_ok hq
    intro _
    refine ⟨snapshot, ?_⟩
    rw [resolvePrincipal_congr hs]
    rfl
  mirror {r} snapshot _ := by
    intro _
    refine ⟨snapshot, ?_⟩
    rw [resolvePrincipal_congr hs]
    rfl

namespace Node

variable {own : String} {schema : Schema} {n : Node}

/-! ## Identified clients -/

/-- The instance `own` with the collections of a schema, and with every client elsewhere identified in
it. -/
structure Identifies (n : Node) (own : String) (schema : Schema) : Prop where
  sound : n.SoundAs own
  finds : n.schema.find? = schema.find?
  proxies : n.Holds own (Proxy.IdentifiedIn schema)

theorem create_identifies {channel : String} {settings : Settings}
    (h : create channel settings schema = .ok n) : n.Identifies channel schema := by
  have hsound := create_soundAs h
  obtain ⟨-, rfl⟩ := create_eq_ok h
  exact ⟨hsound, rfl, rfl, fun _ _ hp => by cases hp⟩

theorem Identifies.serve (h : n.Identifies own schema) (b : Backend) (r : Request) :
    (n.serve b r).Identifies own schema where
  sound := h.sound.serve b r
  finds := (find?_schema_serve n b r).trans h.finds
  proxies := by
    have hk := Proxy.keptFollowing_identifiedIn h.finds own
    refine Holds.serve h.sound h.proxies ?_ ?_ b r
    · intro serial client ha
      cases ha
    · intro id p r b hp
      exact hp.of_alike (p.step_request own r b).alike
        fun ha => Proxy.request_of_elsewhere ha own r b

/-- By induction over the requests. -/
theorem Identifies.serveAll (h : n.Identifies own schema) (requests : List (Request × Backend)) :
    (n.serveAll requests).Identifies own schema := by
  induction requests generalizing n with
  | nil => exact h
  | cons r requests ih => exact ih (h.serve r.2 r.1)

/-- Catching up leaves the registry as a resync does. -/
theorem catchUp_registry (n : Node) (b : Backend) :
    (n.catchUp b).subject.registry = (n.resync b).subject.registry := by
  unfold catchUp
  simp only
  split
  · rfl
  · simp only [reloadCollections, reloadSettings]
    split <;> split <;> rfl

namespace Identifies

variable {id : String} {p : Proxy} {b : Backend}

/-- The principal of a client elsewhere is the one that its record refers to, with the fields that its
collection declares. -/
theorem of_principal (h : n.Identifies own schema) (hd : schema.HasDistinctIds)
    (hp : n.registry.find? id = some p) (ha : p.isAttached = false) {who : Principal}
    (hwho : p.principal = some who) :
    ∃ name c, Principal.IsRef p.record.authRef name who.id ∧ schema.Resolves name c
      ∧ who.collection = c.name
      ∧ ∀ f, who.data.contains f = true ↔ f ∈ c.fields ∧ f ≠ "id" := by
  obtain ⟨snapshot, hlast⟩ := h.proxies.proxies id p hp ha
  rw [Proxy.principal_of_elsewhere ha, hlast, Proxy.resolvePrincipal_eq_some_iff hd] at hwho
  obtain ⟨name, key, c, members, href, hc, -, rfl⟩ := hwho
  refine ⟨name, c, href, hc, rfl, ?_⟩
  intro f
  rw [Table.contains, Principal.find?_project, Option.isSome_ite]
  rfl

theorem find?_upsert (h : n.Identifies own schema) {payload : String} {r : Record}
    {snapshot : Option Json} (hread : Announcement.decode payload = .ok (.upsert r snapshot))
    (hu : r.updatedBy ≠ own) (ho : r.owner ≠ own) (hl : n.isLocal r.clientId = false) (b : Backend) :
    (n.handleControl payload b).subject.registry.find? r.clientId
      = some (.mirror r (Proxy.resolvePrincipal schema r snapshot)) := by
  rw [handleControl, hread]
  simp only
  rw [h.sound.find?_follow hl, Announcement.revise, if_pos ⟨rfl, hu, ho⟩, keep,
    Proxy.resolvePrincipal_congr h.finds]

/-- A resync brings records and no principals. -/
theorem principal_of_resync (h : n.Identifies own schema) {stats : ResyncStats}
    (hr : (n.resync b).result = .ok stats)
    (hp : (n.resync b).subject.registry.find? id = some p) (ha : p.isAttached = false) :
    p.principal = none := by
  obtain ⟨stats', n', heq, hf, -⟩ := h.sound.resync_eq (foreign_of_resync_ok h.sound hr)
  rw [heq] at hp
  obtain ⟨r, -, -, -, -, -, hnone, -⟩ := (hf.find?_elsewhere_iff b.store.keyed).1 ⟨hp, ha⟩
  exact hnone

end Identifies

/-- A client elsewhere is only ever taken for the principal that its own record refers to, whatever
was asked of the instance and whatever came over the control channel. A principal does not outlive an
upsert that has none to show, nor a resync, be it one for a connection that came back. -/
theorem identity_faithful {channel : String} {settings : Settings} {schema : Schema} {n : Node}
    (hn : create channel settings schema = .ok n) (hd : schema.HasDistinctIds)
    (requests : List (Request × Backend)) :
    (∀ id p who, (n.serveAll requests).registry.find? id = some p → p.isAttached = false →
        p.principal = some who →
      ∃ name c, Principal.IsRef p.record.authRef name who.id ∧ schema.Resolves name c
        ∧ who.collection = c.name
        ∧ ∀ f, who.data.contains f = true ↔ f ∈ c.fields ∧ f ≠ "id")
    ∧ (∀ payload r snapshot b, Announcement.decode payload = .ok (.upsert r snapshot) →
        r.updatedBy ≠ channel → r.owner ≠ channel →
        (n.serveAll requests).isLocal r.clientId = false →
      ∃ p, ((n.serveAll requests).handleControl payload b).subject.registry.find? r.clientId = some p
        ∧ p.isAttached = false ∧ p.record = r
        ∧ (p.principal = none ↔ ¬r.IsResolvable schema snapshot))
    ∧ (∀ b stats, ((n.serveAll requests).resync b).result = .ok stats →
        ∀ id p, ((n.serveAll requests).resync b).subject.registry.find? id = some p →
          p.isAttached = false → p.principal = none)
    ∧ ∀ b, ((n.serveAll requests).catchUp b).subject.registry
        = ((n.serveAll requests).resync b).subject.registry := by
  have h := (create_identifies hn).serveAll requests
  refine ⟨?_, ?_, ?_, catchUp_registry (n.serveAll requests)⟩
  · intro id p who hp ha hwho
    exact h.of_principal hd hp ha hwho
  · intro payload r snapshot b hread hu ho hl
    exact ⟨_, h.find?_upsert hread hu ho hl b, rfl, rfl, Proxy.resolvePrincipal_eq_none_iff hd⟩
  · intro b stats hr id p hp ha
    exact h.principal_of_resync hr hp ha

/-- A client of a peer whose principal has a password that the schema does not declare. -/
theorem identity_faithful_undeclared :
    let users : Collection := { id := "pbc_1", name := "users", fields := ["id", "email"] }
    let schema := Schema.ofList [users]
    let n : Node := { channel := "a", schema }
    let r : Record := ⟨"c", "b", .empty, "pbc_1/u/1", "b"⟩
    let snapshot := Json.obj [("password", .str "secret")]
    create "a" {} schema = .ok n ∧ schema.HasDistinctIds
      ∧ ∃ payload p who, Announcement.decode payload = .ok (.upsert r (some snapshot))
        ∧ (n.serveAll [(.hear (.payload payload), servicesOf [])]).registry.find? "c" = some p
        ∧ p.isAttached = false ∧ p.record = r ∧ p.principal = some who
        ∧ who.id = "u/1" ∧ who.collection = "users"
        ∧ who.data.contains "email" = true ∧ who.data.contains "password" = false := by
  intro users schema n r snapshot
  have hn : create "a" {} schema = .ok n := rfl
  have hd : schema.HasDistinctIds := List.nodup_singleton "pbc_1"
  have hsplit : Principal.splitRef r.authRef = some ("pbc_1", "u/1") := by decide
  have husers : schema.Resolves "pbc_1" users := (Schema.find?_eq_some_iff hd).1 (by decide)
  have hplain : (Announcement.upsert r (some snapshot)).IsPlain := by
    rintro j ⟨⟩
    exact ⟨⟨List.pairwise_singleton _ _, trivial, trivial⟩, ⟨trivial, trivial⟩, by decide⟩
  have hresolvable : r.IsResolvable schema (some snapshot) :=
    ⟨"pbc_1", "u/1", users, _, Principal.splitRef_eq_some_iff.1 hsplit, husers, rfl⟩
  obtain ⟨payload, he⟩ := Announcement.encode_upsert r (some snapshot)
  have hread := Announcement.decode_of_encode hplain he
  obtain ⟨p, hp, ha, hrecord, hnone⟩ := (identity_faithful hn hd []).2.1 payload r (some snapshot)
    (servicesOf []) hread (by decide) (by decide) rfl
  obtain ⟨who, hwho⟩ := Option.ne_none_iff_exists'.1 fun h => hnone.1 h hresolvable
  obtain ⟨name, c, href, hc, hcollection, hdata⟩ :=
    (identity_faithful hn hd [(.hear (.payload payload), servicesOf [])]).1 "c" p who hp ha hwho
  rw [hrecord, ← Principal.splitRef_eq_some_iff, hsplit, Option.some.injEq, Prod.mk.injEq] at href
  obtain ⟨rfl, hid⟩ := href
  obtain rfl := husers.unique hd hc
  refine ⟨hn, hd, payload, p, who, hread, hp, ha, hrecord, hwho, hid.symm, hcollection, ?_, ?_⟩
  · rw [hdata]
    decide
  · rw [← Bool.not_eq_true, hdata]
    decide

end Node

end TopicMesh
