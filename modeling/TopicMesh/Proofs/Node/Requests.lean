import TopicMesh.Proofs.Node.Redelivery
import TopicMesh.Proofs.Node.Retired
import TopicMesh.Proofs.Proxy.Broadcast

/-!
# TopicMesh.Proofs.Node.Requests

An instance that is asked for anything, any number of times, in one schema.

* `Node.serve`, `Node.serveAll` — one request, and a run of them.
* `find?_schema_serve`          — the collections stay what they are.
* `Holds.serve`                 — what holds of new proxies and survives all that is done with one holds of
  every proxy after a request.
-/

namespace TopicMesh

namespace Node

/-! ## Requests -/

/-- What an instance can be asked for, by its host, its clients and its peers. -/
inductive Request where
  | register (client : Client)
  | announce (id : String)
  | disconnect (id : String)
  | publish (topic : String) (m : Message)
  | sendTo (id : String) (m : Message)
  | beat (hasJoined : Bool)
  | resync
  | hear (heard : Heard)
  | relay (payload : String)
  /-- Something is asked of a proxy. -/
  | ask (ref : ProxyRef) (r : Proxy.Request)
  | send (ref : ProxyRef) (m : Message)
  | deliver (ref : ProxyRef) (m : Message)
  /-- A proxy is told to take over a record, by the schema of the instance. -/
  | receive (ref : ProxyRef) (record : Record) (snapshot : Option Json)

/-- Puts to use a proxy that someone got hold of, if it is still there. -/
def onProxy (n : Node) (ref : ProxyRef) (f : Proxy → Proxy) : Node :=
  match n.proxy? ref with
  | none => n
  | some p => n.update ref (f p)

def serve (n : Node) (b : Backend) : Request → Node
  | .register client => (n.registerLocal client).2
  | .announce id => (n.subscriptionsChanged id b).subject
  | .disconnect id => (n.disconnect id b).subject
  | .publish topic m => (n.publish topic m b).node
  | .sendTo id m => (n.sendTo id m b).subject
  | .beat hasJoined => (n.beat hasJoined b).subject
  | .resync => (n.resync b).subject
  | .hear heard => (n.hear heard b).subject
  | .relay payload => (n.handleRelay payload).2
  | .ask ref r => n.onProxy ref fun p => (p.request n.channel r b).1
  | .send ref m => n.onProxy ref fun p => (p.send n.channel m b).subject
  | .deliver ref m => n.onProxy ref fun p => (p.deliver n.channel m).toOption.getD p
  | .receive ref record snapshot =>
    n.onProxy ref fun p => (p.receive n.schema record snapshot).toOption.getD p

/-- The instance after any requests, each with the services as they have become by then. -/
def serveAll (n : Node) (requests : List (Request × Backend)) : Node :=
  requests.foldl (fun n r => n.serve r.2 r.1) n

variable {own : String} {schema : Schema} {n : Node}

/-! ## The schema -/

theorem applyAll_schema (n : Node) (stats : ResyncStats) (records : List Record) :
    (n.applyAll stats records).2.schema = n.schema := by
  induction records generalizing n stats with
  | nil => rfl
  | cons r records ih =>
    rw [applyAll]
    split
    · rfl
    · rename_i hr
      rw [ih, applyRecord_schema hr]

theorem pruneAll_schema (acc : ResyncStats × Node) (ids : List String) :
    (ids.foldl prune acc).2.schema = acc.2.schema := by
  induction ids generalizing acc with
  | nil => rfl
  | cons id ids ih => rw [List.foldl_cons, ih, prune_subject, forget_schema]

theorem resync_schema (n : Node) (b : Backend) : (n.resync b).subject.schema = n.schema := by
  unfold resync
  simp only
  split
  · rfl
  · rename_i records _ _
    have hall := applyAll_schema n {} records
    split
    · rename_i heq
      rw [heq] at hall
      exact hall
    · rename_i heq
      rw [heq] at hall
      rw [pruneAll_schema, hall]

theorem find?_schema_catchUp (n : Node) (b : Backend) :
    (n.catchUp b).subject.schema.find? = n.schema.find? := by
  have hs := resync_schema n b
  unfold catchUp
  simp only
  split
  · rw [hs]
  · simp only [reloadCollections, reloadSettings]
    split <;> split <;> rw [← hs] <;> rfl

theorem find?_schema_hear (n : Node) (heard : Heard) (b : Backend) :
    (n.hear heard b).subject.schema.find? = n.schema.find? := by
  cases heard with
  | payload text =>
    rw [hear, handleControl]
    split
    · rfl
    · exact find?_schema_follow n _ b
  | connected => exact find?_schema_catchUp n b

theorem registerLocal_schema (n : Node) (client : Client) :
    (n.registerLocal client).2.schema = n.schema := by
  simp [registerLocal]

theorem disconnect_schema (n : Node) (id : String) (b : Backend) :
    (n.disconnect id b).subject.schema = n.schema := by
  rw [disconnect]
  split
  · rfl
  · dsimp only
    split <;> exact retire_schema _ _

theorem update_schema (n : Node) (ref : ProxyRef) (p : Proxy) :
    (n.update ref p).schema = n.schema := by
  cases ref with
  | registered id => rfl
  | held serial =>
    rw [update]
    split <;> rfl

theorem onProxy_schema (n : Node) (ref : ProxyRef) (f : Proxy → Proxy) :
    (n.onProxy ref f).schema = n.schema := by
  rw [onProxy]
  split
  · rfl
  · exact update_schema n ref _

/-- No request changes the collections. -/
theorem find?_schema_serve (n : Node) (b : Backend) (r : Request) :
    (n.serve b r).schema.find? = n.schema.find? := by
  cases r with
  | register client => rw [serve, registerLocal_schema]
  | announce id => rw [serve, (n.refiles_subscriptionsChanged id b).schema]
  | disconnect id => rw [serve, disconnect_schema]
  | publish topic m => rw [serve, (n.refiles_publish topic m b).schema]
  | sendTo id m => rw [serve, (n.refiles_sendTo id m b).schema]
  | beat hasJoined => rw [serve, (n.refiles_beat hasJoined b).schema]
  | resync => rw [serve, resync_schema]
  | hear heard => exact find?_schema_hear n heard b
  | relay payload => rw [serve, (n.refiles_handleRelay payload).schema]
  | ask ref r => rw [serve, onProxy_schema]
  | send ref m => rw [serve, onProxy_schema]
  | deliver ref m => rw [serve, onProxy_schema]
  | receive ref record snapshot => rw [serve, onProxy_schema]

/-! ## Proxies -/

theorem SoundAs.onProxy {P : String → Proxy → Prop} (h : n.SoundAs own) (hP : n.Holds own P)
    {f : Proxy → Proxy} (hf : ∀ p : Proxy, p.Alike (f p)) (hkeep : ∀ id p, P id p → P id (f p))
    (ref : ProxyRef) : (n.onProxy ref f).Holds own P := by
  rw [Node.onProxy]
  split
  · exact hP
  · rename_i p hp
    obtain ⟨hc, hr | ⟨id, hid, hr⟩⟩ := h.update_cases hp (hf p).clientId
    · refine hP.of_subset hc ?_
      intro id q hq
      rw [hr] at hq
      exact .inl hq
    · exact hP.of_insert hc hr (hkeep id p (hP.proxies id p hid))

/-- What is not taken over changes nothing. -/
theorem of_toOption_getD {Q : Proxy → Prop} {p : Proxy} {x : Except MeshError Proxy} (hp : Q p)
    (hx : ∀ q, x = .ok q → Q q) : Q (x.toOption.getD p) := by
  cases x with
  | error e => exact hp
  | ok q => exact hx q rfl

/-- What holds of new proxies and is kept up by all that is done with one is kept up by every request. -/
theorem Holds.serve {P : String → Proxy → Prop} [Proxy.Kept own P]
    [hk : Proxy.KeptFollowing own n.schema P] (hs : n.SoundAs own) (h : n.Holds own P)
    (hattach : ∀ serial client, P client.id (.attach own serial client))
    (hrequest : ∀ id p (r : Proxy.Request) b, P id p → P id (p.request own r b).1)
    (b : Backend) (r : Request) : (n.serve b r).Holds own P := by
  cases r with
  | register client =>
    exact h.of_insert (registerLocal_channel n client) (registerLocal_registry n client)
      (h.channel ▸ hattach n.nextSerial client)
  | announce id => exact h.subscriptionsChanged id b
  | disconnect id => exact h.disconnect id b
  | publish topic m => exact h.publish topic m b
  | sendTo id m => exact h.sendTo id m b
  | beat hasJoined => exact h.beat hasJoined b
  | resync => exact h.resync b
  | hear heard =>
    cases heard with
    | payload text => exact h.handleControl text b
    | connected => exact h.catchUp b
  | relay payload => exact h.handleRelay payload
  | ask ref r =>
    rw [Node.serve, h.channel]
    exact hs.onProxy h (fun p => (p.step_request own r b).alike) (fun id p => hrequest id p r b) ref
  | send ref m =>
    rw [Node.serve, h.channel]
    exact hs.onProxy h (fun p => p.alike_send own m b) (fun _ _ hp => Proxy.Kept.send m b hp) ref
  | deliver ref m =>
    rw [Node.serve, h.channel]
    refine hs.onProxy h ?_ ?_ ref
    · intro p
      exact of_toOption_getD (.refl p) fun q hq => (Proxy.Step.deliver hq).alike
    · intro id p hp
      exact of_toOption_getD hp fun q hq => Proxy.Kept.deliver hq hp
  | receive ref record snapshot =>
    refine hs.onProxy h ?_ ?_ ref
    · intro p
      refine of_toOption_getD (.refl p) ?_
      intro q hq
      have hstep : Proxy.Step own p q := .receive hq
      exact hstep.alike
    · intro id p hp
      exact of_toOption_getD hp fun q hq => hk.receive hq hp

theorem SoundAs.serve (h : n.SoundAs own) (b : Backend) (r : Request) : (n.serve b r).SoundAs own :=
  Holds.serve h h (Proxy.soundAt_attach own) (fun _ p r b hp => (p.step_request own r b).alike.soundAt hp)
    b r

end Node

end TopicMesh
