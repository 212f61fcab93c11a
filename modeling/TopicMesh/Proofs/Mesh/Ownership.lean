import TopicMesh.Proofs.Mesh.Convergence
import TopicMesh.Proofs.Relay

/-!
# TopicMesh.Proofs.Mesh.Ownership

What becomes of the record of one client while the client moves between instances. Each announcement
of the client overwrites the record but not its owner, and a departure deletes it whoever owns it.

* `Mesh.Disturbs`     — the acts that may change the record of a client: the client is announced or
  leaves somewhere, or the owner of the record is reaped.
* `record_of_announce` — after the client was announced, and as long as nothing disturbs it, the store
  holds what was announced, and peers relay to the owner of the record.
-/

namespace TopicMesh

namespace Node

variable {own id : String} {n : Node} {b b' : Backend}

theorem Announces.find? {isLocal isGone : String → Prop} (h : n.Announces own isLocal isGone b b')
    {r : Record} (hr : b.store.records.find? id = some r) (hid : ¬isLocal id)
    (ho : ¬isGone r.owner) : b'.store.records.find? id = some r := by
  obtain ⟨as, ht, hlaw, hgone, -⟩ := h
  rw [ht.records]
  exact Announcement.find?_applyAll hlaw hid hr fun hm => ho (hgone r.owner hm)

/-- The record that an instance writes for an attached client: a row that exists keeps its owner. -/
def announcedRecord (own id : String) (c : Client) (old : Option Record) : Record :=
  { clientId := id
    owner := (old.map (·.owner)).getD own
    topics := c.topics
    authRef := (c.principal.map Principal.authRef).getD ""
    updatedBy := own }

theorem find?_subscriptionsChanged (h : n.SoundAs own) (hb : b.outages = []) {p : Proxy}
    {c : Client} (hf : n.registry.find? id = some p) (hc : p.client? = some c)
    (ho : p.isClosed = false) (ht : c.topics.isEmpty = false) :
    (n.subscriptionsChanged id b).backend.store.records.find? id
      = some (announcedRecord own id c (b.store.records.find? id)) := by
  have hp := h.proxies id p hf
  have ha := Proxy.isAttached_of_client? hc
  obtain ⟨serial, hattach⟩ := Proxy.client?_eq_some_iff.1 hc
  have hlocal : n.localProxy id = .ok p := by
    rw [localProxy, hf]
    simp only [ha, if_true]
  have hchange : p.pendingChange own
      = .ok (some (.upsert (p.currentRecord own c) (c.principal.map Principal.snapshot))) := by
    simp [Proxy.pendingChange, hattach, ho, ht]
  have hrow : b.store.rowFor (p.currentRecord own c)
      = announcedRecord own id c (b.store.records.find? id) := by
    have hid : (p.currentRecord own c).clientId = id := hp.recordId
    have howner : (p.currentRecord own c).owner = own := hp.attached_iff.1 ha
    rw [Store.rowFor_eq, hid, howner, announcedRecord, ← hid]
    rfl
  obtain ⟨hok, htells⟩ := Backend.upsert_tells hb (p.currentRecord own c)
    (c.principal.map Principal.snapshot)
  have hback : (n.subscriptionsChanged id b).backend
      = (b.upsert (p.currentRecord own c) (c.principal.map Principal.snapshot)).backend := by
    rw [subscriptionsChanged, hlocal]
    simp only [h.channel, Proxy.broadcast, hchange, Backend.write]
    split <;> rename_i hw <;> rw [hw]
  rw [hback, htells.records, hrow]
  exact Table.find?_insert_self _ _ _

/-- A message for a client elsewhere goes to the channel of the instance that owns the client. -/
theorem sendTo_of_followed (h : n.SoundAs own) (hb : b.outages = []) {r : Record}
    (hr : n.followed id = some r) {m : Message} {payload : String}
    (he : (Relay.mk id m).encode = .ok payload) :
    (n.sendTo id m b).result = .ok true
      ∧ (n.sendTo id m b).backend = { b with bus := b.bus.publish r.owner payload } := by
  obtain ⟨p, hp, ha, rfl⟩ := followed_eq_some_iff.1 hr
  have hs := h.proxies id p hp
  rw [← hs.clientId] at he
  have hsend := Proxy.send_of_elsewhere (h.owner_of_followed hr).2 hb he
  rw [sendTo, hp]
  simp only [h.channel, hsend, and_self]

end Node

namespace Mesh

variable {m : Mesh} {id : String} {r : Record}

/-- The record of a client may change: the client is announced or leaves where it is attached, or the
instance that owns the record is reaped. An instance that was reaped itself announces its clients. -/
def Disturbs (m : Mesh) (id owner : String) : Act → Prop
  | .announce channel clientId | .disconnect channel clientId =>
    clientId = id ∧ ∃ n, m.cluster.node? channel = some n ∧ n.isLocal id = true
  | .beat channel =>
    ∃ member, m.cluster.members.find? channel = some member
      ∧ (member.node.Reaps member.hasJoined m.cluster.backend owner
        ∨ member.node.Rejoins member.hasJoined m.cluster.backend ∧ member.node.isLocal id = true)
  | .register _ _ | .edit _ _ _ | .expire _ | .wait _ | .cutOff | .hangUp _ | .subscribe _
  | .catchUp _ | .handle _ => False

/-- No act of the run disturbs the record of the client. -/
def Undisturbed (id owner : String) : Mesh → List Act → Prop
  | _, [] => True
  | m, a :: acts => ¬m.Disturbs id owner a ∧ Undisturbed id owner (m.step a) acts

theorem find?_hangUp (m : Mesh) (channel : String) :
    (m.hangUp channel).cluster.backend.store = m.cluster.backend.store := by
  unfold hangUp
  split
  · rfl
  · rfl

theorem find?_step (h : m.Regular) (hr : m.cluster.backend.store.records.find? id = some r)
    {a : Act} (hd : ¬m.Disturbs id r.owner a) :
    (m.step a).cluster.backend.store.records.find? id = some r := by
  -- only the acts that announce something write records
  cases a with
  | register channel client =>
    rcases m.onNode_cases channel _ with ⟨-, he⟩ | ⟨n, -, hp⟩
    · rw [step, he, hr]
    · rw [step, hp.backend, hr]
  | edit channel serial f =>
    rcases m.onNode_cases channel _ with ⟨-, he⟩ | ⟨n, -, hp⟩
    · rw [step, he, hr]
    · rw [step, hp.backend, hr]
  | announce channel clientId =>
    rcases m.onNode_cases channel _ with ⟨-, he⟩ | ⟨n, hn, hp⟩
    · rw [step, he, hr]
    · obtain ⟨ha, -⟩ := Node.subscriptionsChanged_announces (h.sound channel n hn) h.outages clientId
      rw [step, hp.backend]
      exact ha.find? hr (fun hc => hd ⟨hc.1.symm, n, hn, hc.2⟩) fun hg => hg
  | disconnect channel clientId =>
    rcases m.onNode_cases channel _ with ⟨-, he⟩ | ⟨n, hn, hp⟩
    · rw [step, he, hr]
    · obtain ⟨ha, -⟩ := Node.disconnect_announces (h.sound channel n hn) h.outages clientId
      rw [step, hp.backend]
      exact ha.find? hr (fun hc => hd ⟨hc.1.symm, n, hn, hc.2⟩) fun hg => hg
  | beat channel =>
    rcases m.beat_cases channel with ⟨-, he⟩ | ⟨member, hm, hp⟩
    · rw [step, he, hr]
    · have hn : m.cluster.node? channel = some member.node :=
        Cluster.node?_eq_some_iff.2 ⟨member, hm, rfl⟩
      obtain ⟨ha, -⟩ := Node.beat_announces (h.sound channel _ hn) h.outages h.leases
        (h.valid channel _ hn) member.hasJoined
      rw [step, hp.backend]
      exact ha.find? hr (fun hc => hd ⟨member, hm, .inr hc⟩) fun hg => hd ⟨member, hm, .inl hg⟩
  | expire channel =>
    have hs : (m.cluster.backend.store.expire m.cluster.backend.clock channel).records
        = m.cluster.backend.store.records := by
      rw [Store.expire]
      split <;> rfl
    rw [← hr, ← hs]
    rfl
  | wait time => exact hr
  | cutOff => exact hr
  | hangUp channel => rw [step, find?_hangUp, hr]
  | subscribe channel =>
    rcases subscribe_cases h channel with he | ⟨n, -, -, he⟩
    · rw [step, he, hr]
    · rw [step, he]
      exact hr
  | catchUp channel =>
    rcases catchUp_cases h channel with he | ⟨n, ticket, m', -, hn, hp, he⟩
    · rw [step, he, hr]
    · obtain ⟨-, hback, -, -⟩ := Node.catchUp_view (h.sound channel n hn) h.outages
      have hstore : (m'.setLink channel (.caughtUp ticket)).cluster.backend
          = (n.catchUp m.cluster.backend).backend := hp.backend
      rw [step, he, hstore, hback, hr]
  | handle channel =>
    rcases handle_cases h channel with
      he | ⟨ticket, -, he⟩ | ⟨n, ticket, s, text, rest, m', -, -, -, -, hp, he⟩
    · rw [step, he, hr]
    · rw [step, he]
      exact hr
    · have hm' : m'.cluster.backend.store.records.find? id = some r := by
        rw [hp.backend]
        exact hr
      rcases he with he | he
      · rw [step, he, hm']
      · rw [step, he, find?_hangUp, hm']

theorem find?_run (h : m.Regular) (hr : m.cluster.backend.store.records.find? id = some r)
    {acts : List Act} (hu : Undisturbed id r.owner m acts) :
    (m.run acts).cluster.backend.store.records.find? id = some r := by
  induction acts generalizing m with
  | nil => exact hr
  | cons a acts ih => exact ih (h.step a) (find?_step h hr hu.1) hu.2

theorem find?_announce (h : m.Regular) {channel : String} {n : Node} {p : Proxy} {c : Client}
    (hn : m.cluster.node? channel = some n) (hf : n.registry.find? id = some p)
    (hc : p.client? = some c) (ht : c.topics.isEmpty = false) :
    (m.step (.announce channel id)).cluster.backend.store.records.find? id
      = some (Node.announcedRecord channel id c (m.cluster.backend.store.records.find? id)) := by
  rcases m.onNode_cases channel _ with ⟨hnone, -⟩ | ⟨n', hn', hp⟩
  · rw [hn] at hnone
    cases hnone
  · rw [hn] at hn'
    cases hn'
    have ho : p.isClosed = false := (h.isOpen channel n hn).proxies id p hf
    rw [step, hp.backend]
    exact Node.find?_subscriptionsChanged (h.sound channel n hn) h.outages hf hc ho ht

theorem run_announce (m : Mesh) (pre post : List Act) (a : Act) :
    m.run (pre ++ a :: post) = ((m.run pre).step a).run post := by
  rw [run, List.foldl_append]
  rfl

/-- After an instance announced a client with topics, and as long as nothing disturbs the record, the
store holds what was announced under the owner that the record had, or under the instance if there was
no record; and a quiet peer relays to that owner. -/
theorem record_of_announce {nodes : List (String × Settings × Schema)} {controlChannel : String}
    {clock : Instant} {c₀ : Cluster} (hc₀ : Cluster.create nodes { controlChannel, clock } = .ok c₀)
    {pre post : List Act} {channel id : String} {n : Node} {p : Proxy} {c : Client} {r : Record}
    (hn : ((start c₀).run pre).cluster.node? channel = some n)
    (hf : n.registry.find? id = some p) (hc : p.client? = some c) (ht : c.topics.isEmpty = false)
    (hr : r = Node.announcedRecord channel id c
      (((start c₀).run pre).cluster.backend.store.records.find? id))
    (hu : Undisturbed id r.owner (((start c₀).run pre).step (.announce channel id)) post)
    {m : Mesh} (hm : m = (start c₀).run (pre ++ .announce channel id :: post)) :
    m.cluster.backend.store.records.find? id = some r
    ∧ ((∀ a ∈ pre ++ .announce channel id :: post, a.IsPlain) →
      ∀ peer x, m.cluster.node? peer = some x → m.IsQuiet peer → peer ≠ r.owner →
      x.isLocal id = false →
      ∀ message : Message, delimiter ∉ message.name.toList →
      ∃ payload, (Relay.mk id message).encode = .ok payload
        ∧ (x.sendTo id message m.cluster.backend).result = .ok true
        ∧ (x.sendTo id message m.cluster.backend).backend = { m.cluster.backend with
            bus := m.cluster.backend.bus.publish r.owner payload }) := by
  have hpre : ((start c₀).run pre).Regular := (regular_start hc₀).run pre
  have hwritten := find?_announce hpre hn hf hc ht
  rw [← hr] at hwritten
  have hrecord : m.cluster.backend.store.records.find? id = some r := by
    rw [hm, run_announce]
    exact find?_run (hpre.step _) hwritten hu
  refine ⟨hrecord, ?_⟩
  intro hplain peer x hx hq hpeer hl message hname
  have htracked : m.Tracked := by
    rw [hm]
    exact (tracked_start hc₀).run hplain
  have hstart : ((start c₀).run pre).Tracked :=
    (tracked_start hc₀).run fun a ha => hplain a (List.mem_append_left _ ha)
  obtain ⟨-, hid, -⟩ := (hstart.plain channel n hn).proxies id p hf c hc
  have hs := htracked.regular.sound peer x hx
  have hfollowed : x.followed id = some r := by
    have hmirrors := htracked.mirrors hq hx
    rw [hs.mirrors_iff] at hmirrors
    rw [hmirrors id hl, hrecord, Option.filter_some, if_pos]
    exact decide_eq_true (Ne.symm hpeer)
  have he := Relay.encode_eq_ok (r := ⟨id, message⟩) hid hname
  obtain ⟨hresult, hback⟩ := Node.sendTo_of_followed hs htracked.regular.outages hfollowed he
  exact ⟨_, he, hresult, hback⟩

def trio : Cluster where
  members := ((Table.empty.insert "a" { node := { channel := "a" } }).insert "b"
    { node := { channel := "b" } }).insert "d" { node := { channel := "d" } }
  backend := { controlChannel := "shared_bridge_channel", clock := ⟨0, 0⟩ }

/-- A client with one topic and no principal. -/
def guest (topic : String) : Client := (Client.connect "c" 8).subscribe [topic]

/-- A client of "a" turns up at "b" as well. -/
def movesIn : List Act :=
  [.register "a" (guest "t"), .announce "a" "c", .register "b" (guest "s")]

/-- A peer that knows nothing yet catches up. -/
def peerJoins : List Act := [.subscribe "d", .catchUp "d"]

theorem record_of_announce_moved :
    ∃ m x, m = (start trio).run (movesIn ++ .announce "b" "c" :: peerJoins)
      ∧ m.cluster.backend.store.records.find? "c"
        = some ⟨"c", "a", TopicSet.empty.insert "s", "", "b"⟩
      ∧ m.cluster.node? "d" = some x
      ∧ ∃ payload, (x.sendTo "c" ⟨"n", "data"⟩ m.cluster.backend).backend
        = { m.cluster.backend with bus := m.cluster.backend.bus.publish "a" payload } := by
  have hcreate : Cluster.create [("a", {}, {}), ("b", {}, {}), ("d", {}, {})]
      { controlChannel := "shared_bridge_channel", clock := ⟨0, 0⟩ } = .ok trio := rfl
  have hplain : ∀ a ∈ movesIn ++ .announce "b" "c" :: peerJoins, a.IsPlain := by
    have hguest : ∀ topic, (guest topic).Shows Announcement.IsPlainSnapshot := by
      intro topic j hj
      cases hj
    intro a ha
    simp only [movesIn, peerJoins, List.cons_append, List.nil_append, List.mem_cons,
      List.not_mem_nil, or_false] at ha
    rcases ha with rfl | rfl | rfl | rfl | rfl | rfl
    case inl => exact ⟨by decide, by decide, hguest "t"⟩
    case inr.inr.inl => exact ⟨by decide, by decide, hguest "s"⟩
    all_goals trivial
  have hu : Undisturbed "c" "a" (((start trio).run movesIn).step (.announce "b" "c")) peerJoins :=
    ⟨id, id, trivial⟩
  have hn : ((start trio).run movesIn).cluster.node? "b"
      = some (({ channel := "b" } : Node).registerLocal (guest "s")).2 := rfl
  have hp : (({ channel := "b" } : Node).registerLocal (guest "s")).2.registry.find? "c"
      = some (.attach "b" 0 (guest "s")) := rfl
  have hkept : (⟨"c", "a", TopicSet.empty.insert "s", "", "b"⟩ : Record)
      = Node.announcedRecord "b" "c" (guest "s")
        (((start trio).run movesIn).cluster.backend.store.records.find? "c") := rfl
  obtain ⟨hr, hrelay⟩ := record_of_announce hcreate hn hp rfl rfl hkept hu rfl
  obtain ⟨payload, -, -, hback⟩ := hrelay hplain "d" _ rfl ⟨0, _, rfl, rfl, rfl, rfl, rfl⟩
    (by decide) rfl ⟨"n", "data"⟩ (by decide)
  exact ⟨_, _, rfl, hr, rfl, payload, hback⟩

/-- Whether the client is attached at "b", and its record. -/
def standing (m : Mesh) : Option Bool × Option Record :=
  ((m.cluster.node? "b").map (·.isLocal "c"), m.cluster.backend.store.records.find? "c")

/-- The client has moved from "a" to "b", where it was announced last. -/
def moved : Mesh :=
  (start pair).run ([.beat "a", .beat "b"] ++ movesIn ++ [.announce "b" "c"])

/-- The record stays with "a". It goes when the client leaves "a" or "a" is reaped, and "a" overwrites
it on its return, although the client is attached at "b" all the time. -/
theorem not_owned_after_announce :
    standing moved = (some true, some ⟨"c", "a", TopicSet.empty.insert "s", "", "b"⟩)
    ∧ standing (moved.run [.disconnect "a" "c"]) = (some true, none)
    ∧ standing (moved.run [.expire "a", .beat "b"]) = (some true, none)
    ∧ standing (moved.run [.expire "a", .beat "b", .beat "a"])
      = (some true, some ⟨"c", "a", TopicSet.empty.insert "t", "", "a"⟩) := by
  refine ⟨rfl, rfl, ?_, ?_⟩
  · decide +kernel
  · decide +kernel

end Mesh

end TopicMesh
