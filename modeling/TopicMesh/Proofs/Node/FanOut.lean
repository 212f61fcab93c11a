import TopicMesh.Proofs.Node.Publishing

/-!
# TopicMesh.Proofs.Node.FanOut

What one instance does to get a message to the clients subscribed to a topic.

* `Proxy.offered`         — the proxy after the message: an attached client that is subscribed has it
  at the end of its queue.
* `publish_eq`            — if every client can be relayed to and has room, the instance that publishes
  offers the message to its own clients and posts one relay for each subscribed client elsewhere, unless
  its name has a delimiter (`publish_refused`).
* `Node.Handles`          — an instance handles payloads one after the other without an error.
* `SoundAs.handles_texts` — an instance that handles relays offers the message to their clients.
-/

namespace TopicMesh

namespace Client

/-- The client's connection takes the next message. -/
def IsReceptive (c : Client) : Prop := c.isDiscarded = false ∧ c.accepts = true

def offered (topic : String) (m : Message) (c : Client) : Client :=
  if c.topics.contains topic then { c with queue := c.queue ++ [m] } else c

theorem deliver_of_isReceptive {c : Client} (h : c.IsReceptive) (m : Message) :
    c.deliver m = { c with queue := c.queue ++ [m] } := by
  obtain ⟨hd, ha⟩ := h
  rw [deliver, if_neg (by simp [hd]), send, if_pos ha]

end Client

namespace Proxy

variable {topic : String} {m : Message} {p : Proxy}

def offered (topic : String) (m : Message) (p : Proxy) : Proxy :=
  p.mapClient (Client.offered topic m)

theorem offered_of_elsewhere (h : p.isAttached = false) : p.offered topic m = p :=
  mapClient_of_elsewhere h _

theorem offered_of_not_subscribed (h : p.isSubscribed topic = false) : p.offered topic m = p := by
  unfold offered mapClient
  split
  · rename_i serial c hc
    rw [isSubscribed, topics, hc] at h
    rw [Client.offered, if_neg (by simp [h]), ← hc]
  · rfl

theorem offered_of_subscribed {c : Client} (hc : p.client? = some c) (hr : c.IsReceptive)
    (hs : p.isSubscribed topic = true) : p.mapClient (·.deliver m) = p.offered topic m := by
  obtain ⟨serial, hattach⟩ := client?_eq_some_iff.1 hc
  rw [isSubscribed, topics, hattach] at hs
  simp only [offered, mapClient, hattach, Client.offered, hs, if_true,
    Client.deliver_of_isReceptive hr]

end Proxy

namespace Node

variable {own topic : String} {n : Node} {m : Message} {b : Backend}

def offered (topic : String) (m : Message) (n : Node) : Node :=
  { n with registry := n.registry.map (Proxy.offered topic m) }

theorem eq_offered {registry : Table Proxy}
    (h : ∀ id, registry.find? id = (n.registry.find? id).map (Proxy.offered topic m)) :
    { n with registry } = n.offered topic m := by
  have hr : registry = n.registry.map (Proxy.offered topic m) := by
    apply Table.ext
    intro id
    rw [h id, Table.find?_map]
  rw [hr, offered]

/-- The clients that a message on the topic is sent to. -/
def audience (n : Node) (topic : String) : List String :=
  (n.registry.entries.filter fun e => e.2.isSubscribed topic).map (·.1)

/-- Those among them that an instance owns. -/
def audienceAt (n : Node) (topic channel : String) : List String :=
  (n.registry.entries.filter fun e =>
    e.2.isSubscribed topic && e.2.record.owner = channel).map (·.1)

theorem mem_audience_iff {id : String} : id ∈ n.audience topic ↔
    ∃ p, n.registry.find? id = some p ∧ p.isSubscribed topic = true := by
  simp only [audience, List.mem_map, List.mem_filter]
  constructor
  · rintro ⟨⟨key, p⟩, ⟨hm, hs⟩, rfl⟩
    exact ⟨p, (Table.mem_entries_iff _ _ _).1 hm, hs⟩
  · rintro ⟨p, hp, hs⟩
    exact ⟨(id, p), ⟨(Table.mem_entries_iff _ _ _).2 hp, hs⟩, rfl⟩

theorem mem_audienceAt_iff {id channel : String} : id ∈ n.audienceAt topic channel ↔
    ∃ p, n.registry.find? id = some p ∧ p.isSubscribed topic = true ∧ p.record.owner = channel := by
  simp only [audienceAt, List.mem_map, List.mem_filter, Bool.and_eq_true, decide_eq_true_eq]
  constructor
  · rintro ⟨⟨key, p⟩, ⟨hm, hs⟩, rfl⟩
    exact ⟨p, (Table.mem_entries_iff _ _ _).1 hm, hs⟩
  · rintro ⟨p, hp, hs⟩
    exact ⟨(id, p), ⟨(Table.mem_entries_iff _ _ _).2 hp, hs⟩, rfl⟩

theorem nodup_audience (n : Node) (topic : String) : (n.audience topic).Nodup :=
  n.registry.nodup_keys.sublist (List.filter_sublist.map _)

theorem nodup_audienceAt (n : Node) (topic channel : String) :
    (n.audienceAt topic channel).Nodup :=
  n.registry.nodup_keys.sublist (List.filter_sublist.map _)

/-! ## Publishing -/

/-- The relays for the subscribed clients elsewhere, each with the channel it is posted on. -/
def posts (own topic : String) (m : Message) (entries : List (String × Proxy)) :
    List (String × String) :=
  (entries.filter fun e => e.2.isSubscribed topic && e.2.isRemote own).map fun e =>
    (e.2.record.owner, (Relay.mk e.1 m).text)

/-- Every client has an id that can be relayed, and a connection that takes the next message. -/
def IsReceptive (n : Node) : Prop :=
  ∀ id p, n.registry.find? id = some p →
    id ≠ "" ∧ delimiter ∉ id.toList ∧ ∀ c, p.client? = some c → c.IsReceptive

theorem IsReceptive.isPlain (hr : n.IsReceptive) (hm : delimiter ∉ m.name.toList)
    {e : String × Proxy} (he : e ∈ n.registry.entries) : (Relay.mk e.1 m).IsPlain :=
  ⟨(hr e.1 e.2 ((Table.mem_entries_iff _ _ _).1 he)).2.1, hm⟩

theorem IsReceptive.relayed_eq_posts (hr : n.IsReceptive) (hm : delimiter ∉ m.name.toList)
    (own topic : String) :
    relayed own topic m n.registry.entries = posts own topic m n.registry.entries := by
  rw [relayed, posts]
  congr 1
  apply List.filter_congr
  intro e he
  rw [decide_eq_true (hr.isPlain hm he), Bool.and_true]

theorem IsReceptive.refused_eq_nil (hr : n.IsReceptive) (hm : delimiter ∉ m.name.toList)
    (own topic : String) : refused own topic m n.registry.entries = [] := by
  rw [refused, List.map_eq_nil_iff, List.filter_eq_nil_iff]
  intro e he
  rw [decide_eq_true (hr.isPlain hm he), Bool.not_true, Bool.and_false]
  exact Bool.false_ne_true

theorem relayed_of_delimiter (hm : delimiter ∈ m.name.toList) (own topic : String)
    (entries : List (String × Proxy)) : relayed own topic m entries = [] := by
  rw [relayed, List.map_eq_nil_iff, List.filter_eq_nil_iff]
  intro e _
  rw [decide_eq_false fun hplain => hplain.2 hm, Bool.and_false]
  exact Bool.false_ne_true

theorem reached_eq_audienceAt (n : Node) (own topic : String) :
    reached own topic n.registry.entries = n.audienceAt topic own := by
  rw [reached, audienceAt]
  congr 2
  funext e
  simp [Proxy.isRemote]

/-- Connections that take the next message drop nothing. -/
theorem IsReceptive.handed_eq_offered (hr : n.IsReceptive) (topic : String) (m : Message) :
    n.handed topic m = n.offered topic m := by
  refine eq_offered ?_
  intro id
  rw [Table.find?_map]
  cases hp : n.registry.find? id with
  | none => rfl
  | some p =>
    rw [Option.map_some, Option.map_some]
    cases ha : p.isAttached with
    | false => rw [Proxy.handed_of_elsewhere ha, Proxy.offered_of_elsewhere ha]
    | true =>
      obtain ⟨serial, c, hattach⟩ := Proxy.isAttached_eq_true_iff.1 ha
      have hc : p.client? = some c := Proxy.client?_eq_some_iff.2 ⟨serial, hattach⟩
      cases hs : p.isSubscribed topic with
      | false => rw [Proxy.handed, hs, if_neg Bool.false_ne_true, Proxy.offered_of_not_subscribed hs]
      | true =>
        rw [Proxy.handed, if_pos hs, Proxy.offered_of_subscribed hc ((hr id p hp).2.2 c hc) hs]

/-- The instance offers the message to its own clients and posts one relay for each subscribed client
elsewhere. -/
theorem SoundAs.publish_eq (h : n.SoundAs own) (hr : n.IsReceptive)
    (hm : delimiter ∉ m.name.toList) (hb : b.outages = []) (topic : String) :
    n.publish topic m b
      = { sent := (n.audience topic).length
          node := n.offered topic m
          backend :=
            { b with bus := b.bus.publishEach (posts own topic m n.registry.entries) } } := by
  have hpublish : n.publish topic m b = n.publishIn n.registry.entries topic m b := rfl
  have hsplit := length_subscribed own topic m n.registry.entries
  rw [hr.relayed_eq_posts hm, hr.refused_eq_nil hm] at hsplit
  rw [hpublish, h.publishIn_eq (.refl _), hr.handed_eq_offered, hr.relayed_eq_posts hm,
    Backend.publishEach_of_no_outages hb, audience, List.length_map, hsplit]
  rfl

/-- Of a message that cannot be relayed the other instances learn nothing. -/
theorem SoundAs.publish_refused (h : n.SoundAs own) (hr : n.IsReceptive)
    (hm : delimiter ∈ m.name.toList) (topic : String) (b : Backend) :
    n.publish topic m b
      = { sent := (n.audienceAt topic own).length, node := n.offered topic m, backend := b } := by
  have hpublish : n.publish topic m b = n.publishIn n.registry.entries topic m b := rfl
  rw [hpublish, h.publishIn_eq (.refl _), hr.handed_eq_offered, relayed_of_delimiter hm,
    reached_eq_audienceAt]
  rfl

/-- On the channel of another instance the clients' relays are posted, one for each of them. -/
theorem posts_at {channel : String} (hc : channel ≠ own) :
    ((posts own topic m n.registry.entries).filter fun post => post.1 = channel).map (·.2)
      = (n.audienceAt topic channel).map fun id => (Relay.mk id m).text := by
  rw [posts, List.filter_map, List.map_map, List.filter_filter, audienceAt, List.map_map]
  congr 1
  apply List.filter_congr
  intro e _
  simp only [Function.comp_apply, Proxy.isRemote]
  by_cases ho : e.2.record.owner = channel
  · simp [ho, hc]
  · simp [ho]

theorem posts_at_own :
    (posts own topic m n.registry.entries).filter (fun post => post.1 = own) = [] := by
  rw [posts, List.filter_map, List.filter_filter, List.map_eq_nil_iff, List.filter_eq_nil_iff]
  intro e _
  by_cases ho : e.2.record.owner = own
  · simp [Proxy.isRemote, ho]
  · simp [ho]

/-! ## Handling relays -/

/-- The instance handles the payloads one after the other, none with an error, and ends up so. -/
def Handles : Node → List String → Node → Prop
  | n, [], n' => n' = n
  | n, payload :: rest, n' =>
    (n.handleRelay payload).1 = .ok () ∧ Handles (n.handleRelay payload).2 rest n'

theorem handleRelay_text (h : n.SoundAs own) (hm : delimiter ∉ m.name.toList) {id : String}
    (hne : id ≠ "") (hid : delimiter ∉ id.toList) {p : Proxy} {c : Client}
    (hp : n.registry.find? id = some p) (hc : p.client? = some c) (hr : c.IsReceptive)
    (hs : p.isSubscribed topic = true) :
    n.handleRelay (Relay.mk id m).text = (.ok (), n.putBack id (p.offered topic m)) := by
  have hdeliver : p.deliver n.channel m = .ok (p.offered topic m) := by
    rw [← Proxy.offered_of_subscribed hc hr hs, h.channel]
    exact (h.proxies id p hp).deliver_of_client? hc m
  rw [handleRelay, Relay.decode_text (r := ⟨id, m⟩) hne hid hm]
  simp only [hp, hdeliver]

theorem SoundAs.handles_texts (h : n.SoundAs own) (topic : String)
    (hm : delimiter ∉ m.name.toList) {ids : List String} (hnodup : ids.Nodup)
    (hids : ∀ id ∈ ids, id ≠ "" ∧ delimiter ∉ id.toList ∧ ∃ p c, n.registry.find? id = some p
      ∧ p.client? = some c ∧ c.IsReceptive ∧ p.isSubscribed topic = true) :
    ∃ registry, n.Handles (ids.map fun id => (Relay.mk id m).text) { n with registry }
      ∧ ∀ id, registry.find? id = if id ∈ ids
          then (n.registry.find? id).map (Proxy.offered topic m) else n.registry.find? id := by
  induction ids generalizing n with
  | nil => exact ⟨n.registry, rfl, fun id => rfl⟩
  | cons id ids ih =>
    obtain ⟨hnot, hnodup⟩ := List.nodup_cons.1 hnodup
    obtain ⟨hne, hd, p, c, hp, hc, hr, hs⟩ := hids id List.mem_cons_self
    have hhandle := handleRelay_text h hm hne hd hp hc hr hs
    have hsound : (n.putBack id (p.offered topic m)).SoundAs own := by
      have hkept := h.handleRelay (Relay.mk id m).text
      rw [hhandle] at hkept
      exact hkept
    obtain ⟨registry, hrest, hfind⟩ := @ih (n.putBack id (p.offered topic m)) hsound hnodup (by
      intro c hmem
      obtain ⟨hne, hd, q, d, hq, hrest⟩ := hids c (List.mem_cons_of_mem _ hmem)
      have hother : id ≠ c := fun he => hnot (he ▸ hmem)
      exact ⟨hne, hd, q, d, (Table.find?_insert_other hother _ _).trans hq, hrest⟩)
    refine ⟨registry, ?_, ?_⟩
    · rw [List.map_cons, Handles, hhandle]
      exact ⟨rfl, hrest⟩
    · intro c
      rw [hfind c, putBack_registry]
      by_cases hcid : id = c
      · rw [← hcid, if_neg hnot, if_pos List.mem_cons_self, Table.find?_insert_self, hp]
        rfl
      · have hmem : c ∈ id :: ids ↔ c ∈ ids := by
          rw [List.mem_cons, or_iff_right (Ne.symm hcid)]
        simp only [Table.find?_insert_other hcid, hmem]

end Node

end TopicMesh
