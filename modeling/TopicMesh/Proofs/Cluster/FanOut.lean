import TopicMesh.Proofs.Cluster.Exchange
import TopicMesh.Proofs.Node.Mirror

/-!
# TopicMesh.Proofs.Cluster.FanOut

A message that is published anywhere in a cluster reaches every client subscribed to its topic once,
wherever the client is attached.

* `Cluster.Converged`  — each client is attached to one instance, the store says where, and every
  instance follows the store.
* `mem_audienceAt_iff` — the instances agree on who is subscribed: an instance that follows a client
  and the one that it is attached to.
* `publish_reaches`    — the message is in the queue of every subscribed client once all instances
  have handled their relays.
-/

namespace TopicMesh

theorem TopicSet.isEmpty_of_contains {s : TopicSet} {topic : String}
    (h : s.contains topic = true) : s.isEmpty = false := by
  rw [contains, Table.contains, Option.isSome_iff_exists] at h
  obtain ⟨u, hu⟩ := h
  rw [isEmpty, List.isEmpty_eq_false_iff_exists_mem]
  exact ⟨_, (Table.mem_entries_iff _ _ _).2 hu⟩

namespace Proxy

variable {p : Proxy}

theorem exists_client? (h : p.isAttached = true) : ∃ c, p.client? = some c := by
  obtain ⟨serial, c, hc⟩ := isAttached_eq_true_iff.1 h
  exact ⟨c, client?_eq_some_iff.2 ⟨serial, hc⟩⟩

theorem isSubscribed_of_client? {c : Client} (h : p.client? = some c) (topic : String) :
    p.isSubscribed topic = c.topics.contains topic := by
  obtain ⟨serial, hc⟩ := client?_eq_some_iff.1 h
  rw [isSubscribed, topics, hc]

theorem isSubscribed_of_elsewhere (h : p.isAttached = false) (topic : String) :
    p.isSubscribed topic = p.record.topics.contains topic := by
  rw [isSubscribed, topics]
  split
  · rename_i serial c hc
    rw [isAttached_eq_true_iff.2 ⟨serial, c, hc⟩] at h
    cases h
  · rfl

end Proxy

/-- An attached client. -/
def Node.client? (n : Node) (id : String) : Option Client :=
  (n.registry.find? id).bind Proxy.client?

theorem Node.client?_eq_some_iff {n : Node} {id : String} {c : Client} :
    n.client? id = some c ↔ ∃ p, n.registry.find? id = some p ∧ p.client? = some c :=
  Option.bind_eq_some_iff

theorem Node.client?_offered (n : Node) (topic : String) (m : Message) (id : String) :
    (n.offered topic m).client? id = (n.client? id).map (Client.offered topic m) := by
  rw [client?, client?, offered, Table.find?_map]
  cases n.registry.find? id with
  | none => rfl
  | some p => exact Proxy.client?_mapClient p _

namespace Cluster

/-- The proxies of the attached clients subscribed to a topic, over all instances. -/
def subscribers (c : Cluster) (topic : String) : List Proxy :=
  c.members.values.flatMap fun member => member.node.attached.filter (·.isSubscribed topic)

/-- Each client is attached to one instance, the records are those of the attached clients with topics,
and every instance follows the records of the others. Instances are sound whatever happened to them
(`Node.Reachable.soundAs`). -/
structure Converged (c : Cluster) : Prop where
  sound : ∀ channel n, c.node? channel = some n → n.SoundAs channel
  apart : ∀ channel channel' n n' id client client', c.node? channel = some n →
    c.node? channel' = some n' → n.client? id = some client → n'.client? id = some client' →
    channel = channel'
  /-- The records are of attached clients, with their instances and topics. -/
  owned : ∀ id r, c.backend.store.records.find? id = some r →
    ∃ n client, c.node? r.owner = some n ∧ n.client? id = some client
      ∧ client.topics.isEmpty = false ∧ r.topics = client.topics
  recorded : ∀ channel n id client, c.node? channel = some n → n.client? id = some client →
    client.topics.isEmpty = false → ∃ r, c.backend.store.records.find? id = some r
  mirrors : ∀ channel n, c.node? channel = some n → n.Mirrors c.backend.store.records

variable {c : Cluster} {own channel topic id : String} {n n' : Node}

/-- An attached client that is subscribed is in the audience of its own instance. -/
theorem Converged.mem_audienceAt_own (h : c.Converged) (hn : c.node? own = some n) :
    id ∈ n.audienceAt topic own ↔
      ∃ client, n.client? id = some client ∧ client.topics.contains topic = true := by
  rw [Node.mem_audienceAt_iff]
  constructor
  · rintro ⟨p, hp, hs, ho⟩
    have ha := ((h.sound own n hn).proxies id p hp).attached_iff.2 ho
    obtain ⟨client, hc⟩ := Proxy.exists_client? ha
    rw [Proxy.isSubscribed_of_client? hc] at hs
    exact ⟨client, Node.client?_eq_some_iff.2 ⟨p, hp, hc⟩, hs⟩
  · rintro ⟨client, hclient, ht⟩
    obtain ⟨p, hp, hc⟩ := Node.client?_eq_some_iff.1 hclient
    have ha := Proxy.isAttached_of_client? hc
    refine ⟨p, hp, ?_, ((h.sound own n hn).proxies id p hp).attached_iff.1 ha⟩
    rw [Proxy.isSubscribed_of_client? hc]
    exact ht

/-- A followed client is attached to the instance that its record names, with the same topics. -/
theorem Converged.followed (h : c.Converged) (topic : String) (hn : c.node? own = some n)
    {p : Proxy} (hp : n.registry.find? id = some p) (ha : p.isAttached = false) :
    ∃ n' client, c.node? p.record.owner = some n' ∧ n'.client? id = some client
      ∧ p.isSubscribed topic = client.topics.contains topic := by
  obtain ⟨-, -, hr⟩ := (h.mirrors own n hn).sound id p hp ha
  obtain ⟨n', client, hn', hclient, -, htopics⟩ := h.owned id p.record hr
  refine ⟨n', client, hn', hclient, ?_⟩
  rw [Proxy.isSubscribed_of_elsewhere ha, htopics]

/-- A subscribed client is followed by every other instance. -/
theorem Converged.exists_followed (h : c.Converged) (hn : c.node? own = some n)
    (hn' : c.node? channel = some n') (hne : channel ≠ own) {client : Client}
    (hclient : n'.client? id = some client) (ht : client.topics.contains topic = true) :
    ∃ p, n.registry.find? id = some p ∧ p.isSubscribed topic = true
      ∧ p.record.owner = channel := by
  obtain ⟨r, hr⟩ := h.recorded channel n' id client hn' hclient (TopicSet.isEmpty_of_contains ht)
  obtain ⟨n₁, client₁, hn₁, hclient₁, -, htopics⟩ := h.owned id r hr
  have ho : r.owner = channel := h.apart _ _ n₁ n' id client₁ client hn₁ hn' hclient₁ hclient
  rw [ho, hn'] at hn₁
  cases hn₁
  rw [hclient] at hclient₁
  cases hclient₁
  have howner : r.owner ≠ n.channel := by
    rw [ho, (h.sound own n hn).channel]
    exact hne
  rcases (h.mirrors own n hn).complete id r hr howner with hl | ⟨p, hp, ha, rfl⟩
  · obtain ⟨q, hq, haq⟩ := Node.isLocal_eq_true_iff.1 hl
    obtain ⟨d, hd⟩ := Proxy.exists_client? haq
    have hd : n.client? id = some d := Node.client?_eq_some_iff.2 ⟨q, hq, hd⟩
    exact absurd (h.apart _ _ n' n id client d hn' hn hclient hd) hne
  · refine ⟨p, hp, ?_, ho⟩
    rw [Proxy.isSubscribed_of_elsewhere ha, htopics]
    exact ht

/-- Another instance has the same clients of this one in its audience. -/
theorem Converged.mem_audienceAt_iff (h : c.Converged) (hn : c.node? own = some n)
    (hn' : c.node? channel = some n') (hne : channel ≠ own) :
    id ∈ n.audienceAt topic channel ↔ id ∈ n'.audienceAt topic channel := by
  rw [h.mem_audienceAt_own hn', Node.mem_audienceAt_iff]
  constructor
  · rintro ⟨p, hp, hs, ho⟩
    have ha : p.isAttached = false := by
      rw [← Bool.not_eq_true, ((h.sound own n hn).proxies id p hp).attached_iff, ho]
      exact hne
    obtain ⟨n₁, client, hn₁, hclient, htopics⟩ := h.followed topic hn hp ha
    rw [ho, hn'] at hn₁
    cases hn₁
    exact ⟨client, hclient, htopics.symm.trans hs⟩
  · rintro ⟨client, hclient, ht⟩
    exact h.exists_followed hn hn' hne hclient ht

/-- The whole audience of an instance is the subscribed clients, wherever they are attached. -/
theorem Converged.mem_audience_iff (h : c.Converged) (hn : c.node? own = some n) :
    id ∈ n.audience topic ↔
      ∃ channel n', c.node? channel = some n' ∧ id ∈ n'.audienceAt topic channel := by
  rw [Node.mem_audience_iff]
  constructor
  · rintro ⟨p, hp, hs⟩
    cases ha : p.isAttached with
    | true =>
      have ho := ((h.sound own n hn).proxies id p hp).attached_iff.1 ha
      exact ⟨own, n, hn, Node.mem_audienceAt_iff.2 ⟨p, hp, hs, ho⟩⟩
    | false =>
      obtain ⟨n', client, hn', hclient, htopics⟩ := h.followed topic hn hp ha
      refine ⟨p.record.owner, n', hn', (h.mem_audienceAt_own hn').2 ⟨client, hclient, ?_⟩⟩
      exact htopics.symm.trans hs
  · rintro ⟨channel, n', hn', hid⟩
    by_cases hne : channel = own
    · rw [hne, hn] at hn'
      cases hn'
      obtain ⟨p, hp, hs, -⟩ := Node.mem_audienceAt_iff.1 hid
      exact ⟨p, hp, hs⟩
    · obtain ⟨p, hp, hs, -⟩ := Node.mem_audienceAt_iff.1 ((h.mem_audienceAt_iff hn hn' hne).2 hid)
      exact ⟨p, hp, hs⟩

/-! ## How many clients are subscribed -/

theorem map_clientId_attached (h : n.SoundAs own) (topic : String) :
    (n.attached.filter (·.isSubscribed topic)).map (·.clientId) = n.audienceAt topic own := by
  have hentry : ∀ e ∈ n.registry.entries, e.2.SoundAt own e.1 :=
    fun e he => h.proxies e.1 e.2 ((Table.mem_entries_iff _ _ _).1 he)
  have hfilter : n.registry.entries.filter (fun e => e.2.isSubscribed topic && e.2.isAttached)
      = n.registry.entries.filter fun e => e.2.isSubscribed topic && e.2.record.owner = own := by
    apply List.filter_congr
    intro e he
    rw [Bool.eq_iff_iff, Bool.and_eq_true, Bool.and_eq_true, (hentry e he).attached_iff,
      decide_eq_true_eq]
  rw [Node.attached, Node.proxies, Table.values, List.filter_map, List.filter_map, List.map_map,
    List.filter_filter]
  simp only [Function.comp_apply]
  rw [hfilter, Node.audienceAt]
  apply List.map_congr_left
  intro e he
  exact (hentry e (List.mem_filter.1 he).1).clientId

/-- The subscribers of a topic by their ids, instance by instance. -/
theorem Converged.map_clientId_subscribers (h : c.Converged) (topic : String) :
    (c.subscribers topic).map (·.clientId)
      = c.members.entries.flatMap fun e => e.2.node.audienceAt topic e.1 := by
  rw [subscribers, Table.values, List.flatMap_map, List.map_flatMap, List.flatMap_def,
    List.flatMap_def]
  congr 1
  apply List.map_congr_left
  intro e he
  exact map_clientId_attached (h.sound e.1 _ (node?_of_mem_entries he)) topic

theorem Converged.nodup_subscribers (h : c.Converged) (topic : String) :
    ((c.subscribers topic).map (·.clientId)).Nodup := by
  rw [h.map_clientId_subscribers, List.Nodup, List.pairwise_flatMap]
  refine ⟨fun e _ => e.2.node.nodup_audienceAt topic e.1, ?_⟩
  refine c.members.ascending.imp_of_mem ?_
  intro e e' he he' hlt id hid id' hid' heq
  have hn := node?_of_mem_entries he
  have hn' := node?_of_mem_entries he'
  rw [← heq] at hid'
  obtain ⟨client, hclient, -⟩ := (h.mem_audienceAt_own hn).1 hid
  obtain ⟨client', hclient', -⟩ := (h.mem_audienceAt_own hn').1 hid'
  exact Keyed.ne_of_lt hlt (h.apart _ _ _ _ id client client' hn hn' hclient hclient')

/-- The audience of any instance has as many clients as are subscribed in the whole cluster. -/
theorem Converged.length_audience (h : c.Converged) (hn : c.node? own = some n) (topic : String) :
    (n.audience topic).length = (c.subscribers topic).length := by
  have hperm : (n.audience topic).Perm ((c.subscribers topic).map (·.clientId)) := by
    rw [List.perm_ext_iff_of_nodup (n.nodup_audience topic) (h.nodup_subscribers topic)]
    intro id
    rw [h.mem_audience_iff hn, h.map_clientId_subscribers, List.mem_flatMap]
    constructor
    · rintro ⟨channel, n', hn', hid⟩
      obtain ⟨member, hm, rfl⟩ := node?_eq_some_iff.1 hn'
      exact ⟨(channel, member), (Table.mem_entries_iff _ _ _).2 hm, hid⟩
    · rintro ⟨e, he, hid⟩
      exact ⟨e.1, e.2.node, node?_of_mem_entries he, hid⟩
  rw [hperm.length_eq, List.length_map]

end Cluster

namespace Exchange

variable {x : Exchange} {own channel topic : String} {n n' : Node} {m : Message}

/-- Nothing stands in the way of a message: every client can be addressed and has room for it, and
every instance listens on its channel, with nothing waiting and few enough clients. -/
structure IsReady (x : Exchange) : Prop where
  outages : x.cluster.backend.outages = []
  clients : ∀ channel n id client, x.cluster.node? channel = some n → n.client? id = some client →
    id ≠ "" ∧ delimiter ∉ id.toList ∧ client.IsReceptive
  crowd : ∀ channel n, x.cluster.node? channel = some n →
    n.attached.length ≤ Subscription.backlog
  listens : ∀ channel n, x.cluster.node? channel = some n → ∃ ticket, x.Listens channel ticket []

/-- How many payloads wait for the loop of an instance. -/
def pending (x : Exchange) (channel : String) : Nat :=
  match (x.lines channel).ticket with
  | none => 0
  | some ticket => ((x.cluster.backend.bus.find? ticket).map (·.waiting.length)).getD 0

theorem Listens.pending_eq {ticket : Nat} {payloads : List String}
    (h : x.Listens channel ticket payloads) : x.pending channel = payloads.length := by
  obtain ⟨wakeAt, hloop⟩ := h.loop
  simp [pending, hloop, h.waiting]

theorem IsReady.isReceptive (h : x.IsReady) (hc : x.cluster.Converged)
    (hn : x.cluster.node? own = some n) : n.IsReceptive := by
  intro id p hp
  cases ha : p.isAttached with
  | true =>
    obtain ⟨client, hclient⟩ := Proxy.exists_client? ha
    obtain ⟨hne, hd, hr⟩ := h.clients own n id client hn (Node.client?_eq_some_iff.2 ⟨p, hp, hclient⟩)
    refine ⟨hne, hd, ?_⟩
    intro client' hclient'
    rw [hclient] at hclient'
    cases hclient'
    exact hr
  | false =>
    obtain ⟨n', client, hn', hclient, -⟩ := hc.followed "" hn hp ha
    obtain ⟨hne, hd, -⟩ := h.clients _ n' id client hn' hclient
    refine ⟨hne, hd, ?_⟩
    intro client' hclient'
    rw [Proxy.isAttached_of_client? hclient'] at ha
    cases ha

/-- No instance has more relays to handle than it has clients. -/
theorem IsReady.length_audienceAt (h : x.IsReady) (hc : x.cluster.Converged)
    (hn : x.cluster.node? channel = some n) (topic : String) :
    (n.audienceAt topic channel).length ≤ Subscription.backlog := by
  rw [← Cluster.map_clientId_attached (hc.sound channel n hn), List.length_map]
  exact Nat.le_trans (List.length_filter_le _ _) (h.crowd channel n hn)

/-- An instance that handles the relays for its subscribed clients offers them the message. -/
theorem handles_audience (h : x.IsReady) (hc : x.cluster.Converged)
    (hm : delimiter ∉ m.name.toList) (hn : x.cluster.node? channel = some n) {ids : List String}
    (hnodup : ids.Nodup) (hids : ∀ id, id ∈ ids ↔ id ∈ n.audienceAt topic channel) :
    n.Handles (ids.map fun id => (Relay.mk id m).text) (n.offered topic m) := by
  have hattached : ∀ id ∈ ids, id ≠ "" ∧ delimiter ∉ id.toList
      ∧ ∃ p client, n.registry.find? id = some p ∧ p.client? = some client
        ∧ client.IsReceptive ∧ p.isSubscribed topic = true := by
    intro id hid
    obtain ⟨client, hclient, ht⟩ := (hc.mem_audienceAt_own hn).1 ((hids id).1 hid)
    obtain ⟨hne, hd, hr⟩ := h.clients channel n id client hn hclient
    obtain ⟨p, hp, hclient⟩ := Node.client?_eq_some_iff.1 hclient
    refine ⟨hne, hd, p, client, hp, hclient, hr, ?_⟩
    rw [Proxy.isSubscribed_of_client? hclient, ht]
  obtain ⟨registry, hh, hfind⟩ :=
    (hc.sound channel n hn).handles_texts topic hm hnodup hattached
  have hoffered : { n with registry } = n.offered topic m := by
    apply Node.eq_offered
    intro id
    rw [hfind id]
    split
    · rfl
    · rename_i hid
      rw [hids id, hc.mem_audienceAt_own hn] at hid
      cases hp : n.registry.find? id with
      | none => rfl
      | some p =>
        have hoffered : p.offered topic m = p := by
          cases ha : p.isAttached with
          | false => exact Proxy.offered_of_elsewhere ha
          | true =>
            obtain ⟨client, hclient⟩ := Proxy.exists_client? ha
            apply Proxy.offered_of_not_subscribed
            rw [Proxy.isSubscribed_of_client? hclient, ← Bool.not_eq_true]
            intro ht
            exact hid ⟨client, Node.client?_eq_some_iff.2 ⟨p, hp, hclient⟩, ht⟩
        rw [Option.map_some, hoffered]
  rw [← hoffered]
  exact hh

theorem publish_eq (h : x.IsReady) (hc : x.cluster.Converged) (hm : delimiter ∉ m.name.toList)
    (hn : x.cluster.node? own = some n) (topic : String) :
    x.publish own topic m = ((n.audience topic).length,
      x.put own (n.offered topic m) { x.cluster.backend with
        bus := x.cluster.backend.bus.publishEach (Node.posts own topic m n.registry.entries) }) := by
  simp only [publish, hn]
  rw [(hc.sound own n hn).publish_eq (h.isReceptive hc hn) hm h.outages]

/-- The relays of the instance wait for the other instances, those for each instance's own clients. -/
theorem listens_publish (h : x.IsReady) (hc : x.cluster.Converged) (hm : delimiter ∉ m.name.toList)
    (hn : x.cluster.node? own = some n) (hn' : x.cluster.node? channel = some n') (topic : String) :
    ∃ ticket, (x.publish own topic m).2.Listens channel ticket
      (if channel = own then [] else (n.audienceAt topic channel).map fun id => (Relay.mk id m).text)
      := by
  obtain ⟨ticket, hl⟩ := h.listens channel n' hn'
  rw [publish_eq h hc hm hn]
  refine ⟨ticket, hl.loop, ?_⟩
  have hposts : ((Node.posts own topic m n.registry.entries).filter
        fun post => post.1 = channel).map (·.2)
      = if channel = own then []
        else (n.audienceAt topic channel).map fun id => (Relay.mk id m).text := by
    split
    · rename_i he
      rw [he, Node.posts_at_own]
      rfl
    · rename_i hne
      exact Node.posts_at hne
  have hroom : ((Node.posts own topic m n.registry.entries).filter
      fun post => post.1 = channel).length ≤ Subscription.backlog := by
    rw [← List.length_map (f := (·.2)), hposts]
    split
    · exact Nat.zero_le _
    · rename_i hne
      rw [List.length_map]
      refine Nat.le_trans ?_ (h.length_audienceAt hc hn' topic)
      exact (n.nodup_audienceAt topic channel).length_le_of_subset
        fun id hid => (hc.mem_audienceAt_iff hn hn' hne).1 hid
  have hfind := Bus.find?_publishEach hl.waiting rfl (Nat.le_trans (Nat.le_of_eq (Nat.zero_add _)) hroom)
  simp only [List.nil_append, hposts] at hfind
  exact hfind

/-- After an instance published, every instance heads for the state in which its clients have the
message. -/
theorem heads_publish (h : x.IsReady) (hc : x.cluster.Converged)
    (hm : delimiter ∉ m.name.toList) (hn : x.cluster.node? own = some n) {turns : String → Nat}
    (hturns : ∀ channel y, x.cluster.node? channel = some y →
      (x.publish own topic m).2.pending channel ≤ turns channel) :
    (x.publish own topic m).2.Heads
      (fun channel => (x.cluster.node? channel).map (Node.offered topic m)) turns := by
  have hnode : ∀ channel, (x.publish own topic m).2.cluster.node? channel
      = if own = channel then some (n.offered topic m) else x.cluster.node? channel := by
    rw [publish_eq h hc hm hn]
    exact Cluster.node?_setNode hn _
  constructor
  · intro channel y hy
    rw [hnode channel] at hy
    by_cases he : own = channel
    · rw [if_pos he] at hy
      cases hy
      rw [← he]
      obtain ⟨ticket, hl⟩ := listens_publish h hc hm hn hn topic
      rw [if_pos rfl] at hl
      refine ⟨ticket, [], _, hl, Nat.zero_le _, rfl, ?_⟩
      rw [hn, Option.map_some]
    · rw [if_neg he] at hy
      have hne : channel ≠ own := fun heq => he heq.symm
      obtain ⟨ticket, hl⟩ := listens_publish h hc hm hn hy topic
      have hle := hturns channel y hy
      rw [hl.pending_eq] at hle
      rw [if_neg hne] at hl hle
      refine ⟨ticket, _, y.offered topic m, hl, hle, ?_, ?_⟩
      · exact handles_audience h hc hm hy (n.nodup_audienceAt topic channel)
          fun id => hc.mem_audienceAt_iff hn hy hne
      · rw [hy, Option.map_some]
  · intro channel hnone
    rw [hnode channel] at hnone
    split at hnone
    · cases hnone
    · rw [hnone]
      rfl

/-! ## Two instances with a client each -/

def newsReader (id : String) : Client := (Client.connect id 8).subscribe ["news"]

def newsRecord (id owner : String) : Record :=
  ⟨id, owner, TopicSet.empty.insert "news", "", owner⟩

/-- An instance with one client that follows another one. -/
def reader (own id other followed : String) : Node :=
  { channel := own
    registry := (Table.empty.insert id (.attach own 0 (newsReader id))).insert followed
      (.mirror (newsRecord followed other) none) }

def readers : Exchange where
  cluster :=
    { members := (Table.empty.insert "a" { node := reader "a" "x" "b" "y" }).insert "b"
        { node := reader "b" "y" "a" "x" }
      backend :=
        { bus := { subscriptions := [{ ticket := 0, channel := "a" }, { ticket := 1, channel := "b" }]
                   nextTicket := 2 }
          store := (Store.empty.insertRecord (newsRecord "x" "a")).insertRecord (newsRecord "y" "b")
          clock := ⟨0, 0⟩ } }
  lines channel :=
    { line := .relays, state := .listening, ticket := some (if channel = "a" then 0 else 1) }

theorem node?_readers (h : readers.cluster.node? channel = some n) :
    channel = "a" ∧ n = reader "a" "x" "b" "y" ∨ channel = "b" ∧ n = reader "b" "y" "a" "x" := by
  obtain ⟨member, hm, rfl⟩ := Cluster.node?_eq_some_iff.1 h
  have hmem : (channel, member) ∈ readers.cluster.members.entries :=
    (Table.mem_entries_iff _ _ _).2 hm
  have he : readers.cluster.members.entries
      = [("a", { node := reader "a" "x" "b" "y" }), ("b", { node := reader "b" "y" "a" "x" })] := rfl
  rw [he] at hmem
  simp only [List.mem_cons, List.not_mem_nil, or_false, Prod.mk.injEq] at hmem
  rcases hmem with ⟨rfl, rfl⟩ | ⟨rfl, rfl⟩
  · exact .inl ⟨rfl, rfl⟩
  · exact .inr ⟨rfl, rfl⟩

theorem find?_reader {own id other followed c : String} {p : Proxy}
    (h : (reader own id other followed).registry.find? c = some p) :
    c = followed ∧ p = .mirror (newsRecord followed other) none
      ∨ c = id ∧ p = .attach own 0 (newsReader id) := by
  simp only [reader, Table.find?_insert, Table.find?_empty] at h
  split at h
  · rename_i hc
    cases h
    exact .inl ⟨hc.symm, rfl⟩
  · split at h
    · rename_i hc
      cases h
      exact .inr ⟨hc.symm, rfl⟩
    · cases h

theorem client?_reader {own id other followed c : String} {client : Client}
    (h : (reader own id other followed).client? c = some client) :
    c = id ∧ client = newsReader id := by
  obtain ⟨p, hp, hc⟩ := Node.client?_eq_some_iff.1 h
  rcases find?_reader hp with ⟨-, rfl⟩ | ⟨rfl, rfl⟩
  · cases hc
  · cases hc
    exact ⟨rfl, rfl⟩

theorem find?_records {id : String} {r : Record}
    (h : readers.cluster.backend.store.records.find? id = some r) :
    id = "x" ∧ r = newsRecord "x" "a" ∨ id = "y" ∧ r = newsRecord "y" "b" := by
  have hmem := (Table.mem_entries_iff _ _ _).2 h
  have he : readers.cluster.backend.store.records.entries
      = [("x", newsRecord "x" "a"), ("y", newsRecord "y" "b")] := rfl
  rw [he] at hmem
  simp only [List.mem_cons, List.not_mem_nil, or_false, Prod.mk.injEq] at hmem
  exact hmem

theorem mirrors_reader {own id other followed : String} (ho : other ≠ own)
    {records : Table Record} (hf : records.find? followed = some (newsRecord followed other))
    (hr : ∀ c r, records.find? c = some r →
      c = followed ∧ r = newsRecord followed other ∨ r.owner = own) :
    (reader own id other followed).Mirrors records where
  sound c p hp ha := by
    rcases find?_reader hp with ⟨rfl, rfl⟩ | ⟨rfl, rfl⟩
    · exact ⟨rfl, ho, hf⟩
    · cases ha
  complete c r h hne := by
    rcases hr c r h with ⟨rfl, rfl⟩ | hown
    · exact .inr ⟨.mirror (newsRecord c other) none, Table.find?_insert_self _ _ _, rfl, rfl⟩
    · exact absurd hown hne

theorem soundAs_reader {own id other followed : String} (h : other ≠ own) :
    (reader own id other followed).SoundAs own where
  channel := rfl
  proxies c p hp := by
    rcases find?_reader hp with ⟨rfl, rfl⟩ | ⟨rfl, rfl⟩
    · exact Proxy.soundAt_mirror (r := newsRecord c other) h none
    · exact Proxy.soundAt_attach own 0 (newsReader c)

theorem converged_readers : readers.cluster.Converged where
  sound channel n hn := by
    rcases node?_readers hn with ⟨rfl, rfl⟩ | ⟨rfl, rfl⟩
    · exact soundAs_reader (by decide)
    · exact soundAs_reader (by decide)
  apart channel channel' n n' id client client' hn hn' hc hc' := by
    rcases node?_readers hn with ⟨rfl, rfl⟩ | ⟨rfl, rfl⟩ <;>
      rcases node?_readers hn' with ⟨rfl, rfl⟩ | ⟨rfl, rfl⟩
    · rfl
    · exact absurd ((client?_reader hc).1.symm.trans (client?_reader hc').1) (by decide)
    · exact absurd ((client?_reader hc).1.symm.trans (client?_reader hc').1) (by decide)
    · rfl
  owned id r hr := by
    rcases find?_records hr with ⟨rfl, rfl⟩ | ⟨rfl, rfl⟩
    · exact ⟨_, _, rfl, rfl, rfl, rfl⟩
    · exact ⟨_, _, rfl, rfl, rfl, rfl⟩
  recorded channel n id client hn hc _ := by
    rcases node?_readers hn with ⟨rfl, rfl⟩ | ⟨rfl, rfl⟩
    · obtain ⟨rfl, rfl⟩ := client?_reader hc
      exact ⟨_, rfl⟩
    · obtain ⟨rfl, rfl⟩ := client?_reader hc
      exact ⟨_, rfl⟩
  mirrors channel n hn := by
    rcases node?_readers hn with ⟨rfl, rfl⟩ | ⟨rfl, rfl⟩
    · refine mirrors_reader (by decide) rfl ?_
      intro id r hr
      rcases find?_records hr with ⟨rfl, rfl⟩ | ⟨rfl, rfl⟩
      · exact .inr rfl
      · exact .inl ⟨rfl, rfl⟩
    · refine mirrors_reader (by decide) rfl ?_
      intro id r hr
      rcases find?_records hr with ⟨rfl, rfl⟩ | ⟨rfl, rfl⟩
      · exact .inl ⟨rfl, rfl⟩
      · exact .inr rfl

theorem ready_readers : readers.IsReady where
  outages := rfl
  clients channel n id client hn hc := by
    rcases node?_readers hn with ⟨rfl, rfl⟩ | ⟨rfl, rfl⟩
    · obtain ⟨rfl, rfl⟩ := client?_reader hc
      exact ⟨by decide, by decide, rfl, rfl⟩
    · obtain ⟨rfl, rfl⟩ := client?_reader hc
      exact ⟨by decide, by decide, rfl, rfl⟩
  crowd channel n hn := by
    rcases node?_readers hn with ⟨rfl, rfl⟩ | ⟨rfl, rfl⟩
    · decide
    · decide
  listens channel n hn := by
    rcases node?_readers hn with ⟨rfl, rfl⟩ | ⟨rfl, rfl⟩
    · exact ⟨0, ⟨0, rfl⟩, rfl⟩
    · exact ⟨1, ⟨0, rfl⟩, rfl⟩

/-! ## Every subscribed client -/

/-- A message that an instance publishes is in the queue of every client subscribed to the topic, once,
and in no other queue, as soon as every instance has had a turn for each relay that waits for it. The
instance reports how many clients are subscribed. -/
theorem publish_reaches (hc : x.cluster.Converged) (h : x.IsReady)
    (hm : delimiter ∉ m.name.toList) (hn : x.cluster.node? own = some n) {order : List String}
    (horder : ∀ channel y, x.cluster.node? channel = some y →
      (x.publish own topic m).2.pending channel ≤ order.count channel) :
    (x.publish own topic m).1 = (x.cluster.subscribers topic).length
    ∧ ∀ channel y, x.cluster.node? channel = some y →
        ((x.publish own topic m).2.turns order).pending channel = 0
        ∧ ((x.publish own topic m).2.turns order).cluster.node? channel
          = some (y.offered topic m)
        ∧ ∀ id, (y.offered topic m).client? id = (y.client? id).map fun client =>
            if client.topics.contains topic = true then { client with queue := client.queue ++ [m] }
            else client := by
  refine ⟨?_, ?_⟩
  · rw [publish_eq h hc hm hn]
    exact hc.length_audience hn topic
  · intro channel y hy
    have hends := (heads_publish h hc hm hn horder).turns
    obtain ⟨hnode, hidle⟩ := hends.node?_eq channel
    rw [hy, Option.map_some] at hnode
    obtain ⟨ticket, hl⟩ := hidle _ hnode
    exact ⟨hl.pending_eq, hnode, y.client?_offered topic m⟩

theorem publish_reaches_readers :
    (readers.publish "a" "news" ⟨"n", "data"⟩).1 = 2
    ∧ (((readers.publish "a" "news" ⟨"n", "data"⟩).2.turns ["b"]).cluster.node? "b").bind
        (fun n => (n.client? "y").map (·.queue)) = some [⟨"n", "data"⟩] := by
  have horder : ∀ channel y, readers.cluster.node? channel = some y →
      (readers.publish "a" "news" ⟨"n", "data"⟩).2.pending channel ≤ ["b"].count channel := by
    intro channel y hy
    rcases node?_readers hy with ⟨rfl, rfl⟩ | ⟨rfl, rfl⟩
    · exact Nat.le_of_eq rfl
    · exact Nat.le_of_eq rfl
  have hm : delimiter ∉ (⟨"n", "data"⟩ : Message).name.toList := by decide
  have hn : readers.cluster.node? "a" = some (reader "a" "x" "b" "y") := rfl
  obtain ⟨hsent, hall⟩ := publish_reaches converged_readers ready_readers hm hn horder
  obtain ⟨-, hnode, hclient⟩ := hall "b" _ rfl
  refine ⟨hsent, ?_⟩
  rw [hnode, Option.bind_some, hclient]
  rfl

end Exchange

end TopicMesh
