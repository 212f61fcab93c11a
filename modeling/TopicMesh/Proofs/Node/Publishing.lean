import TopicMesh.Proofs.Bus
import TopicMesh.Proofs.Node.Sound
import TopicMesh.Proofs.Relay
import TopicMesh.Proofs.Store

/-!
# TopicMesh.Proofs.Node.Publishing

What one fan-out does, whatever clients the registry lists and in whatever order it lists them.

* `Node.publishIn`        — a fan-out that comes across the proxies in a given order; `Node.publish`
  takes them in the order of their clients.
* `Proxy.handed`          — the proxy after the message, if the client is subscribed.
* `Node.relayed`          — what is posted for the subscribed clients elsewhere.
* `SoundAs.publishIn_eq`  — these two are all that a fan-out does.
-/

namespace TopicMesh

namespace Table

variable {α β : Type}

def map (f : α → β) (t : Table α) : Table β :=
  ⟨t.entries.map fun e => (e.1, f e.2), by
    rw [Keyed.Ascending, List.pairwise_map]
    exact t.ascending⟩

theorem find?_map (f : α → β) (t : Table α) (key : String) :
    (t.map f).find? key = (t.find? key).map f := by
  apply Option.ext
  intro b
  rw [← mem_entries_iff, Option.map_eq_some_iff, map, List.mem_map]
  constructor
  · rintro ⟨e, he, heq⟩
    cases heq
    exact ⟨e.2, (mem_entries_iff _ _ _).1 he, rfl⟩
  · rintro ⟨a, ha, rfl⟩
    exact ⟨(key, a), (mem_entries_iff _ _ _).2 ha, rfl⟩

end Table

/-- Among entries with different keys, only one has a given key. -/
theorem filter_key_eq {α : Type} {entries : List (String × α)} {key : String} {a : α}
    (hnodup : (entries.map (·.1)).Nodup) (hm : (key, a) ∈ entries) :
    entries.filter (fun e => e.1 = key) = [(key, a)] := by
  obtain ⟨before, after, rfl⟩ := List.append_of_mem hm
  rw [List.map_append, List.map_cons, List.nodup_append, List.nodup_cons] at hnodup
  obtain ⟨-, ⟨hafter, -⟩, hbefore⟩ := hnodup
  have hnone : ∀ l : List (String × α), key ∉ l.map (·.1) →
      l.filter (fun e => e.1 = key) = [] := by
    intro l hl
    rw [List.filter_eq_nil_iff]
    intro e he
    rw [decide_eq_true_eq]
    rintro rfl
    exact hl (List.mem_map_of_mem he)
  have hleft : key ∉ before.map (·.1) := fun hk => hbefore key hk key List.mem_cons_self rfl
  rw [List.filter_append, List.filter_cons_of_pos (by simp), hnone before hleft, hnone after hafter,
    List.nil_append]

namespace Backend

/-- Makes one publication after the other, and counts those that the bus took. -/
def publishEach (b : Backend) : List (String × String) → Nat × Backend
  | [] => (0, b)
  | post :: posts =>
    let reply := b.publish post.1 post.2
    let later := reply.backend.publishEach posts
    ((if reply.result.isOk then 1 else 0) + later.1, later.2)

theorem publishEach_append (b : Backend) (ps qs : List (String × String)) :
    b.publishEach (ps ++ qs)
      = ((b.publishEach ps).1 + ((b.publishEach ps).2.publishEach qs).1,
          ((b.publishEach ps).2.publishEach qs).2) := by
  induction ps generalizing b with
  | nil => simp [publishEach]
  | cons p ps ih => simp [publishEach, ih, Nat.add_assoc]

theorem publishEach_of_no_outages {b : Backend} (h : b.outages = [])
    (posts : List (String × String)) :
    b.publishEach posts = (posts.length, { b with bus := b.bus.publishEach posts }) := by
  induction posts generalizing b with
  | nil => rfl
  | cons post posts ih =>
    have hpublish : b.publish post.1 post.2
        = { result := .ok (), backend := { b with bus := b.bus.publish post.1 post.2 } } :=
      attempt_of_no_outages h .publish _
    have hrest := @ih { b with bus := b.bus.publish post.1 post.2 } h
    rw [publishEach, hpublish]
    simp only [hrest, Except.isOk, Except.toBool, if_true, List.length_cons, Nat.add_comm]
    rfl

end Backend

namespace Proxy

variable {topic : String} {m : Message} {p : Proxy}

/-- The proxy after a message on a topic, which an attached client that is subscribed is given. -/
def handed (topic : String) (m : Message) (p : Proxy) : Proxy :=
  if p.isSubscribed topic then p.mapClient (·.deliver m) else p

theorem handed_of_elsewhere (h : p.isAttached = false) : p.handed topic m = p := by
  rw [handed, mapClient_of_elsewhere h, ite_self]

theorem client?_handed {c : Client} (hc : p.client? = some c) :
    (p.handed topic m).client?
      = some (if p.isSubscribed topic = true ∧ c.isDiscarded = false then c.send m else c) := by
  rw [handed]
  cases hs : p.isSubscribed topic with
  | false => simp [hc]
  | true =>
    rw [if_pos rfl, client?_mapClient, hc, Option.map_some, Client.deliver]
    cases c.isDiscarded <;> rfl

end Proxy

namespace Node

variable {own topic : String} {n : Node} {m : Message}

/-- The instance after it handed a message to its own clients that are subscribed. -/
def handed (topic : String) (m : Message) (n : Node) : Node :=
  { n with registry := n.registry.map (Proxy.handed topic m) }

/-- The subscribed clients that are attached here. -/
def reached (own topic : String) (entries : List (String × Proxy)) : List String :=
  (entries.filter fun e => e.2.isSubscribed topic && !e.2.isRemote own).map (·.1)

/-- What is posted for the subscribed clients elsewhere, each with the channel it is posted on. -/
def relayed (own topic : String) (m : Message) (entries : List (String × Proxy)) :
    List (String × String) :=
  (entries.filter fun e =>
    e.2.isSubscribed topic && e.2.isRemote own && decide (Relay.mk e.1 m).IsPlain).map fun e =>
      (e.2.record.owner, (Relay.mk e.1 m).text)

/-- The subscribed clients elsewhere to whom the message cannot be relayed. -/
def refused (own topic : String) (m : Message) (entries : List (String × Proxy)) : List String :=
  (entries.filter fun e =>
    e.2.isSubscribed topic && e.2.isRemote own && !decide (Relay.mk e.1 m).IsPlain).map (·.1)

theorem relayed_cons (own topic : String) (m : Message) (e : String × Proxy)
    (entries : List (String × Proxy)) :
    relayed own topic m (e :: entries) = relayed own topic m [e] ++ relayed own topic m entries := by
  rw [relayed, relayed, relayed, ← List.map_append, ← List.filter_append]
  rfl

/-- Each subscribed client is reached here, posted to or refused. -/
theorem length_subscribed (own topic : String) (m : Message) (entries : List (String × Proxy)) :
    (entries.filter fun e => e.2.isSubscribed topic).length
      = (reached own topic entries).length + (relayed own topic m entries).length
        + (refused own topic m entries).length := by
  simp only [reached, relayed, refused, List.length_map]
  induction entries with
  | nil => rfl
  | cons e entries ih =>
    simp only [List.filter_cons]
    cases e.2.isSubscribed topic with
    | false => simpa using ih
    | true =>
      cases e.2.isRemote own with
      | false =>
        simp only [Bool.not_false, Bool.and_self, Bool.and_false, Bool.false_and, if_true,
          Bool.false_eq_true, if_false, List.length_cons, ih]
        omega
      | true =>
        cases decide (Relay.mk e.1 m).IsPlain <;>
          simp only [Bool.not_true, Bool.not_false, Bool.and_self, Bool.and_false, if_true,
            Bool.false_eq_true, if_false, List.length_cons, ih] <;> omega

/-- A fan-out that comes across the proxies in this order. -/
def publishIn (n : Node) (order : List (String × Proxy)) (topic : String) (m : Message)
    (b : Backend) : FanOut :=
  order.foldl (FanOut.step topic m) { node := n, backend := b }

theorem fanOut_step {f : FanOut} {id : String} {p : Proxy} (h : p.SoundAt own id)
    (hf : f.node.channel = own) (hk : f.node.registry.find? id = some p) (topic : String)
    (m : Message) :
    FanOut.step topic m f (id, p)
      = { sent := f.sent + (reached own topic [(id, p)]).length
            + (f.backend.publishEach (relayed own topic m [(id, p)])).1
          node := f.node.putBack id (p.handed topic m)
          backend := (f.backend.publishEach (relayed own topic m [(id, p)])).2 } := by
  rw [FanOut.step]
  cases hs : p.isSubscribed topic with
  | false =>
    have hrelayed : relayed own topic m [(id, p)] = [] := by simp [relayed, hs]
    have hreached : reached own topic [(id, p)] = [] := by simp [reached, hs]
    have hhanded : p.handed topic m = p := by simp [Proxy.handed, hs]
    rw [if_neg (by simp), hrelayed, hreached, hhanded, putBack_self hk]
    rfl
  | true =>
    rw [if_pos rfl, hf]
    cases ha : p.isAttached with
    | true =>
      have ho : p.record.owner = own := h.attached_iff.1 ha
      have hr : p.isRemote own = false := by simp [Proxy.isRemote, ho]
      have hrelayed : relayed own topic m [(id, p)] = [] := by simp [relayed, hr]
      have hreached : reached own topic [(id, p)] = [id] := by simp [reached, hs, hr]
      rw [Proxy.send_of_attached ha ho, hrelayed, hreached, Proxy.handed, if_pos hs]
      rfl
    | false =>
      have hr : p.isRemote own = true := decide_eq_true (h.owner_ne ha)
      have hreached : reached own topic [(id, p)] = [] := by simp [reached, hr]
      rw [Proxy.handed_of_elsewhere ha, hreached]
      by_cases hplain : (Relay.mk id m).IsPlain
      · have hrelayed : relayed own topic m [(id, p)]
            = [(p.record.owner, (Relay.mk id m).text)] := by simp [relayed, hs, hr, hplain]
        have he : (Relay.mk p.clientId m).encode = .ok (Relay.mk id m).text := by
          rw [h.clientId]
          exact Relay.encode_eq_ok hplain.1 hplain.2
        rw [Proxy.send_of_encoded hr he, hrelayed, Backend.publishEach, Backend.publishEach]
        simp only [List.length_nil, Nat.add_zero]
        split <;> rfl
      · have hrelayed : relayed own topic m [(id, p)] = [] := by simp [relayed, hplain]
        obtain ⟨e, he⟩ := Relay.encode_of_not_isPlain hplain
        rw [← h.clientId] at he
        rw [Proxy.send_of_refused (h.owner_ne ha) he, hrelayed]
        rfl

theorem fanOut_entries (h : n.SoundAs own) {entries : List (String × Proxy)} {f : FanOut}
    {registry : Table Proxy} (hf : f.node = { n with registry })
    (he : ∀ e ∈ entries, n.registry.find? e.1 = some e.2 ∧ registry.find? e.1 = some e.2)
    (hnodup : (entries.map (·.1)).Nodup) (topic : String) (m : Message) :
    ∃ registry', entries.foldl (FanOut.step topic m) f
        = { sent := f.sent + (reached own topic entries).length
              + (f.backend.publishEach (relayed own topic m entries)).1
            node := { n with registry := registry' }
            backend := (f.backend.publishEach (relayed own topic m entries)).2 }
      ∧ ∀ id, registry'.find? id = if id ∈ entries.map (·.1)
          then (n.registry.find? id).map (Proxy.handed topic m) else registry.find? id := by
  induction entries generalizing f registry with
  | nil => exact ⟨registry, by rw [← hf]; rfl, fun id => rfl⟩
  | cons e entries ih =>
    obtain ⟨id, p⟩ := e
    obtain ⟨hp, hk⟩ := he (id, p) List.mem_cons_self
    rw [List.map_cons, List.nodup_cons] at hnodup
    have hstep := fanOut_step (h.proxies id p hp) (by rw [hf]; exact h.channel)
      (by rw [hf]; exact hk) topic m
    have he' : ∀ e ∈ entries, n.registry.find? e.1 = some e.2
        ∧ (registry.insert id (p.handed topic m)).find? e.1 = some e.2 := by
      intro e hmem
      obtain ⟨hn, hr⟩ := he e (List.mem_cons_of_mem _ hmem)
      refine ⟨hn, ?_⟩
      have hne : id ≠ e.1 := fun heq => hnodup.1 (List.mem_map.2 ⟨e, hmem, heq.symm⟩)
      rw [Table.find?_insert_other hne, hr]
    obtain ⟨registry', hfold, hfind⟩ := @ih (FanOut.step topic m f (id, p)) _
      (by rw [hstep, hf]; rfl) he' hnodup.2
    refine ⟨registry', ?_, ?_⟩
    · have hreached : (reached own topic ((id, p) :: entries)).length
          = (reached own topic [(id, p)]).length + (reached own topic entries).length := by
        rw [reached, reached, reached, ← List.length_append, ← List.map_append,
          ← List.filter_append]
        rfl
      rw [List.foldl_cons, hfold, hstep, relayed_cons own topic m (id, p) entries,
        Backend.publishEach_append, hreached]
      simp only [Nat.add_assoc, Nat.add_left_comm]
    · intro c
      rw [hfind c, List.map_cons]
      by_cases hc : id = c
      · rw [← hc, if_neg hnodup.1, if_pos List.mem_cons_self, Table.find?_insert_self, hp]
        rfl
      · have hmem : c ∈ id :: entries.map (·.1) ↔ c ∈ entries.map (·.1) := by
          rw [List.mem_cons, or_iff_right (Ne.symm hc)]
        simp only [Table.find?_insert_other hc, hmem]

/-- A fan-out hands the message to the subscribed clients here and posts it for those elsewhere, one by
one. What the bus does not take is lost for that client only. -/
theorem SoundAs.publishIn_eq (h : n.SoundAs own) {order : List (String × Proxy)}
    (ho : order.Perm n.registry.entries) (topic : String) (m : Message) (b : Backend) :
    n.publishIn order topic m b
      = { sent := (reached own topic order).length
            + (b.publishEach (relayed own topic m order)).1
          node := n.handed topic m
          backend := (b.publishEach (relayed own topic m order)).2 } := by
  have hnodup : (order.map (·.1)).Nodup := (ho.map _).nodup_iff.2 n.registry.nodup_keys
  have hentries : ∀ e ∈ order, n.registry.find? e.1 = some e.2 ∧ n.registry.find? e.1 = some e.2 :=
    fun e he =>
      have hf := (Table.mem_entries_iff _ _ _).1 (ho.mem_iff.1 he)
      ⟨hf, hf⟩
  obtain ⟨registry, hfold, hfind⟩ :=
    fanOut_entries h (f := { node := n, backend := b }) rfl hentries hnodup topic m
  have hregistry : registry = n.registry.map (Proxy.handed topic m) := by
    apply Table.ext
    intro id
    rw [hfind id, Table.find?_map]
    split
    · rfl
    · rename_i hid
      cases hp : n.registry.find? id with
      | none => rfl
      | some p =>
        have hm : (id, p) ∈ order := ho.mem_iff.2 ((Table.mem_entries_iff _ _ _).2 hp)
        exact absurd (List.mem_map.2 ⟨(id, p), hm, rfl⟩) hid
  rw [publishIn, hfold, hregistry, Nat.zero_add, handed]

/-! ## What is posted -/

theorem of_mem_relayed {entries : List (String × Proxy)} {post : String × String}
    (h : post ∈ relayed own topic m entries) :
    ∃ e ∈ entries, e.2.isSubscribed topic = true ∧ e.2.isRemote own = true
      ∧ (Relay.mk e.1 m).encode = .ok post.2 ∧ post.1 = e.2.record.owner := by
  obtain ⟨e, he, rfl⟩ := List.mem_map.1 h
  obtain ⟨hm, hkept⟩ := List.mem_filter.1 he
  simp only [Bool.and_eq_true, decide_eq_true_eq] at hkept
  obtain ⟨⟨hs, hr⟩, hplain⟩ := hkept
  exact ⟨e, hm, hs, hr, Relay.encode_eq_ok hplain.1 hplain.2, rfl⟩

theorem encode_of_mem_refused {entries : List (String × Proxy)} {id : String}
    (h : id ∈ refused own topic m entries) : ∃ e, (Relay.mk id m).encode = .error e := by
  obtain ⟨e, he, rfl⟩ := List.mem_map.1 h
  have hkept := (List.mem_filter.1 he).2
  simp only [Bool.and_eq_true, Bool.not_eq_true', decide_eq_false_iff_not] at hkept
  exact Relay.encode_of_not_isPlain hkept.2

/-- Of all that is posted, one payload is read as the message for a client that can be relayed to. -/
theorem filter_relayed {entries : List (String × Proxy)} (hnodup : (entries.map (·.1)).Nodup)
    {id : String} {p : Proxy} (hm : (id, p) ∈ entries) (hs : p.isSubscribed topic = true)
    (hr : p.isRemote own = true) (hid : id ≠ "") (hplain : (Relay.mk id m).IsPlain) :
    (relayed own topic m entries).filter
        (fun post => (Relay.decode post.2).toOption = some ⟨id, m⟩)
      = [(p.record.owner, (Relay.mk id m).text)] := by
  have honly : entries.filter (fun e => decide ((Relay.decode (Relay.mk e.1 m).text).toOption
        = some ⟨id, m⟩) && (e.2.isSubscribed topic && e.2.isRemote own
          && decide (Relay.mk e.1 m).IsPlain))
      = entries.filter (fun e => e.1 = id) := by
    apply List.filter_congr
    intro e he
    rw [Bool.eq_iff_iff, decide_eq_true_eq, Bool.and_eq_true, decide_eq_true_eq,
      Relay.toOption_decode_eq_some_iff]
    constructor
    · rintro ⟨hreads, -⟩
      exact Relay.text_inj hreads.eq_text
    · rintro rfl
      have hmem : e ∈ entries.filter (fun e' => e'.1 = e.1) :=
        List.mem_filter.2 ⟨he, decide_eq_true rfl⟩
      rw [filter_key_eq hnodup hm, List.mem_singleton] at hmem
      rw [hmem] at hid hplain ⊢
      exact ⟨⟨rfl, hid, hplain.1, hplain.2⟩, by simp [hs, hr, hplain]⟩
  rw [relayed, List.filter_map, List.filter_filter]
  simp only [Function.comp_def]
  rw [honly, filter_key_eq hnodup hm]
  rfl

/-- A fan-out is exact whatever the registry lists, in whatever order it comes across the clients. Each
subscribed client here is handed the message once, unless its connection has given up on it. For a client
elsewhere one payload is posted on its owner's channel, which is read as the message for that client; for
one whose id or the message's name has a delimiter in it nothing is posted, nor is it counted, and
nobody else notices. -/
theorem publish_exact (h : n.SoundAs own) {order : List (String × Proxy)}
    (ho : order.Perm n.registry.entries) (topic : String) (m : Message) (b : Backend) :
    n.publish topic m b = n.publishIn n.registry.entries topic m b
    ∧ (n.publishIn order topic m b).node = n.handed topic m
    ∧ (∀ id p c, n.registry.find? id = some p → p.client? = some c →
        ∃ q, (n.handed topic m).registry.find? id = some q
          ∧ q.client? = some
              (if p.isSubscribed topic = true ∧ c.isDiscarded = false then c.send m else c))
    ∧ (n.publishIn order topic m b).backend = (b.publishEach (relayed own topic m order)).2
    ∧ (relayed own topic m order).Perm (relayed own topic m n.registry.entries)
    ∧ (∀ post ∈ relayed own topic m order, ∃ id p, n.registry.find? id = some p
        ∧ p.isSubscribed topic = true ∧ p.isAttached = false
        ∧ (Relay.mk id m).encode = .ok post.2 ∧ post.1 = p.record.owner)
    ∧ (∀ id p, n.registry.find? id = some p → p.isSubscribed topic = true →
        p.isAttached = false → id ≠ "" → (Relay.mk id m).IsPlain →
        (relayed own topic m order).filter
            (fun post => (Relay.decode post.2).toOption = some ⟨id, m⟩)
          = [(p.record.owner, (Relay.mk id m).text)])
    ∧ (∀ id ∈ refused own topic m n.registry.entries, ∃ e, (Relay.mk id m).encode = .error e)
    ∧ (n.publishIn order topic m b).sent = (reached own topic n.registry.entries).length
        + (b.publishEach (relayed own topic m order)).1
    ∧ (b.outages = [] →
        (n.publishIn order topic m b).backend
          = { b with bus := b.bus.publishEach (relayed own topic m order) }
        ∧ (n.publishIn order topic m b).sent + (refused own topic m n.registry.entries).length
          = (n.registry.entries.filter fun e => e.2.isSubscribed topic).length) := by
  have heq := h.publishIn_eq ho topic m b
  have hposts : (relayed own topic m order).Perm (relayed own topic m n.registry.entries) :=
    (ho.filter _).map _
  have hreached : (reached own topic order).length
      = (reached own topic n.registry.entries).length := ((ho.filter _).map _).length_eq
  have hnodup : (order.map (·.1)).Nodup := (ho.map _).nodup_iff.2 n.registry.nodup_keys
  rw [heq]
  refine ⟨rfl, rfl, ?_, rfl, hposts, ?_, ?_, fun _ => encode_of_mem_refused,
    congrArg (· + _) hreached, ?_⟩
  · intro id p c hp hc
    refine ⟨p.handed topic m, ?_, Proxy.client?_handed hc⟩
    rw [handed, Table.find?_map, hp]
    rfl
  · intro post hpost
    obtain ⟨e, he, hs, hr, hencode, hchannel⟩ := of_mem_relayed hpost
    have hp := (Table.mem_entries_iff _ _ _).1 (ho.mem_iff.1 he)
    have ha : e.2.isAttached = false := by
      rw [(h.proxies e.1 e.2 hp).isRemote_eq, Bool.not_eq_true'] at hr
      exact hr
    exact ⟨e.1, e.2, hp, hs, ha, hencode, hchannel⟩
  · intro id p hp hs ha hid hplain
    have hm : (id, p) ∈ order := ho.mem_iff.2 ((Table.mem_entries_iff _ _ _).2 hp)
    have hr : p.isRemote own = true := decide_eq_true ((h.proxies id p hp).owner_ne ha)
    exact filter_relayed hnodup hm hs hr hid hplain
  · intro hb
    have hsplit := length_subscribed own topic m n.registry.entries
    rw [Backend.publishEach_of_no_outages hb]
    refine ⟨rfl, ?_⟩
    rw [hsplit, hreached, hposts.length_eq]

/-- Two clients that are attached, one of them given up on, and two elsewhere, one of them with an id
that no relay can name. -/
def assorted : Node :=
  let services : Backend :=
    { store := [⟨"far", "b", TopicSet.empty.insert "t", "", "b"⟩,
        ⟨"x|y", "b", TopicSet.empty.insert "t", "", "b"⟩].foldl Store.insertRecord .empty
      clock := ⟨0, 0⟩ }
  let known := (({ channel := "a" } : Node).resync services).subject
  let joined := (known.registerLocal ((Client.connect "near" 2).subscribe ["t"])).2
  (joined.registerLocal ((Client.connect "gone" 2).subscribe ["t"]).discard).2

theorem publish_exact_assorted :
    assorted.Reachable
    ∧ (assorted.publishIn assorted.registry.entries.reverse "t" ⟨"n", "d"⟩ { clock := ⟨0, 0⟩ }).sent = 3
    ∧ (assorted.publishIn assorted.registry.entries.reverse "t" ⟨"n", "d"⟩
        { clock := ⟨0, 0⟩ }).backend.bus = ({} : Bus).publishEach [("b", "far|n|d")]
    ∧ ∃ q c, (assorted.publishIn assorted.registry.entries.reverse "t" ⟨"n", "d"⟩
          { clock := ⟨0, 0⟩ }).node.registry.find? "near" = some q
        ∧ q.client? = some c ∧ c.queue = [⟨"n", "d"⟩] := by
  have hc : create "a" {} {} = .ok { channel := "a" } := rfl
  have hn : assorted.Reachable :=
    .step (.step (.step (.created hc) (.resync _ _)) (.registerLocal _ _)) (.registerLocal _ _)
  obtain ⟨-, hnode, hclients, -, -, -, -, -, -, hquiet⟩ := publish_exact hn.soundAs
    (List.reverse_perm assorted.registry.entries) "t" ⟨"n", "d"⟩ { clock := ⟨0, 0⟩ }
  obtain ⟨hbackend, hsent⟩ := hquiet rfl
  have hchannel : assorted.channel = "a" := rfl
  have hrefused : (refused "a" "t" ⟨"n", "d"⟩ assorted.registry.entries).length = 1 := rfl
  have hsubscribed : (assorted.registry.entries.filter fun e => e.2.isSubscribed "t").length = 4 := rfl
  have hrelayed : relayed "a" "t" ⟨"n", "d"⟩ assorted.registry.entries.reverse
      = [("b", "far|n|d")] := rfl
  rw [hchannel, hrefused, hsubscribed] at hsent
  rw [hchannel, hrelayed] at hbackend
  obtain ⟨q, hq, hclient⟩ := hclients "near" _ _ rfl rfl
  refine ⟨hn, Nat.add_right_cancel hsent, ?_, q, _, ?_, hclient, rfl⟩
  · rw [hbackend]
  · rw [hnode]
    exact hq

end Node

end TopicMesh
