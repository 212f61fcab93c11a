import TopicMesh.Proofs.Cluster.FanOut

/-!
# TopicMesh.Proofs.Cluster.Transparency

Where a message is published makes no difference to who gets it, if it can be relayed.

* `Exchange.delivered` — the exchange after an instance published a message and every loop had its
  turns.
* `Exchange.Drains`    — the turns are enough for all relays that wait.
* `Exchange.HasGot`    — a client got the message.
* `hasGot_iff`         — who gets it. The instance that publishes matters for one kind of message
  only: a name with a delimiter cannot be relayed, so that the clients elsewhere are passed over.
-/

namespace TopicMesh

/-- What becomes of an instance on `channel` through a message that was published on `own`. -/
def Node.informed (own topic : String) (m : Message) (channel : String) (n : Node) : Node :=
  if delimiter ∈ m.name.toList ∧ channel ≠ own then n else n.offered topic m

theorem Node.informed_of_plain {m : Message} (hm : delimiter ∉ m.name.toList)
    (own topic channel : String) : Node.informed own topic m channel = Node.offered topic m := by
  funext n
  rw [informed, if_neg fun h => hm h.1]

namespace Exchange

/-- The exchange after an instance published a message and the loops had their turns. -/
def delivered (x : Exchange) (own topic : String) (m : Message) (order : List String) : Exchange :=
  (x.publish own topic m).2.turns order

/-- Every loop has a turn for each payload that waits for it once the message is published. -/
def Drains (x : Exchange) (own topic : String) (m : Message) (order : List String) : Prop :=
  ∀ channel n, x.cluster.node? channel = some n →
    (x.publish own topic m).2.pending channel ≤ order.count channel

/-- The client is attached to an instance in both, and has the message behind what it had. -/
def HasGot (x x' : Exchange) (m : Message) (id : String) : Prop :=
  ∃ channel n n' client client', x.cluster.node? channel = some n
    ∧ x'.cluster.node? channel = some n' ∧ n.client? id = some client
    ∧ n'.client? id = some client' ∧ client'.queue = client.queue ++ [m]

variable {x : Exchange} {own other topic : String} {n n' : Node} {m : Message}

/-! ## A message that cannot be relayed -/

theorem publish_refused (h : x.IsReady) (hc : x.cluster.Converged) (hm : delimiter ∈ m.name.toList)
    (hn : x.cluster.node? own = some n) (topic : String) :
    x.publish own topic m
      = ((n.audienceAt topic own).length, x.put own (n.offered topic m) x.cluster.backend) := by
  simp only [publish, hn]
  rw [(hc.sound own n hn).publish_refused (h.isReceptive hc hn) hm topic]

/-- No loop has anything to handle then. -/
theorem heads_refused (h : x.IsReady) (hc : x.cluster.Converged) (hm : delimiter ∈ m.name.toList)
    (hn : x.cluster.node? own = some n) (topic : String) (turns : String → Nat) :
    (x.publish own topic m).2.Heads
      (fun channel => (x.cluster.node? channel).map (Node.informed own topic m channel)) turns := by
  have hnode : ∀ channel, (x.publish own topic m).2.cluster.node? channel
      = if own = channel then some (n.offered topic m) else x.cluster.node? channel := by
    rw [publish_refused h hc hm hn]
    exact Cluster.node?_setNode hn _
  have hlistens : ∀ channel y, x.cluster.node? channel = some y →
      ∃ ticket, (x.publish own topic m).2.Listens channel ticket [] := by
    intro channel y hy
    obtain ⟨ticket, hl⟩ := h.listens channel y hy
    rw [publish_refused h hc hm hn]
    exact ⟨ticket, hl.loop, hl.waiting⟩
  constructor
  · intro channel y hy
    rw [hnode channel] at hy
    by_cases he : own = channel
    · rw [if_pos he] at hy
      cases hy
      rw [← he]
      obtain ⟨ticket, hl⟩ := hlistens own n hn
      refine ⟨ticket, [], _, hl, Nat.zero_le _, rfl, ?_⟩
      rw [hn, Option.map_some, Node.informed, if_neg fun hc => hc.2 rfl]
    · rw [if_neg he] at hy
      obtain ⟨ticket, hl⟩ := hlistens channel y hy
      refine ⟨ticket, [], y, hl, Nat.zero_le _, rfl, ?_⟩
      rw [hy, Option.map_some, Node.informed, if_pos ⟨hm, fun heq => he heq.symm⟩]
  · intro channel hnone
    rw [hnode channel] at hnone
    split at hnone
    · cases hnone
    · rw [hnone]
      rfl

/-! ## Any message -/

/-- Once the relays are handled nothing waits, and every instance has made of the message what it
can. -/
theorem delivered_eq (hc : x.cluster.Converged) (h : x.IsReady) (hn : x.cluster.node? own = some n)
    {order : List String} (horder : x.Drains own topic m order) (channel : String) :
    (x.delivered own topic m order).cluster.node? channel
        = (x.cluster.node? channel).map (Node.informed own topic m channel)
      ∧ ∀ y, x.cluster.node? channel = some y →
          (x.delivered own topic m order).pending channel = 0 := by
  have hheads : (x.publish own topic m).2.Heads
      (fun channel => (x.cluster.node? channel).map (Node.informed own topic m channel))
      fun c => order.count c := by
    by_cases hm : delimiter ∈ m.name.toList
    · exact heads_refused h hc hm hn topic _
    · simp only [Node.informed_of_plain hm]
      exact heads_publish h hc hm hn horder
  obtain ⟨hnode, hidle⟩ := hheads.turns.node?_eq channel
  refine ⟨hnode, ?_⟩
  intro y hy
  rw [hy, Option.map_some] at hnode
  obtain ⟨ticket, hl⟩ := hidle _ hnode
  exact hl.pending_eq

/-- The message is got by the attached clients that are subscribed, and of one that cannot be relayed
by those of the instance that published it. -/
theorem hasGot_iff (hc : x.cluster.Converged) (h : x.IsReady) (hn : x.cluster.node? own = some n)
    {order : List String} (horder : x.Drains own topic m order) (id : String) :
    x.HasGot (x.delivered own topic m order) m id ↔
      ∃ channel y client, x.cluster.node? channel = some y ∧ y.client? id = some client
        ∧ client.topics.contains topic = true
        ∧ (delimiter ∈ m.name.toList → channel = own) := by
  have hnode := fun channel => (delivered_eq hc h hn horder channel).1
  constructor
  · rintro ⟨channel, y, y', client, client', hy, hy', hclient, hclient', hqueue⟩
    rw [hnode channel, hy, Option.map_some, Option.some.injEq] at hy'
    refine ⟨channel, y, client, hy, hclient, ?_⟩
    by_cases hout : delimiter ∈ m.name.toList ∧ channel ≠ own
    · rw [Node.informed, if_pos hout] at hy'
      rw [← hy', hclient] at hclient'
      cases hclient'
      exact absurd (List.self_eq_append_right.1 hqueue) (List.cons_ne_nil m [])
    · rw [Node.informed, if_neg hout] at hy'
      rw [← hy', Node.client?_offered, hclient] at hclient'
      cases hclient'
      rw [Client.offered] at hqueue
      split at hqueue
      · rename_i ht
        refine ⟨ht, ?_⟩
        intro hm
        exact Decidable.byContradiction fun hne => hout ⟨hm, hne⟩
      · exact absurd (List.self_eq_append_right.1 hqueue) (List.cons_ne_nil m [])
  · rintro ⟨channel, y, client, hy, hclient, ht, hin⟩
    have hout : ¬(delimiter ∈ m.name.toList ∧ channel ≠ own) := fun hout => hout.2 (hin hout.1)
    refine ⟨channel, y, y.offered topic m, client, client.offered topic m, hy, ?_, hclient, ?_, ?_⟩
    · rw [hnode channel, hy, Option.map_some, Node.informed, if_neg hout]
    · rw [Node.client?_offered, hclient]
      rfl
    · rw [Client.offered, if_pos ht]

/-- A message that can be relayed is got by the same clients wherever it is published, and leaves
every instance the same; how the relays take their turns makes no difference either. One whose name
has a delimiter is got by the clients of the instance that publishes it, and by no others. -/
theorem publish_transparent (hc : x.cluster.Converged) (h : x.IsReady)
    (hn : x.cluster.node? own = some n) (hn' : x.cluster.node? other = some n')
    {order order' : List String} (horder : x.Drains own topic m order)
    (horder' : x.Drains other topic m order') :
    (∀ channel y, x.cluster.node? channel = some y →
        (x.delivered own topic m order).pending channel = 0
        ∧ (x.delivered other topic m order').pending channel = 0)
    ∧ (delimiter ∉ m.name.toList →
        (∀ channel, (x.delivered own topic m order).cluster.node? channel
          = (x.delivered other topic m order').cluster.node? channel)
        ∧ ∀ id, x.HasGot (x.delivered own topic m order) m id
            ↔ x.HasGot (x.delivered other topic m order') m id)
    ∧ ∀ id, x.HasGot (x.delivered own topic m order) m id ↔
        ∃ channel y client, x.cluster.node? channel = some y ∧ y.client? id = some client
          ∧ client.topics.contains topic = true
          ∧ (delimiter ∈ m.name.toList → channel = own) := by
  have hend := delivered_eq hc h hn horder
  have hend' := delivered_eq hc h hn' horder'
  refine ⟨?_, ?_, hasGot_iff hc h hn horder⟩
  · intro channel y hy
    exact ⟨(hend channel).2 y hy, (hend' channel).2 y hy⟩
  · intro hm
    have hsame : ∀ channel, (x.delivered own topic m order).cluster.node? channel
        = (x.delivered other topic m order').cluster.node? channel := by
      intro channel
      rw [(hend channel).1, (hend' channel).1, Node.informed_of_plain hm, Node.informed_of_plain hm]
    refine ⟨hsame, ?_⟩
    intro id
    simp only [HasGot, hsame]

theorem publish_transparent_readers :
    readers.cluster.Converged ∧ readers.IsReady
    ∧ (∀ channel, (readers.delivered "a" "news" ⟨"n", "d|ata"⟩ ["b"]).cluster.node? channel
        = (readers.delivered "b" "news" ⟨"n", "d|ata"⟩ ["a"]).cluster.node? channel)
    ∧ readers.HasGot (readers.delivered "a" "news" ⟨"n", "d|ata"⟩ ["b"]) ⟨"n", "d|ata"⟩ "y" := by
  have horder : readers.Drains "a" "news" ⟨"n", "d|ata"⟩ ["b"] := by
    intro channel n hn
    rcases node?_readers hn with ⟨rfl, -⟩ | ⟨rfl, -⟩
    · exact Nat.le_of_eq rfl
    · exact Nat.le_of_eq rfl
  have horder' : readers.Drains "b" "news" ⟨"n", "d|ata"⟩ ["a"] := by
    intro channel n hn
    rcases node?_readers hn with ⟨rfl, -⟩ | ⟨rfl, -⟩
    · exact Nat.le_of_eq rfl
    · exact Nat.le_of_eq rfl
  have hn : readers.cluster.node? "a" = some (reader "a" "x" "b" "y") := rfl
  have hn' : readers.cluster.node? "b" = some (reader "b" "y" "a" "x") := rfl
  have hm : delimiter ∉ (⟨"n", "d|ata"⟩ : Message).name.toList := by decide
  obtain ⟨-, hsame, hgot⟩ :=
    publish_transparent converged_readers ready_readers hn hn' horder horder'
  refine ⟨converged_readers, ready_readers, (hsame hm).1, (hgot "y").2 ?_⟩
  exact ⟨"b", _, newsReader "y", hn', rfl, rfl, fun hd => absurd hd hm⟩

/-- A delimiter in the name makes a difference. -/
theorem publish_not_transparent_named_with_delimiter :
    readers.cluster.Converged ∧ readers.IsReady
    ∧ readers.Drains "a" "news" ⟨"n|1", "data"⟩ []
    ∧ readers.Drains "b" "news" ⟨"n|1", "data"⟩ []
    ∧ ¬readers.HasGot (readers.delivered "a" "news" ⟨"n|1", "data"⟩ []) ⟨"n|1", "data"⟩ "y"
    ∧ readers.HasGot (readers.delivered "b" "news" ⟨"n|1", "data"⟩ []) ⟨"n|1", "data"⟩ "y" := by
  have hdrains : ∀ own ∈ ["a", "b"], readers.Drains own "news" ⟨"n|1", "data"⟩ [] := by
    intro own hown channel n hn
    simp only [List.mem_cons, List.not_mem_nil, or_false] at hown
    rcases hown with rfl | rfl <;> rcases node?_readers hn with ⟨rfl, -⟩ | ⟨rfl, -⟩
    · exact Nat.le_of_eq rfl
    · exact Nat.le_of_eq rfl
    · exact Nat.le_of_eq rfl
    · exact Nat.le_of_eq rfl
  have hn : readers.cluster.node? "a" = some (reader "a" "x" "b" "y") := rfl
  have hn' : readers.cluster.node? "b" = some (reader "b" "y" "a" "x") := rfl
  have ha := hdrains "a" (by decide)
  have hb := hdrains "b" (by decide)
  refine ⟨converged_readers, ready_readers, ha, hb, ?_, ?_⟩
  · rw [hasGot_iff converged_readers ready_readers hn ha]
    rintro ⟨channel, y, client, hy, hclient, -, hin⟩
    obtain rfl : channel = "a" := hin (by decide)
    rw [hn] at hy
    cases hy
    exact absurd (client?_reader hclient).1 (by decide)
  · rw [hasGot_iff converged_readers ready_readers hn' hb]
    exact ⟨"b", _, newsReader "y", hn', rfl, rfl, fun _ => rfl⟩

end Exchange

end TopicMesh
