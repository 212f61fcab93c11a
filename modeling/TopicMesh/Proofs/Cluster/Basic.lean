import TopicMesh.Cluster.Basic

/-!
# TopicMesh.Proofs.Cluster.Basic

The instances of a cluster, found by their channels.
-/

namespace TopicMesh.Cluster

theorem node?_eq_some_iff {c : Cluster} {channel : String} {n : Node} :
    c.node? channel = some n ↔ ∃ m, c.members.find? channel = some m ∧ m.node = n := by
  rw [Cluster.node?, Option.map_eq_some_iff]

theorem node?_of_mem_entries {c : Cluster} {e : String × Member} (he : e ∈ c.members.entries) :
    c.node? e.1 = some e.2.node :=
  node?_eq_some_iff.2 ⟨e.2, (Table.mem_entries_iff _ _ _).1 he, rfl⟩

theorem node?_setNode {c : Cluster} {channel : String} {n : Node} (h : c.node? channel = some n)
    (n' : Node) (other : String) :
    (c.setNode channel n').node? other = if channel = other then some n' else c.node? other := by
  obtain ⟨member, hm, -⟩ := node?_eq_some_iff.1 h
  rw [setNode, hm, node?]
  simp only
  rw [Table.find?_insert]
  split <;> rfl

theorem addAll_members {c c' : Cluster} {nodes : List (String × Settings × Schema)}
    (h : create.addAll c nodes = .ok c') :
    c'.backend = c.backend ∧ ∀ channel n, c'.node? channel = some n →
      c.node? channel = some n ∨ ∃ settings schema, Node.create channel settings schema = .ok n := by
  induction nodes generalizing c with
  | nil =>
    cases h
    exact ⟨rfl, fun _ _ hn => .inl hn⟩
  | cons x nodes ih =>
    obtain ⟨name, settings, schema⟩ := x
    rw [create.addAll] at h
    split at h
    · cases h
    · rename_i node hnode
      obtain ⟨hb, hm⟩ := ih h
      refine ⟨hb, ?_⟩
      intro channel n hn
      rcases hm channel n hn with hn | hn
      · rw [node?] at hn
        simp only [Table.find?_insert] at hn
        split at hn
        · rename_i hc
          cases hn
          exact .inr ⟨settings, schema, hc ▸ hnode⟩
        · exact .inl hn
      · exact .inr hn

theorem create_members {nodes : List (String × Settings × Schema)} {b : Backend} {c : Cluster}
    (h : create nodes b = .ok c) :
    c.backend = b ∧ ∀ channel n, c.node? channel = some n →
      ∃ settings schema, Node.create channel settings schema = .ok n := by
  obtain ⟨hb, hm⟩ := addAll_members h
  refine ⟨hb, ?_⟩
  intro channel n hn
  rcases hm channel n hn with hn | hn
  · cases hn
  · exact hn

end TopicMesh.Cluster
