import TopicMesh.Store

/-!
# TopicMesh.Proofs.Store

The tables of a store, and the records that a channel's peers own as a part of the record table: each
client has at most one (`nodup_foreign`), and it is found by the client's id (`find?_foreign`).
-/

namespace TopicMesh

theorem Table.nodup_keys {α : Type} (t : Table α) : t.keys.Nodup := by
  have h : (t.entries.map (·.1)).Pairwise (· < ·) := List.pairwise_map.2 t.ascending
  exact h.imp fun hlt => Keyed.ne_of_lt hlt

theorem find?_eq_some_iff_mem {α : Type} {f : α → String} {l : List α} (h : (l.map f).Nodup)
    {key : String} {a : α} : (l.find? fun b => f b = key) = some a ↔ a ∈ l ∧ f a = key := by
  induction l with
  | nil => simp
  | cons b l ih =>
    rw [List.map_cons, List.nodup_cons] at h
    rw [List.find?_cons]
    by_cases hb : f b = key
    · rw [decide_eq_true hb]
      constructor
      · intro ha
        cases ha
        exact ⟨List.mem_cons_self, hb⟩
      · rintro ⟨ha, hk⟩
        rcases List.mem_cons.1 ha with rfl | ha
        · rfl
        · exact absurd (List.mem_map.2 ⟨a, ha, hk.trans hb.symm⟩) h.1
    · rw [decide_eq_false hb]
      simp only [ih h.2, List.mem_cons]
      constructor
      · rintro ⟨ha, hk⟩
        exact ⟨.inr ha, hk⟩
      · rintro ⟨rfl | ha, hk⟩
        · exact absurd hk hb
        · exact ⟨ha, hk⟩

namespace Store

/-- Tables are all there is to a store. -/
theorem eq_of_tables {s s' : Store} (hd : s.deadlines = s'.deadlines)
    (hr : s.records = s'.records) : s = s' := by
  cases s
  cases s'
  cases hd
  cases hr
  rfl

theorem find?_delete (s : Store) (id : String) :
    (s.delete id).store.records.find? id = none := by
  rw [delete]
  split
  · split
    · exact Table.find?_erase_self _ _
    · exact Table.find?_erase_self _ _
  · rename_i hc
    rw [Table.contains, Bool.not_eq_true, Option.isSome_eq_false_iff, Option.isNone_iff_eq_none] at hc
    exact hc

/-! ## Foreign records -/

theorem mem_values_iff {s : Store} {r : Record} :
    r ∈ s.records.values ↔ s.records.find? r.clientId = some r := by
  constructor
  · intro h
    obtain ⟨⟨id, r'⟩, he, rfl⟩ := List.mem_map.1 h
    have hf := (Table.mem_entries_iff _ _ _).1 he
    have hk : r'.clientId = id := s.keyed id r' hf
    rw [hk]
    exact hf
  · intro h
    exact List.mem_map.2 ⟨_, (Table.mem_entries_iff _ _ _).2 h, rfl⟩

theorem map_clientId_values (s : Store) : s.records.values.map (·.clientId) = s.records.keys := by
  rw [Table.values, Table.keys, List.map_map]
  apply List.map_congr_left
  intro e he
  exact s.keyed e.1 e.2 ((Table.mem_entries_iff _ _ _).1 he)

theorem nodup_foreign (s : Store) (channel : String) :
    ((s.foreign channel).map (·.clientId)).Nodup := by
  have h : (s.records.values.map (·.clientId)).Nodup := by
    rw [map_clientId_values]
    exact s.records.nodup_keys
  exact h.sublist (List.filter_sublist.map _)

theorem mem_foreign_iff {s : Store} {channel : String} {r : Record} :
    r ∈ s.foreign channel ↔ s.records.find? r.clientId = some r ∧ r.owner ≠ channel := by
  rw [foreign, List.mem_filter, mem_values_iff, decide_eq_true_eq]

theorem find?_foreign (s : Store) (channel id : String) :
    ((s.foreign channel).find? fun r => r.clientId = id)
      = (s.records.find? id).filter fun r => r.owner ≠ channel := by
  apply Option.ext
  intro r
  rw [find?_eq_some_iff_mem (s.nodup_foreign channel), mem_foreign_iff, Option.filter_eq_some_iff]
  constructor
  · rintro ⟨⟨hf, ho⟩, rfl⟩
    exact ⟨hf, decide_eq_true ho⟩
  · rintro ⟨hf, ho⟩
    have hk : r.clientId = id := s.keyed id r hf
    rw [hk]
    exact ⟨⟨hf, of_decide_eq_true ho⟩, rfl⟩

end Store

end TopicMesh
