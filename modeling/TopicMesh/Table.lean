import TopicMesh.Keyed

/-!
# TopicMesh.Table

Finite maps from text to values, listed in ascending order of their keys. A table is determined by
`find?`, so two tables are equal exactly when they give the same value for every key.
-/

namespace TopicMesh

structure Table (α : Type) where
  entries : List (String × α)
  ascending : Keyed.Ascending entries
deriving DecidableEq

namespace Table

variable {α β : Type}

def empty : Table α := ⟨[], List.Pairwise.nil⟩

instance : Inhabited (Table α) := ⟨empty⟩

def find? (t : Table α) (key : String) : Option α := Keyed.find? key t.entries

def insert (t : Table α) (key : String) (value : α) : Table α :=
  ⟨Keyed.insert key value t.entries, Keyed.ascending_insert t.ascending⟩

def erase (t : Table α) (key : String) : Table α :=
  ⟨Keyed.erase key t.entries, Keyed.ascending_erase t.ascending⟩

def filter (t : Table α) (p : String → α → Bool) : Table α :=
  ⟨t.entries.filter fun e => p e.1 e.2, List.Pairwise.sublist List.filter_sublist t.ascending⟩

def contains (t : Table α) (key : String) : Bool := (t.find? key).isSome

def keys (t : Table α) : List String := t.entries.map (·.1)

def values (t : Table α) : List α := t.entries.map (·.2)

def size (t : Table α) : Nat := t.entries.length

/-- The table with these entries, a later one replacing an earlier one of the same key. -/
def ofList (entries : List (String × α)) : Table α :=
  entries.foldl (fun t (k, v) => t.insert k v) empty

@[simp] theorem find?_empty (key : String) : (empty : Table α).find? key = none := rfl

theorem find?_insert (t : Table α) (key other : String) (value : α) :
    (t.insert key value).find? other = if key = other then some value else t.find? other :=
  Keyed.find?_insert

@[simp] theorem find?_insert_self (t : Table α) (key : String) (value : α) :
    (t.insert key value).find? key = some value := by
  simp [find?_insert]

theorem find?_insert_other {key other : String} (h : key ≠ other) (t : Table α) (value : α) :
    (t.insert key value).find? other = t.find? other := by
  simp [find?_insert, h]

theorem find?_erase (t : Table α) (key other : String) :
    (t.erase key).find? other = if key = other then none else t.find? other :=
  Keyed.find?_erase t.ascending

@[simp] theorem find?_erase_self (t : Table α) (key : String) : (t.erase key).find? key = none := by
  simp [find?_erase]

theorem find?_erase_other {key other : String} (h : key ≠ other) (t : Table α) :
    (t.erase key).find? other = t.find? other := by
  simp [find?_erase, h]

theorem mem_entries_iff (t : Table α) (key : String) (value : α) :
    (key, value) ∈ t.entries ↔ t.find? key = some value :=
  ⟨Keyed.find?_of_mem t.ascending, Keyed.mem_of_find?⟩

@[ext] theorem ext {s t : Table α} (h : ∀ key, s.find? key = t.find? key) : s = t := by
  have := Keyed.ext_find? s.ascending t.ascending h
  cases s
  cases t
  simp_all

/-- A table that gives every key of a list its value, the keys in any order and repeated or not. -/
theorem find?_ofList_map (keys : List String) (value : String → α) (key : String) :
    (ofList (keys.map fun k => (k, value k))).find? key
      = if key ∈ keys then some (value key) else none := by
  have h : ∀ t : Table α, ((keys.map fun k => (k, value k)).foldl (fun t e => t.insert e.1 e.2) t).find? key
      = if key ∈ keys then some (value key) else t.find? key := by
    induction keys with
    | nil =>
      intro t
      rfl
    | cons k keys ih =>
      intro t
      rw [List.map_cons, List.foldl_cons, ih, find?_insert]
      by_cases hk : k = key
      · simp [hk]
      · simp [hk, Ne.symm hk]
  exact h empty

theorem find?_filter (t : Table α) (p : String → α → Bool) (key : String) :
    (t.filter p).find? key = (t.find? key).filter (p key) := by
  cases h : t.find? key with
  | none =>
    cases h' : (t.filter p).find? key with
    | none => rfl
    | some v =>
      have hm := (mem_entries_iff _ _ _).2 h'
      have := (mem_entries_iff t key v).1 (List.mem_filter.1 hm).1
      rw [h] at this
      cases this
  | some v =>
    have hm := (mem_entries_iff _ _ _).2 h
    cases hp : p key v with
    | true =>
      simp only [Option.filter, hp, if_true]
      exact (mem_entries_iff _ _ _).1 (List.mem_filter.2 ⟨hm, hp⟩)
    | false =>
      simp only [Option.filter, hp]
      cases h' : (t.filter p).find? key with
      | none => rfl
      | some w =>
        have hw := List.mem_filter.1 ((mem_entries_iff _ _ _).2 h')
        have := (mem_entries_iff t key w).1 hw.1
        rw [h] at this
        cases this
        simp [hp] at hw

end Table

end TopicMesh
