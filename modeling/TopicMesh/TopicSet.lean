import TopicMesh.Table

/-!
# TopicMesh.TopicSet

Sets of topics, listed in ascending order. A set is determined by `contains`.
-/

namespace TopicMesh

structure TopicSet where
  table : Table Unit
deriving DecidableEq

namespace TopicSet

def empty : TopicSet := ⟨.empty⟩

instance : Inhabited TopicSet := ⟨empty⟩

def contains (s : TopicSet) (topic : String) : Bool := s.table.contains topic

def insert (s : TopicSet) (topic : String) : TopicSet := ⟨s.table.insert topic ()⟩

def erase (s : TopicSet) (topic : String) : TopicSet := ⟨s.table.erase topic⟩

def isEmpty (s : TopicSet) : Bool := s.table.entries.isEmpty

/-- The topics in ascending order. -/
def toList (s : TopicSet) : List String := s.table.keys

def insertAll (s : TopicSet) (topics : List String) : TopicSet := topics.foldl insert s

def eraseAll (s : TopicSet) (topics : List String) : TopicSet := topics.foldl erase s

def ofList (topics : List String) : TopicSet := empty.insertAll topics

@[simp] theorem contains_empty (topic : String) : empty.contains topic = false := rfl

@[simp] theorem contains_insert (s : TopicSet) (topic other : String) :
    (s.insert topic).contains other = (decide (topic = other) || s.contains other) := by
  by_cases h : topic = other <;> simp [insert, contains, Table.contains, Table.find?_insert, h]

@[simp] theorem contains_erase (s : TopicSet) (topic other : String) :
    (s.erase topic).contains other = (!decide (topic = other) && s.contains other) := by
  by_cases h : topic = other <;> simp [erase, contains, Table.contains, Table.find?_erase, h]

@[ext] theorem ext {s t : TopicSet} (h : ∀ topic, s.contains topic = t.contains topic) : s = t := by
  obtain ⟨s⟩ := s
  obtain ⟨t⟩ := t
  congr 1
  apply Table.ext
  intro key
  have := h key
  simp only [contains, Table.contains] at this
  cases hs : s.find? key <;> cases ht : t.find? key <;> simp_all

@[simp] theorem contains_insertAll (s : TopicSet) (topics : List String) (topic : String) :
    (s.insertAll topics).contains topic = (topics.contains topic || s.contains topic) := by
  induction topics generalizing s with
  | nil => simp [insertAll]
  | cons t r ih =>
    have : s.insertAll (t :: r) = (s.insert t).insertAll r := rfl
    rw [this, ih]
    by_cases h : topic = t
    · simp [h]
    · simp [h, Ne.symm h]

end TopicSet

end TopicMesh
