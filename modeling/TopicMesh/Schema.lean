import TopicMesh.Table

/-!
# TopicMesh.Schema

What an instance knows of its host's data model: the collections that principals come from, listed
by name, and how often a reload of the collections or of the settings was asked for.
-/

namespace TopicMesh

structure Collection where
  id : String
  name : String
  /-- The fields a principal of this collection carries. -/
  fields : List String
deriving DecidableEq, Repr, Inhabited

structure Schema where
  collections : Table Collection := .empty
  collectionReloads : Nat := 0
  settingsReloads : Nat := 0
deriving DecidableEq, Inhabited

namespace Schema

/-- Adds a collection; one of the same name is replaced. -/
def insert (s : Schema) (c : Collection) : Schema :=
  { s with collections := s.collections.insert c.name c }

def ofList (collections : List Collection) : Schema := collections.foldl insert {}

/-- The collection of that name, else the first one with that id. -/
def find? (s : Schema) (nameOrId : String) : Option Collection :=
  match s.collections.find? nameOrId with
  | some c => some c
  | none => s.collections.values.find? fun c => c.id = nameOrId

/-- Asks the host to reload the collections. -/
def reloadCollections (s : Schema) : Schema :=
  { s with collectionReloads := s.collectionReloads + 1 }

/-- Asks the host to reload the settings. -/
def reloadSettings (s : Schema) : Schema := { s with settingsReloads := s.settingsReloads + 1 }

@[simp] theorem find?_reloadCollections (s : Schema) : s.reloadCollections.find? = s.find? := rfl

@[simp] theorem find?_reloadSettings (s : Schema) : s.reloadSettings.find? = s.find? := rfl

end Schema

end TopicMesh
