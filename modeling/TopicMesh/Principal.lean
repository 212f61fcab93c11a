import TopicMesh.Error
import TopicMesh.Json.Basic
import TopicMesh.Record
import TopicMesh.Schema

/-!
# TopicMesh.Principal

The authenticated identity behind a client. Peers learn of it in two parts: the reference in the
client's record, and a snapshot of its fields. `Principal.ofSnapshot` puts the two together again,
keeping the fields that the schema declares for the collection, and only those.
-/

namespace TopicMesh

structure Principal where
  collection : String
  id : String
  data : Table Json := .empty
deriving DecidableEq, Inhabited

namespace Principal

/-- The field of a snapshot that holds the id, whatever the schema declares. -/
def idField : String := "id"

def authRef (p : Principal) : String := authRefOf p.collection p.id

/-- The fields as an object, with the id among them. -/
def snapshot (p : Principal) : Json := .obj (p.data.insert idField (.str p.id)).entries

/-- The declared fields, each with its member of a snapshot, or null where there is none. -/
def project (fields : List String) (members : List (String × Json)) : Table Json :=
  .ofList ((fields.filter (· ≠ idField)).map fun f => (f, (Keyed.find? f members).getD .null))

/-- Collection and id of the reference that a snapshot came with, if neither is empty. -/
def splitRef (ref : String) : Option (String × String) :=
  (Text.cutString authRefSeparator ref).filter fun parts => parts.1 ≠ "" ∧ parts.2 ≠ ""

/-- The principal that a reference and a snapshot stand for. -/
def ofSnapshot (ref : String) (snapshot : Json) (schema : Schema) : Except MeshError Principal :=
  match splitRef ref with
  | none => .error (.schema (.invalidAuthRef ref))
  | some (name, id) =>
    match schema.find? name with
    | none => .error (.schema (.unknownCollection name))
    | some collection =>
      match snapshot with
      | .obj members =>
        .ok { collection := collection.name, id, data := project collection.fields members }
      | _ => .error (.schema .snapshotNotObject)

end Principal

end TopicMesh
