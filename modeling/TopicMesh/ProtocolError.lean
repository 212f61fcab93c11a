import TopicMesh.Json.Fault

/-!
# TopicMesh.ProtocolError

Why a payload could not be read or written, with the wording of each reason.
-/

namespace TopicMesh

/-- The ways in which a payload does not have the expected shape. -/
inductive Malformation where
  | missingKind (payload : String)
  | missingSnapshotField (body : String)
  | unreadableRecord (reason : Json.Refusal)
  | unreadableSnapshot (reason : Json.Refusal)
  | invalidField (name value : String)
  | delimiterInField (name value : String)
  | delimiterInRelay (name value : String)
  | incompleteRelay (payload : String)
  | reported (text : String)
deriving DecidableEq, Repr

def Malformation.message : Malformation → String
  | .missingKind payload => "missing event type: " ++ payload
  | .missingSnapshotField body => "upsert needs 2 fields: " ++ body
  | .unreadableRecord reason => "subscription record: " ++ reason.message
  | .unreadableSnapshot reason => "auth snapshot: " ++ reason.message
  | .invalidField name value => "invalid " ++ name ++ ": " ++ Text.quoted value
  | .delimiterInField name value => name ++ " must not contain '|': " ++ value
  | .delimiterInRelay name value => "relay " ++ name ++ " must not contain '|': " ++ value
  | .incompleteRelay payload => "relay payload needs 3 fields: " ++ payload
  | .reported text => text

inductive ProtocolError where
  | malformed (reason : Malformation)
  | unknownEventType (kind : String)
  | serialization (text : String)
deriving DecidableEq, Repr

def ProtocolError.message : ProtocolError → String
  | .malformed reason => "malformed payload: " ++ reason.message
  | .unknownEventType kind => "unknown control event type: " ++ kind
  | .serialization text => "serialization error: " ++ text

end TopicMesh
