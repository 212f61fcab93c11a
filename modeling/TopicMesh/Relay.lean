import TopicMesh.ProtocolError
import TopicMesh.Text.Delimited

/-!
# TopicMesh.Relay

A message for one client of another instance. Its payload is `client|name|data`; only the data, the
last field, may contain the delimiter.
-/

namespace TopicMesh

/-- The delimiter between the fields of a payload. -/
def delimiter : Char := '|'

/-- A message as a client receives it. -/
structure Message where
  name : String
  data : String
deriving DecidableEq, Repr, Inhabited

structure Relay where
  clientId : String
  message : Message
deriving DecidableEq, Repr

namespace Relay

/-- The payload of a relay; the client and the name must be free of the delimiter. -/
def encode (r : Relay) : Except ProtocolError String :=
  if delimiter ∈ r.clientId.toList then
    .error (.malformed (.delimiterInRelay "client_id" r.clientId))
  else if delimiter ∈ r.message.name.toList then
    .error (.malformed (.delimiterInRelay "name" r.message.name))
  else
    .ok (String.ofList
      (r.clientId.toList ++ delimiter :: r.message.name.toList
        ++ delimiter :: r.message.data.toList))

/-- Reads a payload of three fields, the first of them not empty. -/
def decode (payload : String) : Except ProtocolError Relay :=
  match Text.cut delimiter payload.toList with
  | none => .error (.malformed (.incompleteRelay payload))
  | some (clientId, rest) =>
    match Text.cut delimiter rest with
    | none => .error (.malformed (.incompleteRelay payload))
    | some (name, data) =>
      if clientId = [] then .error (.malformed (.incompleteRelay payload))
      else .ok ⟨String.ofList clientId, ⟨String.ofList name, String.ofList data⟩⟩

end Relay

end TopicMesh
