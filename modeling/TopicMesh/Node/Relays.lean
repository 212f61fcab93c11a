import TopicMesh.Node.Basic

/-!
# TopicMesh.Node.Relays

What an instance does with the messages that peers relay on its own channel: it hands each one to the
attached client it is for, and never passes one on again.
-/

namespace TopicMesh.Node

/-- Reads a relay and delivers it. A client that is not known any more is no error; a client that is
connected elsewhere is one only if routing is strict. -/
def handleRelay (n : Node) (payload : String) : Except MeshError Unit × Node :=
  match Relay.decode payload with
  | .error e => (.error (.protocol e), n)
  | .ok relay =>
    match n.registry.find? relay.clientId with
    | none => (.ok (), n)
    | some p =>
      match p.deliver n.channel relay.message with
      | .ok p => (.ok (), n.putBack relay.clientId p)
      | .error e => (if n.settings.strictRouting then .error e else .ok (), n)

end TopicMesh.Node
