import TopicMesh.Node.Resync

/-!
# TopicMesh.Node.Announcements

What an instance does with the announcements on the control channel. They change the proxies of
clients elsewhere and nothing else: an attached client is never touched, nothing is written to the
store, and nothing is published.
-/

namespace TopicMesh

namespace Node

/-- Asks the host to reload the collections; a refusal is passed over. -/
def reloadCollections (n : Node) (b : Backend) : Node × Backend :=
  match b.requestReload .reloadCollections with
  | { result := .error _, backend } => (n, backend)
  | { result := .ok (), backend } => ({ n with schema := n.schema.reloadCollections }, backend)

/-- Asks the host to reload the settings; a refusal is passed over. -/
def reloadSettings (n : Node) (b : Backend) : Node × Backend :=
  match b.requestReload .reloadSettings with
  | { result := .error _, backend } => (n, backend)
  | { result := .ok (), backend } => ({ n with schema := n.schema.reloadSettings }, backend)

/-- Forgets a client whose record was deleted, unless it is attached. -/
def forget (n : Node) (clientId : String) : Node :=
  match n.registry.find? clientId with
  | none => n
  | some p => if p.isAttached then n else n.unregister clientId

/-- Forgets the clients of an instance that was reaped. -/
def forgetChannel (n : Node) (channel : String) : Node :=
  ((n.remote.filter fun p => p.record.owner = channel).map (·.clientId)).foldl unregister n

/-- Follows one announcement. An instance ignores what it wrote itself, and does not give up its own
clients when a peer has reaped it. -/
def follow (n : Node) (a : Announcement) (b : Backend) : Outcome Node Unit :=
  if a.origin = some n.channel then { result := .ok (), subject := n, backend := b }
  else
    match a with
    | .upsert record snapshot =>
      match n.applyRecord record snapshot with
      | .error e => { result := .error e, subject := n, backend := b }
      | .ok (_, n) => { result := .ok (), subject := n, backend := b }
    | .delete clientId => { result := .ok (), subject := n.forget clientId, backend := b }
    | .offline channel =>
      let n := if channel = n.channel then n else n.forgetChannel channel
      { result := .ok (), subject := n, backend := b }
    | .collectionsUpdated =>
      let (n, b) := n.reloadCollections b
      { result := .ok (), subject := n, backend := b }
    | .settingsUpdated =>
      let (n, b) := n.reloadSettings b
      { result := .ok (), subject := n, backend := b }

/-- Reads a payload of the control channel and follows it. -/
def handleControl (n : Node) (payload : String) (b : Backend) : Outcome Node Unit :=
  match Announcement.decode payload with
  | .error e => { result := .error (.protocol e), subject := n, backend := b }
  | .ok a => n.follow a b

/-- Catches up after the control channel was connected: announcements may have been missed. -/
def catchUp (n : Node) (b : Backend) : Outcome Node Unit :=
  let o := n.resync b
  match o.result with
  | .error e => { o with result := .error e }
  | .ok _ =>
    let (n, b) := o.subject.reloadCollections o.backend
    let (n, b) := n.reloadSettings b
    { result := .ok (), subject := n, backend := b }

end Node

end TopicMesh
