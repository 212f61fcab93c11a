import TopicMesh.Proxy
import TopicMesh.Settings

/-!
# TopicMesh.Node.Basic

One instance: its channel, its settings, its view of the host's schema, and a registry with one proxy
for each client it knows. A proxy that leaves the registry while its client is attached is retired:
whoever still holds it can go on using it, but the instance no longer counts on it.
-/

namespace TopicMesh

structure Node where
  /-- The instance's own channel, on which peers relay messages to its clients. -/
  channel : String
  settings : Settings := {}
  schema : Schema := {}
  registry : Table Proxy := .empty
  /-- Proxies of attached clients that have left the registry. -/
  retired : List Proxy := []
  nextSerial : Nat := 0
deriving DecidableEq

/-- Which proxy is meant: the registered one of a client, or the one with a serial number. -/
inductive ProxyRef where
  | registered (clientId : String)
  | held (serial : Nat)
deriving DecidableEq, Repr

namespace Node

/-- An instance, if its settings keep a channel alive and the channel can be its own. -/
def create (channel : String) (settings : Settings) (schema : Schema) : Except MeshError Node :=
  match settings.validate with
  | .error e => .error e
  | .ok () =>
    if !ChannelName.isValid channel then .error (.settings (.invalidChannel channel))
    else if channel = settings.controlChannel then .error (.settings .channelIsControl)
    else .ok { channel, settings, schema }

/-! ## The registry -/

/-- Retires a proxy that was taken out of the registry, if its client is attached. -/
def retire (n : Node) : Option Proxy → Node
  | some p => if p.isAttached then { n with retired := n.retired ++ [p] } else n
  | none => n

/-- Puts a proxy into the registry in place of any other for its client. -/
def register (n : Node) (p : Proxy) : Node :=
  let n := n.retire (n.registry.find? p.clientId)
  { n with registry := n.registry.insert p.clientId p }

/-- Takes a client's proxy out of the registry. -/
def unregister (n : Node) (clientId : String) : Node :=
  let n := n.retire (n.registry.find? clientId)
  { n with registry := n.registry.erase clientId }

/-- Puts back a proxy that was taken from the registry under this key. -/
def putBack (n : Node) (key : String) (p : Proxy) : Node :=
  { n with registry := n.registry.insert key p }

/-- The registered proxies in order of their clients. -/
def proxies (n : Node) : List Proxy := n.registry.values

/-- The proxies of attached clients. -/
def attached (n : Node) : List Proxy := n.proxies.filter fun p => p.isAttached

/-- The proxies of clients that other instances own. -/
def remote (n : Node) : List Proxy := n.proxies.filter fun p => p.isRemote n.channel

/-- The attached client's proxy of that serial number, in the registry or retired. -/
def held? (n : Node) (serial : Nat) : Option Proxy :=
  (n.proxies ++ n.retired).find? fun p => p.serial? = some serial

def proxy? (n : Node) : ProxyRef → Option Proxy
  | .registered clientId => n.registry.find? clientId
  | .held serial => n.held? serial

/-- Puts a changed proxy back where it was found. -/
def update (n : Node) (ref : ProxyRef) (p : Proxy) : Node :=
  match ref with
  | .registered clientId => n.putBack clientId p
  | .held serial =>
    if n.proxies.any fun q => q.serial? = some serial then n.putBack p.clientId p
    else { n with retired := n.retired.map fun q => if q.serial? = some serial then p else q }

/-- The attached client of a proxy's serial number. -/
def heldClient? (n : Node) (serial : Nat) : Option Client :=
  match n.held? serial with
  | none => none
  | some p => p.client?

/-- Applies a function to the attached client of a proxy's serial number. -/
def mapHeld (n : Node) (serial : Nat) (f : Client → Client) : Node :=
  match n.held? serial with
  | none => n
  | some p => n.update (.held serial) (p.mapClient f)

/-! ## Attached clients -/

/-- Registers a client that is connected here; gives the serial number of its proxy. -/
def registerLocal (n : Node) (client : Client) : Nat × Node :=
  let serial := n.nextSerial
  (serial, { n with nextSerial := serial + 1 }.register (.attach n.channel serial client))

/-- Registers a new client under an id that was drawn for it. -/
def connectClient (n : Node) (id : String) : Nat × Node :=
  n.registerLocal (.connect id n.settings.clientBuffer)

/-- The registered proxy of a client that is connected here. -/
def localProxy (n : Node) (clientId : String) : Except MeshError Proxy :=
  match n.registry.find? clientId with
  | none => .error (.invalidProxy (.unknownClient clientId))
  | some p =>
    if p.isAttached then .ok p else .error (.invalidProxy (.notConnected clientId))

/-- Announces what a client here is subscribed to. -/
def subscriptionsChanged (n : Node) (clientId : String) (b : Backend) : Outcome Node Unit :=
  match n.localProxy clientId with
  | .error e => { result := .error e, subject := n, backend := b }
  | .ok p =>
    let o := p.broadcast n.channel b
    { o with subject := n.putBack clientId o.subject }

/-- Forgets a client here and announces that it went offline. -/
def disconnect (n : Node) (clientId : String) (b : Backend) : Outcome Node Unit :=
  match n.localProxy clientId with
  | .error e => { result := .error e, subject := n, backend := b }
  | .ok p =>
    let o := p.goOffline b
    let n := { n with registry := n.registry.erase clientId }.retire (some o.subject)
    match o.result with
    | .error e => { o with result := .error e, subject := n }
    | .ok _ => { o with result := .ok (), subject := n }

/-! ## Messages -/

/-- A fan-out under way: how many clients were sent the message, and the state after it. -/
structure FanOut where
  sent : Nat := 0
  node : Node
  backend : Backend

/-- Sends a message to one client if it is subscribed; a failure does not stop the fan-out. -/
def FanOut.step (topic : String) (m : Message) (f : FanOut) (entry : String × Proxy) : FanOut :=
  if entry.2.isSubscribed topic then
    let o := entry.2.send f.node.channel m f.backend
    { sent := if o.result.isOk then f.sent + 1 else f.sent
      node := f.node.putBack entry.1 o.subject
      backend := o.backend }
  else f

/-- Sends a message to every client subscribed to a topic, wherever it is connected. -/
def publish (n : Node) (topic : String) (m : Message) (b : Backend) : FanOut :=
  n.registry.entries.foldl (FanOut.step topic m) { node := n, backend := b }

/-- Sends a message to one client; says whether the client is known. -/
def sendTo (n : Node) (clientId : String) (m : Message) (b : Backend) : Outcome Node Bool :=
  match n.registry.find? clientId with
  | none => { result := .ok false, subject := n, backend := b }
  | some p =>
    let o := p.send n.channel m b
    let n := n.putBack clientId o.subject
    match o.result with
    | .error e => { o with result := .error e, subject := n }
    | .ok () => { o with result := .ok true, subject := n }

/-- Publishes an announcement on the control channel. -/
def announce (n : Node) (a : Announcement) (b : Backend) : Reply Unit :=
  match a.encode with
  | .error e => { result := .error (.protocol e), backend := b }
  | .ok payload => b.publish n.settings.controlChannel payload

/-- Tells every instance, this one included, to reload the collections. -/
def announceCollections (n : Node) (b : Backend) : Reply Unit := n.announce .collectionsUpdated b

/-- Tells every instance, this one included, to reload the settings. -/
def announceSettings (n : Node) (b : Backend) : Reply Unit := n.announce .settingsUpdated b

end Node

end TopicMesh
