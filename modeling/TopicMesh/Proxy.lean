import TopicMesh.Backend
import TopicMesh.Client
import TopicMesh.Text.Quoted

/-!
# TopicMesh.Proxy

How an instance sees one client, wherever that client is connected. The proxy of an attached client
announces what the client subscribes to; the proxy of a client elsewhere follows the records that its
owner announces, and passes messages on to the owner.

* `Proxy.broadcast`  — writes the attached client's topics and principal to the store.
* `Proxy.goOffline`  — deletes the record, and closes the proxy for good.
* `Proxy.receive`    — takes over a record that a peer announced.
* `Proxy.send`       — hands a message to the client, or relays it to the client's owner.
* `Proxy.deliver`    — hands over a relayed message, which is never passed on again.

`own` is always the channel of the instance that holds the proxy.
-/

namespace TopicMesh

/-- Where the client of a proxy is connected. -/
inductive Attachment where
  /-- To this instance. The serial number tells proxies apart that had the same client id. -/
  | attached (serial : Nat) (client : Client)
  /-- To the owner of the record. -/
  | elsewhere
deriving DecidableEq

structure Proxy where
  clientId : String
  attachment : Attachment
  /-- The record as it was last broadcast or received. -/
  record : Record
  /-- The principal that was last broadcast or received. -/
  lastPrincipal : Option Principal := none
  /-- Whether the client went offline for good. -/
  isClosed : Bool := false
deriving DecidableEq

/-- What a broadcast writes to the store. -/
inductive Change where
  | upsert (record : Record) (snapshot : Option Json)
  | delete (clientId : String)
deriving DecidableEq

/-- Makes a change in the store. -/
def Backend.write (b : Backend) : Change → Reply Unit
  | .upsert record snapshot => b.upsert record snapshot
  | .delete clientId =>
    match b.delete clientId with
    | { result := .error e, backend } => { result := .error e, backend }
    | { result := .ok _, backend } => { result := .ok (), backend }

namespace Proxy

/-- The proxy of a client attached to this instance. -/
def attach (own : String) (serial : Nat) (client : Client) : Proxy :=
  { clientId := client.id
    attachment := .attached serial client
    record := { clientId := client.id, owner := own } }

/-- The proxy of a client elsewhere, knowing only who owns it. -/
def follow (record : Record) : Proxy :=
  { clientId := record.clientId
    attachment := .elsewhere
    record := { clientId := record.clientId, owner := record.owner } }

def isAttached (p : Proxy) : Bool :=
  match p.attachment with
  | .attached _ _ => true
  | .elsewhere => false

def client? (p : Proxy) : Option Client :=
  match p.attachment with
  | .attached _ client => some client
  | .elsewhere => none

def serial? (p : Proxy) : Option Nat :=
  match p.attachment with
  | .attached serial _ => some serial
  | .elsewhere => none

def isRemote (p : Proxy) (own : String) : Bool := p.record.owner ≠ own

def topics (p : Proxy) : TopicSet :=
  match p.attachment with
  | .attached _ client => client.topics
  | .elsewhere => p.record.topics

def isSubscribed (p : Proxy) (topic : String) : Bool := p.topics.contains topic

def principal (p : Proxy) : Option Principal :=
  match p.attachment with
  | .attached _ client => client.principal
  | .elsewhere => p.lastPrincipal

/-- Applies a function to the attached client, if there is one. -/
def mapClient (p : Proxy) (f : Client → Client) : Proxy :=
  match p.attachment with
  | .attached serial client => { p with attachment := .attached serial (f client) }
  | .elsewhere => p

/-! ## Announcing an attached client -/

/-- The record of the client as it is now. -/
def currentRecord (p : Proxy) (own : String) (client : Client) : Record :=
  { p.record with
    topics := client.topics
    authRef := (client.principal.map Principal.authRef).getD ""
    updatedBy := own }

/-- What a broadcast has to write: a client without topics has no record, and a closed proxy writes
nothing. -/
def pendingChange (p : Proxy) (own : String) : Except MeshError (Option Change) :=
  match p.attachment with
  | .elsewhere => .error (.invalidProxy (.notLocal "broadcast changes" p.clientId))
  | .attached _ client =>
    if p.isClosed then .ok none
    else if client.topics.isEmpty then .ok (some (.delete p.clientId))
    else
      .ok (some (.upsert (p.currentRecord own client) (client.principal.map Principal.snapshot)))

/-- The proxy after a change of its record was written. -/
def written (p : Proxy) : Change → Proxy
  | .upsert record _ => { p with record, lastPrincipal := p.principal }
  | .delete _ => { p with record := { p.record with topics := .empty, authRef := "" } }

/-- Writes the client's topics and principal to the store, which announces them. -/
def broadcast (p : Proxy) (own : String) (b : Backend) : Outcome Proxy Unit :=
  match p.pendingChange own with
  | .error e => { result := .error e, subject := p, backend := b }
  | .ok none => { result := .ok (), subject := p, backend := b }
  | .ok (some change) =>
    match b.write change with
    | { result := .error e, backend } => { result := .error e, subject := p, backend }
    | { result := .ok (), backend } => { result := .ok (), subject := p.written change, backend }

/-- Closes the proxy and deletes the record; says whether there was one. -/
def goOffline (p : Proxy) (b : Backend) : Outcome Proxy Bool :=
  match p.attachment with
  | .elsewhere =>
    { result := .error (.invalidProxy (.notLocal "broadcast go offline" p.clientId))
      subject := p
      backend := b }
  | .attached _ _ =>
    let closed := { p with isClosed := true }
    match b.delete p.clientId with
    | { result := .error e, backend } => { result := .error e, subject := closed, backend }
    | { result := .ok found, backend } =>
      { result := .ok found, subject := closed.written (.delete p.clientId), backend }

/-! ## Following a client elsewhere -/

/-- The principal that a record and a snapshot stand for, if the schema can resolve them. -/
def resolvePrincipal (schema : Schema) (record : Record) (snapshot : Option Json) :
    Option Principal :=
  match record.hasAuth, snapshot with
  | true, some snapshot =>
    match Principal.ofSnapshot record.authRef snapshot schema with
    | .ok principal => some principal
    | .error _ => none
  | _, _ => none

/-- Takes over topics and principal of a record; client and owner stay what they are. -/
def receive (p : Proxy) (schema : Schema) (record : Record) (snapshot : Option Json) :
    Except MeshError Proxy :=
  if p.isAttached then .error (.invalidProxy (.notRemote p.clientId))
  else if record.clientId ≠ p.clientId then
    .error (.invalidProxy (.otherClient record.clientId p.clientId))
  else
    .ok { p with
      record :=
        { p.record with
          topics := record.topics, authRef := record.authRef, updatedBy := record.updatedBy }
      lastPrincipal := resolvePrincipal schema record snapshot }

/-! ## Messages -/

/-- Sends a message to the client wherever it is connected. -/
def send (p : Proxy) (own : String) (m : Message) (b : Backend) : Outcome Proxy Unit :=
  if p.isRemote own then
    match (Relay.mk p.clientId m).encode with
    | .error e => { result := .error (.protocol e), subject := p, backend := b }
    | .ok payload =>
      match b.publish p.record.owner payload with
      | { result, backend } => { result, subject := p, backend }
  else if p.isAttached then
    { result := .ok (), subject := p.mapClient (·.deliver m), backend := b }
  else { result := .error (.selfRelay p.clientId own), subject := p, backend := b }

/-- Hands a relayed message to the client, who must be attached here. -/
def deliver (p : Proxy) (own : String) (m : Message) : Except MeshError Proxy :=
  if p.isAttached && !p.isRemote own then .ok (p.mapClient (·.deliver m))
  else .error (.wrongChannel p.clientId)

/-! ## For people -/

/-- The proxy in one line, with the topics of its record. -/
def describe (p : Proxy) : String :=
  let topics := ", ".intercalate (p.record.topics.toList.map Text.quoted)
  "ClientProxy \x7b client_id: " ++ Text.quoted p.clientId
    ++ ", local: " ++ (if p.isAttached then "true" else "false")
    ++ ", channel_id: " ++ Text.quoted p.record.owner
    ++ ", subscriptions: \x7b" ++ topics ++ "\x7d \x7d"

end Proxy

end TopicMesh
