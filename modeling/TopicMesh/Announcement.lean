import TopicMesh.Record
import TopicMesh.Relay

/-!
# TopicMesh.Announcement

What instances tell each other on the control channel, and its payloads: the kind, the delimiter and
a body. The body of an upsert is a record and, if the writer knew a principal, a snapshot of it, both
in JSON; the delimiter inside the record's strings is escaped, so the first one in the body ends it.
-/

namespace TopicMesh

inductive Announcement where
  /-- A client's record was written. -/
  | upsert (record : Record) (snapshot : Option Json)
  | delete (clientId : String)
  /-- An instance was reaped together with its clients' records. -/
  | offline (channel : String)
  | collectionsUpdated
  | settingsUpdated
deriving DecidableEq

namespace Announcement

def kind : Announcement → String
  | .upsert _ _ => "subscription_upsert"
  | .delete _ => "subscription_delete"
  | .offline _ => "subscription_channel_offline"
  | .collectionsUpdated => "collection_updated"
  | .settingsUpdated => "settings_updated"

/-- The channel of the instance that wrote it, where it says so. -/
def origin : Announcement → Option String
  | .upsert record _ => some record.updatedBy
  | _ => none

/-- The escape of the delimiter inside a JSON string. -/
def delimiterEscape : List Char := ['\\', 'u', '0', '0', '7', 'c']

/-- Replaces the delimiter in a JSON text, where it can only stand inside strings. -/
def escapeDelimiter (json : List Char) : List Char :=
  json.flatMap fun c => if c = delimiter then delimiterEscape else [c]

def emptyBody : String := "empty-payload"

/-- The snapshot as a field; nothing if there is none. -/
def snapshotChars : Option Json → List Char
  | none => []
  | some j => j.chars

/-- A field that ends with the payload, so that it must be free of the delimiter. -/
def plainField (name value : String) : Except ProtocolError (List Char) :=
  if delimiter ∈ value.toList then .error (.malformed (.delimiterInField name value))
  else .ok value.toList

/-- What follows the kind in a payload. -/
def body : Announcement → Except ProtocolError (List Char)
  | .upsert record snapshot =>
    .ok (escapeDelimiter record.chars ++ delimiter :: snapshotChars snapshot)
  | .delete clientId => plainField "client_id" clientId
  | .offline channel => plainField "channel_id" channel
  | .collectionsUpdated | .settingsUpdated => .ok emptyBody.toList

def encode (a : Announcement) : Except ProtocolError String :=
  match a.body with
  | .error e => .error e
  | .ok b => .ok (String.ofList (a.kind.toList ++ delimiter :: b))

/-- A body that is one field, not empty and free of the delimiter. -/
def wholeField (name : String) (body : List Char) : Except ProtocolError String :=
  let value := String.ofList body
  if body = [] ∨ delimiter ∈ body then .error (.malformed (.invalidField name value))
  else .ok value

/-- The body of an upsert: a record, and a snapshot unless the text after it is empty. -/
def decodeUpsert (body : List Char) : Except ProtocolError Announcement :=
  match Text.cut delimiter body with
  | none => .error (.malformed (.missingSnapshotField (String.ofList body)))
  | some (recordText, snapshotText) =>
    match Json.document Record.reader recordText with
    | .error e => .error (.malformed (.unreadableRecord e))
    | .ok record =>
      if snapshotText = [] then .ok (.upsert record none)
      else
        match Json.document (Json.value Json.maxDepth) snapshotText with
        | .error e => .error (.malformed (.unreadableSnapshot e))
        | .ok j => .ok (.upsert record (some j))

def decode (payload : String) : Except ProtocolError Announcement :=
  match Text.cut delimiter payload.toList with
  | none => .error (.malformed (.missingKind payload))
  | some (kind, body) =>
    let kind := String.ofList kind
    if kind = "subscription_upsert" then decodeUpsert body
    else if kind = "subscription_delete" then
      match wholeField "client_id" body with
      | .error e => .error e
      | .ok clientId => .ok (.delete clientId)
    else if kind = "subscription_channel_offline" then
      match wholeField "channel_id" body with
      | .error e => .error e
      | .ok channel => .ok (.offline channel)
    else if kind = "collection_updated" then .ok .collectionsUpdated
    else if kind = "settings_updated" then .ok .settingsUpdated
    else .error (.unknownEventType kind)

/-! ## Size of a notification -/

/-- The largest payload of a notification, in bytes. -/
def maxNotification : Nat := 7999

/-- The payload of an upsert, without the snapshot if it would be too large with it. -/
def notification (record : Record) (snapshot : Option Json) : Except ProtocolError String :=
  match (upsert record snapshot).encode with
  | .error e => .error e
  | .ok payload =>
    if payload.utf8ByteSize ≤ maxNotification ∨ snapshot = none then .ok payload
    else (upsert record none).encode

end Announcement

end TopicMesh
