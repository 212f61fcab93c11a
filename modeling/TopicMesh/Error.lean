import TopicMesh.ProtocolError
import TopicMesh.Duration

/-!
# TopicMesh.Error

What can go wrong in an instance, by cause, with the wording of each cause in one place. A
`reported` fault carries the text that another component gave.

`MeshError.isFatal` singles out the three violations of the protocol that end a listening loop: a
kind of announcement that this version does not know, and a relay at the wrong instance.
-/

namespace TopicMesh

inductive BusFault where
  | lagged (channel : String) (lost : Nat)
  | reported (text : String)
deriving DecidableEq, Repr

def BusFault.message : BusFault → String
  | .lagged channel lost =>
    "subscriber on " ++ channel ++ " lagged by " ++ toString lost ++ " notifications"
  | .reported text => text

inductive ProxyMisuse where
  | notLocal (operation clientId : String)
  | notRemote (clientId : String)
  | otherClient (recordClient proxyClient : String)
  | notConnected (clientId : String)
  | unknownClient (clientId : String)
  | reported (text : String)
deriving DecidableEq, Repr

def ProxyMisuse.message : ProxyMisuse → String
  | .notLocal operation id => "cannot " ++ operation ++ " for remote client " ++ id
  | .notRemote id => "cannot apply remote changes to local client " ++ id
  | .otherClient record proxy => "record for " ++ record ++ " applied to proxy " ++ proxy
  | .notConnected id => "client " ++ id ++ " is not connected to this instance"
  | .unknownClient id => "unknown client " ++ id
  | .reported text => text

inductive SchemaFault where
  | invalidAuthRef (ref : String)
  | unknownCollection (name : String)
  | snapshotNotObject
  | reported (text : String)
deriving DecidableEq, Repr

def SchemaFault.message : SchemaFault → String
  | .invalidAuthRef ref => "invalid auth ref: " ++ Text.quoted ref
  | .unknownCollection name => "unknown collection: " ++ name
  | .snapshotNotObject => "auth snapshot is not an object"
  | .reported text => text

inductive SettingsFault where
  | zeroInterval
  | jitterAboveInterval (jitter interval : Duration)
  | ttlWithinInterval (ttl interval : Duration)
  | emptyControlChannel
  | invalidChannel (name : String)
  | channelIsControl
  | ttlOutOfRange
  | missingDatabaseUrl
  | reported (text : String)
deriving DecidableEq, Repr

def SettingsFault.message : SettingsFault → String
  | .zeroInterval => "heartbeat interval must be positive"
  | .jitterAboveInterval jitter interval =>
    "heartbeat jitter " ++ jitter.render ++ " exceeds interval " ++ interval.render
  | .ttlWithinInterval ttl interval =>
    "channel ttl " ++ ttl.render ++ " must exceed heartbeat interval " ++ interval.render
  | .emptyControlChannel => "control channel name is empty"
  | .invalidChannel name => "invalid channel id: " ++ name
  | .channelIsControl => "channel id collides with the control channel"
  | .ttlOutOfRange =>
    "channel ttl out of range: Source duration value is out of range for the target type"
  | .missingDatabaseUrl => "database url is not set"
  | .reported text => text

inductive MeshError where
  | bus (fault : BusFault)
  | store (text : String)
  | protocol (error : ProtocolError)
  | wrongChannel (clientId : String)
  | selfRelay (clientId channel : String)
  | invalidProxy (misuse : ProxyMisuse)
  | schema (fault : SchemaFault)
  | settings (fault : SettingsFault)
  | task (text : String)
  /-- A deadline lies beyond the last date there is. -/
  | deadlineOverflow
deriving DecidableEq, Repr

namespace MeshError

def message : MeshError → String
  | .bus fault => "bus error: " ++ fault.message
  | .store text => "store error: " ++ text
  | .protocol error => "protocol error: " ++ error.message
  | .wrongChannel id => "relay for client " ++ id ++ " delivered to the wrong channel"
  | .selfRelay id channel =>
    "refusing to relay client " ++ id ++ " to own channel " ++ channel
  | .invalidProxy misuse => "invalid proxy operation: " ++ misuse.message
  | .schema fault => "schema cache error: " ++ fault.message
  | .settings fault => "configuration error: " ++ fault.message
  | .task text => "task error: " ++ text
  | .deadlineOverflow => "`DateTime + TimeDelta` overflowed"

/-- Violations of the protocol, which are never retried. -/
def isFatal : MeshError → Bool
  | .protocol (.unknownEventType _) | .wrongChannel _ | .selfRelay _ _ => true
  | _ => false

end MeshError

end TopicMesh
