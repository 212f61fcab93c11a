import TopicMesh.ChannelName
import TopicMesh.Error

/-!
# TopicMesh.Settings

The settings of an instance. `Settings.validate` accepts those whose timings keep a channel alive: a
positive interval, a jitter within it, and a time to live above it.
-/

namespace TopicMesh

structure Settings where
  databaseUrl : Option String := none
  controlChannel : String := ChannelName.defaultControl
  heartbeatInterval : Duration := .ofSeconds 30
  heartbeatJitter : Duration := .ofSeconds 5
  channelTtl : Duration := .ofSeconds 40
  retryDelay : Duration := .ofMilliseconds 1000
  maxConnections : Nat := 10
  logPayloads : Bool := false
  strictRouting : Bool := false
  clientBuffer : Nat := 64
deriving DecidableEq, Repr, Inhabited

namespace Settings

/-- At least one connection. -/
def setMaxConnections (s : Settings) (n : Nat) : Settings := { s with maxConnections := max n 1 }

/-- Room for at least one message. -/
def setClientBuffer (s : Settings) (n : Nat) : Settings := { s with clientBuffer := max n 1 }

/-- The first reason why the settings cannot keep a channel alive, if there is one. -/
def validate (s : Settings) : Except MeshError Unit :=
  if s.heartbeatInterval.nanoseconds = 0 then .error (.settings .zeroInterval)
  else if s.heartbeatInterval < s.heartbeatJitter then
    .error (.settings (.jitterAboveInterval s.heartbeatJitter s.heartbeatInterval))
  else if s.channelTtl ≤ s.heartbeatInterval then
    .error (.settings (.ttlWithinInterval s.channelTtl s.heartbeatInterval))
  else if s.controlChannel = "" then .error (.settings .emptyControlChannel)
  else .ok ()

/-- Whether a text starts with the scheme of a URL. -/
def hasScheme (url : String) : Bool :=
  let s := url.toList.dropWhile fun c => c ≤ ' '
  match s.takeWhile (fun c => c.isAlphanum || c == '+' || c == '-' || c == '.') with
  | [] => false
  | c :: r => c.isAlpha && (s.drop (r.length + 1)).head? == some ':'

/-- The address of the database, or why there is none to connect to. -/
def databaseAddress (s : Settings) : Except MeshError String :=
  match s.databaseUrl with
  | none => .error (.settings .missingDatabaseUrl)
  | some url =>
    if hasScheme url then .ok url
    else .error (.store "error with configuration: relative URL without a base")

end Settings

end TopicMesh
