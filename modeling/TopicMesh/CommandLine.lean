import TopicMesh.Settings
import TopicMesh.Text.Delimited
import TopicMesh.Text.Terminal

/-!
# TopicMesh.CommandLine

The command line of a node:

* `Opt`, `Flag`   — what may be given.
* `State.step`    — one word of the command line.
* `parse`         — the whole command line, with the environment variable of the database.

A value is only looked at when the next option or the end of the line is reached, so that an unknown
word is reported before a bad value in front of it.

Messages set off names and foreign words for a terminal, and are given as a terminal shows them: an
escape sequence in a foreign word is not part of the message. A value itself is kept as it came.
-/

namespace TopicMesh.CommandLine

open Text.Terminal (visible bold highlighted)

inductive Opt where
  | databaseUrl
  | heartbeatInterval
  | heartbeatJitter
  | channelTtl
  | retryDelay
  | maxConnections
deriving DecidableEq, Repr

inductive Flag where
  | logPayloads
  | strictRouting
  | help
  | version
deriving DecidableEq, Repr

def Opt.name : Opt → String
  | .databaseUrl => "database-url"
  | .heartbeatInterval => "heartbeat-interval"
  | .heartbeatJitter => "heartbeat-jitter"
  | .channelTtl => "channel-ttl"
  | .retryDelay => "retry-delay-ms"
  | .maxConnections => "max-connections"

/-- How the value is called in messages. -/
def Opt.placeholder : Opt → String
  | .databaseUrl => "DATABASE_URL"
  | .heartbeatInterval => "HEARTBEAT_INTERVAL"
  | .heartbeatJitter => "HEARTBEAT_JITTER"
  | .channelTtl => "CHANNEL_TTL"
  | .retryDelay => "RETRY_DELAY_MS"
  | .maxConnections => "MAX_CONNECTIONS"

def Opt.usage (o : Opt) : String := "--" ++ o.name ++ " <" ++ o.placeholder ++ ">"

def Flag.name : Flag → String
  | .logPayloads => "log-payloads"
  | .strictRouting => "strict-routing"
  | .help => "help"
  | .version => "version"

def Flag.usage (f : Flag) : String := "--" ++ f.name

def opts : List Opt :=
  [.databaseUrl, .heartbeatInterval, .heartbeatJitter, .channelTtl, .retryDelay, .maxConnections]

def flags : List Flag := [.logPayloads, .strictRouting, .help, .version]

/-! ## Values -/

/-- Why a value is no number of the option's range. -/
inductive BadNumber where
  | empty
  | invalidDigit
  | tooLarge
  | tooSmall
  | outside (n : Int)
deriving DecidableEq, Repr

def BadNumber.message : BadNumber → String
  | .empty => "cannot parse integer from empty string"
  | .invalidDigit => "invalid digit found in string"
  | .tooLarge => "number too large to fit in target type"
  | .tooSmall => "number too small to fit in target type"
  | .outside n => toString n ++ " is not in 0..=4294967295"

/-- Digits after `n`. The first fault from the left is reported, be it a foreign character or a
digit too many. -/
def digits (negative : Bool) (low high : Int) (n : Int) : List Char → Except BadNumber Int
  | [] => .ok n
  | c :: r =>
    if '0' ≤ c ∧ c ≤ '9' then
      let d : Int := (c.toNat - '0'.toNat : Nat)
      let m := if negative then n * 10 - d else n * 10 + d
      if high < m then .error .tooLarge
      else if m < low then .error .tooSmall
      else digits negative low high m r
    else .error .invalidDigit

/-- A decimal number between two bounds. A plus sign may precede it, and a minus sign if numbers
below zero are within the bounds. -/
def number (low high : Int) (text : String) : Except BadNumber Int :=
  match text.toList with
  | [] => .error .empty
  | [c] => if c = '+' ∨ c = '-' then .error .invalidDigit else digits false low high 0 [c]
  | c :: d :: r =>
    if c = '+' then digits false low high 0 (d :: r)
    else if c = '-' ∧ low < 0 then digits true low high 0 (d :: r)
    else digits false low high 0 (c :: d :: r)

def number64 (text : String) : Except BadNumber Nat :=
  match number 0 (Int.pow 2 64 - 1) text with
  | .error e => .error e
  | .ok n => .ok n.toNat

/-- A number of 32 bits, read as a signed one of 64 bits first. -/
def number32 (text : String) : Except BadNumber Nat :=
  match number (-Int.pow 2 63) (Int.pow 2 63 - 1) text with
  | .error e => .error e
  | .ok n => if 0 ≤ n ∧ n < Int.pow 2 32 then .ok n.toNat else .error (.outside n)

/-! ## Words -/

inductive Stop where
  | help (text : String)
  | version (text : String)
  | missingDatabaseUrl
  | unknown (word : String)
  | missingValue (opt : Opt)
  | repeated (usage : String)
  | unneededValue (value : String) (flag : Flag)
  | badValue (value : String) (opt : Opt) (reason : BadNumber)
deriving DecidableEq, Repr

structure Given where
  databaseUrl : Option String := none
  heartbeatInterval : Option Nat := none
  heartbeatJitter : Option Nat := none
  channelTtl : Option Nat := none
  retryDelay : Option Nat := none
  maxConnections : Option Nat := none
  logPayloads : Bool := false
  strictRouting : Bool := false
deriving DecidableEq, Repr

def Given.has (g : Given) : Opt → Bool
  | .databaseUrl => g.databaseUrl.isSome
  | .heartbeatInterval => g.heartbeatInterval.isSome
  | .heartbeatJitter => g.heartbeatJitter.isSome
  | .channelTtl => g.channelTtl.isSome
  | .retryDelay => g.retryDelay.isSome
  | .maxConnections => g.maxConnections.isSome

def Given.set (g : Given) (opt : Opt) (value : String) : Except Stop Given :=
  if g.has opt then .error (.repeated opt.usage)
  else
    match opt with
    | .databaseUrl => .ok { g with databaseUrl := some value }
    | .heartbeatInterval =>
      numeric (number64 value) fun n => { g with heartbeatInterval := some n }
    | .heartbeatJitter => numeric (number64 value) fun n => { g with heartbeatJitter := some n }
    | .channelTtl => numeric (number64 value) fun n => { g with channelTtl := some n }
    | .retryDelay => numeric (number64 value) fun n => { g with retryDelay := some n }
    | .maxConnections => numeric (number32 value) fun n => { g with maxConnections := some n }
where
  numeric (n : Except BadNumber Nat) (put : Nat → Given) : Except Stop Given :=
    match n with
    | .error e => .error (.badValue value opt e)
    | .ok n => .ok (put n)

/-- An option whose value, if it came, has not been looked at. -/
structure Pending where
  opt : Opt
  value : Option String
deriving DecidableEq, Repr

structure State where
  given : Given := {}
  pending : Option Pending := none
  /-- After `--` no word is an option. -/
  trailing : Bool := false

def State.settle (s : State) : Except Stop Given :=
  match s.pending with
  | none => .ok s.given
  | some ⟨opt, none⟩ => .error (.missingValue opt)
  | some ⟨opt, some value⟩ => s.given.set opt value

def versionText : String := "rtbridge 0.1.0\n"

/-- What comes before a description. -/
def margin : String := "          "

/-- A description, each line of which begins behind the margin. -/
def indented (about : String) : String :=
  margin ++ String.ofList (about.toList.flatMap fun c =>
    if c = '\n' then c :: margin.toList else [c])

/-- The help text shows the environment variable's value. -/
def helpText (databaseUrl : Option String) : String :=
  visible
    ("Realtime subscription bridge node\n\n"
      ++ "Usage: rtbridge [OPTIONS] --database-url <DATABASE_URL>\n\n"
      ++ "Options:\n"
      ++ option .databaseUrl
          ("Postgres connection string [env: DATABASE_URL=" ++ databaseUrl.getD "" ++ "]")
      ++ option .heartbeatInterval "Heartbeat interval in seconds [default: 30]"
      ++ option .heartbeatJitter "Maximum heartbeat jitter in seconds [default: 5]"
      ++ option .channelTtl "Channel liveness TTL in seconds [default: 40]"
      ++ option .retryDelay
          "Retry delay after transient failures, in milliseconds [default: 1000]"
      ++ option .maxConnections "Maximum database connections [default: 10]"
      ++ flag "    " .logPayloads "Log every inbound bus payload"
      ++ flag "    " .strictRouting
          "Exit when a relay reaches a client owned by another instance"
      ++ flag (bold "-h" ++ ", ") .help "Print help"
      ++ flag (bold "-V" ++ ", ") .version "Print version")
where
  option (o : Opt) (about : String) : String :=
    "      " ++ bold ("--" ++ o.name) ++ " <" ++ o.placeholder ++ ">\n"
      ++ indented about ++ "\n"
  flag (short : String) (f : Flag) (about : String) : String :=
    "  " ++ short ++ bold f.usage ++ "\n" ++ indented about ++ "\n"

/-- A flag; the help and the version end the reading. -/
def State.flag (s : State) (env : Option String) (f : Flag) : Except Stop State :=
  match s.settle with
  | .error e => .error e
  | .ok g =>
    match f with
    | .help => .error (.help (helpText env))
    | .version => .error (.version versionText)
    | .logPayloads =>
      if g.logPayloads then .error (.repeated f.usage)
      else .ok { s with given := { g with logPayloads := true }, pending := none }
    | .strictRouting =>
      if g.strictRouting then .error (.repeated f.usage)
      else .ok { s with given := { g with strictRouting := true }, pending := none }

/-- A word that starts with two dashes, without them. -/
def State.long (s : State) (env : Option String) (word : List Char) : Except Stop State :=
  let (name, value) : List Char × Option (List Char) :=
    match Text.cut '=' word with
    | some (name, value) => (name, some value)
    | none => (word, none)
  match opts.find? (fun o => o.name.toList == name) with
  | some opt =>
    match s.settle with
    | .error e => .error e
    | .ok g =>
      match value with
      | none => .ok { s with given := g, pending := some ⟨opt, none⟩ }
      | some value =>
        match g.set opt (String.ofList value) with
        | .error e => .error e
        | .ok g => .ok { s with given := g, pending := none }
  | none =>
    match flags.find? (fun f => f.name.toList == name) with
    | some f =>
      match value with
      | none => s.flag env f
      | some value => .error (.unneededValue (String.ofList value) f)
    | none => .error (.unknown ("--" ++ String.ofList name))

/-- A word of one dash and at least one letter. -/
def State.short (s : State) (env : Option String) (letter : Char) : Except Stop State :=
  if letter = 'h' then s.flag env .help
  else if letter = 'V' then s.flag env .version
  else .error (.unknown ("-" ++ String.singleton letter))

/-- A word that is no option: the value that an option waits for, or unknown. -/
def State.plain (s : State) (word : String) : Except Stop State :=
  match s.pending with
  | some ⟨opt, none⟩ => .ok { s with pending := some ⟨opt, some word⟩ }
  | _ => .error (.unknown word)

def State.step (s : State) (env : Option String) (word : String) : Except Stop State :=
  if s.trailing then .error (.unknown word)
  else
    match word.toList with
    | ['-', '-'] => .ok { s with trailing := true }
    | '-' :: '-' :: r => s.long env r
    | '-' :: c :: _ => s.short env c
    | _ => s.plain word

def State.run (s : State) (env : Option String) : List String → Except Stop State
  | [] => .ok s
  | word :: rest =>
    match s.step env word with
    | .error e => .error e
    | .ok s => s.run env rest

/-- The settings given by values, where defaults stand for what is missing. -/
def Given.settings (g : Given) (databaseUrl : String) : Settings :=
  let defaults : Settings := {}
  Settings.setMaxConnections
    { defaults with
      databaseUrl := some databaseUrl
      heartbeatInterval := (g.heartbeatInterval.map .ofSeconds).getD defaults.heartbeatInterval
      heartbeatJitter := (g.heartbeatJitter.map .ofSeconds).getD defaults.heartbeatJitter
      channelTtl := (g.channelTtl.map .ofSeconds).getD defaults.channelTtl
      retryDelay := (g.retryDelay.map .ofMilliseconds).getD defaults.retryDelay
      logPayloads := g.logPayloads
      strictRouting := g.strictRouting }
    (g.maxConnections.getD defaults.maxConnections)

/-- Reads a command line; `env` stands in for the database if the line does not name one. -/
def parse (words : List String) (env : Option String) : Except Stop Settings :=
  match State.run {} env words with
  | .error e => .error e
  | .ok s =>
    match s.settle with
    | .error e => .error e
    | .ok g =>
      match g.databaseUrl.or env with
      | none => .error .missingDatabaseUrl
      | some url => .ok (g.settings url)

/-- The first line of a text; a carriage return before the newline is part of the line's end. -/
def firstLine (s : String) : String :=
  match Text.cut '\n' s.toList with
  | none => s
  | some (line, _) =>
    String.ofList (if line.getLast? = some '\r' then line.dropLast else line)

/-- The text shown for a command line that gives no settings: all of the help and the version, the
first line of a complaint. -/
def Stop.message : Stop → String
  | .help text | .version text => text
  | .missingDatabaseUrl => complaint "the following required arguments were not provided:"
  | .unknown word => complaint ("unexpected argument '" ++ highlighted word ++ "' found")
  | .missingValue opt =>
    complaint ("a value is required for '" ++ bold opt.usage ++ "' but none was supplied")
  | .repeated usage =>
    complaint ("the argument '" ++ bold usage ++ "' cannot be used multiple times")
  | .unneededValue value f =>
    complaint ("unexpected value '" ++ highlighted value ++ "' for '"
      ++ bold f.usage ++ "' found; no more were expected")
  | .badValue value opt reason =>
    complaint ("invalid value '" ++ highlighted value ++ "' for '"
      ++ bold opt.usage ++ "': " ++ reason.message)
where
  complaint (text : String) : String := firstLine (visible ("error: " ++ text))

end TopicMesh.CommandLine
