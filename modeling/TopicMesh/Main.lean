import TopicMesh.CommandLine
import TopicMesh.Node.Basic

/-!
# TopicMesh.Main

The command line of a node: it reads its settings, checks them, and says on which channel the node
would run.
-/

namespace TopicMesh.Main

def suffixAlphabet : String := "abcdefghijklmnopqrstuvwxyz0123456789"

/-- A random suffix for the channel of an instance. -/
def drawSuffix : IO String := do
  let drawn ← (List.replicate ChannelName.suffixLength ()).mapM fun () => do
    let n ← IO.rand 0 (suffixAlphabet.length - 1)
    return suffixAlphabet.toList.getD n 'a'
  return String.ofList drawn

/-- What says the name of the host, in order of preference. -/
def hostTexts : IO (List String) := do
  let fromEnv ← IO.getEnv "HOSTNAME"
  let fromFile ← (some <$> IO.FS.readFile "/etc/hostname") <|> pure none
  return fromEnv.toList ++ fromFile.toList

/-- The node that settings describe, on a channel of its own. -/
def node (settings : Settings) (host suffix : String) : Except MeshError Node :=
  match settings.validate with
  | .error e => .error e
  | .ok () =>
    match settings.databaseAddress with
    | .error e => .error e
    | .ok _ => Node.create (ChannelName.instanceName host suffix) settings {}

/-- Runs a command line; gives the exit code. -/
def run (words : List String) : IO UInt32 := do
  match CommandLine.parse words (← IO.getEnv "DATABASE_URL") with
  | .error (.help text) | .error (.version text) =>
    IO.print text
    return 0
  | .error stop =>
    IO.eprintln stop.message
    return 2
  | .ok settings =>
    match node settings (ChannelName.hostName (← hostTexts)) (← drawSuffix) with
    | .error e =>
      IO.eprintln e.message
      return 1
    | .ok n =>
      IO.println n.channel
      return 0

end TopicMesh.Main

def main (words : List String) : IO UInt32 := TopicMesh.Main.run words
