import TopicMesh.Text.Blank

/-!
# TopicMesh.ChannelName

Names of bus channels: up to 63 lower-case letters, digits and underscores. `normalize` maps any text
into this alphabet; `instanceName` is the name of an instance's own channel, made of its host and a
random suffix that survives however long the host is.
-/

namespace TopicMesh.ChannelName

def maxLength : Nat := 63

/-- The channel that every instance listens on unless told otherwise. -/
def defaultControl : String := "shared_bridge_channel"

def isNameChar (c : Char) : Bool :=
  ('a' ≤ c && c ≤ 'z') || ('0' ≤ c && c ≤ '9') || c == '_'

/-- A character in the alphabet: capitals in lower case, anything foreign as an underscore. -/
def normalizeChar (c : Char) : Char :=
  if isNameChar c then c
  else if 'A' ≤ c ∧ c ≤ 'Z' then c.toLower
  else '_'

/-- Any text as a name, cut to the longest length. -/
def normalize (raw : String) : String :=
  String.ofList ((raw.toList.map normalizeChar).take maxLength)

/-- A name in the alphabet, not empty and not too long. -/
def isValid (name : String) : Bool :=
  name.toList ≠ [] && name.toList.length ≤ maxLength && name.toList.all isNameChar

/-- Characters of the random suffix. -/
def suffixLength : Nat := 5

/-- Characters left for the host between `c_` and the suffix with its underscore. -/
def hostLength : Nat := maxLength - 2 - suffixLength - 1

def fallbackHost : String := "localhost"

/-- The host's name: the first of the texts that say it and are not blank, without the blanks around
it. -/
def hostName (texts : List String) : String :=
  let names := texts.map fun t => String.ofList (Text.trim t.toList)
  (names.find? fun name => name ≠ "").getD fallbackHost

/-- The channel of an instance on a host. -/
def instanceName (host suffix : String) : String :=
  let host := (normalize host).toList.take hostLength
  normalize (String.ofList ('c' :: '_' :: host ++ '_' :: suffix.toList))

end TopicMesh.ChannelName
