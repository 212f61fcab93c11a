import TopicMesh.Rfc3339
import TopicMesh.Json.Field

/-!
# TopicMesh.Lease

The liveness row of an instance's channel: it lasts until a deadline, and once that has passed other
instances may reap the channel. In JSON it is an object with two fields, or a list of the two.
-/

namespace TopicMesh

structure Lease where
  channel : String
  deadline : Instant
deriving DecidableEq, Repr

namespace Lease

def isExpiredAt (l : Lease) (now : Instant) : Bool := l.deadline < now

def write (l : Lease) : String :=
  String.ofList <|
    '{' :: Json.stringChars "id".toList ++ ':' :: Json.stringChars l.channel.toList
      ++ ',' :: Json.stringChars "valid_until".toList ++ ':'
      :: Json.stringChars (Rfc3339.write l.deadline).toList ++ ['}']

/-- A date and time inside a string. -/
def deadlineReader : Json.Reader Instant := fun s =>
  match Json.stringAs "an RFC 3339 formatted date and time string" s with
  | .error e => .error e
  | .ok (text, r) =>
    match Rfc3339.read text with
    | .error e => .error ⟨.refusedContent e.message, r, 0⟩
    | .ok t => .ok (t, r)

structure Partial where
  channel : Option String := none
  deadline : Option Instant := none

/-- One member of the object; a member with an unknown key is passed over. -/
def member (p : Partial) (key : String) : Json.Reader Partial := fun s =>
  if key = "id" then
    Json.place p.channel key Json.string (fun a => { p with channel := some a }) s
  else if key = "valid_until" then
    Json.place p.deadline key deadlineReader (fun a => { p with deadline := some a }) s
  else
    match Json.unknownField s with
    | .error e => .error e
    | .ok r => .ok (p, r)

/-- How faults name a lease, and its form as a list. -/
def shape : String := "struct Channel"
def listShape : String := shape ++ " with 2 elements"

/-- The members after the opening brace. -/
def object : Json.Reader Lease := fun s =>
  match Json.members member (s.length + 1) true {} s with
  | .error e => .error e
  | .ok (p, r) =>
    match p.channel, p.deadline with
    | none, _ => .error ⟨.missingField "id", r, 0⟩
    | some _, none => .error ⟨.missingField "valid_until", r, 0⟩
    | some channel, some deadline => .ok (⟨channel, deadline⟩, r)

/-- The two elements after the opening bracket. -/
def listed : Json.Reader Lease := fun s =>
  match Json.requiredElement Json.string 0 listShape s with
  | .error e => .error e
  | .ok (channel, s) =>
    match Json.requiredElement deadlineReader 1 listShape s with
    | .error e => .error e
    | .ok (deadline, s) =>
      match Json.closeList s with
      | .error e => .error e
      | .ok s => .ok (⟨channel, deadline⟩, s)

/-- A lease in either form. -/
def reader : Json.Reader Lease := fun s =>
  match Json.skipBlank s with
  | [] => .error ⟨.eofInValue, [], 0⟩
  | c :: r =>
    if c = '[' then listed r
    else if c = '{' then object r
    else .error (Json.mismatch shape (c :: r))

def parse (text : String) : Except Json.Refusal Lease := Json.document reader text.toList

end Lease

end TopicMesh
