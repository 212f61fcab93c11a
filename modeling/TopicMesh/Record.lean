import TopicMesh.TopicSet
import TopicMesh.Text.Delimited
import TopicMesh.Json.Field

/-!
# TopicMesh.Record

The subscriptions of one client as every instance sees them, and their JSON form: an object with
fixed field names, or a list of the fields in order. The client and its owner must be present; the
other fields may be missing, none may be null, and none may occur twice.
-/

namespace TopicMesh

/-- One client's subscriptions. `owner` is the channel of the instance the client is connected to,
`updatedBy` that of the instance that wrote last, `authRef` names the principal or is empty. -/
structure Record where
  clientId : String
  owner : String
  topics : TopicSet := .empty
  authRef : String := ""
  updatedBy : String := ""
deriving DecidableEq, Inhabited

/-- The separator between collection and id in a reference to a principal. -/
def authRefSeparator : Char := '/'

def authRefOf (collection id : String) : String :=
  collection ++ String.singleton authRefSeparator ++ id

/-- Collection and id of a reference, if neither is empty. -/
def authRefParts (ref : String) : Option (String × String) :=
  match Text.cutString authRefSeparator ref with
  | none => none
  | some (collection, id) => if collection = "" ∨ id = "" then none else some (collection, id)

namespace Record

def isSubscribed (r : Record) (topic : String) : Bool := r.topics.contains topic

def hasAuth (r : Record) : Bool := r.authRef ≠ ""

/-! ## Writing -/

def stringsChars : List String → List Char
  | [] => []
  | [s] => Json.stringChars s.toList
  | s :: t :: r => Json.stringChars s.toList ++ ',' :: stringsChars (t :: r)

/-- A field name and its colon. -/
def fieldChars (name : String) : List Char := Json.stringChars name.toList ++ [':']

/-- The text of a record as an object with all five fields. -/
def chars (r : Record) : List Char :=
  '{' :: fieldChars "client_id" ++ Json.stringChars r.clientId.toList
    ++ ',' :: fieldChars "channel_id" ++ Json.stringChars r.owner.toList
    ++ ',' :: fieldChars "subscriptions" ++ '[' :: stringsChars r.topics.toList ++ ']'
    :: ',' :: fieldChars "auth_ref" ++ Json.stringChars r.authRef.toList
    ++ ',' :: fieldChars "updated_by_channel_id" ++ Json.stringChars r.updatedBy.toList ++ ['}']

def write (r : Record) : String := String.ofList r.chars

/-! ## Reading -/

structure Partial where
  clientId : Option String := none
  owner : Option String := none
  topics : Option (List String) := none
  authRef : Option String := none
  updatedBy : Option String := none

/-- One member of the object; a member with an unknown key is passed over. -/
def member (p : Partial) (key : String) : Json.Reader Partial := fun s =>
  if key = "client_id" then
    Json.place p.clientId key Json.string (fun a => { p with clientId := some a }) s
  else if key = "channel_id" then
    Json.place p.owner key Json.string (fun a => { p with owner := some a }) s
  else if key = "subscriptions" then
    Json.place p.topics key Json.strings (fun a => { p with topics := some a }) s
  else if key = "auth_ref" then
    Json.place p.authRef key Json.string (fun a => { p with authRef := some a }) s
  else if key = "updated_by_channel_id" then
    Json.place p.updatedBy key Json.string (fun a => { p with updatedBy := some a }) s
  else
    match Json.unknownField s with
    | .error e => .error e
    | .ok r => .ok (p, r)

/-- The record with these fields, read up to `rest`. -/
def Partial.complete (p : Partial) (rest : List Char) : Except Json.Fault Record :=
  match p.clientId, p.owner with
  | none, _ => .error ⟨.missingField "client_id", rest, 0⟩
  | some _, none => .error ⟨.missingField "channel_id", rest, 0⟩
  | some clientId, some owner =>
    .ok { clientId
          owner
          topics := .ofList (p.topics.getD [])
          authRef := p.authRef.getD ""
          updatedBy := p.updatedBy.getD "" }

/-- How faults name a record, and its form as a list. -/
def shape : String := "struct SubscriptionRecord"
def listShape : String := shape ++ " with 5 elements"

/-- The optional fields in order, after the first two. -/
def listedRest (p : Partial) : Json.Reader Partial := fun s =>
  match Json.element Json.strings false s with
  | .error e => .error e
  | .ok (none, s) => .ok (p, s)
  | .ok (some topics, s) =>
    let p := { p with topics := some topics }
    match Json.element Json.string false s with
    | .error e => .error e
    | .ok (none, s) => .ok (p, s)
    | .ok (some authRef, s) =>
      let p := { p with authRef := some authRef }
      match Json.element Json.string false s with
      | .error e => .error e
      | .ok (none, s) => .ok (p, s)
      | .ok (some updatedBy, s) =>
        match Json.closeList s with
        | .error e => .error e
        | .ok s => .ok ({ p with updatedBy := some updatedBy }, s)

/-- The fields in order, after the opening bracket. -/
def listed : Json.Reader Partial := fun s =>
  match Json.requiredElement Json.string 0 listShape s with
  | .error e => .error e
  | .ok (clientId, s) =>
    match Json.requiredElement Json.string 1 listShape s with
    | .error e => .error e
    | .ok (owner, s) => listedRest { clientId := some clientId, owner := some owner } s

def reader : Json.Reader Record := fun s =>
  match Json.skipBlank s with
  | [] => .error ⟨.eofInValue, [], 0⟩
  | c :: r =>
    if c = '[' then finish (listed r)
    else if c = '{' then finish (Json.members member (r.length + 1) true {} r)
    else .error (Json.mismatch shape (c :: r))
where
  finish : Except Json.Fault (Partial × List Char) → Except Json.Fault (Record × List Char)
    | .error e => .error e
    | .ok (p, r) =>
      match p.complete r with
      | .error e => .error e
      | .ok record => .ok (record, r)

def parse (text : String) : Except Json.Refusal Record := Json.document reader text.toList

end Record

end TopicMesh
