import TopicMesh.Proofs.Json.Sequence

/-!
# TopicMesh.Proofs.Record

The text of a record is read back as that record. The strings in it may be in any spelling, so that
this also holds of a text in which delimiters were escaped after it was written.
-/

namespace TopicMesh

open Json (Spells literal separated)

namespace TopicSet

theorem contains_eq_contains_toList (s : TopicSet) (topic : String) :
    s.toList.contains topic = s.contains topic := by
  rw [Bool.eq_iff_iff, List.contains_iff_mem]
  simp only [toList, Table.keys, contains, Table.contains, List.mem_map, Prod.exists,
    exists_and_right, exists_eq_right, Option.isSome_iff_exists, Table.mem_entries_iff]

theorem ofList_toList (s : TopicSet) : ofList s.toList = s := by
  ext topic
  rw [ofList, contains_insertAll, contains_eq_contains_toList, contains_empty, Bool.or_false]

end TopicSet

namespace Record

/-- A field of a record and its value. -/
def fieldText (f : Char → List Char) (name : String) (value r : List Char) : List Char :=
  literal f name.toList ++ ':' :: (value ++ r)

/-- The text of a record after its opening brace, in any spelling of its strings and with a rest. -/
def fieldTexts (f : Char → List Char) (x : Record) (r : List Char) : List Char :=
  fieldText f "client_id" (literal f x.clientId.toList)
    (',' :: fieldText f "channel_id" (literal f x.owner.toList)
      (',' :: fieldText f "subscriptions"
          ('[' :: (separated (fun s => literal f s.toList) x.topics.toList ++ [']']))
        (',' :: fieldText f "auth_ref" (literal f x.authRef.toList)
          (',' :: fieldText f "updated_by_channel_id" (literal f x.updatedBy.toList) ('}' :: r)))))

theorem stringsChars_eq : ∀ l : List String,
    stringsChars l = separated (fun s => literal Json.escapeChar s.toList) l
  | [] => rfl
  | [s] => by simp [stringsChars, separated, Json.stringChars_eq_literal]
  | s :: t :: r => by
    have ih := stringsChars_eq (t :: r)
    simp only [stringsChars, ih, separated, Json.stringChars_eq_literal, List.flatMap_cons,
      List.cons_append]

theorem chars_eq (x : Record) : x.chars = '{' :: x.fieldTexts Json.escapeChar [] := by
  simp [chars, fieldTexts, fieldText, fieldChars, stringsChars_eq, Json.stringChars_eq_literal]

section Members

variable {f : Char → List Char} {p : Partial}

theorem member_clientId (h : ∀ c, Spells (f c) c) (hp : p.clientId = none) (x : String)
    (r : List Char) :
    member p "client_id" (':' :: (literal f x.toList ++ r))
      = .ok ({ p with clientId := some x }, r) := by
  rw [member, if_pos rfl, hp, Json.place_colon (Json.string_literal h x r)]

theorem member_owner (h : ∀ c, Spells (f c) c) (hp : p.owner = none) (x : String)
    (r : List Char) :
    member p "channel_id" (':' :: (literal f x.toList ++ r))
      = .ok ({ p with owner := some x }, r) := by
  rw [member, if_neg (by decide), if_pos rfl, hp, Json.place_colon (Json.string_literal h x r)]

theorem member_topics (h : ∀ c, Spells (f c) c) (hp : p.topics = none) (l : List String)
    (r : List Char) :
    member p "subscriptions"
        (':' :: ('[' :: (separated (fun s => literal f s.toList) l ++ [']']) ++ r))
      = .ok ({ p with topics := some l }, r) := by
  have hl := Json.strings_separated h l r
  rw [member, if_neg (by decide), if_neg (by decide), if_pos rfl, hp]
  apply Json.place_colon
  simpa using hl

theorem member_authRef (h : ∀ c, Spells (f c) c) (hp : p.authRef = none) (x : String)
    (r : List Char) :
    member p "auth_ref" (':' :: (literal f x.toList ++ r))
      = .ok ({ p with authRef := some x }, r) := by
  rw [member, if_neg (by decide), if_neg (by decide), if_neg (by decide), if_pos rfl, hp,
    Json.place_colon (Json.string_literal h x r)]

theorem member_updatedBy (h : ∀ c, Spells (f c) c) (hp : p.updatedBy = none) (x : String)
    (r : List Char) :
    member p "updated_by_channel_id" (':' :: (literal f x.toList ++ r))
      = .ok ({ p with updatedBy := some x }, r) := by
  rw [member, if_neg (by decide), if_neg (by decide), if_neg (by decide), if_neg (by decide),
    if_pos rfl, hp, Json.place_colon (Json.string_literal h x r)]

end Members

theorem members_fieldTexts {f : Char → List Char} (h : ∀ c, Spells (f c) c) (x : Record)
    (r : List Char) (bound : Nat) :
    Json.members member (bound + 6) true {} (x.fieldTexts f r)
      = .ok ({ clientId := some x.clientId, owner := some x.owner, topics := some x.topics.toList,
               authRef := some x.authRef, updatedBy := some x.updatedBy }, r) := by
  simp only [fieldTexts, fieldText]
  rw [Json.members_first h (member_clientId h rfl _ _),
    Json.members_comma h (member_owner h rfl _ _),
    Json.members_comma h (member_topics h rfl _ _),
    Json.members_comma h (member_authRef h rfl _ _),
    Json.members_comma h (member_updatedBy h rfl _ _), Json.members_closing]

/-- A record is read back in any spelling of its strings. -/
theorem reader_fieldTexts {f : Char → List Char} (h : ∀ c, Spells (f c) c) (x : Record)
    (r : List Char) : reader ('{' :: x.fieldTexts f r) = .ok (x, r) := by
  have hlen : 5 ≤ (x.fieldTexts f r).length := by
    simp only [fieldTexts, fieldText, List.length_append, List.length_cons]
    omega
  have hread := members_fieldTexts h x r ((x.fieldTexts f r).length - 5)
  rw [show (x.fieldTexts f r).length - 5 + 6 = (x.fieldTexts f r).length + 1 by omega] at hread
  rw [reader]
  simp [Json.skipBlank, Json.isBlank, hread, reader.finish, Partial.complete,
    TopicSet.ofList_toList]

end Record

end TopicMesh
