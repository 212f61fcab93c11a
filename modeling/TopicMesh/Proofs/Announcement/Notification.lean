import Mathlib.Algebra.Ring.Nat
import Mathlib.Data.String.Basic
import TopicMesh.Proofs.Announcement.Domain

/-!
# TopicMesh.Proofs.Announcement.Notification

How large the payload of an upsert is, and what a notification carries of it. The size is a sum over
the strings of the record and what the snapshot adds (`utf8ByteSize_encode`), so that leaving out the
snapshot never makes a payload larger. It need not make it small enough: a record alone can be too
large for a notification, and its payload is handed out all the same (`oversized_crowded`).
-/

namespace TopicMesh

open String (utf8Len)

namespace Json

/-! ## Bytes of lists and strings -/

theorem utf8Len_flatMap {α : Type} (f : α → List Char) (l : List α) :
    utf8Len (l.flatMap f) = (l.map fun a => utf8Len (f a)).sum := by
  induction l with
  | nil => rfl
  | cons a l ih => rw [List.flatMap_cons, String.utf8Len_append, ih, List.map_cons, List.sum_cons]

theorem utf8Len_literal (f : Char → List Char) (s : List Char) :
    utf8Len (literal f s) = (s.map fun c => utf8Len (f c)).sum + 2 := by
  have hquote : Char.utf8Size '"' = 1 := by decide
  simp [literal, utf8Len_flatMap, hquote]

/-- A comma stands before every element but the first. -/
theorem utf8Len_separated {α : Type} (text : α → List Char) (l : List α) :
    utf8Len (separated text l) = (l.map fun a => utf8Len (text a) + 1).sum - 1 := by
  have hcomma : Char.utf8Size ',' = 1 := by decide
  cases l with
  | nil => rfl
  | cons a l =>
    simp only [separated, String.utf8Len_append, utf8Len_flatMap, String.utf8Len_cons, hcomma,
      List.map_cons, List.sum_cons]
    omega

end Json

namespace Announcement

/-! ## Bytes of a record -/

/-- The bytes that a character of a record takes in a payload. -/
def spelledBytes (c : Char) : Nat :=
  if c = delimiter then 6
  else if c = '"' ∨ c = '\\' ∨ c = '\x08' ∨ c = '\t' ∨ c = '\n' ∨ c = '\x0c' ∨ c = '\r' then 2
  else if c.toNat < 0x20 then 6
  else c.utf8Size

/-- The bytes of a string with its quotes. -/
def stringBytes (s : String) : Nat := (s.toList.map spelledBytes).sum + 2

/-- The bytes of a payload without a snapshot. Its kind, delimiters, field names and brackets take 105;
every topic but the first has a comma before it. -/
def bareBytes (x : Record) : Nat :=
  105 + stringBytes x.clientId + stringBytes x.owner
    + ((x.topics.toList.map fun t => stringBytes t + 1).sum - 1)
    + stringBytes x.authRef + stringBytes x.updatedBy

theorem utf8Size_hexDigit (n : Nat) : (Json.hexDigit n).utf8Size = 1 := by
  have h : ∀ k < 16, (Nat.digitChar k).utf8Size = 1 := by decide
  exact h _ (Nat.mod_lt _ (by decide))

theorem utf8Len_spell (c : Char) : utf8Len (spell c) = spelledBytes c := by
  by_cases hd : c = delimiter
  · subst hd
    decide
  · rw [spell, escapeDelimiter_eq_self (escapeChar_of_ne hd), spelledBytes, if_neg hd]
    unfold Json.escapeChar
    -- the seven escapes of one letter
    iterate 7
      split
      · rename_i h
        subst h
        decide
    rename_i h₁ h₂ h₃ h₄ h₅ h₆ h₇
    simp only [h₁, h₂, h₃, h₄, h₅, h₆, h₇, or_self, if_false]
    have hs : Char.utf8Size '\\' = 1 ∧ Char.utf8Size 'u' = 1 ∧ Char.utf8Size '0' = 1 := by decide
    split
    · simp [utf8Size_hexDigit, hs]
    · simp

theorem utf8Len_literal (s : String) : utf8Len (Json.literal spell s.toList) = stringBytes s := by
  simp only [Json.utf8Len_literal, utf8Len_spell, stringBytes]

theorem utf8Len_fieldText (name : String) (value r : List Char) :
    utf8Len (Record.fieldText spell name value r)
      = stringBytes name + 1 + utf8Len value + utf8Len r := by
  have hcolon : Char.utf8Size ':' = 1 := by decide
  simp only [Record.fieldText, String.utf8Len_append, String.utf8Len_cons, utf8Len_literal, hcolon]
  omega

theorem utf8ByteSize_encode {x : Record} {snapshot : Option Json} {payload : String}
    (h : (upsert x snapshot).encode = .ok payload) :
    payload.utf8ByteSize = bareBytes x + utf8Len (snapshotChars snapshot) := by
  have hkind : utf8Len "subscription_upsert".toList = 19 := by decide
  have hnames : stringBytes "client_id" = 11 ∧ stringBytes "channel_id" = 12
      ∧ stringBytes "subscriptions" = 15 ∧ stringBytes "auth_ref" = 10
      ∧ stringBytes "updated_by_channel_id" = 23 := by decide
  have hmarks : Char.utf8Size '|' = 1 ∧ Char.utf8Size '{' = 1 ∧ Char.utf8Size '}' = 1
      ∧ Char.utf8Size '[' = 1 ∧ Char.utf8Size ']' = 1 ∧ Char.utf8Size ',' = 1 := by decide
  cases h
  rw [String.utf8ByteSize_ofList, escapeDelimiter_record]
  simp only [kind, delimiter, Record.fieldTexts, utf8Len_fieldText, utf8Len_literal,
    Json.utf8Len_separated, String.utf8Len_append, String.utf8Len_cons, String.utf8Len_nil,
    hkind, hnames, hmarks, bareBytes]
  omega

/-! ## Notifications -/

/-- The payload with the snapshot, unless it is too large. -/
theorem notification_eq (x : Record) (snapshot : Option Json) :
    ∃ full bare, (upsert x snapshot).encode = .ok full ∧ (upsert x none).encode = .ok bare
      ∧ notification x snapshot = .ok (if full.utf8ByteSize ≤ maxNotification then full else bare) := by
  obtain ⟨full, hfull⟩ := encode_upsert x snapshot
  obtain ⟨bare, hbare⟩ := encode_upsert x none
  refine ⟨full, bare, hfull, hbare, ?_⟩
  rw [notification, hfull]
  cases snapshot with
  | none =>
    rw [hfull] at hbare
    cases hbare
    simp
  | some j =>
    simp only [reduceCtorEq, or_false, hbare]
    split <;> rfl

theorem utf8ByteSize_notification {x : Record} {snapshot : Option Json} {payload : String}
    (h : notification x snapshot = .ok payload) :
    payload.utf8ByteSize
      = if bareBytes x + utf8Len (snapshotChars snapshot) ≤ maxNotification
          then bareBytes x + utf8Len (snapshotChars snapshot) else bareBytes x := by
  obtain ⟨full, bare, hfull, hbare, hn⟩ := notification_eq x snapshot
  have hbare := utf8ByteSize_encode hbare
  rw [snapshotChars, String.utf8Len_nil, Nat.add_zero] at hbare
  rw [hn] at h
  cases h
  rw [← utf8ByteSize_encode hfull, ← hbare]
  split <;> rfl

/-- A notification is handed out for every record and snapshot, and it fits exactly if the record
fits without a snapshot. -/
theorem notification_fits_iff (x : Record) (snapshot : Option Json) :
    ∃ payload, notification x snapshot = .ok payload
      ∧ (payload.utf8ByteSize ≤ maxNotification ↔ bareBytes x ≤ maxNotification) := by
  obtain ⟨full, bare, -, -, hn⟩ := notification_eq x snapshot
  have hsize := utf8ByteSize_notification hn
  refine ⟨_, hn, ?_⟩
  rw [hsize]
  split <;> omega

/-- A client with one topic of 7882 letters. -/
def crowded : Record :=
  ⟨"c", "b", TopicSet.empty.insert (String.ofList (List.replicate 7882 't')), "", "b"⟩

theorem bareBytes_crowded : bareBytes crowded = 8000 := by
  have hfixed : stringBytes "c" = 3 ∧ stringBytes "b" = 3 ∧ stringBytes "" = 2
      ∧ spelledBytes 't' = 1 := by decide
  have htopics : crowded.topics.toList = [String.ofList (List.replicate 7882 't')] := rfl
  have htopic : stringBytes (String.ofList (List.replicate 7882 't')) = 7884 := by
    rw [stringBytes, String.toList_ofList, List.map_replicate, List.sum_replicate_nat, hfixed.2.2.2]
  rw [bareBytes, htopics]
  simp only [List.map_cons, List.map_nil, List.sum_cons, List.sum_nil, htopic]
  simp only [crowded, hfixed]
  omega

/-- The payload of this client is one byte too large, without a snapshot and with one. -/
theorem oversized_crowded :
    maxNotification = 7999
      ∧ (∃ payload, notification crowded none = .ok payload ∧ payload.utf8ByteSize = 8000)
      ∧ ∃ payload, notification crowded (some (.obj [])) = .ok payload
        ∧ payload.utf8ByteSize = 8000 := by
  have h : ∀ snapshot, ∃ payload, notification crowded snapshot = .ok payload
      ∧ payload.utf8ByteSize = 8000 := by
    intro snapshot
    obtain ⟨full, bare, -, -, hn⟩ := notification_eq crowded snapshot
    refine ⟨_, hn, ?_⟩
    rw [utf8ByteSize_notification hn, bareBytes_crowded, if_neg]
    rw [maxNotification]
    omega
  exact ⟨rfl, h none, h (some (.obj []))⟩

/-- A notification is read back as the record it was made from, together with the snapshot if both
fit and without it if they do not, and it is never larger than the two. -/
theorem notification_exact (x : Record) (snapshot : Option Json)
    (h : ∀ j ∈ snapshot, j.IsWellFormed ∧ j.IsFloatFree ∧ j.depth ≤ 127) :
    ∃ full payload, (upsert x snapshot).encode = .ok full
      ∧ notification x snapshot = .ok payload
      ∧ (full.utf8ByteSize ≤ maxNotification → decode payload = .ok (upsert x snapshot))
      ∧ (maxNotification < full.utf8ByteSize → decode payload = .ok (upsert x none))
      ∧ payload.utf8ByteSize ≤ full.utf8ByteSize := by
  obtain ⟨full, bare, hfull, hbare, hn⟩ := notification_eq x snapshot
  have hplain : (upsert x snapshot).IsPlain := h
  have hplain' : (upsert x none).IsPlain := by
    intro j hj
    cases hj
  refine ⟨full, _, hfull, hn, ?_, ?_, ?_⟩
  · intro hfits
    rw [if_pos hfits]
    exact decode_of_encode hplain hfull
  · intro hlarge
    rw [if_neg (Nat.not_le.2 hlarge)]
    exact decode_of_encode hplain' hbare
  · rw [utf8ByteSize_notification hn, utf8ByteSize_encode hfull]
    split <;> omega

/-- A small snapshot stays with a record full of escapes; one of 8000 letters is left out. -/
theorem notification_exact_delimited :
    let small := Json.obj [("id", .str "u1")]
    let large := Json.str (String.ofList (List.replicate 8000 'x'))
    (∃ payload, notification delimited (some small) = .ok payload
      ∧ decode payload = .ok (upsert delimited (some small)))
    ∧ ∃ payload, notification delimited (some large) = .ok payload
      ∧ decode payload = .ok (upsert delimited none) := by
  intro small large
  have hbare : bareBytes delimited = 154 := by decide
  have hsmall : ∀ j ∈ some small, j.IsWellFormed ∧ j.IsFloatFree ∧ j.depth ≤ 127 := by
    rintro j ⟨⟩
    exact ⟨⟨List.pairwise_singleton _ _, trivial, trivial⟩, ⟨trivial, trivial⟩, by decide⟩
  have hlarge : ∀ j ∈ some large, j.IsWellFormed ∧ j.IsFloatFree ∧ j.depth ≤ 127 := by
    rintro j ⟨⟩
    exact ⟨trivial, trivial, Nat.zero_le 127⟩
  obtain ⟨full, payload, hfull, hn, hkept, -, -⟩ := notification_exact delimited (some small) hsmall
  obtain ⟨full', payload', hfull', hn', -, hdropped, -⟩ :=
    notification_exact delimited (some large) hlarge
  refine ⟨⟨payload, hn, hkept ?_⟩, payload', hn', hdropped ?_⟩
  · rw [utf8ByteSize_encode hfull, hbare]
    decide
  · have hletter : utf8Len (Json.escapeChar 'x') = 1 := by decide
    rw [utf8ByteSize_encode hfull', snapshotChars, Json.chars, Json.stringChars_eq_literal,
      Json.utf8Len_literal, String.toList_ofList, List.map_replicate, List.sum_replicate_nat,
      hletter, maxNotification]
    omega

end Announcement

end TopicMesh
