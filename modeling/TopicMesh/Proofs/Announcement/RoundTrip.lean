import TopicMesh.Proofs.Json.RoundTrip
import TopicMesh.Proofs.Record

/-!
# TopicMesh.Proofs.Announcement.RoundTrip

Announcements are read back from their payloads (`decode_of_encode`). The delimiter inside a record
is escaped without looking at the text around it; what makes this sound is that the escaped text is
the same record in another spelling of its strings (`escapeDelimiter_record`).
-/

namespace TopicMesh

open Json (Spells literal separated)

namespace Announcement

/-- How a character of a string stands in a record inside a payload. -/
def spell (c : Char) : List Char := escapeDelimiter (Json.escapeChar c)

theorem escapeDelimiter_append (s t : List Char) :
    escapeDelimiter (s ++ t) = escapeDelimiter s ++ escapeDelimiter t := by
  simp [escapeDelimiter]

theorem escapeDelimiter_cons {c : Char} (h : c ≠ delimiter) (s : List Char) :
    escapeDelimiter (c :: s) = c :: escapeDelimiter s := by
  simp [escapeDelimiter, h]

theorem escapeDelimiter_eq_self {s : List Char} (h : delimiter ∉ s) : escapeDelimiter s = s := by
  induction s with
  | nil => rfl
  | cons c s ih =>
    have hc : c ≠ delimiter := fun e => h (by simp [e])
    rw [escapeDelimiter_cons hc, ih fun hm => h (List.mem_cons_of_mem c hm)]

theorem not_mem_escapeDelimiter (s : List Char) : delimiter ∉ escapeDelimiter s := by
  simp only [escapeDelimiter, List.mem_flatMap, not_exists, not_and]
  intro c _
  split
  · decide
  · rename_i h
    simpa using Ne.symm h

theorem delimiter_ne_hexDigit (n : Nat) : delimiter ≠ Json.hexDigit n := by
  have h : ∀ k < 16, delimiter ≠ Nat.digitChar k := by decide
  exact h _ (Nat.mod_lt _ (by decide))

theorem escapeChar_of_ne {c : Char} (h : c ≠ delimiter) : delimiter ∉ Json.escapeChar c := by
  have h₁ := delimiter_ne_hexDigit (c.toNat / 16)
  have h₂ := delimiter_ne_hexDigit c.toNat
  have h₃ : delimiter ≠ '\\' ∧ delimiter ≠ 'u' ∧ delimiter ≠ '0' := by decide
  unfold Json.escapeChar
  iterate 7
    split
    · decide
  split
  · simp [h₁, h₂, h₃]
  · simpa using Ne.symm h

theorem spells_spell (c : Char) : Spells (spell c) c := by
  by_cases h : c = delimiter
  · subst h
    exact Json.spells_delimiterEscape
  · rw [spell, escapeDelimiter_eq_self (escapeChar_of_ne h)]
    exact Json.spells_escapeChar c

theorem escapeDelimiter_literal (s : List Char) :
    escapeDelimiter (literal Json.escapeChar s) = literal spell s := by
  have hs : escapeDelimiter (s.flatMap Json.escapeChar) = s.flatMap spell := by
    induction s with
    | nil => rfl
    | cons c s ih => rw [List.flatMap_cons, escapeDelimiter_append, ih, List.flatMap_cons, spell]
  rw [literal, escapeDelimiter_append, escapeDelimiter_cons (by decide), hs]
  rfl

theorem escapeDelimiter_separated {α : Type} (g : α → List Char) (l : List α) :
    escapeDelimiter (separated g l) = separated (fun a => escapeDelimiter (g a)) l := by
  cases l with
  | nil => rfl
  | cons a l =>
    have hl : escapeDelimiter (l.flatMap fun b => ',' :: g b)
        = l.flatMap fun b => ',' :: escapeDelimiter (g b) := by
      induction l with
      | nil => rfl
      | cons b l ih =>
        rw [List.flatMap_cons, escapeDelimiter_append, escapeDelimiter_cons (by decide), ih,
          List.flatMap_cons]
    rw [separated, escapeDelimiter_append, hl, separated]

theorem escapeDelimiter_fieldTexts (x : Record) (r : List Char) :
    escapeDelimiter (x.fieldTexts Json.escapeChar r) = x.fieldTexts spell (escapeDelimiter r) := by
  have hc : ∀ s, escapeDelimiter (':' :: s) = ':' :: escapeDelimiter s :=
    escapeDelimiter_cons (by decide)
  have hk : ∀ s, escapeDelimiter (',' :: s) = ',' :: escapeDelimiter s :=
    escapeDelimiter_cons (by decide)
  have hb : ∀ s, escapeDelimiter ('[' :: s) = '[' :: escapeDelimiter s :=
    escapeDelimiter_cons (by decide)
  have he : ∀ s, escapeDelimiter (']' :: s) = ']' :: escapeDelimiter s :=
    escapeDelimiter_cons (by decide)
  have ho : ∀ s, escapeDelimiter ('}' :: s) = '}' :: escapeDelimiter s :=
    escapeDelimiter_cons (by decide)
  have hn : escapeDelimiter [] = [] := rfl
  simp only [Record.fieldTexts, Record.fieldText, escapeDelimiter_append, escapeDelimiter_literal,
    escapeDelimiter_separated, hc, hk, hb, he, ho, hn]

/-- The escaped text of a record is the record in another spelling. -/
theorem escapeDelimiter_record (x : Record) :
    escapeDelimiter x.chars = '{' :: x.fieldTexts spell [] := by
  rw [Record.chars_eq, escapeDelimiter_cons (by decide), escapeDelimiter_fieldTexts]
  rfl

theorem document_record (x : Record) :
    Json.document Record.reader (escapeDelimiter x.chars) = .ok x := by
  rw [escapeDelimiter_record]
  simp [Json.document, Record.reader_fieldTexts spells_spell, Json.finish, Json.skipBlank]

/-- A snapshot that every reader has room for, without floating-point numbers. -/
def IsPlainSnapshot (j : Json) : Prop :=
  j.IsWellFormed ∧ j.IsFloatFree ∧ j.depth ≤ Json.maxDepth

/-- An announcement that is read back as it was written, if it can be written. -/
def IsPlain : Announcement → Prop
  | .upsert _ snapshot => ∀ j ∈ snapshot, IsPlainSnapshot j
  | .delete clientId => clientId ≠ ""
  | .offline channel => channel ≠ ""
  | .collectionsUpdated | .settingsUpdated => True

theorem delimiter_not_mem_kind (a : Announcement) : delimiter ∉ a.kind.toList := by
  cases a <;> simp [kind] <;> decide

theorem decodeUpsert_body (x : Record) {snapshot : Option Json}
    (h : ∀ j ∈ snapshot, IsPlainSnapshot j) :
    decodeUpsert (escapeDelimiter x.chars ++ delimiter :: snapshotChars snapshot)
      = .ok (.upsert x snapshot) := by
  rw [decodeUpsert, Text.cut_append_cons _ (not_mem_escapeDelimiter x.chars)]
  simp only [document_record]
  cases snapshot with
  | none => simp [snapshotChars]
  | some j =>
    obtain ⟨hw, hf, hd⟩ := h j rfl
    obtain ⟨c, t, hc, -, -⟩ := Json.startsItem_chars hf
    have hne : j.chars ≠ [] := by simp [hc]
    simp [snapshotChars, hne, Json.document_value hw hf hd]

theorem wholeField_plainField {name value : String} {body : List Char}
    (h : plainField name value = .ok body) (hne : value ≠ "") : wholeField name body = .ok value := by
  rw [plainField] at h
  split at h
  · cases h
  · rename_i hd
    cases h
    have hl : value.toList ≠ [] := by simpa using hne
    simp [wholeField, hl, hd]

theorem encode_upsert (x : Record) (snapshot : Option Json) :
    ∃ text, (upsert x snapshot).encode = .ok text := ⟨_, rfl⟩

theorem cut_encode (a : Announcement) (b : List Char) :
    Text.cut delimiter (String.ofList (a.kind.toList ++ delimiter :: b)).toList
      = some (a.kind.toList, b) := by
  rw [String.toList_ofList, Text.cut_append_cons b (delimiter_not_mem_kind a)]

/-- What is written is read back. -/
theorem decode_of_encode {a : Announcement} (ha : a.IsPlain) {payload : String}
    (h : a.encode = .ok payload) : decode payload = .ok a := by
  rw [encode] at h
  split at h
  · cases h
  · rename_i b hb
    cases h
    rw [decode]
    simp only [cut_encode, String.ofList_toList]
    cases a with
    | upsert x snapshot =>
      cases hb
      simpa [kind] using decodeUpsert_body x ha
    | delete clientId => simp [kind, wholeField_plainField hb ha]
    | offline channel => simp [kind, wholeField_plainField hb ha]
    | collectionsUpdated => simp [kind]
    | settingsUpdated => simp [kind]

/-- What follows the record is refused where the snapshot is. -/
theorem decode_of_unreadable {x : Record} {j : Json} {e : Json.Refusal} (hj : j.chars ≠ [])
    (h : Json.document (Json.value Json.maxDepth) j.chars = .error e) {payload : String}
    (hp : (upsert x (some j)).encode = .ok payload) :
    decode payload = .error (.malformed (.unreadableSnapshot e)) := by
  have hbody : decodeUpsert (escapeDelimiter x.chars ++ delimiter :: j.chars)
      = .error (.malformed (.unreadableSnapshot e)) := by
    rw [decodeUpsert, Text.cut_append_cons _ (not_mem_escapeDelimiter x.chars)]
    simp only [document_record, if_neg hj, h]
  cases hp
  rw [decode]
  simp only [cut_encode, String.ofList_toList, snapshotChars]
  simpa [kind] using hbody

end Announcement

end TopicMesh
