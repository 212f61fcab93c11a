import TopicMesh.Proofs.Announcement.RoundTrip
import TopicMesh.Proofs.Json.Depth

/-!
# TopicMesh.Proofs.Announcement.Domain

Which announcements can be written, and which of these are read back (`decode_encode_iff`). Both limits
are on single fields: an id that ends a payload must be free of the delimiter and not empty, and a
snapshot must keep within the reader's bound on nesting. Beyond them a payload is refused; it is never
read as something else.
-/

namespace TopicMesh

namespace Announcement

/-- The snapshot is a JSON value without floating-point numbers, if there is one. -/
def IsFloatFree : Announcement → Prop
  | .upsert _ snapshot => ∀ j ∈ snapshot, j.IsWellFormed ∧ j.IsFloatFree
  | .delete _ | .offline _ | .collectionsUpdated | .settingsUpdated => True

/-- The id that ends the payload has the delimiter in it. -/
def HasSplitId : Announcement → Prop
  | .delete id | .offline id => delimiter ∈ id.toList
  | .upsert _ _ | .collectionsUpdated | .settingsUpdated => False

/-- The id that ends the payload is not empty; the snapshot is nested at most 127 levels deep. -/
def IsReadable : Announcement → Prop
  | .upsert _ snapshot => ∀ j ∈ snapshot, j.depth ≤ 127
  | .delete id | .offline id => id ≠ ""
  | .collectionsUpdated | .settingsUpdated => True

variable {a : Announcement} {payload : String}

theorem IsFloatFree.isPlain (h : a.IsFloatFree) (hr : a.IsReadable) : a.IsPlain := by
  cases a with
  | upsert x snapshot =>
    intro j hj
    obtain ⟨hw, hf⟩ := h j hj
    exact ⟨hw, hf, hr j hj⟩
  | delete id => exact hr
  | offline channel => exact hr
  | collectionsUpdated => trivial
  | settingsUpdated => trivial

/-! ## Writing -/

theorem plainField_of_mem {value : String} (h : delimiter ∈ value.toList) (name : String) :
    plainField name value = .error (.malformed (.delimiterInField name value)) := by
  rw [plainField, if_pos h]

theorem plainField_of_not_mem {value : String} (h : delimiter ∉ value.toList) (name : String) :
    plainField name value = .ok value.toList := by
  rw [plainField, if_neg h]

theorem HasSplitId.encode_eq (h : a.HasSplitId) :
    ∃ reason, a.encode = .error (.malformed reason) := by
  cases a with
  | delete id => exact ⟨_, by rw [encode, body, plainField_of_mem h]⟩
  | offline channel => exact ⟨_, by rw [encode, body, plainField_of_mem h]⟩
  | _ => exact h.elim

theorem exists_encode_eq (h : ¬a.HasSplitId) : ∃ payload, a.encode = .ok payload := by
  cases a with
  | delete id => exact ⟨_, by rw [encode, body, plainField_of_not_mem h]⟩
  | offline channel => exact ⟨_, by rw [encode, body, plainField_of_not_mem h]⟩
  | _ => exact ⟨_, rfl⟩

/-! ## Reading -/

theorem decode_upsert_of_deep {x : Record} {j : Json} (hw : j.IsWellFormed) (hf : j.IsFloatFree)
    (hd : Json.maxDepth < j.depth) (h : (upsert x (some j)).encode = .ok payload) :
    ∃ reason, decode payload = .error (.malformed reason) := by
  obtain ⟨e, he⟩ := Json.document_of_deep hw hf hd
  obtain ⟨c, t, hc, -, -⟩ := Json.startsItem_chars hf
  have hne : j.chars ≠ [] := by simp [hc]
  exact ⟨_, decode_of_unreadable hne he h⟩

/-- What cannot be read back is refused. -/
theorem IsFloatFree.decode_eq (ha : a.IsFloatFree) (hr : ¬a.IsReadable)
    (h : a.encode = .ok payload) : ∃ reason, decode payload = .error (.malformed reason) := by
  cases a with
  | upsert x snapshot =>
    simp only [IsReadable, Classical.not_forall, Nat.not_le] at hr
    obtain ⟨j, hj, hd⟩ := hr
    obtain ⟨hw, hf⟩ := ha j hj
    rw [Option.mem_def.1 hj] at h
    exact decode_upsert_of_deep hw hf hd h
  | delete id =>
    obtain rfl : id = "" := Decidable.not_not.1 hr
    cases h
    exact ⟨_, by rw [decode, cut_encode]; rfl⟩
  | offline channel =>
    obtain rfl : channel = "" := Decidable.not_not.1 hr
    cases h
    exact ⟨_, by rw [decode, cut_encode]; rfl⟩
  | collectionsUpdated => exact absurd trivial hr
  | settingsUpdated => exact absurd trivial hr

/-- An announcement cannot be written exactly if an id in it would be split; what is written is read
back exactly within the limits of the reader, and refused beyond them. -/
theorem decode_encode_iff (ha : a.IsFloatFree) :
    (a.HasSplitId → ∃ reason, a.encode = .error (.malformed reason))
    ∧ (¬a.HasSplitId → ∃ payload, a.encode = .ok payload
      ∧ (decode payload = .ok a ↔ a.IsReadable)
      ∧ (¬a.IsReadable → ∃ reason, decode payload = .error (.malformed reason))) := by
  refine ⟨HasSplitId.encode_eq, ?_⟩
  intro hs
  obtain ⟨payload, h⟩ := exists_encode_eq hs
  refine ⟨payload, h, ⟨?_, ?_⟩, fun hr => ha.decode_eq hr h⟩
  · intro hd
    by_cases hr : a.IsReadable
    · exact hr
    · obtain ⟨reason, he⟩ := ha.decode_eq hr h
      rw [he] at hd
      cases hd
  · intro hr
    exact decode_of_encode (ha.isPlain hr) h

/-- A record with delimiters, quotes and controls in its fields. -/
def delimited : Record := ⟨"c|", "\"|\\", TopicSet.empty.insert "\n|", "|", "\\|"⟩

/-- A snapshot that is there and null is not taken for none. -/
theorem decode_encode_iff_null :
    (∃ payload, (upsert delimited (some .null)).encode = .ok payload
      ∧ decode payload = .ok (upsert delimited (some .null)))
    ∧ (∃ payload reason, (delete "").encode = .ok payload
      ∧ decode payload = .error (.malformed reason))
    ∧ ∃ reason, (offline "a|b").encode = .error (.malformed reason) := by
  have hfree : (upsert delimited (some .null)).IsFloatFree := by
    intro j hj
    cases hj
    exact ⟨trivial, trivial⟩
  have hreadable : (upsert delimited (some .null)).IsReadable := by
    intro j hj
    cases hj
    exact Nat.zero_le 127
  have hsplit : (offline "a|b").HasSplitId := by
    rw [HasSplitId]
    decide
  obtain ⟨payload, he, hiff, -⟩ := (decode_encode_iff hfree).2 id
  obtain ⟨empty, hempty, -, hrefused⟩ := (decode_encode_iff (a := delete "") trivial).2 List.not_mem_nil
  obtain ⟨reason, hreason⟩ := hrefused fun h => h rfl
  exact ⟨⟨payload, he, hiff.2 hreadable⟩, ⟨empty, reason, hempty, hreason⟩,
    (decode_encode_iff (a := offline "a|b") trivial).1 hsplit⟩

end Announcement

end TopicMesh
