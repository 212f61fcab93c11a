import TopicMesh.Proofs.Announcement.Domain
import TopicMesh.Proofs.Record.Spelling

/-!
# TopicMesh.Proofs.Announcement.Acceptance

What a payload of the control channel is read as can be told by looking at it.

* `Announcement.IsSpelling`     — the payloads of an announcement, in whatever way they are spelled.
* `decode_eq_ok_iff`            — these are the payloads that are read as the announcement.
* `decode_eq_unknown_iff`       — a kind that is not known is told from everything else that is refused.
* `decode_of_nested`            — a snapshot is refused that is nested deeper than the reader goes.
-/

namespace TopicMesh

namespace Announcement

variable {payload : String} {a : Announcement}

/-- The kind before the first delimiter of a payload, and the body after it. -/
def HasParts (payload kind : String) (body : List Char) : Prop :=
  delimiter ∉ kind.toList ∧ payload.toList = kind.toList ++ delimiter :: body

/-- The kinds that there are. -/
def kinds : List String :=
  ["subscription_upsert", "subscription_delete", "subscription_channel_offline", "collection_updated",
    "settings_updated"]

/-- The text of a snapshot in some spelling; the text is empty if there is none. -/
def IsSnapshot (s : List Char) : Option Json → Prop
  | none => s = []
  | some j => ∃ x, Json.IsDocument Json.maxDepth s x ∧ x.value? = some j

/-- The body of an announcement in some spelling. -/
def IsBody (body : List Char) : Announcement → Prop
  | .upsert record snapshot =>
    ∃ s t, delimiter ∉ s ∧ body = s ++ delimiter :: t ∧ Record.IsDocument s record ∧ IsSnapshot t snapshot
  | .delete id | .offline id => body = id.toList ∧ body ≠ [] ∧ delimiter ∉ body
  | .collectionsUpdated | .settingsUpdated => True

/-- The payload of an announcement in some spelling. -/
def IsSpelling (payload : String) (a : Announcement) : Prop :=
  ∃ body, HasParts payload a.kind body ∧ a.IsBody body

theorem hasParts_iff {kind : String} {body : List Char} :
    HasParts payload kind body ↔ Text.cut delimiter payload.toList = some (kind.toList, body) :=
  Text.cut_eq_some_iff.symm

/-! ## Bodies -/

theorem wholeField_eq_ok_iff {name value : String} {body : List Char} :
    wholeField name body = .ok value ↔ body = value.toList ∧ body ≠ [] ∧ delimiter ∉ body := by
  rw [wholeField]
  split
  · rename_i h
    refine Json.error_iff ?_
    rintro ⟨-, hne, hd⟩
    exact h.elim hne hd
  · rename_i h
    obtain ⟨hne, hd⟩ := not_or.1 h
    constructor
    · rintro ⟨⟩
      exact ⟨String.toList_ofList.symm, hne, hd⟩
    · rintro ⟨rfl, -, -⟩
      rw [String.ofList_toList]

theorem isSnapshot_some_iff {s : List Char} {j : Json} :
    IsSnapshot s (some j) ↔ Json.document (Json.value Json.maxDepth) s = .ok j :=
  Json.document_value_iff.symm

theorem not_isSnapshot_nil (j : Json) : ¬IsSnapshot [] (some j) := by
  rintro ⟨x, ⟨r, hx, -⟩, -⟩
  exact Json.not_value_of_nil rfl hx

/-- The rest of the body of an upsert after its record. -/
def withSnapshot (record : Record) (s : List Char) : Except ProtocolError Announcement :=
  if s = [] then .ok (.upsert record none)
  else
    match Json.document (Json.value Json.maxDepth) s with
    | .error e => .error (.malformed (.unreadableSnapshot e))
    | .ok j => .ok (.upsert record (some j))

theorem withSnapshot_eq_ok_iff {record : Record} {s : List Char} :
    withSnapshot record s = .ok a ↔ ∃ snapshot, IsSnapshot s snapshot ∧ upsert record snapshot = a := by
  rw [withSnapshot]
  split
  · rename_i hs
    subst hs
    constructor
    · rintro ⟨⟩
      exact ⟨none, rfl, rfl⟩
    · rintro ⟨_ | j, hsnapshot, rfl⟩
      · rfl
      · exact absurd hsnapshot (not_isSnapshot_nil j)
  · rename_i hs
    rcases hj : Json.document (Json.value Json.maxDepth) s with e | j
    · refine Json.error_iff ?_
      rintro ⟨_ | j, hsnapshot, rfl⟩
      · exact hs hsnapshot
      · cases hj.symm.trans (isSnapshot_some_iff.1 hsnapshot)
    · constructor
      · rintro ⟨⟩
        exact ⟨some j, isSnapshot_some_iff.2 hj, rfl⟩
      · rintro ⟨_ | j', hsnapshot, rfl⟩
        · exact absurd hsnapshot hs
        · cases hj.symm.trans (isSnapshot_some_iff.1 hsnapshot)
          rfl

theorem decodeUpsert_of_record {record : Record} {s : List Char} (hs : delimiter ∉ s)
    (hr : Json.document Record.reader s = .ok record) (t : List Char) :
    decodeUpsert (s ++ delimiter :: t) = withSnapshot record t := by
  rw [decodeUpsert, Text.cut_append_cons t hs]
  simp only [hr]
  rfl

theorem decodeUpsert_eq_ok_iff {body : List Char} : decodeUpsert body = .ok a
    ↔ ∃ record snapshot, (upsert record snapshot).IsBody body ∧ upsert record snapshot = a := by
  constructor
  · intro h
    rcases hc : Text.cut delimiter body with _ | ⟨s, t⟩
    · rw [decodeUpsert, hc] at h
      cases h
    · obtain ⟨hs, rfl⟩ := Text.cut_eq_some_iff.1 hc
      rcases hr : Json.document Record.reader s with e | record
      · rw [decodeUpsert, hc] at h
        simp only [hr] at h
        cases h
      · rw [decodeUpsert_of_record hs hr] at h
        obtain ⟨snapshot, hsnapshot, ha⟩ := withSnapshot_eq_ok_iff.1 h
        exact ⟨record, snapshot, ⟨s, t, hs, rfl, Record.document_iff.1 hr, hsnapshot⟩, ha⟩
  · rintro ⟨record, snapshot, ⟨s, t, hs, rfl, hrecord, hsnapshot⟩, ha⟩
    rw [decodeUpsert_of_record hs (Record.document_iff.2 hrecord)]
    exact withSnapshot_eq_ok_iff.2 ⟨snapshot, hsnapshot, ha⟩

theorem decodeUpsert_error {body : List Char} {e : ProtocolError} (h : decodeUpsert body = .error e) :
    ∃ reason, e = .malformed reason := by
  rw [decodeUpsert] at h
  split at h
  · cases h
    exact ⟨_, rfl⟩
  · split at h
    · cases h
      exact ⟨_, rfl⟩
    · split at h
      · cases h
      · split at h
        · cases h
          exact ⟨_, rfl⟩
        · cases h

theorem wholeField_error {name : String} {body : List Char} {e : ProtocolError}
    (h : wholeField name body = .error e) : ∃ reason, e = .malformed reason := by
  rw [wholeField] at h
  split at h
  · cases h
    exact ⟨_, rfl⟩
  · cases h

/-! ## Payloads -/

theorem HasParts.unique {kind kind' : String} {body body' : List Char} (h : HasParts payload kind body)
    (h' : HasParts payload kind' body') : kind = kind' ∧ body = body' := by
  have hcut := (hasParts_iff.1 h).symm.trans (hasParts_iff.1 h')
  rw [Option.some.injEq, Prod.mk.injEq] at hcut
  exact ⟨String.toList_inj.1 hcut.1, hcut.2⟩

theorem isSpelling_iff {kind : String} {body : List Char} (h : HasParts payload kind body) :
    IsSpelling payload a ↔ a.kind = kind ∧ a.IsBody body := by
  constructor
  · rintro ⟨body', hparts, hbody⟩
    obtain ⟨hkind, rfl⟩ := hparts.unique h
    exact ⟨hkind, hbody⟩
  · rintro ⟨rfl, hbody⟩
    exact ⟨body, h, hbody⟩

theorem exists_hasParts (h : delimiter ∈ payload.toList) : ∃ kind body, HasParts payload kind body := by
  rcases hc : Text.cut delimiter payload.toList with _ | ⟨kind, body⟩
  · exact absurd h (Text.cut_eq_none_iff.1 hc)
  · exact ⟨String.ofList kind, body, hasParts_iff.2 (by rw [hc, String.toList_ofList])⟩

theorem hasParts_ofList {kind : String} (h : delimiter ∉ kind.toList) (body : List Char) :
    HasParts (String.ofList (kind.toList ++ delimiter :: body)) kind body :=
  ⟨h, String.toList_ofList⟩

theorem HasParts.mem {kind : String} {body : List Char} (h : HasParts payload kind body) :
    delimiter ∈ payload.toList := by
  simp [h.2]

theorem decode_of_not_mem (h : delimiter ∉ payload.toList) :
    decode payload = .error (.malformed (.missingKind payload)) := by
  rw [decode, Text.cut_eq_none_iff.2 h]

/-- What the body is read as, under a kind. -/
def decodeBody (kind : String) (body : List Char) : Except ProtocolError Announcement :=
  if kind = "subscription_upsert" then decodeUpsert body
  else if kind = "subscription_delete" then (wholeField "client_id" body).map .delete
  else if kind = "subscription_channel_offline" then (wholeField "channel_id" body).map .offline
  else if kind = "collection_updated" then .ok .collectionsUpdated
  else if kind = "settings_updated" then .ok .settingsUpdated
  else .error (.unknownEventType kind)

theorem HasParts.decode_eq {kind : String} {body : List Char} (h : HasParts payload kind body) :
    decode payload = decodeBody kind body := by
  rw [decode, hasParts_iff.1 h, decodeBody]
  simp only [String.ofList_toList]
  cases wholeField "client_id" body <;> cases wholeField "channel_id" body <;> rfl

theorem field_eq_ok_iff {name : String} {f : String → Announcement} {body : List Char} :
    (wholeField name body).map f = .ok a
      ↔ ∃ value, (body = value.toList ∧ body ≠ [] ∧ delimiter ∉ body) ∧ f value = a := by
  have h (value : String) : wholeField name body = .ok value
      ↔ body = value.toList ∧ body ≠ [] ∧ delimiter ∉ body := wholeField_eq_ok_iff
  simp only [← h]
  cases wholeField name body <;> simp [Except.map]

theorem decodeBody_eq_ok_iff {kind : String} {body : List Char} :
    decodeBody kind body = .ok a ↔ a.kind = kind ∧ a.IsBody body := by
  constructor
  · intro h
    rw [decodeBody] at h
    split at h
    · rename_i hkind
      obtain ⟨record, snapshot, hbody, rfl⟩ := decodeUpsert_eq_ok_iff.1 h
      exact ⟨hkind.symm, hbody⟩
    split at h
    · rename_i hkind
      obtain ⟨id, hbody, rfl⟩ := field_eq_ok_iff.1 h
      exact ⟨hkind.symm, hbody⟩
    split at h
    · rename_i hkind
      obtain ⟨channel, hbody, rfl⟩ := field_eq_ok_iff.1 h
      exact ⟨hkind.symm, hbody⟩
    split at h
    · rename_i hkind
      cases h
      exact ⟨hkind.symm, trivial⟩
    split at h
    · rename_i hkind
      cases h
      exact ⟨hkind.symm, trivial⟩
    · cases h
  · rintro ⟨rfl, hbody⟩
    cases a with
    | upsert record snapshot =>
      rw [decodeBody, kind, if_pos rfl]
      exact decodeUpsert_eq_ok_iff.2 ⟨record, snapshot, hbody, rfl⟩
    | delete id =>
      rw [decodeBody, kind, if_neg (by decide), if_pos rfl]
      exact field_eq_ok_iff.2 ⟨id, hbody, rfl⟩
    | offline channel =>
      rw [decodeBody, kind, if_neg (by decide), if_neg (by decide), if_pos rfl]
      exact field_eq_ok_iff.2 ⟨channel, hbody, rfl⟩
    | collectionsUpdated => rfl
    | settingsUpdated => rfl

theorem decodeBody_of_unknown {kind : String} (h : kind ∉ kinds) (body : List Char) :
    decodeBody kind body = .error (.unknownEventType kind) := by
  simp only [kinds, List.mem_cons, List.not_mem_nil, or_false, not_or] at h
  obtain ⟨hupsert, hdelete, hoffline, hcollections, hsettings⟩ := h
  rw [decodeBody, if_neg hupsert, if_neg hdelete, if_neg hoffline, if_neg hcollections, if_neg hsettings]

theorem decodeBody_error {kind : String} {body : List Char} {e : ProtocolError} (hkind : kind ∈ kinds)
    (h : decodeBody kind body = .error e) : ∃ reason, e = .malformed reason := by
  have hfield {name : String} {f : String → Announcement}
      (h : (wholeField name body).map f = .error e) : ∃ reason, e = .malformed reason := by
    rcases hf : wholeField name body with e' | value
    · rw [hf] at h
      cases h
      exact wholeField_error hf
    · rw [hf] at h
      cases h
  simp only [kinds, List.mem_cons, List.not_mem_nil, or_false] at hkind
  rcases hkind with rfl | rfl | rfl | rfl | rfl
  · exact decodeUpsert_error h
  · exact hfield h
  · exact hfield h
  · cases h
  · cases h

/-- A payload is read as an announcement exactly if it is a spelling of it. -/
theorem decode_eq_ok_iff : decode payload = .ok a ↔ IsSpelling payload a := by
  by_cases hm : delimiter ∈ payload.toList
  · obtain ⟨kind, body, hparts⟩ := exists_hasParts hm
    rw [hparts.decode_eq, decodeBody_eq_ok_iff, isSpelling_iff hparts]
  · rw [decode_of_not_mem hm]
    refine Json.error_iff ?_
    rintro ⟨_, hparts, _⟩
    exact hm hparts.mem

/-- What is refused is of a kind that is not known, or it is malformed. -/
theorem decode_error {e : ProtocolError} (h : decode payload = .error e) :
    (∃ kind body, HasParts payload kind body ∧ kind ∉ kinds ∧ e = .unknownEventType kind)
    ∨ ∃ reason, e = .malformed reason := by
  by_cases hm : delimiter ∈ payload.toList
  · obtain ⟨kind, body, hparts⟩ := exists_hasParts hm
    rw [hparts.decode_eq] at h
    by_cases hkind : kind ∈ kinds
    · exact .inr (decodeBody_error hkind h)
    · rw [decodeBody_of_unknown hkind] at h
      cases h
      exact .inl ⟨kind, body, hparts, hkind, rfl⟩
  · rw [decode_of_not_mem hm] at h
    cases h
    exact .inr ⟨_, rfl⟩

theorem decode_eq_unknown_iff {kind : String} : decode payload = .error (.unknownEventType kind)
    ↔ kind ∉ kinds ∧ ∃ body, HasParts payload kind body := by
  constructor
  · intro h
    rcases decode_error h with ⟨_, body, hparts, hkind, ⟨⟩⟩ | ⟨_, ⟨⟩⟩
    exact ⟨hkind, body, hparts⟩
  · rintro ⟨hkind, body, hparts⟩
    rw [hparts.decode_eq, decodeBody_of_unknown hkind]

/-! ## Snapshots that are nested too deep -/

/-- A record without topics, and a snapshot of 128 brackets around nothing. -/
def nestedPayload : String :=
  String.ofList ("subscription_upsert".toList
    ++ delimiter :: (escapeDelimiter (Record.chars ⟨"c", "a", .empty, "", ""⟩)
    ++ delimiter :: (List.replicate 128 '[' ++ List.replicate 128 ']')))

/-- A snapshot can be a document and be refused all the same. -/
theorem decode_of_nested :
    (∃ s t, HasParts nestedPayload "subscription_upsert" (s ++ delimiter :: t)
      ∧ delimiter ∉ s ∧ (∃ record, Record.IsDocument s record)
      ∧ ∃ d x, Json.IsDocument d t x ∧ x.value? = some (Json.nested 127))
    ∧ ∃ reason, decode nestedPayload = .error (.malformed reason) := by
  have hs := not_mem_escapeDelimiter (Record.chars ⟨"c", "a", .empty, "", ""⟩)
  have hr := document_record ⟨"c", "a", .empty, "", ""⟩
  have hchars : (Json.nested 127).chars = List.replicate 128 '[' ++ List.replicate 128 ']' :=
    Json.chars_nested 127
  have hparts : HasParts nestedPayload "subscription_upsert"
      (escapeDelimiter (Record.chars ⟨"c", "a", .empty, "", ""⟩)
        ++ delimiter :: (List.replicate 128 '[' ++ List.replicate 128 ']')) :=
    hasParts_ofList (by decide) _
  rw [← hchars] at hparts
  obtain ⟨x, hx⟩ := Json.document_value_iff.1 (Json.document_value (Json.isWellFormed_nested 127)
    (Json.isFloatFree_nested 127) (Nat.le_of_eq (Json.depth_nested 127)))
  refine ⟨⟨_, _, hparts, hs, ⟨_, Record.document_iff.1 hr⟩, _, x, hx⟩, ?_⟩
  obtain ⟨e, he⟩ := Json.document_of_deep (d := Json.maxDepth) (Json.isWellFormed_nested 127)
    (Json.isFloatFree_nested 127) (by rw [Json.depth_nested]; decide)
  have hne : (Json.nested 127).chars ≠ [] := by simp [Json.chars_nested]
  refine ⟨.unreadableSnapshot e, ?_⟩
  rw [hparts.decode_eq, decodeBody, if_pos rfl, decodeUpsert_of_record hs hr, withSnapshot, if_neg hne, he]

end Announcement

end TopicMesh
