import TopicMesh.Relay

/-!
# TopicMesh.Proofs.Relay

Relays are read back from their payloads (`decode_text`), and what a payload is read as can be told by
looking at it (`decode_cases`); writing and reading are inverse to each other (`codec_bijective`).

* `Relay.Reads`        — the three fields of a payload.
* `Relay.IsIncomplete` — a payload that has not got them.
-/

namespace TopicMesh.Relay

/-- The payload of a relay that can be encoded. -/
def text (r : Relay) : String :=
  String.ofList (r.clientId.toList ++ delimiter :: r.message.name.toList
    ++ delimiter :: r.message.data.toList)

theorem encode_eq_ok {r : Relay} (hc : delimiter ∉ r.clientId.toList)
    (hn : delimiter ∉ r.message.name.toList) : r.encode = .ok r.text := by
  rw [encode, if_neg hc, if_neg hn]
  rfl

/-- Neither the client nor the name has a delimiter in it. -/
def IsPlain (r : Relay) : Prop :=
  delimiter ∉ r.clientId.toList ∧ delimiter ∉ r.message.name.toList

instance (r : Relay) : Decidable r.IsPlain := inferInstanceAs (Decidable (_ ∧ _))

theorem encode_of_not_isPlain {r : Relay} (h : ¬r.IsPlain) : ∃ e, r.encode = .error e := by
  rw [encode]
  split
  · exact ⟨_, rfl⟩
  · rename_i hc
    split
    · exact ⟨_, rfl⟩
    · rename_i hn
      exact absurd ⟨hc, hn⟩ h

theorem text_inj {id id' : String} {m : Message} (h : (Relay.mk id m).text = (Relay.mk id' m).text) :
    id = id' := by
  have hl := congrArg String.toList h
  simp only [text, String.toList_ofList, List.append_assoc] at hl
  exact String.toList_inj.1 (List.append_cancel_right hl)

theorem decode_text {r : Relay} (hid : r.clientId ≠ "") (hc : delimiter ∉ r.clientId.toList)
    (hn : delimiter ∉ r.message.name.toList) : decode r.text = .ok r := by
  have hne : r.clientId.toList ≠ [] := by simpa using hid
  rw [decode, text, String.toList_ofList, List.append_assoc, List.cons_append]
  simp only [Text.cut_append_cons _ hc, Text.cut_append_cons _ hn, if_neg hne, String.ofList_toList]

/-- The payload is made of a client that is not empty, a name, and all the rest as the data. -/
structure Reads (payload : String) (r : Relay) : Prop where
  eq_text : payload = r.text
  clientId_ne : r.clientId ≠ ""
  plainId : delimiter ∉ r.clientId.toList
  plainName : delimiter ∉ r.message.name.toList

/-- There are fewer than two delimiters, or nothing stands before the first one. -/
def IsIncomplete (payload : String) : Prop :=
  payload.toList.count delimiter < 2 ∨ payload.toList.head? = some delimiter

theorem Reads.decode_eq {payload : String} {r : Relay} (h : Reads payload r) :
    decode payload = .ok r := by
  rw [h.eq_text]
  exact decode_text h.clientId_ne h.plainId h.plainName

theorem decode_cases (payload : String) :
    (∃ r, decode payload = .ok r ∧ Reads payload r ∧ ¬IsIncomplete payload)
    ∨ (decode payload = .error (.malformed (.incompleteRelay payload)) ∧ IsIncomplete payload) := by
  unfold decode
  split
  · rename_i h
    refine .inr ⟨rfl, .inl ?_⟩
    rw [List.count_eq_zero.2 (Text.cut_eq_none_iff.1 h)]
    decide
  · rename_i clientId rest h
    obtain ⟨hid, htext⟩ := Text.cut_eq_some_iff.1 h
    split
    · rename_i h
      refine .inr ⟨rfl, .inl ?_⟩
      rw [htext, List.count_append, List.count_cons_self, List.count_eq_zero.2 hid,
        List.count_eq_zero.2 (Text.cut_eq_none_iff.1 h)]
      decide
    · rename_i name data h
      obtain ⟨hname, rfl⟩ := Text.cut_eq_some_iff.1 h
      split
      · rename_i hempty
        refine .inr ⟨rfl, .inr ?_⟩
        rw [htext, hempty]
        rfl
      · rename_i hne
        refine .inl ⟨_, rfl, ⟨?_, ?_, ?_, ?_⟩, ?_⟩
        · rw [← payload.ofList_toList, htext]
          simp [text]
        · simpa using hne
        · simpa using hid
        · simpa using hname
        · obtain ⟨c, cs, hc⟩ := List.exists_cons_of_ne_nil hne
          rintro (hcount | hhead)
          · rw [htext] at hcount
            simp only [List.count_append, List.count_cons_self] at hcount
            omega
          · rw [htext, hc] at hhead
            cases hhead
            exact hid (hc ▸ List.mem_cons_self)

theorem Reads.not_isIncomplete {payload : String} {r : Relay} (h : Reads payload r) :
    ¬IsIncomplete payload := by
  rcases decode_cases payload with ⟨-, -, -, hcomplete⟩ | ⟨he, -⟩
  · exact hcomplete
  · cases he.symm.trans h.decode_eq

theorem Reads.unique {payload : String} {r r' : Relay} (h : Reads payload r)
    (h' : Reads payload r') : r = r' := by
  have heq : (Except.ok r : Except ProtocolError Relay) = .ok r' := h.decode_eq.symm.trans h'.decode_eq
  exact Except.ok.inj heq

theorem toOption_decode_eq_some_iff {payload : String} {r : Relay} :
    (decode payload).toOption = some r ↔ Reads payload r := by
  rcases decode_cases payload with ⟨r', hr, hreads, -⟩ | ⟨he, hincomplete⟩
  · rw [hr]
    constructor
    · intro h
      cases h
      exact hreads
    · intro h
      rw [hreads.unique h]
      rfl
  · rw [he]
    exact iff_of_false nofun fun h => h.not_isIncomplete hincomplete

theorem not_isIncomplete_iff {payload : String} :
    ¬IsIncomplete payload ↔ 2 ≤ payload.toList.count delimiter
      ∧ payload.toList.takeWhile (· ≠ delimiter) ≠ [] := by
  rw [IsIncomplete, not_or, Nat.not_lt]
  refine and_congr_right fun hcount => not_congr ?_
  cases hp : payload.toList with
  | nil =>
    rw [hp] at hcount
    cases hcount
  | cons c cs =>
    by_cases hc : c = delimiter
    · simp [hc]
    · simp [hc]

theorem Reads.encode_eq {payload : String} {r : Relay} (h : Reads payload r) :
    r.encode = .ok payload := by
  rw [h.eq_text]
  exact encode_eq_ok h.plainId h.plainName

theorem decode_eq_ok_iff {payload : String} {r : Relay} :
    decode payload = .ok r ↔ Reads payload r := by
  refine ⟨fun h => ?_, Reads.decode_eq⟩
  rcases decode_cases payload with ⟨r', hr', hreads, -⟩ | ⟨he, -⟩
  · cases h.symm.trans hr'
    exact hreads
  · cases h.symm.trans he

theorem encode_eq_error_iff {r : Relay} : (∃ e, r.encode = .error e) ↔ ¬r.IsPlain := by
  refine ⟨?_, encode_of_not_isPlain⟩
  rintro ⟨e, he⟩ ⟨hc, hn⟩
  cases he.symm.trans (encode_eq_ok hc hn)

theorem isPlain_of_encode {r : Relay} {payload : String} (h : r.encode = .ok payload) :
    r.IsPlain := by
  refine Decidable.not_not.1 fun hplain => ?_
  obtain ⟨e, he⟩ := encode_of_not_isPlain hplain
  cases he.symm.trans h

/-- Writing and reading are inverse to each other. A relay can be written exactly if neither its client
nor its name has the delimiter in it, and one with a client is then read back, whatever its data. A payload
can be read exactly if it has two delimiters and something before the first one, and what was read is
written as that payload again. -/
theorem codec_bijective :
    (∀ r : Relay,
      ((∃ e, r.encode = .error e)
        ↔ delimiter ∈ r.clientId.toList ∨ delimiter ∈ r.message.name.toList)
      ∧ ∀ payload, r.encode = .ok payload → r.clientId ≠ "" → decode payload = .ok r)
    ∧ ∀ payload : String,
      ((∃ r, decode payload = .ok r)
        ↔ 2 ≤ payload.toList.count delimiter
          ∧ payload.toList.takeWhile (· ≠ delimiter) ≠ [])
      ∧ ∀ r, decode payload = .ok r → r.encode = .ok payload := by
  refine ⟨fun r => ⟨?_, ?_⟩, fun payload => ⟨?_, ?_⟩⟩
  · rw [encode_eq_error_iff, IsPlain, Decidable.not_and_iff_not_or_not, Decidable.not_not,
      Decidable.not_not]
  · intro payload h hid
    obtain ⟨hc, hn⟩ := isPlain_of_encode h
    cases h.symm.trans (encode_eq_ok hc hn)
    exact decode_text hid hc hn
  · rw [← not_isIncomplete_iff]
    rcases decode_cases payload with ⟨r, hr, -, hcomplete⟩ | ⟨he, hincomplete⟩
    · exact iff_of_true ⟨r, hr⟩ hcomplete
    · refine iff_of_false ?_ fun h => h hincomplete
      rintro ⟨r, hr⟩
      cases he.symm.trans hr
  · intro r h
    exact (decode_eq_ok_iff.1 h).encode_eq

theorem codec_bijective_delimited_data :
    (⟨"c", ⟨"", "a||b"⟩⟩ : Relay).encode = .ok "c||a||b"
    ∧ decode "c||a||b" = .ok ⟨"c", ⟨"", "a||b"⟩⟩
    ∧ decode "c||" = .ok ⟨"c", ⟨"", ""⟩⟩
    ∧ (⟨"c", ⟨"", ""⟩⟩ : Relay).encode = .ok "c||" := by
  have hwritten : (⟨"c", ⟨"", "a||b"⟩⟩ : Relay).encode = .ok "c||a||b" := rfl
  have hread : decode "c||" = .ok ⟨"c", ⟨"", ""⟩⟩ := rfl
  exact ⟨hwritten, (codec_bijective.1 _).2 _ hwritten (by decide), hread,
    (codec_bijective.2 _).2 _ hread⟩

end TopicMesh.Relay
