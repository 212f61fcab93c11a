import TopicMesh.Proofs.Announcement.Acceptance
import TopicMesh.Proofs.Json.Range
import TopicMesh.Proofs.Record.Respelling

/-!
# TopicMesh.Proofs.Announcement.NormalForm

A payload that is read and written again. Whatever is read lies within the limits of what is read back
(`decode_inDomain`), so that all the payloads of an announcement have one normal form (`reencode_normal`).
-/

namespace TopicMesh

namespace Announcement

variable {a : Announcement} {payload : String}

/-- A payload that is read and written again. -/
def reencode (payload : String) : Except ProtocolError String :=
  match decode payload with
  | .error e => .error e
  | .ok a => a.encode

theorem reencode_of_decode (h : decode payload = .ok a) : reencode payload = a.encode := by
  rw [reencode, h]

def snapshot? : Announcement → Option Json
  | .upsert _ snapshot => snapshot
  | .delete _ | .offline _ | .collectionsUpdated | .settingsUpdated => none

/-! ## What is read can be written -/

theorem inRange_of_isSnapshot {s : List Char} {snapshot : Option Json} (h : IsSnapshot s snapshot) :
    ∀ j ∈ snapshot, Json.InRange Json.maxDepth j := by
  rintro j rfl
  exact Json.inRange_of_document (isSnapshot_some_iff.1 h)

theorem ne_empty_of_isBody {id : String} {body : List Char}
    (h : body = id.toList ∧ body ≠ [] ∧ delimiter ∉ body) : id ≠ "" ∧ delimiter ∉ id.toList := by
  obtain ⟨rfl, hne, hd⟩ := h
  exact ⟨fun hid => hne (by rw [hid]; rfl), hd⟩

/-- What is read is written, and read back. -/
theorem IsSpelling.inDomain (h : IsSpelling payload a) (hf : ∀ j ∈ a.snapshot?, j.IsFloatFree) :
    a.IsPlain ∧ ¬a.HasSplitId := by
  obtain ⟨body, -, hbody⟩ := h
  cases a with
  | upsert record snapshot =>
    obtain ⟨s, t, -, -, -, hsnapshot⟩ := hbody
    refine ⟨?_, id⟩
    intro j hj
    obtain ⟨hdepth, hw⟩ := inRange_of_isSnapshot hsnapshot j hj
    exact ⟨hw (hf j hj), hf j hj, hdepth⟩
  | delete id => exact ne_empty_of_isBody hbody
  | offline channel => exact ne_empty_of_isBody hbody
  | collectionsUpdated => exact ⟨trivial, id⟩
  | settingsUpdated => exact ⟨trivial, id⟩

/-! ## Normal forms -/

/-- A field that ends the payload has only one spelling. -/
def IsRigid : Announcement → Prop
  | .delete _ | .offline _ => True
  | .upsert _ _ | .collectionsUpdated | .settingsUpdated => False

theorem IsSpelling.encode_eq (h : IsSpelling payload a) (hr : a.IsRigid) : a.encode = .ok payload := by
  obtain ⟨body, hparts, hbody⟩ := h
  have hpayload : String.ofList (a.kind.toList ++ delimiter :: body) = payload := by
    rw [← hparts.2, String.ofList_toList]
  cases a with
  | delete id =>
    obtain ⟨rfl, -, hd⟩ := hbody
    rw [encode, Announcement.body, plainField_of_not_mem hd, ← hpayload]
  | offline channel =>
    obtain ⟨rfl, -, hd⟩ := hbody
    rw [encode, Announcement.body, plainField_of_not_mem hd, ← hpayload]
  | upsert => exact hr.elim
  | collectionsUpdated => exact hr.elim
  | settingsUpdated => exact hr.elim

/-- A payload that is read is in normal form once it has been written again, unless a snapshot in it has
floating-point numbers: the new payload is read as the same announcement, and writing it again leaves it
as it is. The ids of deletions and of channels have only one form. All other payloads of the announcement
have the same normal form, however the record in them is spelled: with other blanks and escapes, as a list
of fields or as an object, with its members in any order and others among them, without the fields that may
be missing, and with its topics in any order and more than once. -/
theorem reencode_normal {payload : String} {a : Announcement} (h : decode payload = .ok a)
    (hf : ∀ j ∈ a.snapshot?, j.IsFloatFree) :
    ∃ canonical, a.encode = .ok canonical ∧ decode canonical = .ok a
      ∧ reencode payload = .ok canonical ∧ reencode canonical = .ok canonical
      ∧ (a.IsRigid → canonical = payload)
      ∧ (∀ other, IsSpelling other a → reencode other = .ok canonical)
      ∧ ∀ record snapshot tree tree' d s t, a = upsert record snapshot →
          tree.record? = some record → Relation.EqvGen Record.Respells tree tree' →
          delimiter ∉ s → Json.IsDocument d s tree' → IsSnapshot t snapshot →
          reencode (String.ofList ("subscription_upsert".toList ++ delimiter :: (s ++ delimiter :: t)))
            = .ok canonical := by
  have hspelling := decode_eq_ok_iff.1 h
  obtain ⟨hplain, hsplit⟩ := hspelling.inDomain hf
  obtain ⟨canonical, he⟩ := exists_encode_eq hsplit
  have hd := decode_of_encode hplain he
  have hall : ∀ other, IsSpelling other a → reencode other = .ok canonical := by
    intro other hother
    rw [reencode_of_decode (decode_eq_ok_iff.2 hother), he]
  refine ⟨canonical, he, hd, hall payload hspelling, hall canonical (decode_eq_ok_iff.1 hd), ?_, hall, ?_⟩
  · intro hr
    rw [hspelling.encode_eq hr] at he
    cases he
    rfl
  · rintro record snapshot tree tree' d s t rfl hrecord hrespells hs htree hsnapshot
    rw [Record.record?_eq_of_respells hrespells] at hrecord
    exact hall _ ⟨_, hasParts_ofList (by decide) _, s, t, hs, rfl, ⟨d, tree', htree, hrecord⟩, hsnapshot⟩

/-- A record as a list of fields, with a blank, an escape and a topic that occurs twice. -/
def listedText : List Char :=
  [' ', '[', '"', 'c', '"', ',', '"', 'a', '"', ',', '[', '"', 't', '"', ',', '"', 's', '"', ',',
    '"', '\\', 'u', '0', '0', '7', '4', '"', ']', ']']

def listedPayload : String :=
  String.ofList ("subscription_upsert".toList ++ delimiter :: (listedText ++ delimiter
    :: [' ', 'n', 'u', 'l', 'l']))

theorem value_letter {c : Char} (h : c ≠ '"' ∧ c ≠ '\\' ∧ ¬c.toNat < 0x20) (d : Nat) (r : List Char) :
    Json.Grammar.Value d ('"' :: c :: '"' :: r) (.str [.char c]) r := by
  have hs : Json.Grammar.Scalar ('"' :: c :: '"' :: r) (.str [.char c]) r :=
    .str (.plain h.1 h.2.1 h.2.2 .close)
  cases d with
  | zero => exact hs
  | succ d => exact .inl hs

def listedTree : Json.Tree :=
  .arr [.str [.char 'c'], .str [.char 'a'], .arr [.str [.char 't'], .str [.char 's'], .str [.unit 0x74]]]

theorem isDocument_listedText :
    Record.IsDocument listedText ⟨"c", "a", .ofList ["s", "t"], "", ""⟩ := by
  have htopics : Json.Grammar.Value 1
      ['[', '"', 't', '"', ',', '"', 's', '"', ',', '"', '\\', 'u', '0', '0', '7', '4', '"', ']', ']']
      (.arr [.str [.char 't'], .str [.char 's'], .str [.unit 0x74]]) [']'] :=
    .inr (.arr ⟨_, value_letter (by decide) 0 _, _, _, rfl, value_letter (by decide) 0 _,
      _, _, rfl, .str (.unit rfl .close), rfl⟩)
  have hlist : Json.Grammar.Value 2 listedText listedTree [] :=
    .inr (.arr ⟨_, value_letter (by decide) 1 _, _, _, rfl, value_letter (by decide) 1 _,
      _, _, rfl, htopics, rfl⟩)
  exact ⟨2, listedTree, ⟨[], hlist, rfl⟩, by decide⟩

theorem reencode_normal_listed :
    decode listedPayload = .ok (upsert ⟨"c", "a", .ofList ["s", "t"], "", ""⟩ (some .null))
    ∧ ∃ canonical, (upsert ⟨"c", "a", .ofList ["s", "t"], "", ""⟩ (some .null)).encode = .ok canonical
      ∧ reencode listedPayload = .ok canonical ∧ reencode canonical = .ok canonical := by
  have hdecode : decode listedPayload
      = .ok (upsert ⟨"c", "a", .ofList ["s", "t"], "", ""⟩ (some .null)) :=
    decode_eq_ok_iff.2 ⟨_, hasParts_ofList (by decide) _, listedText, _, by decide, rfl,
      isDocument_listedText, .null, ⟨[], .inl .null, rfl⟩, rfl⟩
  have hfree : ∀ j ∈ some Json.null, j.IsFloatFree := by
    rintro _ ⟨⟩
    trivial
  obtain ⟨canonical, he, -, hre, hnormal, -⟩ := reencode_normal hdecode hfree
  exact ⟨hdecode, canonical, he, hre, hnormal⟩

end Announcement

end TopicMesh
