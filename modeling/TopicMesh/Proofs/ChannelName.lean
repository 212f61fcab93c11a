import Mathlib.Data.String.Basic
import TopicMesh.ChannelName

/-!
# TopicMesh.Proofs.ChannelName

Any text that is not empty is made into a name by normalizing it, and a name stays as it is. Texts are
cut after so many characters, but the limit of a name is in bytes; in the alphabet of names every
character has one byte, so that nothing comes of the difference (`isValid_iff`).

* `normalize_eq_self_iff` — names are what normalizing leaves alone.
* `instanceName_eq`       — the parts of an instance's name: only the host is ever cut.
* `naming_exact`          — what normalized texts and the names of instances are.
-/

namespace TopicMesh.ChannelName

open String (utf8Len)

/-! ## The alphabet -/

theorem isNameChar_iff {c : Char} : isNameChar c = true ↔
    (97 ≤ c.toNat ∧ c.toNat ≤ 122) ∨ (48 ≤ c.toNat ∧ c.toNat ≤ 57) ∨ c.toNat = 95 := by
  have hu : c.toNat = 95 ↔ c = '_' := Char.toNat_inj (d := '_')
  simp [isNameChar, Char.le_def, UInt32.le_iff_toNat_le, hu, or_assoc]

theorem isNameChar_toLower {c : Char} (h : 'A' ≤ c ∧ c ≤ 'Z') : isNameChar c.toLower = true := by
  have hall : ∀ n < 91, 65 ≤ n → isNameChar (Char.ofNat n).toLower = true := by decide
  simp only [Char.le_def, UInt32.le_iff_toNat_le] at h
  have hc := hall c.toNat (Nat.lt_succ_of_le h.2) h.1
  rwa [Char.ofNat_toNat] at hc

theorem isNameChar_normalizeChar (c : Char) : isNameChar (normalizeChar c) = true := by
  unfold normalizeChar
  split
  · assumption
  · split
    · rename_i h
      exact isNameChar_toLower h
    · decide

theorem normalizeChar_eq_self {c : Char} (h : isNameChar c = true) : normalizeChar c = c := by
  rw [normalizeChar, if_pos h]

theorem utf8Len_eq_length {l : List Char} (h : ∀ c ∈ l, isNameChar c = true) :
    utf8Len l = l.length := by
  induction l with
  | nil => rfl
  | cons c l ih =>
    have hc := isNameChar_iff.1 (h c List.mem_cons_self)
    have hsize : c.utf8Size = 1 := by
      rw [Char.utf8Size_eq_one_iff, UInt32.le_iff_toNat_le]
      show c.toNat ≤ 127
      omega
    rw [String.utf8Len_cons, ih fun d hd => h d (List.mem_cons_of_mem c hd), hsize, List.length_cons]

/-- The limit of a name is the same in bytes. -/
theorem isValid_iff {name : String} : isValid name = true ↔
    name ≠ "" ∧ name.utf8ByteSize ≤ maxLength ∧ ∀ c ∈ name.toList, isNameChar c = true := by
  simp only [isValid, Bool.and_eq_true, decide_eq_true_eq, List.all_eq_true, and_assoc, ne_eq,
    String.toList_eq_nil_iff]
  refine and_congr_right fun _ => and_congr_left fun h => ?_
  rw [← String.utf8Len_toList, utf8Len_eq_length h]

/-! ## Normalizing -/

theorem toList_normalize (raw : String) :
    (normalize raw).toList = (raw.toList.map normalizeChar).take maxLength := by
  rw [normalize, String.toList_ofList]

theorem isNameChar_of_mem_normalize {raw : String} {c : Char} (h : c ∈ (normalize raw).toList) :
    isNameChar c = true := by
  rw [toList_normalize] at h
  obtain ⟨d, -, hd⟩ := List.mem_map.1 (List.mem_of_mem_take h)
  rw [← hd]
  exact isNameChar_normalizeChar d

theorem isValid_normalize_iff {raw : String} : isValid (normalize raw) = true ↔ raw ≠ "" := by
  have hchars : ∀ c ∈ (normalize raw).toList, isNameChar c = true :=
    fun c hc => isNameChar_of_mem_normalize hc
  have hlength : (normalize raw).toList.length ≤ maxLength := by
    rw [toList_normalize]
    exact List.length_take_le _ _
  have hempty : (normalize raw).toList = [] ↔ raw = "" := by
    simp [toList_normalize, maxLength]
  simp only [isValid, Bool.and_eq_true, decide_eq_true_eq, List.all_eq_true, ne_eq, hempty]
  exact ⟨fun h => h.1.1, fun h => ⟨⟨h, hlength⟩, hchars⟩⟩

theorem normalize_of_isValid {name : String} (h : isValid name = true) : normalize name = name := by
  simp only [isValid, Bool.and_eq_true, decide_eq_true_eq, List.all_eq_true] at h
  obtain ⟨⟨-, hlength⟩, hchars⟩ := h
  have hmap : name.toList.map normalizeChar = name.toList.map id :=
    List.map_congr_left fun c hc => normalizeChar_eq_self (hchars c hc)
  rw [normalize, hmap, List.map_id, List.take_of_length_le hlength, String.ofList_toList]

theorem normalize_eq_self_iff {raw : String} (h : raw ≠ "") :
    normalize raw = raw ↔ isValid raw = true := by
  constructor
  · intro hraw
    rw [← hraw]
    exact isValid_normalize_iff.2 h
  · exact normalize_of_isValid

theorem normalize_normalize (raw : String) : normalize (normalize raw) = normalize raw := by
  by_cases h : raw = ""
  · subst h
    rfl
  · exact normalize_of_isValid (isValid_normalize_iff.2 h)

/-! ## Names of instances -/

/-- What is drawn for the end of a name: five lower-case letters or digits. -/
structure IsSuffix (suffix : String) : Prop where
  length : suffix.toList.length = suffixLength
  letters : ∀ c ∈ suffix.toList, ('a' ≤ c ∧ c ≤ 'z') ∨ ('0' ≤ c ∧ c ≤ '9')

/-- What of the host stands in a name. -/
def hostPart (host : String) : String := String.ofList ((normalize host).toList.take hostLength)

variable {suffix : String}

theorem IsSuffix.isNameChar (h : IsSuffix suffix) {c : Char} (hc : c ∈ suffix.toList) :
    isNameChar c = true := by
  have hletter := h.letters c hc
  simp only [Char.le_def, UInt32.le_iff_toNat_le] at hletter
  rw [isNameChar_iff]
  rcases hletter with hletter | hletter
  · exact .inl hletter
  · exact .inr (.inl hletter)

/-- Prefix, host and suffix are a name before they are normalized again. -/
theorem isValid_parts (host : String) (h : IsSuffix suffix) :
    isValid ("c_" ++ hostPart host ++ "_" ++ suffix) = true := by
  have hhost : (hostPart host).toList.length ≤ hostLength := by
    rw [hostPart, String.toList_ofList]
    exact List.length_take_le _ _
  have hchars : ∀ c ∈ (hostPart host).toList, isNameChar c = true := by
    intro c hc
    rw [hostPart, String.toList_ofList] at hc
    exact isNameChar_of_mem_normalize (List.mem_of_mem_take hc)
  have hends : isNameChar 'c' = true ∧ isNameChar '_' = true := by decide
  have hsum : hostLength + suffixLength + 3 = maxLength := by decide
  have hlength := h.length
  have hsuffix : ∀ c ∈ suffix.toList, isNameChar c = true := fun c hc => h.isNameChar hc
  simp only [isValid, Bool.and_eq_true, decide_eq_true_eq, List.all_eq_true, String.toList_append,
    List.mem_append, List.length_append]
  refine ⟨⟨by simp, ?_⟩, ?_⟩
  · have htwo : "c_".toList.length = 2 ∧ "_".toList.length = 1 := by decide
    omega
  · intro c hc
    rcases hc with ((hc | hc) | hc) | hc
    · have hc : c = 'c' ∨ c = '_' := by simpa using hc
      rcases hc with rfl | rfl
      · exact hends.1
      · exact hends.2
    · exact hchars c hc
    · have hc : c = '_' := by simpa using hc
      subst hc
      exact hends.2
    · exact hsuffix c hc

/-- The name is made of its parts as they are, however long the host is. -/
theorem instanceName_eq (host : String) (h : IsSuffix suffix) :
    instanceName host suffix = "c_" ++ hostPart host ++ "_" ++ suffix := by
  have hparts : String.ofList
      ('c' :: '_' :: (normalize host).toList.take hostLength ++ '_' :: suffix.toList)
        = "c_" ++ hostPart host ++ "_" ++ suffix := by
    rw [← String.ofList_toList (s := "c_" ++ hostPart host ++ "_" ++ suffix)]
    simp [hostPart]
  rw [instanceName]
  simp only [hparts]
  exact normalize_of_isValid (isValid_parts host h)

/-- A name ends with its suffix, so that it tells the suffix. -/
theorem suffix_of_instanceName_eq {host host' suffix' : String} (h : IsSuffix suffix)
    (h' : IsSuffix suffix') (he : instanceName host suffix = instanceName host' suffix') :
    suffix = suffix' := by
  rw [instanceName_eq host h, instanceName_eq host' h'] at he
  have hlist := congrArg String.toList he
  simp only [String.toList_append] at hlist
  exact String.toList_inj.1 (List.append_inj_right' hlist (h.length.trans h'.length.symm))

theorem instanceName_ne_defaultControl (host : String) (h : IsSuffix suffix) :
    instanceName host suffix ≠ defaultControl := by
  intro he
  have hname : (instanceName host suffix).toList.head? = some 'c' := by
    simp [instanceName_eq host h]
  have hcontrol : defaultControl.toList.head? = some 's' := by decide
  rw [he, hcontrol] at hname
  exact absurd hname (by decide)

/-- Normalizing gives a name for every text that is not empty, changes a normalized text no more, and
leaves exactly the names as they are. The name of an instance is one on every host, with the whole
suffix that was drawn, by which it differs from all others, and it is never the common channel. -/
theorem naming_exact :
    (∀ raw, (isValid (normalize raw) = true ↔ raw ≠ "")
      ∧ normalize (normalize raw) = normalize raw
      ∧ (raw ≠ "" → (normalize raw = raw ↔ isValid raw = true)))
    ∧ ∀ host suffix, IsSuffix suffix →
      isValid (instanceName host suffix) = true
      ∧ (∃ middle, instanceName host suffix = "c_" ++ middle ++ "_" ++ suffix)
      ∧ (instanceName host suffix).utf8ByteSize ≤ 63
      ∧ (∀ host' suffix', IsSuffix suffix' → suffix ≠ suffix' →
          instanceName host suffix ≠ instanceName host' suffix')
      ∧ instanceName host suffix ≠ defaultControl := by
  constructor
  · intro raw
    exact ⟨isValid_normalize_iff, normalize_normalize raw, normalize_eq_self_iff⟩
  · intro host suffix h
    have hname := instanceName_eq host h
    have hvalid : isValid (instanceName host suffix) = true := by
      rw [hname]
      exact isValid_parts host h
    refine ⟨hvalid, ⟨_, hname⟩, (isValid_iff.1 hvalid).2.1, ?_, instanceName_ne_defaultControl host h⟩
    intro host' suffix' h' hne he
    exact hne (suffix_of_instanceName_eq h h' he)

/-- A host of two hundred letters of two bytes each, and two suffixes that differ in the last place. -/
theorem naming_exact_long_host :
    let host := String.ofList (List.replicate 200 'Ü')
    IsSuffix "a1z09" ∧ IsSuffix "a1z08" ∧ isValid (instanceName host "a1z09") = true
      ∧ (instanceName host "a1z09").utf8ByteSize ≤ 63
      ∧ instanceName host "a1z09" ≠ instanceName host "a1z08" := by
  intro host
  have h : IsSuffix "a1z09" := ⟨by decide, by simp⟩
  have h' : IsSuffix "a1z08" := ⟨by decide, by simp⟩
  obtain ⟨hvalid, -, hsize, hother, -⟩ := naming_exact.2 host "a1z09" h
  exact ⟨h, h', hvalid, hsize, hother host "a1z08" h' (by decide)⟩

end TopicMesh.ChannelName
