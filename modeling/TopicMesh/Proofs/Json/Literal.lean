import TopicMesh.Announcement

/-!
# TopicMesh.Proofs.Json.Literal

Literals are read back as what they were written for. A character may have several spellings inside
a string: the writer's own (`spells_escapeChar`), and for the delimiter of payloads also its escape
(`spells_delimiterEscape`). `stringBody_flatMap` is about any choice of spellings, so that it covers
a text in which delimiters were escaped after it was written.

* `stringBody_flatMap`      — a string, character by character in any spelling.
* `unsignedNumber_toDigits` — an integer of at most 64 bits, up to a rest in which it does not go on.
-/

namespace TopicMesh.Json

/-! ## Strings -/

/-- A text inside a string literal that is read as one character. -/
def Spells (text : List Char) (c : Char) : Prop :=
  ∀ r, stringBody (text ++ r) = prepend c (stringBody r)

theorem hexValue_hexDigit (n : Nat) : hexValue (hexDigit n) = some (n % 16) := by
  have h : ∀ k < 16, hexValue (Nat.digitChar k) = some k := by decide
  exact h _ (Nat.mod_lt _ (by decide))

theorem spells_self {c : Char} (h₁ : c ≠ '"') (h₂ : c ≠ '\\') (h₃ : ¬c.toNat < 0x20) :
    Spells [c] c := by
  intro r
  rw [List.singleton_append, stringBody.eq_def]
  simp [h₁, h₂, h₃]

theorem spells_short {e c : Char} (h : shortEscape e = some c) : Spells ['\\', e] c := by
  intro r
  show stringBody ('\\' :: e :: r) = _
  rw [stringBody.eq_def]
  simp [h]

theorem spells_unit {h₁ h₂ h₃ h₄ : Char} {n : Nat} (h : hexUnit h₁ h₂ h₃ h₄ = some n)
    (ht : isTrailingSurrogate n = false) (hl : isLeadingSurrogate n = false) :
    Spells ['\\', 'u', h₁, h₂, h₃, h₄] (Char.ofNat n) := by
  intro r
  show stringBody ('\\' :: 'u' :: h₁ :: h₂ :: h₃ :: h₄ :: r) = _
  rw [stringBody.eq_def]
  simp [shortEscape, h, ht, hl]

theorem spells_escapeChar (c : Char) : Spells (escapeChar c) c := by
  unfold escapeChar
  -- the seven escapes of one letter
  iterate 7
    split
    · rename_i h; subst h; exact spells_short (by decide)
  split
  · rename_i h
    have hu : hexUnit '0' '0' (hexDigit (c.toNat / 16)) (hexDigit c.toNat) = some c.toNat := by
      have h0 : hexValue '0' = some 0 := by decide
      simp only [hexUnit, hexValue_hexDigit, h0]
      congr 1
      omega
    have hs := spells_unit hu (by simp [isTrailingSurrogate]; omega)
      (by simp [isLeadingSurrogate]; omega)
    rwa [Char.ofNat_toNat] at hs
  · rename_i h₁ h₂ _ _ _ _ _ h₃
    exact spells_self h₁ h₂ h₃

theorem spells_delimiterEscape : Spells Announcement.delimiterEscape delimiter :=
  spells_unit (n := 0x7c) (by decide) (by decide) (by decide)

theorem stringBody_flatMap {f : Char → List Char} (h : ∀ c, Spells (f c) c) (s r : List Char) :
    stringBody (s.flatMap f ++ '"' :: r) = .ok (s, r) := by
  induction s with
  | nil => simp [stringBody.eq_def]
  | cons c s ih =>
    rw [List.flatMap_cons, List.append_assoc, h c, ih]
    rfl

/-! ## Integers -/

/-- A rest into which a number before it does not go on. -/
def EndsNumber (r : List Char) : Prop :=
  ∀ c ∈ r.head?, isDigit c = false ∧ c ≠ '.' ∧ c ≠ 'e' ∧ c ≠ 'E'

theorem isDigit_eq (c : Char) : isDigit c = c.isDigit := by
  simp only [isDigit, Char.isDigit, Char.le_def, ge_iff_le]

theorem takeWhile_digits {ds r : List Char} (hd : ∀ c ∈ ds, isDigit c = true)
    (hr : EndsNumber r) : (ds ++ r).takeWhile isDigit = ds := by
  rw [List.takeWhile_append_of_pos hd]
  cases r with
  | nil => simp
  | cons c r => simp [(hr c rfl).1]

theorem dropWhile_digits {ds r : List Char} (hd : ∀ c ∈ ds, isDigit c = true)
    (hr : EndsNumber r) : (ds ++ r).dropWhile isDigit = r := by
  rw [List.dropWhile_append_of_pos hd]
  cases r with
  | nil => rfl
  | cons c r => simp [(hr c rfl).1]

theorem le_ofDigitChars (ds : List Char) (n : Nat) : n ≤ Nat.ofDigitChars 10 ds n := by
  induction ds generalizing n with
  | nil => simp
  | cons c ds ih =>
    rw [Nat.ofDigitChars_cons]
    have := ih (10 * n + (c.toNat - '0'.toNat))
    omega

/-- Digits that make a number of 64 bits are all absorbed. -/
theorem absorb_eq {ds : List Char} {n : Nat} (h : Nat.ofDigitChars 10 ds n < Nat.pow 2 64) :
    absorb n ds = (Nat.ofDigitChars 10 ds n, []) := by
  induction ds generalizing n with
  | nil => simp [absorb]
  | cons c ds ih =>
    rw [Nat.ofDigitChars_cons] at h ⊢
    have hle := le_ofDigitChars ds (10 * n + (c.toNat - '0'.toNat))
    have hm : n * 10 + digitValue c = 10 * n + (c.toNat - '0'.toNat) := by
      rw [digitValue, Nat.mul_comm]
    rw [absorb]
    simp only [hm]
    rw [if_pos (Nat.lt_of_le_of_lt hle h), ih h]

theorem toDigits_head {n : Nat} (h : 0 < n) : ∃ c ds, Nat.toDigits 10 n = c :: ds ∧ c ≠ '0' := by
  induction n using Nat.strongRecOn with
  | ind n ih =>
    by_cases hn : n < 10
    · refine ⟨n.digitChar, [], Nat.toDigits_of_lt_base hn, ?_⟩
      have : ∀ k < 10, 0 < k → Nat.digitChar k ≠ '0' := by decide
      exact this n hn h
    · obtain ⟨c, ds, hc, h0⟩ := ih (n / 10) (by omega) (by omega)
      exact ⟨c, ds ++ [(n % 10).digitChar], by
        rw [Nat.toDigits_of_base_le (by decide) (by omega), hc, List.cons_append], h0⟩

theorem isDigit_of_mem_toDigits {n : Nat} {c : Char} (h : c ∈ Nat.toDigits 10 n) :
    isDigit c = true := by
  rw [isDigit_eq]
  exact Nat.isDigit_of_mem_toDigits (by decide) (by decide) h

theorem afterInteger_of_ends {r : List Char} (hr : EndsNumber r) (negative : Bool) (n k : Nat) :
    afterInteger negative n k r = afterInteger.whole negative n k r := by
  cases r with
  | nil => rfl
  | cons c r =>
    obtain ⟨-, hp, he, hE⟩ := hr c rfl
    simp [afterInteger, exponentLetter, hp, he, hE]

/-- The digits of a number of 64 bits are read as that number. -/
theorem unsignedNumber_toDigits {n : Nat} (hn : n < Nat.pow 2 64) {r : List Char}
    (hr : EndsNumber r) (negative : Bool) :
    unsignedNumber negative (Nat.toDigits 10 n ++ r) = afterInteger.whole negative n 0 r := by
  rcases Nat.eq_zero_or_pos n with rfl | hpos
  · rw [Nat.toDigits_zero, List.singleton_append, ← afterInteger_of_ends hr,
      unsignedNumber.eq_def]
    cases r with
    | nil => rfl
    | cons c r => simp [(hr c rfl).1]
  · obtain ⟨c, ds, hc, h0⟩ := toDigits_head hpos
    have hd : ∀ d ∈ c :: ds, isDigit d = true := fun d hm =>
      isDigit_of_mem_toDigits (n := n) (hc ▸ hm)
    have hds : ∀ d ∈ ds, isDigit d = true := fun d hm => hd d (List.mem_cons_of_mem c hm)
    have hof : Nat.ofDigitChars 10 (c :: ds) 0 = n := by rw [← hc, Nat.ofDigitChars_ten_toDigits]
    rw [hc, List.cons_append, unsignedNumber.eq_def]
    simp only [if_neg h0, if_pos (hd c List.mem_cons_self)]
    rw [takeWhile_digits hds hr, dropWhile_digits hds hr, absorb_eq (by rw [hof]; exact hn), hof]
    exact afterInteger_of_ends hr negative n 0

end TopicMesh.Json
