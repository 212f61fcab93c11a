import TopicMesh.Proofs.Announcement.RoundTrip
import TopicMesh.Proofs.Json.Unambiguous

/-!
# TopicMesh.Proofs.Announcement.Escaping

The delimiter is escaped wherever it stands in a text. In a JSON document it can stand only inside
strings, as a character of its own, and there its escape is another spelling of the same character; so
the escaped text is a document again, with a tree of the same meaning (`Tree.escaped`).

* `Grammar.Value.escaped`       — by the rules of the grammar, one by one.
* `escapeDelimiter_transparent` — whole documents: a text has no other tree (`IsDocument.read_iff`), so
  that within any bound the escaped text is read as the text was, or refused where that was.
-/

namespace TopicMesh.Json

open Announcement (escapeDelimiter escapeDelimiter_cons)
open Grammar (Pieces Digits Whole Fraction Exponent Decimal Scalar Elements Member Bracketed Value Any)

/-! ## Trees of escaped texts -/

def Piece.escaped : Piece → Piece
  | .char c => if c = delimiter then .unit 0x7c else .char c
  | .unit n => .unit n

mutual
/-- The tree of a text in which the delimiter was escaped. -/
def Tree.escaped : Tree → Tree
  | .null => .null
  | .bool b => .bool b
  | .number negative n => .number negative n
  | .str ps => .str (ps.map Piece.escaped)
  | .arr items => .arr (escapedItems items)
  | .obj members => .obj (escapedMembers members)

def escapedItems : List Tree → List Tree
  | [] => []
  | x :: l => x.escaped :: escapedItems l

def escapedMembers : List (List Piece × Tree) → List (List Piece × Tree)
  | [] => []
  | (k, x) :: l => (k.map Piece.escaped, x.escaped) :: escapedMembers l
end

theorem escapedItems_eq (l : List Tree) : escapedItems l = l.map Tree.escaped := by
  induction l with
  | nil => rfl
  | cons x l ih => rw [escapedItems, ih, List.map_cons]

/-- A member with the tree of its escaped text. -/
def escapedMember (m : List Piece × Tree) : List Piece × Tree := (m.1.map Piece.escaped, m.2.escaped)

theorem escapedMembers_eq (l : List (List Piece × Tree)) :
    escapedMembers l = l.map escapedMember := by
  induction l with
  | nil => rfl
  | cons m l ih =>
    obtain ⟨k, x⟩ := m
    rw [escapedMembers, ih, List.map_cons, escapedMember]

theorem spell_unit_of_trailing {n : Nat} (ht : isTrailingSurrogate n = true) (ps : List Piece) :
    spell (.unit n :: ps) = none := by
  rw [spell.eq_def]
  simp [ht]

theorem spell_unit_of_character {n : Nat} (ht : isTrailingSurrogate n = false)
    (hl : isLeadingSurrogate n = false) (ps : List Piece) :
    spell (.unit n :: ps) = (spell ps).map (Char.ofNat n :: ·) := by
  rw [spell.eq_def]
  simp [ht, hl]

/-- The escape is no part of a surrogate pair, where a plain character could not stand either. -/
theorem spell_escaped (ps : List Piece) : spell (ps.map Piece.escaped) = spell ps := by
  have hunit : isTrailingSurrogate 0x7c = false ∧ isLeadingSurrogate 0x7c = false := by decide
  fun_induction spell ps with
  | case1 => rfl
  | case2 c ps ih =>
    rw [List.map_cons, Piece.escaped]
    split
    · rename_i hc
      subst hc
      rw [spell_unit_of_character hunit.1 hunit.2, ih]
      rfl
    · rw [spell, ih]
  | case3 n ps ht => rw [List.map_cons, Piece.escaped, spell_unit_of_trailing ht]
  | case4 n ht hl m ps hm ih => simp [Piece.escaped, spell, ht, hl, hm, ih]
  | case5 n ht hl m ps hm => simp [Piece.escaped, spell, ht, hl, hm]
  | case6 n ps ht hl hps =>
    cases ps with
    | nil => simp [Piece.escaped, spell, ht, hl]
    | cons p ps =>
      cases p with
      | unit m => exact absurd rfl (hps m ps)
      | char c =>
        simp only [List.map_cons, Piece.escaped]
        split <;> simp [spell, ht, hl, hunit]
  | case7 n ps ht hl ih =>
    rw [Bool.not_eq_true] at ht hl
    rw [List.map_cons, Piece.escaped, spell_unit_of_character ht hl, ih]

mutual
theorem Tree.value?_escaped : ∀ x : Tree, x.escaped.value? = x.value?
  | .null => rfl
  | .bool _ => rfl
  | .number _ _ => rfl
  | .str ps => by rw [Tree.escaped, Tree.value?, spell_escaped, Tree.value?]
  | .arr items => by rw [Tree.escaped, Tree.value?, itemsValue?_escaped items, Tree.value?]
  | .obj members => by rw [Tree.escaped, Tree.value?, membersValue?_escaped members, Tree.value?]

theorem itemsValue?_escaped : ∀ l : List Tree, itemsValue? (escapedItems l) = itemsValue? l
  | [] => rfl
  | x :: l => by
    rw [escapedItems, itemsValue?, x.value?_escaped, itemsValue?_escaped l, itemsValue?]

theorem membersValue?_escaped : ∀ l : List (List Piece × Tree),
    membersValue? (escapedMembers l) = membersValue? l
  | [] => rfl
  | (k, x) :: l => by
    rw [escapedMembers, membersValue?, spell_escaped, x.value?_escaped, membersValue?_escaped l,
      membersValue?]
end

mutual
theorem Tree.depth_escaped : ∀ x : Tree, x.escaped.depth = x.depth
  | .null => rfl
  | .bool _ => rfl
  | .number _ _ => rfl
  | .str _ => rfl
  | .arr items => by rw [Tree.escaped, Tree.depth, itemsDepth_escaped items, Tree.depth]
  | .obj members => by rw [Tree.escaped, Tree.depth, membersDepth_escaped members, Tree.depth]

theorem itemsDepth_escaped : ∀ l : List Tree, Tree.itemsDepth (escapedItems l) = Tree.itemsDepth l
  | [] => rfl
  | x :: l => by
    rw [escapedItems, Tree.itemsDepth, x.depth_escaped, itemsDepth_escaped l, Tree.itemsDepth]

theorem membersDepth_escaped : ∀ l : List (List Piece × Tree),
    Tree.membersDepth (escapedMembers l) = Tree.membersDepth l
  | [] => rfl
  | (k, x) :: l => by
    rw [escapedMembers, Tree.membersDepth, x.depth_escaped, membersDepth_escaped l, Tree.membersDepth]
end

/-! ## Escaped texts -/

section Texts

variable {s r : List Char}

theorem escapeDelimiter_delimiter (s : List Char) :
    escapeDelimiter (delimiter :: s) = Announcement.delimiterEscape ++ escapeDelimiter s := by
  simp [escapeDelimiter]

/-- A run of characters ends where it did, if it can hold neither the delimiter nor a backslash. -/
theorem takeWhile_escapeDelimiter {q : Char → Bool} (hd : q delimiter = false) (hb : q '\\' = false)
    (s : List Char) : (escapeDelimiter s).takeWhile q = s.takeWhile q := by
  induction s with
  | nil => rfl
  | cons c s ih =>
    by_cases hc : c = delimiter
    · subst hc
      simp [escapeDelimiter_delimiter, Announcement.delimiterEscape, hb, hd]
    · rw [escapeDelimiter_cons hc, List.takeWhile_cons, List.takeWhile_cons, ih]

theorem dropWhile_escapeDelimiter {q : Char → Bool} (hd : q delimiter = false) (hb : q '\\' = false)
    (s : List Char) : (escapeDelimiter s).dropWhile q = escapeDelimiter (s.dropWhile q) := by
  induction s with
  | nil => rfl
  | cons c s ih =>
    by_cases hc : c = delimiter
    · subst hc
      simp [escapeDelimiter_delimiter, Announcement.delimiterEscape, hb, hd]
    · rw [escapeDelimiter_cons hc, List.dropWhile_cons, List.dropWhile_cons, ih]
      split
      · rfl
      · rw [escapeDelimiter_cons hc]

theorem skipBlank_escapeDelimiter (s : List Char) :
    skipBlank (escapeDelimiter s) = escapeDelimiter (skipBlank s) :=
  dropWhile_escapeDelimiter (by decide) (by decide) s

theorem skipBlank_escapeDelimiter_cons {c : Char} {t : List Char} (hc : c ≠ delimiter)
    (h : skipBlank s = c :: t) : skipBlank (escapeDelimiter s) = c :: escapeDelimiter t := by
  rw [skipBlank_escapeDelimiter, h, escapeDelimiter_cons hc]

theorem exponentLetter_escapeDelimiter (s : List Char) :
    exponentLetter (escapeDelimiter s) = (exponentLetter s).map escapeDelimiter := by
  cases s with
  | nil => rfl
  | cons c s =>
    by_cases hc : c = delimiter
    · subst hc
      rfl
    · rw [escapeDelimiter_cons hc, exponentLetter, exponentLetter]
      split <;> rfl

theorem exponentSign_escapeDelimiter (s : List Char) :
    Grammar.exponentSign (escapeDelimiter s)
      = ((Grammar.exponentSign s).1, escapeDelimiter (Grammar.exponentSign s).2) := by
  cases s with
  | nil => rfl
  | cons c s =>
    by_cases hc : c = delimiter
    · subst hc
      rfl
    · rw [escapeDelimiter_cons hc, Grammar.exponentSign, Grammar.exponentSign]
      split
      · rfl
      · split
        · rfl
        · rw [escapeDelimiter_cons hc]

theorem shortEscape_ne_delimiter {e c : Char} (h : shortEscape e = some c) :
    e ≠ delimiter ∧ c ≠ delimiter := by
  unfold shortEscape at h
  -- one case for each letter that may be escaped
  iterate 8
    split at h
    · rename_i he
      cases h
      subst he
      decide
  cases h

theorem hexUnit_ne_delimiter {h₁ h₂ h₃ h₄ : Char} {n : Nat} (h : hexUnit h₁ h₂ h₃ h₄ = some n) :
    h₁ ≠ delimiter ∧ h₂ ≠ delimiter ∧ h₃ ≠ delimiter ∧ h₄ ≠ delimiter := by
  have hnone : hexValue delimiter = none := by decide
  refine ⟨?_, ?_, ?_, ?_⟩ <;> intro hd <;> subst hd <;> simp [hexUnit, hnone] at h

end Texts

/-! ## The grammar of escaped texts -/

section Escaped

variable {s r : List Char}

theorem Grammar.Pieces.escaped {ps : List Piece} (h : Pieces s ps r) :
    Pieces (escapeDelimiter s) (ps.map Piece.escaped) (escapeDelimiter r) := by
  induction h with
  | close =>
    rw [escapeDelimiter_cons (by decide)]
    exact .close
  | @plain c s r ps hquote hescape hcontrol _ ih =>
    rw [List.map_cons, Piece.escaped]
    by_cases hc : c = delimiter
    · subst hc
      rw [escapeDelimiter_delimiter, if_pos rfl]
      exact .unit (by decide) ih
    · rw [escapeDelimiter_cons hc, if_neg hc]
      exact .plain hquote hescape hcontrol ih
  | @short e c s r ps he _ ih =>
    obtain ⟨hne, hnc⟩ := shortEscape_ne_delimiter he
    rw [escapeDelimiter_cons (by decide), escapeDelimiter_cons hne, List.map_cons, Piece.escaped,
      if_neg hnc]
    exact .short he ih
  | unit hn _ ih =>
    obtain ⟨hd₁, hd₂, hd₃, hd₄⟩ := hexUnit_ne_delimiter hn
    rw [escapeDelimiter_cons (by decide), escapeDelimiter_cons (by decide), escapeDelimiter_cons hd₁,
      escapeDelimiter_cons hd₂, escapeDelimiter_cons hd₃, escapeDelimiter_cons hd₄]
    exact .unit hn ih

theorem Grammar.Digits.escaped {ds : List Char} (h : Digits s ds r) :
    Digits (escapeDelimiter s) ds (escapeDelimiter r) := by
  obtain ⟨hne, htake, hdrop⟩ := h
  have hd : isDigit delimiter = false ∧ isDigit '\\' = false := by decide
  refine ⟨hne, ?_, ?_⟩
  · rw [takeWhile_escapeDelimiter hd.1 hd.2, htake]
  · rw [dropWhile_escapeDelimiter hd.1 hd.2, hdrop]

theorem Grammar.Fraction.escaped {ds : List Char} (h : Fraction s ds r) :
    Fraction (escapeDelimiter s) ds (escapeDelimiter r) := by
  rcases h with ⟨t, rfl, hds⟩ | ⟨hpoint, rfl, rfl⟩
  · exact .inl ⟨_, escapeDelimiter_cons (by decide) t, hds.escaped⟩
  · refine .inr ⟨?_, rfl, rfl⟩
    cases r with
    | nil => exact hpoint
    | cons c r =>
      by_cases hc : c = delimiter
      · subst hc
        simp [escapeDelimiter_delimiter, Announcement.delimiterEscape]
      · rw [escapeDelimiter_cons hc]
        exact hpoint

theorem Grammar.Exponent.escaped {e : Option (Bool × List Char)} (h : Exponent s e r) :
    Exponent (escapeDelimiter s) e (escapeDelimiter r) := by
  cases e with
  | none =>
    obtain ⟨hnone, rfl⟩ := h
    refine ⟨?_, rfl⟩
    rw [exponentLetter_escapeDelimiter, hnone, Option.map_none]
  | some p =>
    obtain ⟨t, hsome, hsign, hds⟩ := h
    refine ⟨escapeDelimiter t, ?_, ?_, ?_⟩
    · rw [exponentLetter_escapeDelimiter, hsome, Option.map_some]
    · rw [exponentSign_escapeDelimiter, hsign]
    · rw [exponentSign_escapeDelimiter]
      exact hds.escaped

theorem Grammar.Decimal.escaped {n : Numeral} (h : Decimal s n r) :
    Decimal (escapeDelimiter s) n (escapeDelimiter r) := by
  obtain ⟨t, u, ⟨hwhole, hzero⟩, hfraction, hexponent⟩ := h
  exact ⟨_, _, ⟨hwhole.escaped, hzero⟩, hfraction.escaped, hexponent.escaped⟩

theorem Grammar.Scalar.escaped {x : Tree} (h : Scalar s x r) :
    Scalar (escapeDelimiter s) x.escaped (escapeDelimiter r) := by
  have hcons {c : Char} (hc : c ≠ delimiter) (t : List Char) := escapeDelimiter_cons hc t
  cases h with
  | null =>
    rw [hcons (by decide), hcons (by decide), hcons (by decide), hcons (by decide)]
    exact .null
  | true =>
    rw [hcons (by decide), hcons (by decide), hcons (by decide), hcons (by decide)]
    exact .true
  | false =>
    rw [hcons (by decide), hcons (by decide), hcons (by decide), hcons (by decide), hcons (by decide)]
    exact .false
  | negative h =>
    rw [hcons (by decide)]
    exact .negative h.escaped
  | number h => exact .number h.escaped
  | str h =>
    rw [hcons (by decide)]
    exact .str h.escaped

section Sequences

variable {α : Type} {p q : Grammar α} {f : α → α} {closing : Char} {first : Bool} {l : List α}

theorem NextAt.escaped {t : List Char} (h : NextAt first s t) :
    NextAt first (escapeDelimiter s) (escapeDelimiter t) := by
  cases first with
  | true => exact congrArg escapeDelimiter h
  | false => exact skipBlank_escapeDelimiter_cons (by decide) h

theorem sequence_escaped (first : Bool) (hclosing : closing ≠ delimiter)
    (hpq : ∀ ⦃s a r⦄, p s a r → q (escapeDelimiter s) (f a) (escapeDelimiter r))
    (h : Sequence closing p first s l r) :
    Sequence closing q first (escapeDelimiter s) (l.map f) (escapeDelimiter r) := by
  induction l generalizing s first with
  | nil => exact sequence_nil.2 (skipBlank_escapeDelimiter_cons hclosing (sequence_nil.1 h))
  | cons a l ih =>
    obtain ⟨t, u, ht, ha, hl⟩ := sequence_cons.1 h
    exact sequence_cons.2 ⟨_, _, ht.escaped, hpq ha, ih false hl⟩

theorem elements_escaped (hclosing : closing ≠ delimiter)
    (hpq : ∀ ⦃s a r⦄, p s a r → q (escapeDelimiter s) (f a) (escapeDelimiter r))
    (h : Elements closing p s l r) :
    Elements closing q (escapeDelimiter s) (l.map f) (escapeDelimiter r) :=
  sequence_escaped true hclosing hpq h

end Sequences

theorem member_escaped {p q : Grammar Tree}
    (hpq : ∀ ⦃s x r⦄, p s x r → q (escapeDelimiter s) x.escaped (escapeDelimiter r))
    {m : List Piece × Tree} (h : Member p s m r) :
    Member q (escapeDelimiter s) (escapedMember m) (escapeDelimiter r) := by
  obtain ⟨t, u, v, ht, hps, hu, hx⟩ := h
  exact ⟨_, _, _, skipBlank_escapeDelimiter_cons (by decide) ht, hps.escaped,
    skipBlank_escapeDelimiter_cons (by decide) hu, hpq hx⟩

/-- The escaped text of a value is a value, with brackets nested as before. -/
theorem Grammar.Value.escaped {d : Nat} {x : Tree} (h : Value d s x r) :
    Value d (escapeDelimiter s) x.escaped (escapeDelimiter r) := by
  induction d generalizing s x r with
  | zero =>
    rw [Value, skipBlank_escapeDelimiter]
    exact Grammar.Scalar.escaped h
  | succ d ih =>
    rw [Value, skipBlank_escapeDelimiter]
    rcases h with h | h
    · exact .inl h.escaped
    · refine .inr ?_
      generalize skipBlank s = t at h
      cases h with
      | arr h =>
        rw [escapeDelimiter_cons (by decide), Tree.escaped, escapedItems_eq]
        exact .arr (elements_escaped (by decide) (fun _ _ _ h => ih h) h)
      | obj h =>
        rw [escapeDelimiter_cons (by decide), Tree.escaped, escapedMembers_eq]
        exact .obj (elements_escaped (by decide)
          (fun _ _ _ hm => member_escaped (fun _ _ _ h => ih h) hm) h)

theorem IsDocument.escaped {d : Nat} {x : Tree} (h : IsDocument d s x) :
    IsDocument d (escapeDelimiter s) x.escaped := by
  obtain ⟨r, hx, hr⟩ := h
  refine ⟨escapeDelimiter r, hx.escaped, ?_⟩
  rw [skipBlank_escapeDelimiter, hr]
  rfl

end Escaped

/-- A document with its delimiter escaped holds none, is a document with brackets nested as before, and
means the same; within any bound on the nesting it is read as it would have been. -/
theorem escapeDelimiter_transparent {depth : Nat} {s : List Char} {x : Tree}
    (h : IsDocument depth s x) :
    delimiter ∉ escapeDelimiter s
    ∧ (∃ y, IsDocument depth (escapeDelimiter s) y ∧ y.value? = x.value?)
    ∧ ∀ bound j, document (value bound) (escapeDelimiter s) = .ok j
      ↔ document (value bound) s = .ok j := by
  refine ⟨Announcement.not_mem_escapeDelimiter s, ⟨x.escaped, h.escaped, x.value?_escaped⟩, ?_⟩
  intro bound j
  rw [h.escaped.read_iff, h.read_iff, x.depth_escaped, x.value?_escaped]

/-- A bar after an escaped backslash, one as a key, and one that was escaped before. -/
def barred : List Char :=
  ['[', '"', '\\', '\\', '|', '"', ',', ' ',
    '{', '"', '|', '"', ':', '"', '\\', 'u', '0', '0', '7', 'c', '"', '}', ']']

def barredTree : Tree :=
  .arr [.str [.char '\\', .char '|'], .obj [([.char '|'], .str [.unit 0x7c])]]

theorem isDocument_barred : IsDocument 2 barred barredTree := by
  have hbar {s r : List Char} {ps : List Piece} (h : Pieces s ps r) :
      Pieces ('|' :: s) (.char '|' :: ps) r :=
    .plain (by decide) (by decide) (by decide) h
  have hobject : Value 1
      [' ', '{', '"', '|', '"', ':', '"', '\\', 'u', '0', '0', '7', 'c', '"', '}', ']']
      (.obj [([.char '|'], .str [.unit 0x7c])]) [']'] :=
    .inr (.obj ⟨_, ⟨_, _, _, rfl, hbar .close, rfl, .str (.unit rfl .close)⟩, rfl⟩)
  exact ⟨[], .inr (.arr ⟨_, .inl (.str (.short rfl (hbar .close))), _, _, rfl, hobject, rfl⟩), rfl⟩

theorem escapeDelimiter_transparent_barred : IsDocument 2 barred barredTree
    ∧ delimiter ∉ escapeDelimiter barred
    ∧ (∃ y, IsDocument 2 (escapeDelimiter barred) y ∧ y.value? = barredTree.value?)
    ∧ ∀ bound j, document (value bound) (escapeDelimiter barred) = .ok j
      ↔ document (value bound) barred = .ok j :=
  ⟨isDocument_barred, escapeDelimiter_transparent isDocument_barred⟩

end TopicMesh.Json
