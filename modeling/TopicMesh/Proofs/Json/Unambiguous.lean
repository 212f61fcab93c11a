import TopicMesh.Proofs.Json.Values

/-!
# TopicMesh.Proofs.Json.Unambiguous

A text has one tree. How deep its brackets are nested is a property of the tree, so that the bound of a
reader only decides whether the tree is read, not which one.

* `Grammar.Any.unique`  — the tree at the beginning of a text, and the rest, are determined.
* `value_iff_depth`     — brackets within a bound: any tree, if it is not deeper.
* `IsDocument.read_iff` — a document is read as the value of its tree, or not at all.
-/

namespace TopicMesh.Json

open Grammar (Pieces Digits Whole Fraction Exponent Decimal Scalar Elements Member Bracketed Value Any)

variable {s r r' : List Char}

/-! ## Scalars -/

theorem Grammar.Pieces.unique {ps ps' : List Piece} (h : Pieces s ps r) (h' : Pieces s ps' r') :
    ps = ps' ∧ r = r' := by
  have hu : shortEscape 'u' = none := by decide
  induction h generalizing ps' with
  | close =>
    cases h' with
    | close => exact ⟨rfl, rfl⟩
    | plain hquote => exact absurd rfl hquote
  | plain hquote hescape _ _ ih =>
    cases h' with
    | close => exact absurd rfl hquote
    | plain _ _ _ h' =>
      obtain ⟨rfl, rfl⟩ := ih h'
      exact ⟨rfl, rfl⟩
    | short => exact absurd rfl hescape
    | unit => exact absurd rfl hescape
  | short he _ ih =>
    cases h' with
    | plain _ hescape => exact absurd rfl hescape
    | short he' h' =>
      rw [he] at he'
      cases he'
      obtain ⟨rfl, rfl⟩ := ih h'
      exact ⟨rfl, rfl⟩
    | unit =>
      rw [hu] at he
      cases he
  | unit hn _ ih =>
    cases h' with
    | plain _ hescape => exact absurd rfl hescape
    | short he' =>
      rw [hu] at he'
      cases he'
    | unit hn' h' =>
      rw [hn] at hn'
      cases hn'
      obtain ⟨rfl, rfl⟩ := ih h'
      exact ⟨rfl, rfl⟩

theorem Grammar.Digits.unique {ds ds' : List Char} (h : Digits s ds r) (h' : Digits s ds' r') :
    ds = ds' ∧ r = r' := by
  obtain ⟨-, rfl, rfl⟩ := h
  obtain ⟨-, rfl, rfl⟩ := h'
  exact ⟨rfl, rfl⟩

theorem Grammar.Fraction.unique {ds ds' : List Char} (h : Fraction s ds r) (h' : Fraction s ds' r') :
    ds = ds' ∧ r = r' := by
  rcases h with ⟨t, rfl, hds⟩ | ⟨hpoint, rfl, rfl⟩
  · exact hds.unique (fraction_point.1 h')
  · rcases h' with ⟨t, rfl, -⟩ | ⟨-, rfl, rfl⟩
    · exact absurd rfl hpoint
    · exact ⟨rfl, rfl⟩

theorem Grammar.Exponent.unique {e e' : Option (Bool × List Char)} (h : Exponent s e r)
    (h' : Exponent s e' r') : e = e' ∧ r = r' := by
  cases hs : exponentLetter s with
  | none =>
    have heq := (exists_exponent_of_none (p := (e = ·)) hs).1 ⟨e, h, rfl⟩
    have heq' := (exists_exponent_of_none (p := (e' = ·)) hs).1 ⟨e', h', rfl⟩
    exact ⟨heq.2.trans heq'.2.symm, heq.1.trans heq'.1.symm⟩
  | some t =>
    obtain ⟨ds, hds, rfl⟩ := (exists_exponent_of_some (p := (e = ·)) hs).1 ⟨e, h, rfl⟩
    obtain ⟨ds', hds', rfl⟩ := (exists_exponent_of_some (p := (e' = ·)) hs).1 ⟨e', h', rfl⟩
    obtain ⟨rfl, rfl⟩ := hds.unique hds'
    exact ⟨rfl, rfl⟩

theorem Grammar.Decimal.unique {n n' : Numeral} (h : Decimal s n r) (h' : Decimal s n' r') :
    n = n' ∧ r = r' := by
  obtain ⟨whole, fraction, exponent⟩ := n
  obtain ⟨whole', fraction', exponent'⟩ := n'
  obtain ⟨t, u, ⟨hwhole, -⟩, hfraction, hexponent⟩ := h
  obtain ⟨t', u', ⟨hwhole', -⟩, hfraction', hexponent'⟩ := h'
  obtain ⟨rfl, rfl⟩ := hwhole.unique hwhole'
  obtain ⟨rfl, rfl⟩ := hfraction.unique hfraction'
  obtain ⟨rfl, rfl⟩ := hexponent.unique hexponent'
  exact ⟨rfl, rfl⟩

theorem Grammar.Scalar.unique {x x' : Tree} (h : Scalar s x r) (h' : Scalar s x' r') :
    x = x' ∧ r = r' := by
  cases h with
  | null =>
    obtain ⟨ht, rfl⟩ := scalar_null_iff.1 h'
    exact ⟨rfl, by simpa using ht⟩
  | true =>
    obtain ⟨ht, rfl⟩ := scalar_true_iff.1 h'
    exact ⟨rfl, by simpa using ht⟩
  | false =>
    obtain ⟨ht, rfl⟩ := scalar_false_iff.1 h'
    exact ⟨rfl, by simpa using ht⟩
  | negative h =>
    obtain ⟨n, hn, rfl⟩ := scalar_minus_iff.1 h'
    obtain ⟨rfl, rfl⟩ := h.unique hn
    exact ⟨rfl, rfl⟩
  | number h =>
    cases s with
    | nil => exact absurd h.length_lt (Nat.not_lt_zero _)
    | cons c t =>
      have hd := isDigit_of_decimal h
      have hc : c ≠ 'n' ∧ c ≠ 't' ∧ c ≠ 'f' ∧ c ≠ '-' ∧ c ≠ '"' := by
        refine ⟨?_, ?_, ?_, ?_, ?_⟩ <;> intro he <;> subst he <;> exact absurd hd (by decide)
      obtain ⟨n, hn, rfl⟩ := (scalar_number_iff hc).1 h'
      obtain ⟨rfl, rfl⟩ := h.unique hn
      exact ⟨rfl, rfl⟩
  | str h =>
    obtain ⟨ps, hps, rfl⟩ := scalar_quote_iff.1 h'
    obtain ⟨rfl, rfl⟩ := h.unique hps
    exact ⟨rfl, rfl⟩

/-! ## Brackets -/

section Sequences

variable {α : Type} {p : Grammar α} {closing : Char} {first : Bool} {l l' : List α}

/-- No element begins where the sequence ends. -/
theorem NextAt.skipBlank_ne {t u : List Char} {a : α} (ht : NextAt first s t) (ha : p t a u)
    (hclosing : closing ≠ ',')
    (hstarts : ∀ ⦃s a r⦄, p s a r → ∃ c t, skipBlank s = c :: t ∧ c ≠ closing) :
    skipBlank s ≠ closing :: r := by
  intro hs
  cases first with
  | true =>
    obtain ⟨c, v, hc, hne⟩ := hstarts ha
    rw [← show s = t from ht, hs] at hc
    cases hc
    exact hne rfl
  | false =>
    rw [show skipBlank s = ',' :: t from ht] at hs
    cases hs
    exact hclosing rfl

theorem NextAt.unique {t t' : List Char} (h : NextAt first s t) (h' : NextAt first s t') : t = t' := by
  cases first with
  | true => exact h.symm.trans h'
  | false => exact (List.cons.inj (h.symm.trans h')).2

theorem sequence_unique (first : Bool) (hclosing : closing ≠ ',')
    (hstarts : ∀ ⦃s a r⦄, p s a r → ∃ c t, skipBlank s = c :: t ∧ c ≠ closing)
    (hunique : ∀ ⦃s a r a' r'⦄, p s a r → p s a' r' → a = a' ∧ r = r')
    (h : Sequence closing p first s l r) (h' : Sequence closing p first s l' r') :
    l = l' ∧ r = r' := by
  induction l generalizing s first l' with
  | nil =>
    have hs := sequence_nil.1 h
    cases l' with
    | nil => exact ⟨rfl, (List.cons.inj (hs.symm.trans (sequence_nil.1 h'))).2⟩
    | cons a l' =>
      obtain ⟨t, u, ht, ha, -⟩ := sequence_cons.1 h'
      exact absurd hs (ht.skipBlank_ne ha hclosing hstarts)
  | cons a l ih =>
    obtain ⟨t, u, ht, ha, hl⟩ := sequence_cons.1 h
    cases l' with
    | nil => exact absurd (sequence_nil.1 h') (ht.skipBlank_ne ha hclosing hstarts)
    | cons a' l' =>
      obtain ⟨t', u', ht', ha', hl'⟩ := sequence_cons.1 h'
      obtain rfl := ht.unique ht'
      obtain ⟨rfl, rfl⟩ := hunique ha ha'
      obtain ⟨rfl, rfl⟩ := ih false hl hl'
      exact ⟨rfl, rfl⟩

theorem elements_unique (hclosing : closing ≠ ',')
    (hstarts : ∀ ⦃s a r⦄, p s a r → ∃ c t, skipBlank s = c :: t ∧ c ≠ closing)
    (hunique : ∀ ⦃s a r a' r'⦄, p s a r → p s a' r' → a = a' ∧ r = r')
    (h : Elements closing p s l r) (h' : Elements closing p s l' r') : l = l' ∧ r = r' :=
  sequence_unique true hclosing hstarts hunique h h'

theorem member_unique (hunique : ∀ ⦃s a r a' r'⦄, p s a r → p s a' r' → a = a' ∧ r = r')
    {m m' : List Piece × α} (h : Member p s m r) (h' : Member p s m' r') : m = m' ∧ r = r' := by
  obtain ⟨k, a⟩ := m
  obtain ⟨k', a'⟩ := m'
  obtain ⟨t, u, v, ht, hk, hu, ha⟩ := h
  obtain ⟨t', u', v', ht', hk', hu', ha'⟩ := h'
  cases ht.symm.trans ht'
  obtain ⟨rfl, rfl⟩ := hk.unique hk'
  cases hu.symm.trans hu'
  obtain ⟨rfl, rfl⟩ := hunique ha ha'
  exact ⟨rfl, rfl⟩

theorem member_starts {m : List Piece × α} (h : Member p s m r) :
    ∃ c t, skipBlank s = c :: t ∧ c ≠ '}' := by
  obtain ⟨t, -, -, ht, -⟩ := h
  exact ⟨_, t, ht, by decide⟩

/-- What holds of each element can be said beside the sequence. -/
theorem sequence_and_iff (first : Bool) {Q : α → Prop} :
    Sequence closing (fun s a r => p s a r ∧ Q a) first s l r
      ↔ Sequence closing p first s l r ∧ ∀ a ∈ l, Q a := by
  induction l generalizing s first with
  | nil => simp [sequence_nil]
  | cons a l ih =>
    simp only [sequence_cons, ih false, List.forall_mem_cons]
    constructor
    · rintro ⟨t, u, ht, ⟨ha, hq⟩, hl, hall⟩
      exact ⟨⟨t, u, ht, ha, hl⟩, hq, hall⟩
    · rintro ⟨⟨t, u, ht, ha, hl⟩, hq, hall⟩
      exact ⟨t, u, ht, ⟨ha, hq⟩, hl, hall⟩

theorem elements_and_iff {Q : α → Prop} :
    Elements closing (fun s a r => p s a r ∧ Q a) s l r ↔ Elements closing p s l r ∧ ∀ a ∈ l, Q a :=
  sequence_and_iff true

theorem member_and_iff {Q : α → Prop} {m : List Piece × α} :
    Member (fun s a r => p s a r ∧ Q a) s m r ↔ Member p s m r ∧ Q m.2 := by
  constructor
  · rintro ⟨t, u, v, ht, hk, hu, ha, hq⟩
    exact ⟨⟨t, u, v, ht, hk, hu, ha⟩, hq⟩
  · rintro ⟨⟨t, u, v, ht, hk, hu, ha⟩, hq⟩
    exact ⟨t, u, v, ht, hk, hu, ha, hq⟩

end Sequences

/-! ## Values -/

theorem Grammar.Value.unique {d : Nat} {x x' : Tree} (h : Value d s x r) (h' : Value d s x' r') :
    x = x' ∧ r = r' := by
  induction d generalizing s x r x' r' with
  | zero => exact Grammar.Scalar.unique h h'
  | succ d ih =>
    obtain ⟨c, t, hs, -⟩ := (isValueGrammar_value (d + 1)).starts h
    have hunique : ∀ ⦃s x r x' r'⦄, Value d s x r → Value d s x' r' → x = x' ∧ r = r' :=
      fun _ _ _ _ _ h h' => ih h h'
    by_cases hlist : c = '['
    · subst hlist
      obtain ⟨l, hl, rfl⟩ := (value_list_iff hs).1 h
      obtain ⟨l', hl', rfl⟩ := (value_list_iff hs).1 h'
      have hstarts : ∀ ⦃s x r⦄, Value d s x r → ∃ c t, skipBlank s = c :: t ∧ c ≠ ']' := by
        intro s x r h
        obtain ⟨c, t, hs, hc, -⟩ := (isValueGrammar_value d).starts h
        exact ⟨c, t, hs, hc⟩
      obtain ⟨rfl, rfl⟩ := elements_unique (by decide) hstarts hunique hl hl'
      exact ⟨rfl, rfl⟩
    · by_cases hobject : c = '{'
      · subst hobject
        obtain ⟨l, hl, rfl⟩ := (value_object_iff hs).1 h
        obtain ⟨l', hl', rfl⟩ := (value_object_iff hs).1 h'
        obtain ⟨rfl, rfl⟩ := elements_unique (by decide) (fun _ _ _ hm => member_starts hm)
          (fun _ _ _ _ _ hm hm' => member_unique hunique hm hm') hl hl'
        exact ⟨rfl, rfl⟩
      · rw [value_scalar_iff hs hlist hobject] at h h'
        exact h.unique h'

theorem Grammar.Any.unique {x x' : Tree} (h : Any s x r) (h' : Any s x' r') : x = x' ∧ r = r' :=
  ((any_iff_of_length_le (Nat.le_refl _)).1 h).unique ((any_iff_of_length_le (Nat.le_refl _)).1 h')

/-! ## Depth -/

mutual
/-- How deep brackets are nested. -/
def Tree.depth : Tree → Nat
  | .null | .bool _ | .number _ _ | .str _ => 0
  | .arr items => Tree.itemsDepth items + 1
  | .obj members => Tree.membersDepth members + 1

def Tree.itemsDepth : List Tree → Nat
  | [] => 0
  | x :: l => max x.depth (Tree.itemsDepth l)

def Tree.membersDepth : List (List Piece × Tree) → Nat
  | [] => 0
  | (_, x) :: l => max x.depth (Tree.membersDepth l)
end

theorem Tree.itemsDepth_le_iff {l : List Tree} {d : Nat} :
    Tree.itemsDepth l ≤ d ↔ ∀ x ∈ l, x.depth ≤ d := by
  induction l with
  | nil => simp [Tree.itemsDepth]
  | cons x l ih => rw [Tree.itemsDepth, Nat.max_le, ih, List.forall_mem_cons]

theorem Tree.membersDepth_le_iff {l : List (List Piece × Tree)} {d : Nat} :
    Tree.membersDepth l ≤ d ↔ ∀ m ∈ l, m.2.depth ≤ d := by
  induction l with
  | nil => simp [Tree.membersDepth]
  | cons m l ih => rw [Tree.membersDepth, Nat.max_le, ih, List.forall_mem_cons]

theorem Grammar.Scalar.depth_eq {x : Tree} (h : Scalar s x r) : x.depth = 0 := by
  cases h <;> rfl

/-- Any value, if it is nested no deeper than the bound. -/
theorem value_iff_depth {d : Nat} {x : Tree} : Value d s x r ↔ Any s x r ∧ x.depth ≤ d := by
  induction d generalizing s x r with
  | zero =>
    constructor
    · intro h
      exact ⟨⟨0, h⟩, Nat.le_of_eq (Grammar.Scalar.depth_eq h)⟩
    · rintro ⟨h, hd⟩
      rcases any_cases h with ⟨c, t, hs, hlist, hobject, hx⟩ | ⟨_, _, _, _, rfl⟩ | ⟨_, _, _, _, rfl⟩
      · exact (value_scalar_iff hs hlist hobject).2 hx
      · simp [Tree.depth] at hd
      · simp [Tree.depth] at hd
  | succ d ih =>
    have hvalue : Value d = fun s x r => Any s x r ∧ x.depth ≤ d := by
      funext s x r
      exact propext ih
    have hmember : Member (Value d) = fun s m r => Member Any s m r ∧ m.2.depth ≤ d := by
      funext s m r
      rw [hvalue]
      exact propext member_and_iff
    cases hs : skipBlank s with
    | nil => exact iff_of_false (not_value_of_nil hs) fun h => h.1.elim fun _ => not_value_of_nil hs
    | cons c t =>
      by_cases hlist : c = '['
      · subst hlist
        rw [value_list_iff hs, any_list_iff hs, hvalue]
        simp only [elements_and_iff, ← Tree.itemsDepth_le_iff]
        constructor
        · rintro ⟨l, ⟨hl, hd⟩, rfl⟩
          exact ⟨⟨l, hl, rfl⟩, Nat.succ_le_succ hd⟩
        · rintro ⟨⟨l, hl, rfl⟩, hd⟩
          exact ⟨l, ⟨hl, Nat.le_of_succ_le_succ hd⟩, rfl⟩
      · by_cases hobject : c = '{'
        · subst hobject
          rw [value_object_iff hs, any_object_iff hs, hmember]
          simp only [elements_and_iff, ← Tree.membersDepth_le_iff]
          constructor
          · rintro ⟨l, ⟨hl, hd⟩, rfl⟩
            exact ⟨⟨l, hl, rfl⟩, Nat.succ_le_succ hd⟩
          · rintro ⟨⟨l, hl, rfl⟩, hd⟩
            exact ⟨l, ⟨hl, Nat.le_of_succ_le_succ hd⟩, rfl⟩
        · rw [value_scalar_iff hs hlist hobject, any_scalar_iff hs hlist hobject]
          constructor
          · intro h
            exact ⟨h, by rw [h.depth_eq]; exact Nat.zero_le _⟩
          · intro h
            exact h.1

/-! ## Documents -/

/-- A text is a document in one way, within any bound that its brackets keep. -/
theorem IsDocument.iff_eq {d bound : Nat} {x y : Tree} (h : IsDocument d s x) :
    IsDocument bound s y ↔ y = x ∧ x.depth ≤ bound := by
  obtain ⟨r, hx, hr⟩ := h
  have hany := (value_iff_depth.1 hx).1
  constructor
  · rintro ⟨r', hy, -⟩
    obtain ⟨hy, hdepth⟩ := value_iff_depth.1 hy
    obtain ⟨rfl, -⟩ := hy.unique hany
    exact ⟨rfl, hdepth⟩
  · rintro ⟨rfl, hdepth⟩
    exact ⟨r, value_iff_depth.2 ⟨hany, hdepth⟩, hr⟩

/-- Of a document its one tree is read. -/
theorem IsDocument.read_iff {d bound : Nat} {x : Tree} {j : Json} (h : IsDocument d s x) :
    document (value bound) s = .ok j ↔ x.depth ≤ bound ∧ x.value? = some j := by
  simp only [document_value_iff, h.iff_eq, and_assoc, exists_eq_left]

end TopicMesh.Json
