import TopicMesh.Proofs.Json.Scalars
import TopicMesh.Proofs.Json.Sequence

/-!
# TopicMesh.Proofs.Json.Brackets

The loops over lists and objects accept exactly the sequences of the grammar, whatever stands in them.

* `items_iff`, `skipItems_iff`      — a list, read or passed over.
* `members_iff`, `skipMembers_iff`  — an object, read member by member or passed over.

Each loop is followed from any element on, the first one or a later one: `Sequence` says what is still to
come then, and `NextAt` where it begins.
-/

namespace TopicMesh.Json

open Grammar (Pieces Further Elements Member)

variable {s r : List Char}

theorem skipBlank_idem (s : List Char) : skipBlank (skipBlank s) = skipBlank s := by
  induction s with
  | nil => rfl
  | cons c s ih => cases hc : isBlank c <;> simp_all [skipBlank]

theorem length_skipBlank_le (s : List Char) : (skipBlank s).length ≤ s.length :=
  (List.dropWhile_sublist _).length_le

theorem length_of_skipBlank {c : Char} {t : List Char} (h : skipBlank s = c :: t) :
    t.length < s.length := by
  have hle := length_skipBlank_le s
  rw [h] at hle
  exact hle

/-- A grammar of values: blanks may stand before a value, and it cannot be taken for the end of a
list. -/
structure IsValueGrammar {α : Type} (p : Grammar α) : Prop where
  blank : ∀ ⦃s a r⦄, p (skipBlank s) a r ↔ p s a r
  starts : ∀ ⦃s a r⦄, p s a r → ∃ c t, skipBlank s = c :: t ∧ c ≠ ']' ∧ r.length ≤ t.length

theorem IsValueGrammar.length_lt {α : Type} {p : Grammar α} (hp : IsValueGrammar p) {a : α}
    (h : p s a r) : r.length < s.length := by
  obtain ⟨c, t, hs, -, hle⟩ := hp.starts h
  exact Nat.lt_of_le_of_lt hle (length_of_skipBlank hs)

/-- Values of which the meaning is kept are values. -/
theorem IsValueGrammar.exists {α β : Type} {p : Grammar α} (hp : IsValueGrammar p) (R : α → β → Prop) :
    IsValueGrammar fun s b r => ∃ a, p s a r ∧ R a b where
  blank s b r := by simp only [hp.blank (r := r)]
  starts s b r := fun ⟨_, h, _⟩ => hp.starts h

/-! ## What is still to come -/

section Sequences

variable {α : Type} {p : Grammar α} {closing : Char} {first : Bool}

/-- All the elements, or those after the first one. -/
def Sequence (closing : Char) (p : Grammar α) : Bool → Grammar (List α)
  | true => Elements closing p
  | false => Further closing p

/-- The text of the next element is `t`, which begins after a comma unless it is the first one. -/
def NextAt : Bool → List Char → List Char → Prop
  | true, s, t => s = t
  | false, s, t => skipBlank s = ',' :: t

theorem sequence_nil : Sequence closing p first s [] r ↔ skipBlank s = closing :: r := by
  cases first <;> exact Iff.rfl

theorem sequence_cons {a : α} {l : List α} : Sequence closing p first s (a :: l) r
    ↔ ∃ t u, NextAt first s t ∧ p t a u ∧ Sequence closing p false u l r := by
  cases first with
  | true => simp only [Sequence, NextAt, Elements, exists_and_left, exists_eq_left']
  | false => exact Iff.rfl

theorem sequence_iff {l : List α} : Sequence closing p first s l r
    ↔ (skipBlank s = closing :: r ∧ l = [])
      ∨ ∃ t a u as, NextAt first s t ∧ p t a u ∧ Sequence closing p false u as r ∧ l = a :: as := by
  cases l with
  | nil => simp [sequence_nil]
  | cons a l => simp [sequence_cons]

theorem NextAt.length_le {t : List Char} (h : NextAt first s t) : t.length ≤ s.length := by
  cases first with
  | true => exact Nat.le_of_eq (congrArg List.length h.symm)
  | false => exact Nat.le_of_lt (length_of_skipBlank h)

end Sequences

/-! ## Lists -/

section Items

variable {α : Type} {p : Grammar α} {item : Reader α} {skip : List Char → Except Fault (List Char)}
  {first : Bool}

theorem nextItem_none_iff : nextItem first s = .ok (none, r) ↔ skipBlank s = ']' :: r := by
  rw [nextItem]
  cases hs : skipBlank s with
  | nil => simp
  | cons c u =>
    by_cases hc : c = ']'
    · simp [hc]
    · by_cases hcomma : c = ','
      · cases hu : skipBlank u <;> cases first <;> simp [hcomma, hu, ite_eq_iff]
      · cases first <;> simp [hc, hcomma]

theorem nextItem_some_iff {t : List Char} : nextItem first s = .ok (some (), t)
    ↔ ∃ u, NextAt first s u ∧ skipBlank u = t ∧ ∃ c v, t = c :: v ∧ c ≠ ']' := by
  rw [nextItem]
  cases first with
  | true =>
    simp only [NextAt, exists_eq_left']
    cases hs : skipBlank s with
    | nil =>
      refine error_iff ?_
      rintro ⟨ht, _, _, hcons, _⟩
      cases ht.trans hcons
    | cons c u =>
      by_cases hc : c = ']'
      · simp only [if_pos hc]
        refine iff_of_false (by simp) ?_
        rintro ⟨rfl, _, _, ⟨⟩, hne⟩
        exact absurd hc hne
      · simp only [if_neg hc, if_true]
        constructor
        · rintro ⟨⟩
          exact ⟨rfl, c, u, rfl, hc⟩
        · rintro ⟨rfl, -⟩
          rfl
  | false =>
    simp only [NextAt]
    cases hs : skipBlank s with
    | nil =>
      refine error_iff ?_
      rintro ⟨_, h, _⟩
      cases h
    | cons c u =>
      by_cases hcomma : c = ','
      · subst hcomma
        simp only [Char.reduceEq, if_false, if_true, Bool.false_eq_true]
        cases hu : skipBlank u with
        | nil =>
          refine error_iff ?_
          rintro ⟨_, ⟨⟩, rfl, _, _, h, -⟩
          cases hu.symm.trans h
        | cons d v =>
          by_cases hd : d = ']'
          · simp only [if_pos hd]
            refine error_iff ?_
            rintro ⟨_, ⟨⟩, rfl, _, _, h, hne⟩
            cases hu.symm.trans h
            exact absurd hd hne
          · simp only [if_neg hd]
            constructor
            · rintro ⟨⟩
              exact ⟨u, rfl, hu, d, v, rfl, hd⟩
            · rintro ⟨_, ⟨⟩, rfl, -⟩
              rw [hu]
      · have hne : ∀ v, c :: u ≠ ',' :: v := fun v h => hcomma (List.cons.inj h).1
        by_cases hc : c = ']' <;> simp [hc, hcomma, hne]

/-- An element is read where the next one begins. -/
theorem nextItem_read_iff (hp : IsValueGrammar p) (hread : ∀ ⦃s a r⦄, item s = .ok (a, r) ↔ p s a r)
    {a : α} {u : List Char} : (∃ t, nextItem first s = .ok (some (), t) ∧ item t = .ok (a, u))
      ↔ ∃ t, NextAt first s t ∧ p t a u := by
  simp only [nextItem_some_iff, hread]
  constructor
  · rintro ⟨_, ⟨t, ht, rfl, -⟩, ha⟩
    exact ⟨t, ht, hp.blank.1 ha⟩
  · rintro ⟨t, ht, ha⟩
    obtain ⟨c, v, hv, hc, -⟩ := hp.starts ha
    exact ⟨_, ⟨t, ht, rfl, c, v, hv, hc⟩, hp.blank.2 ha⟩

theorem items_succ_iff {bound : Nat} {l : List α} :
    items item (bound + 1) first s = .ok (l, r)
      ↔ (nextItem first s = .ok (none, r) ∧ l = [])
        ∨ ∃ a u as, (∃ t, nextItem first s = .ok (some (), t) ∧ item t = .ok (a, u))
          ∧ items item bound false u = .ok (as, r) ∧ l = a :: as := by
  rw [items]
  rcases nextItem first s with e | ⟨_ | _, t⟩
  · simp
  · simp [and_comm, eq_comm]
  · rcases ha : item t with e | ⟨a, u⟩
    · simp [ha]
    · rcases has : items item bound false u with e | ⟨as, v⟩
      · simp [ha, has]
      · simp [ha, has]
        grind

theorem items_sequence_iff (hp : IsValueGrammar p)
    (hread : ∀ ⦃s a r⦄, item s = .ok (a, r) ↔ p s a r) {bound : Nat} (hb : s.length < bound) {l : List α} :
    items item bound first s = .ok (l, r) ↔ Sequence ']' p first s l r := by
  induction bound generalizing s l first with
  | zero => exact absurd hb (Nat.not_lt_zero _)
  | succ bound ih =>
    have hlt {t u : List Char} {a : α} (ht : NextAt first s t) (ha : p t a u) : u.length < bound := by
      have h₁ := ht.length_le
      have h₂ := hp.length_lt ha
      omega
    rw [items_succ_iff, nextItem_none_iff, sequence_iff]
    simp only [nextItem_read_iff hp hread]
    refine or_congr_right ⟨?_, ?_⟩
    · rintro ⟨a, u, as, ⟨t, ht, ha⟩, has, rfl⟩
      exact ⟨t, a, u, as, ht, ha, (ih (hlt ht ha)).1 has, rfl⟩
    · rintro ⟨t, a, u, as, ht, ha, has, rfl⟩
      exact ⟨a, u, as, ⟨t, ht, ha⟩, (ih (hlt ht ha)).2 has, rfl⟩

theorem items_iff (hp : IsValueGrammar p) (hread : ∀ ⦃s a r⦄, item s = .ok (a, r) ↔ p s a r)
    {bound : Nat} (hb : s.length < bound) {l : List α} :
    items item bound true s = .ok (l, r) ↔ Elements ']' p s l r :=
  items_sequence_iff hp hread hb

theorem skipComma_none_iff {closing : Char} {eof wanted : Cause} :
    skipComma first closing eof wanted s = .ok (none, r) ↔ skipBlank s = closing :: r := by
  rw [skipComma]
  cases hs : skipBlank s with
  | nil => simp
  | cons c u =>
    by_cases hc : c = closing
    · simp [hc]
    · have hne : c :: u ≠ closing :: r := fun h => hc (List.cons.inj h).1
      simp only [if_neg hc, hne, iff_false]
      cases first <;> by_cases hcomma : c = ',' <;> simp [hcomma]

theorem skipComma_true_iff {closing : Char} {eof wanted : Cause} {t : List Char} :
    skipComma true closing eof wanted s = .ok (some (), t)
      ↔ skipBlank s = t ∧ ∃ c u, t = c :: u ∧ c ≠ closing := by
  rw [skipComma]
  cases hs : skipBlank s with
  | nil =>
    refine error_iff ?_
    rintro ⟨ht, _, _, hcons, _⟩
    cases ht.trans hcons
  | cons c u =>
    by_cases hc : c = closing
    · simp only [if_pos hc]
      refine iff_of_false (by simp) ?_
      rintro ⟨rfl, _, _, ⟨⟩, hne⟩
      exact absurd hc hne
    · simp only [if_neg hc, if_true]
      constructor
      · rintro ⟨⟩
        exact ⟨rfl, c, u, rfl, hc⟩
      · rintro ⟨rfl, -⟩
        rfl

theorem skipComma_false_iff {closing : Char} (hne : closing ≠ ',') {eof wanted : Cause}
    {t : List Char} :
    skipComma false closing eof wanted s = .ok (some (), t) ↔ skipBlank s = ',' :: t := by
  rw [skipComma]
  cases hs : skipBlank s with
  | nil => simp
  | cons c u =>
    by_cases hc : c = closing
    · subst hc
      simp [hne]
    · simp only [if_neg hc, Bool.false_eq_true, if_false]
      by_cases hcomma : c = ',' <;> simp [hcomma]

/-- What is asked of the text after a comma is asked where the next element begins. -/
theorem skipComma_some_iff {closing : Char} (hne : closing ≠ ',') {eof wanted : Cause}
    {Q : List Char → Prop} (hblank : ∀ t, Q (skipBlank t) ↔ Q t)
    (hstarts : ∀ t, Q t → ∃ c u, skipBlank t = c :: u ∧ c ≠ closing) :
    (∃ t, skipComma first closing eof wanted s = .ok (some (), t) ∧ Q t)
      ↔ ∃ t, NextAt first s t ∧ Q t := by
  cases first with
  | true =>
    simp only [skipComma_true_iff, NextAt, exists_eq_left']
    constructor
    · rintro ⟨_, ⟨rfl, -⟩, ht⟩
      exact (hblank s).1 ht
    · intro hs
      exact ⟨_, ⟨rfl, hstarts s hs⟩, (hblank s).2 hs⟩
  | false => simp only [skipComma_false_iff hne, NextAt]

theorem skipItems_succ_iff {bound : Nat} :
    skipItems skip (bound + 1) first s = .ok r
      ↔ skipComma first ']' .eofInList .expectedCommaOrBracket s = .ok (none, r)
        ∨ ∃ t, skipComma first ']' .eofInList .expectedCommaOrBracket s = .ok (some (), t)
          ∧ ∃ u, skip t = .ok u ∧ skipItems skip bound false u = .ok r := by
  rw [skipItems]
  rcases skipComma first ']' .eofInList .expectedCommaOrBracket s with e | ⟨_ | _, t⟩
  · simp
  · simp
  · rcases ht : skip t with e | u <;> simp [ht]

theorem skipItems_sequence_iff (hp : IsValueGrammar p)
    (hskip : ∀ ⦃s r⦄, skip s = .ok r ↔ ∃ a, p s a r) {bound : Nat} (hb : s.length < bound) :
    skipItems skip bound first s = .ok r ↔ ∃ l, Sequence ']' p first s l r := by
  induction bound generalizing s first with
  | zero => exact absurd hb (Nat.not_lt_zero _)
  | succ bound ih =>
    have hlt {t u : List Char} {a : α} (ht : NextAt first s t) (ha : p t a u) : u.length < bound := by
      have h₁ := ht.length_le
      have h₂ := hp.length_lt ha
      omega
    rw [skipItems_succ_iff, skipComma_none_iff, skipComma_some_iff (by decide)]
    · constructor
      · rintro (hs | ⟨t, ht, u, hu, hrest⟩)
        · exact ⟨[], sequence_iff.2 (.inl ⟨hs, rfl⟩)⟩
        · obtain ⟨a, ha⟩ := hskip.1 hu
          obtain ⟨l, hl⟩ := (ih (hlt ht ha)).1 hrest
          exact ⟨a :: l, sequence_iff.2 (.inr ⟨t, a, u, l, ht, ha, hl, rfl⟩)⟩
      · rintro ⟨_, hsequence⟩
        obtain ⟨hs, -⟩ | ⟨t, a, u, l, ht, ha, hl, -⟩ := sequence_iff.1 hsequence
        · exact .inl hs
        · exact .inr ⟨t, ht, u, hskip.2 ⟨a, ha⟩, (ih (hlt ht ha)).2 ⟨l, hl⟩⟩
    · intro t
      simp only [hskip, hp.blank]
    · rintro t ⟨u, hu, -⟩
      obtain ⟨a, ha⟩ := hskip.1 hu
      obtain ⟨c, v, hv, hc, -⟩ := hp.starts ha
      exact ⟨c, v, hv, hc⟩

theorem skipItems_iff (hp : IsValueGrammar p) (hskip : ∀ ⦃s r⦄, skip s = .ok r ↔ ∃ a, p s a r)
    {bound : Nat} (hb : s.length < bound) :
    skipItems skip bound true s = .ok r ↔ ∃ l, Elements ']' p s l r :=
  skipItems_sequence_iff hp hskip hb

end Items

/-! ## Objects -/

/-- A key with its characters, and the text after it. -/
def KeyAt (s : List Char) (k : String) (r : List Char) : Prop :=
  ∃ t ps cs, skipBlank s = '"' :: t ∧ Pieces t ps r ∧ spell ps = some cs ∧ k = String.ofList cs

theorem colon_iff : colon s = .ok r ↔ skipBlank s = ':' :: r := by
  rw [colon]
  cases skipBlank s with
  | nil => simp
  | cons c u => by_cases hc : c = ':' <;> simp [hc]

theorem nextKey_key_iff {c : Char} {o : Option String} :
    nextKey.key c s = .ok (o, r) ↔ c = '"' ∧ ∃ k ps cs, o = some k ∧ Pieces s ps r
      ∧ spell ps = some cs ∧ k = String.ofList cs := by
  rw [nextKey.key]
  by_cases hc : c = '"'
  · simp only [hc, if_true, true_and]
    cases hs : stringBody s with
    | error e =>
      refine error_iff ?_
      rintro ⟨_, ps, cs, -, hps, hcs, -⟩
      cases hs.symm.trans (stringBody_iff.2 ⟨ps, hps, hcs⟩)
    | ok read =>
      obtain ⟨cs, u⟩ := read
      constructor
      · rintro ⟨⟩
        obtain ⟨ps, hps, hcs⟩ := stringBody_iff.1 hs
        exact ⟨_, ps, cs, rfl, hps, hcs, rfl⟩
      · rintro ⟨_, ps, cs, rfl, hps, hcs, rfl⟩
        cases hs.symm.trans (stringBody_iff.2 ⟨ps, hps, hcs⟩)
        rfl
  · simp [hc]

theorem nextKey_none_iff {first : Bool} :
    nextKey first s = .ok (none, r) ↔ skipBlank s = '}' :: r := by
  have hkey (c : Char) (u : List Char) : nextKey.key c u ≠ .ok (none, r) := by
    intro h
    obtain ⟨-, k, -, -, hk, -⟩ := nextKey_key_iff.1 h
    cases hk
  rw [nextKey]
  cases hs : skipBlank s with
  | nil => simp
  | cons c u =>
    by_cases hc : c = '}'
    · simp [hc]
    · cases first with
      | true => simp [hc, hkey]
      | false =>
        by_cases hcomma : c = ','
        · cases hu : skipBlank u with
          | nil => simp [hcomma, hu]
          | cons d v => by_cases hd : d = '}' <;> simp [hcomma, hu, hd, hkey]
        · simp [hc, hcomma]

theorem nextKey_true_iff {k : String} : nextKey true s = .ok (some k, r) ↔ KeyAt s k r := by
  rw [nextKey, KeyAt]
  cases hs : skipBlank s with
  | nil =>
    refine error_iff ?_
    rintro ⟨_, _, _, h, _⟩
    cases h
  | cons c u =>
    by_cases hc : c = '}'
    · subst hc
      refine iff_of_false (by simp) ?_
      rintro ⟨_, _, _, h, _⟩
      cases h
    · simp only [if_neg hc, if_true, nextKey_key_iff]
      constructor
      · rintro ⟨rfl, _, ps, cs, ⟨⟩, h⟩
        exact ⟨u, ps, cs, rfl, h⟩
      · rintro ⟨_, ps, cs, ⟨⟩, h⟩
        exact ⟨rfl, k, ps, cs, rfl, h⟩

theorem nextKey_some_iff {first : Bool} {k : String} :
    nextKey first s = .ok (some k, r) ↔ ∃ t, NextAt first s t ∧ KeyAt t k r := by
  cases first with
  | true => simp only [nextKey_true_iff, NextAt, exists_eq_left']
  | false =>
    rw [nextKey]
    simp only [NextAt]
    cases hs : skipBlank s with
    | nil =>
      refine error_iff ?_
      rintro ⟨_, h, _⟩
      cases h
    | cons c u =>
      by_cases hcomma : c = ','
      · subst hcomma
        have hkey : nextKey true u = .ok (some k, r) ↔ ∃ t, ',' :: u = ',' :: t ∧ KeyAt t k r := by
          simp only [nextKey_true_iff, List.cons.injEq, true_and, exists_eq_left']
        rw [← hkey, nextKey]
        simp only [Char.reduceEq, if_false, if_true, Bool.false_eq_true]
        cases skipBlank u with
        | nil => simp
        | cons d v => by_cases hd : d = '}' <;> simp [hd]
      · have hne : ∀ v, c :: u ≠ ',' :: v := fun v h => hcomma (List.cons.inj h).1
        by_cases hc : c = '}' <;> simp [hc, hcomma, hne]

section Members

variable {α σ : Type} {p : Grammar α} {put : σ → String → α → Option σ}
  {member : σ → String → Reader σ} {skip : List Char → Except Fault (List Char)} {first : Bool}

/-- What comes of members that are put into a state one after the other. -/
def gather (put : σ → String → α → Option σ) : σ → List (List Piece × α) → Option σ
  | acc, [] => some acc
  | acc, (k, a) :: l =>
    (spell k).bind fun cs => (put acc (String.ofList cs) a).bind fun acc => gather put acc l

theorem gather_cons_eq_some {acc acc' : σ} {k : List Piece} {a : α} {l : List (List Piece × α)} :
    gather put acc ((k, a) :: l) = some acc'
      ↔ ∃ cs acc₁, spell k = some cs ∧ put acc (String.ofList cs) a = some acc₁
        ∧ gather put acc₁ l = some acc' := by
  simp only [gather, Option.bind_eq_some_iff, exists_and_left]

theorem members_succ_iff {bound : Nat} {acc acc' : σ} :
    members member (bound + 1) first acc s = .ok (acc', r)
      ↔ (nextKey first s = .ok (none, r) ∧ acc' = acc)
        ∨ ∃ acc₁ u, (∃ k t, nextKey first s = .ok (some k, t) ∧ member acc k t = .ok (acc₁, u))
          ∧ members member bound false acc₁ u = .ok (acc', r) := by
  rw [members]
  rcases nextKey first s with e | ⟨_ | k, t⟩
  · simp
  · simp [and_comm, eq_comm]
  · rcases hm : member acc k t with e | ⟨acc₁, u⟩ <;> simp [hm]

theorem member_skipBlank {m : List Piece × α} : Member p (skipBlank s) m r ↔ Member p s m r := by
  simp only [Member, skipBlank_idem]

theorem length_member_lt (hlen : ∀ ⦃s a r⦄, p s a r → r.length < s.length) {m : List Piece × α}
    (h : Member p s m r) : r.length < s.length := by
  obtain ⟨t, u, v, hs, hps, hu, ha⟩ := h
  have h₁ := length_of_skipBlank hs
  have h₂ := hps.length_lt
  have h₃ := length_of_skipBlank hu
  have h₄ := hlen ha
  omega

/-- What a member is for is read after its key and its colon. -/
def ReadsMember (member : σ → String → Reader σ) (p : Grammar α) (put : σ → String → α → Option σ) :
    Prop :=
  ∀ ⦃acc acc' k s r⦄, member acc k s = .ok (acc', r)
    ↔ ∃ a t, skipBlank s = ':' :: t ∧ p t a r ∧ put acc k a = some acc'

/-- A member is read where the next one begins. -/
theorem nextKey_read_iff (hread : ReadsMember member p put) {acc acc' : σ} :
    (∃ k t, nextKey first s = .ok (some k, t) ∧ member acc k t = .ok (acc', r))
      ↔ ∃ t ps a cs, NextAt first s t ∧ Member p t (ps, a) r ∧ spell ps = some cs
        ∧ put acc (String.ofList cs) a = some acc' := by
  simp only [nextKey_some_iff]
  constructor
  · rintro ⟨_, t, ⟨v, hv, w, ps, cs, hw, hps, hcs, rfl⟩, hm⟩
    obtain ⟨a, x, hx, ha, hput⟩ := hread.1 hm
    exact ⟨v, ps, a, cs, hv, ⟨w, t, x, hw, hps, hx, ha⟩, hcs, hput⟩
  · rintro ⟨v, ps, a, cs, hv, ⟨w, t, x, hw, hps, hx, ha⟩, hcs, hput⟩
    exact ⟨_, t, ⟨v, hv, w, ps, cs, hw, hps, hcs, rfl⟩, hread.2 ⟨a, x, hx, ha, hput⟩⟩

theorem members_sequence_iff (hlen : ∀ ⦃s a r⦄, p s a r → r.length < s.length)
    (hread : ReadsMember member p put) {bound : Nat} (hb : s.length < bound) {acc acc' : σ} :
    members member bound first acc s = .ok (acc', r)
      ↔ ∃ l, Sequence '}' (Member p) first s l r ∧ gather put acc l = some acc' := by
  induction bound generalizing s acc first with
  | zero => exact absurd hb (Nat.not_lt_zero _)
  | succ bound ih =>
    have hlt {t u : List Char} {m : List Piece × α} (ht : NextAt first s t) (hm : Member p t m u) :
        u.length < bound := by
      have h₁ := ht.length_le
      have h₂ := length_member_lt hlen hm
      omega
    rw [members_succ_iff, nextKey_none_iff]
    constructor
    · rintro (⟨hs, rfl⟩ | ⟨acc₁, u, hnext, hrest⟩)
      · exact ⟨[], sequence_iff.2 (.inl ⟨hs, rfl⟩), rfl⟩
      · obtain ⟨t, ps, a, cs, ht, hm, hcs, hput⟩ := (nextKey_read_iff hread).1 hnext
        obtain ⟨l, hl, hgather⟩ := (ih (hlt ht hm)).1 hrest
        exact ⟨(ps, a) :: l, sequence_iff.2 (.inr ⟨t, (ps, a), u, l, ht, hm, hl, rfl⟩),
          gather_cons_eq_some.2 ⟨cs, acc₁, hcs, hput, hgather⟩⟩
    · rintro ⟨_, hsequence, hgather⟩
      obtain ⟨hs, rfl⟩ | ⟨t, ⟨ps, a⟩, u, l, ht, hm, hl, rfl⟩ := sequence_iff.1 hsequence
      · exact .inl ⟨hs, (Option.some.inj hgather).symm⟩
      · obtain ⟨cs, acc₁, hcs, hput, hgather⟩ := gather_cons_eq_some.1 hgather
        exact .inr ⟨acc₁, u, (nextKey_read_iff hread).2 ⟨t, ps, a, cs, ht, hm, hcs, hput⟩,
          (ih (hlt ht hm)).2 ⟨l, hl, hgather⟩⟩

theorem members_iff (hlen : ∀ ⦃s a r⦄, p s a r → r.length < s.length)
    (hread : ReadsMember member p put) {bound : Nat} (hb : s.length < bound) {acc acc' : σ} :
    members member bound true acc s = .ok (acc', r)
      ↔ ∃ l, Elements '}' (Member p) s l r ∧ gather put acc l = some acc' :=
  members_sequence_iff hlen hread hb

theorem skipKey_iff : skipKey s = .ok r
    ↔ ∃ t ps u, skipBlank s = '"' :: t ∧ Pieces t ps u ∧ skipBlank u = ':' :: r := by
  rw [skipKey]
  cases skipBlank s with
  | nil =>
    refine error_iff ?_
    rintro ⟨_, _, _, h, _⟩
    cases h
  | cons c t =>
    by_cases hc : c = '"'
    · subst hc
      simp only [if_true]
      cases ht : skipString t with
      | error e =>
        refine error_iff ?_
        rintro ⟨_, ps, u, ⟨⟩, hps, -⟩
        cases ht.symm.trans (skipString_iff.2 ⟨ps, hps⟩)
      | ok u =>
        simp only [colon_iff]
        constructor
        · intro hu
          obtain ⟨ps, hps⟩ := skipString_iff.1 ht
          exact ⟨t, ps, u, rfl, hps, hu⟩
        · rintro ⟨_, ps, v, ⟨⟩, hps, hv⟩
          cases ht.symm.trans (skipString_iff.2 ⟨ps, hps⟩)
          exact hv
    · have hne : ∀ u, c :: t ≠ '"' :: u := fun u h => hc (List.cons.inj h).1
      simp [hc, hne]

theorem skipMembers_succ_iff {bound : Nat} :
    skipMembers skip (bound + 1) first s = .ok r
      ↔ skipComma first '}' .eofInObject .expectedCommaOrBrace s = .ok (none, r)
        ∨ ∃ t, skipComma first '}' .eofInObject .expectedCommaOrBrace s = .ok (some (), t)
          ∧ ∃ v, (∃ u, skipKey t = .ok u ∧ skip u = .ok v) ∧ skipMembers skip bound false v = .ok r := by
  rw [skipMembers]
  rcases skipComma first '}' .eofInObject .expectedCommaOrBrace s with e | ⟨_ | _, t⟩
  · simp
  · simp
  · rcases ht : skipKey t with e | u
    · simp [ht]
    · rcases hu : skip u with e | v <;> simp [ht, hu]

/-- A key and what it is for, passed over. -/
theorem exists_member_iff (hskip : ∀ ⦃s r⦄, skip s = .ok r ↔ ∃ a, p s a r) :
    (∃ u, skipKey s = .ok u ∧ skip u = .ok r) ↔ ∃ m, Member p s m r := by
  simp only [skipKey_iff, hskip]
  constructor
  · rintro ⟨v, ⟨t, ps, u, hs, hps, hu⟩, a, ha⟩
    exact ⟨(ps, a), t, u, v, hs, hps, hu, ha⟩
  · rintro ⟨⟨ps, a⟩, t, u, v, hs, hps, hu, ha⟩
    exact ⟨v, ⟨t, ps, u, hs, hps, hu⟩, a, ha⟩

theorem skipMembers_sequence_iff (hlen : ∀ ⦃s a r⦄, p s a r → r.length < s.length)
    (hskip : ∀ ⦃s r⦄, skip s = .ok r ↔ ∃ a, p s a r) {bound : Nat} (hb : s.length < bound) :
    skipMembers skip bound first s = .ok r ↔ ∃ l, Sequence '}' (Member p) first s l r := by
  induction bound generalizing s first with
  | zero => exact absurd hb (Nat.not_lt_zero _)
  | succ bound ih =>
    have hlt {t u : List Char} {m : List Piece × α} (ht : NextAt first s t) (hm : Member p t m u) :
        u.length < bound := by
      have h₁ := ht.length_le
      have h₂ := length_member_lt hlen hm
      omega
    rw [skipMembers_succ_iff, skipComma_none_iff]
    simp only [exists_member_iff hskip]
    rw [skipComma_some_iff (by decide)]
    · constructor
      · rintro (hs | ⟨t, ht, v, ⟨m, hm⟩, hrest⟩)
        · exact ⟨[], sequence_iff.2 (.inl ⟨hs, rfl⟩)⟩
        · obtain ⟨l, hl⟩ := (ih (hlt ht hm)).1 hrest
          exact ⟨m :: l, sequence_iff.2 (.inr ⟨t, m, v, l, ht, hm, hl, rfl⟩)⟩
      · rintro ⟨_, hsequence⟩
        obtain ⟨hs, -⟩ | ⟨t, m, v, l, ht, hm, hl, -⟩ := sequence_iff.1 hsequence
        · exact .inl hs
        · exact .inr ⟨t, ht, v, ⟨m, hm⟩, (ih (hlt ht hm)).2 ⟨l, hl⟩⟩
    · intro t
      simp only [member_skipBlank]
    · rintro t ⟨v, ⟨m, u, -, -, hu, -⟩, -⟩
      exact ⟨'"', u, hu, by decide⟩

theorem skipMembers_iff (hlen : ∀ ⦃s a r⦄, p s a r → r.length < s.length)
    (hskip : ∀ ⦃s r⦄, skip s = .ok r ↔ ∃ a, p s a r) {bound : Nat} (hb : s.length < bound) :
    skipMembers skip bound true s = .ok r ↔ ∃ l, Elements '}' (Member p) s l r :=
  skipMembers_sequence_iff hlen hskip hb

end Members

end TopicMesh.Json
