import TopicMesh.Proofs.Json.Brackets

/-!
# TopicMesh.Proofs.Json.Values

The readers of whole values accept exactly what the grammar says.

* `value_iff`       — reading a value: its brackets within the bound, and a tree that has a value.
* `skipValue_iff`   — passing over one: any tree, whatever it means.
* `document_iff`    — a whole text.
-/

namespace TopicMesh.Json

open Grammar (Pieces Decimal Scalar Elements Member Bracketed Value Any)

variable {s r : List Char} {d : Nat} {x : Tree}

/-! ## The grammar of values -/

theorem value_skipBlank (d : Nat) : Value d (skipBlank s) x r ↔ Value d s x r := by
  cases d <;> simp only [Value, skipBlank_idem]

section Sequences

variable {α : Type} {p q : Grammar α} {closing : Char} {l : List α}

theorem sequence_length_lt (first : Bool) (hlen : ∀ ⦃s a r⦄, p s a r → r.length < s.length)
    (h : Sequence closing p first s l r) : r.length < s.length := by
  induction l generalizing s first with
  | nil => exact length_of_skipBlank (sequence_nil.1 h)
  | cons a l ih =>
    obtain ⟨t, u, ht, ha, hl⟩ := sequence_cons.1 h
    have h₁ := ht.length_le
    have h₂ := hlen ha
    have h₃ := ih false hl
    omega

/-- What the elements are is only asked of texts that are not longer than the whole. -/
theorem sequence_mono (first : Bool) {n : Nat} (hlen : ∀ ⦃s a r⦄, p s a r → r.length < s.length)
    (hpq : ∀ ⦃s a r⦄, s.length ≤ n → p s a r → q s a r) (hs : s.length ≤ n)
    (h : Sequence closing p first s l r) : Sequence closing q first s l r := by
  induction l generalizing s first with
  | nil => exact sequence_nil.2 (sequence_nil.1 h)
  | cons a l ih =>
    obtain ⟨t, u, ht, ha, hl⟩ := sequence_cons.1 h
    have h₁ := ht.length_le
    have h₂ := hlen ha
    exact sequence_cons.2 ⟨t, u, ht, hpq (by omega) ha, ih false (by omega) hl⟩

theorem elements_length_lt (hlen : ∀ ⦃s a r⦄, p s a r → r.length < s.length)
    (h : Elements closing p s l r) : r.length < s.length :=
  sequence_length_lt true hlen h

theorem elements_mono {n : Nat} (hlen : ∀ ⦃s a r⦄, p s a r → r.length < s.length)
    (hpq : ∀ ⦃s a r⦄, s.length ≤ n → p s a r → q s a r) (hs : s.length ≤ n)
    (h : Elements closing p s l r) : Elements closing q s l r :=
  sequence_mono true hlen hpq hs h

/-- Elements that are something with a meaning are elements, and each of them has its meaning. -/
theorem sequence_exists_iff (first : Bool) {β : Type} {R : α → β → Prop} {bs : List β} :
    Sequence closing (fun s b r => ∃ a, p s a r ∧ R a b) first s bs r
      ↔ ∃ as, Sequence closing p first s as r ∧ List.Forall₂ R as bs := by
  induction bs generalizing s first with
  | nil => simp [sequence_nil]
  | cons b bs ih =>
    rw [sequence_cons]
    constructor
    · rintro ⟨t, u, hs, ⟨a, ha, hab⟩, hl⟩
      obtain ⟨as, has, habs⟩ := (ih false).1 hl
      exact ⟨a :: as, sequence_cons.2 ⟨t, u, hs, ha, has⟩, .cons hab habs⟩
    · rintro ⟨as, has, habs⟩
      cases habs with
      | cons hab habs =>
        obtain ⟨t, u, hs, ha, has⟩ := sequence_cons.1 has
        exact ⟨t, u, hs, ⟨_, ha, hab⟩, (ih false).2 ⟨_, has, habs⟩⟩

theorem elements_exists_iff {β : Type} {R : α → β → Prop} {bs : List β} :
    Elements closing (fun s b r => ∃ a, p s a r ∧ R a b) s bs r
      ↔ ∃ as, Elements closing p s as r ∧ List.Forall₂ R as bs :=
  sequence_exists_iff true

theorem member_mono {n : Nat} {m : List Piece × α}
    (hpq : ∀ ⦃s a r⦄, s.length ≤ n → p s a r → q s a r) (hs : s.length ≤ n) (h : Member p s m r) :
    Member q s m r := by
  obtain ⟨t, u, v, ht, hps, hu, ha⟩ := h
  have h₁ := length_of_skipBlank ht
  have h₂ := hps.length_lt
  have h₃ := length_of_skipBlank hu
  exact ⟨t, u, v, ht, hps, hu, hpq (by omega) ha⟩

end Sequences

theorem Grammar.Value.length_lt : ∀ {d : Nat} {s r : List Char} {x : Tree}, Value d s x r →
    r.length < s.length := by
  have hscalar {s r : List Char} {x : Tree} (h : Scalar (skipBlank s) x r) : r.length < s.length := by
    obtain ⟨c, t, hs, -, -, -, hle⟩ := h.starts
    exact Nat.lt_of_le_of_lt hle (length_of_skipBlank hs)
  intro d
  induction d with
  | zero => exact hscalar
  | succ d ih =>
    intro s r x h
    rcases h with h | h
    · exact hscalar h
    · generalize hs : skipBlank s = t at h
      cases h with
      | arr h =>
        exact Nat.lt_trans (elements_length_lt (fun _ _ _ h => ih h) h) (length_of_skipBlank hs)
      | obj h =>
        have hlen := elements_length_lt (fun _ _ _ hm => length_member_lt (fun _ _ _ h => ih h) hm) h
        exact Nat.lt_trans hlen (length_of_skipBlank hs)

theorem isValueGrammar_value (d : Nat) : IsValueGrammar (Value d) where
  blank _ _ _ := value_skipBlank d
  starts s x r h := by
    have hscalar (h : Scalar (skipBlank s) x r) :
        ∃ c t, skipBlank s = c :: t ∧ c ≠ ']' ∧ r.length ≤ t.length := by
      obtain ⟨c, t, hs, hc, -, -, hle⟩ := h.starts
      exact ⟨c, t, hs, hc, hle⟩
    cases d with
    | zero => exact hscalar h
    | succ d =>
      rcases h with h | h
      · exact hscalar h
      · generalize skipBlank s = t at h
        cases h with
        | arr h =>
          exact ⟨'[', _, rfl, by decide, Nat.le_of_lt (elements_length_lt (fun _ _ _ h => h.length_lt) h)⟩
        | obj h =>
          have hlen := elements_length_lt
            (fun _ _ _ hm => length_member_lt (fun _ _ _ h => h.length_lt) hm) h
          exact ⟨'{', _, rfl, by decide, Nat.le_of_lt hlen⟩

/-- A text has no more brackets than characters. -/
theorem Grammar.Value.of_length_le (h : Value d s x r) {n : Nat} (hn : s.length ≤ n) :
    Value n s x r := by
  induction d generalizing s x r n with
  | zero =>
    cases n with
    | zero => exact h
    | succ n => exact .inl h
  | succ d ih =>
    cases n with
    | zero =>
      have hlt := h.length_lt
      omega
    | succ n =>
      refine h.imp id fun h => ?_
      have hlen {t : List Char} {c : Char} (ht : skipBlank s = c :: t) : t.length ≤ n := by
        have hlt := length_of_skipBlank ht
        omega
      generalize hs : skipBlank s = t at h ⊢
      cases h with
      | arr h =>
        exact .arr (elements_mono (fun _ _ _ h => h.length_lt) (fun _ _ _ hle h => ih h hle) (hlen hs) h)
      | obj h =>
        exact .obj (elements_mono (fun _ _ _ hm => length_member_lt (fun _ _ _ h => h.length_lt) hm)
          (fun _ _ _ hle hm => member_mono (fun _ _ _ hle h => ih h hle) hle hm) (hlen hs) h)

/-! ## What a value begins with -/

theorem not_value_of_nil (hs : skipBlank s = []) : ¬Value d s x r := by
  intro h
  obtain ⟨c, t, hcons, -⟩ := (isValueGrammar_value d).starts h
  cases hs.symm.trans hcons

theorem value_scalar_iff {c : Char} {t : List Char} (hs : skipBlank s = c :: t) (hlist : c ≠ '[')
    (hobject : c ≠ '{') : Value d s x r ↔ Scalar (c :: t) x r := by
  cases d with
  | zero => rw [Value, hs]
  | succ d =>
    rw [Value, hs]
    refine ⟨fun h => h.resolve_right ?_, .inl⟩
    intro h
    cases h with
    | arr => exact hlist rfl
    | obj => exact hobject rfl

theorem not_value_zero {c : Char} {t : List Char} (hs : skipBlank s = c :: t)
    (hc : c = '[' ∨ c = '{') : ¬Value 0 s x r := by
  intro h
  rw [Value, hs] at h
  obtain ⟨_, _, ⟨⟩, -, hlist, hobject, -⟩ := h.starts
  exact hc.elim hlist hobject

theorem value_list_iff {t : List Char} (hs : skipBlank s = '[' :: t) :
    Value (d + 1) s x r ↔ ∃ l, Elements ']' (Value d) t l r ∧ Tree.arr l = x := by
  rw [Value, hs]
  constructor
  · rintro (h | h)
    · obtain ⟨_, _, ⟨⟩, -, hne, -⟩ := h.starts
      exact absurd rfl hne
    · cases h with
      | arr h => exact ⟨_, h, rfl⟩
  · rintro ⟨l, h, rfl⟩
    exact .inr (.arr h)

theorem value_object_iff {t : List Char} (hs : skipBlank s = '{' :: t) :
    Value (d + 1) s x r ↔ ∃ l, Elements '}' (Member (Value d)) t l r ∧ Tree.obj l = x := by
  rw [Value, hs]
  constructor
  · rintro (h | h)
    · obtain ⟨_, _, ⟨⟩, -, -, hne, -⟩ := h.starts
      exact absurd rfl hne
    · cases h with
      | obj h => exact ⟨_, h, rfl⟩
  · rintro ⟨l, h, rfl⟩
    exact .inr (.obj h)

/-! ## Values of any depth -/

theorem any_length_lt ⦃s : List Char⦄ ⦃x : Tree⦄ ⦃r : List Char⦄ (h : Any s x r) :
    r.length < s.length :=
  h.elim fun _ h => h.length_lt

theorem isValueGrammar_any : IsValueGrammar Any where
  blank _ _ _ := exists_congr fun d => value_skipBlank d
  starts _ _ _ := fun ⟨d, h⟩ => (isValueGrammar_value d).starts h

theorem any_iff_of_length_le {n : Nat} (hn : s.length ≤ n) : Any s x r ↔ Value n s x r :=
  ⟨fun ⟨_, h⟩ => h.of_length_le hn, fun h => ⟨n, h⟩⟩

theorem any_scalar_iff {c : Char} {t : List Char} (hs : skipBlank s = c :: t) (hlist : c ≠ '[')
    (hobject : c ≠ '{') : Any s x r ↔ Grammar.Scalar (c :: t) x r := by
  simp only [Any, value_scalar_iff hs hlist hobject, exists_const]

theorem any_list_iff {t : List Char} (hs : skipBlank s = '[' :: t) :
    Any s x r ↔ ∃ l, Elements ']' Any t l r ∧ Tree.arr l = x := by
  constructor
  · rintro ⟨d, h⟩
    cases d with
    | zero => exact absurd h (not_value_zero hs (.inl rfl))
    | succ d =>
      obtain ⟨l, hl, hx⟩ := (value_list_iff hs).1 h
      exact ⟨l, elements_mono (fun _ _ _ h => h.length_lt) (fun _ _ _ _ h => ⟨d, h⟩) (Nat.le_refl _) hl,
        hx⟩
  · rintro ⟨l, hl, hx⟩
    have hl := elements_mono any_length_lt (fun _ _ _ hle h => (any_iff_of_length_le hle).1 h)
      (Nat.le_refl _) hl
    exact ⟨t.length + 1, (value_list_iff hs).2 ⟨l, hl, hx⟩⟩

theorem any_object_iff {t : List Char} (hs : skipBlank s = '{' :: t) :
    Any s x r ↔ ∃ l, Elements '}' (Member Any) t l r ∧ Tree.obj l = x := by
  constructor
  · rintro ⟨d, h⟩
    cases d with
    | zero => exact absurd h (not_value_zero hs (.inr rfl))
    | succ d =>
      obtain ⟨l, hl, hx⟩ := (value_object_iff hs).1 h
      have hany : Elements '}' (Member Any) t l r :=
        elements_mono (fun _ _ _ hm => length_member_lt (fun _ _ _ h => h.length_lt) hm)
          (fun _ _ _ hle hm => member_mono (fun _ _ _ _ h => ⟨d, h⟩) hle hm) (Nat.le_refl _) hl
      exact ⟨l, hany, hx⟩
  · rintro ⟨l, hl, hx⟩
    have hl := elements_mono (fun _ _ _ hm => length_member_lt any_length_lt hm)
      (fun _ _ _ hle hm => member_mono (fun _ _ _ hle h => (any_iff_of_length_le hle).1 h) hle hm)
      (Nat.le_refl _) hl
    exact ⟨t.length + 1, (value_object_iff hs).2 ⟨l, hl, hx⟩⟩

/-- A value is told by its first character. -/
theorem any_cases (h : Any s x r) :
    (∃ c t, skipBlank s = c :: t ∧ c ≠ '[' ∧ c ≠ '{' ∧ Scalar (c :: t) x r)
    ∨ (∃ t l, skipBlank s = '[' :: t ∧ Elements ']' Any t l r ∧ x = .arr l)
    ∨ ∃ t l, skipBlank s = '{' :: t ∧ Elements '}' (Member Any) t l r ∧ x = .obj l := by
  obtain ⟨c, t, hs, -, -⟩ := isValueGrammar_any.starts h
  by_cases hlist : c = '['
  · subst hlist
    obtain ⟨l, hl, hx⟩ := (any_list_iff hs).1 h
    exact .inr (.inl ⟨t, l, hs, hl, hx.symm⟩)
  · by_cases hobject : c = '{'
    · subst hobject
      obtain ⟨l, hl, hx⟩ := (any_object_iff hs).1 h
      exact .inr (.inr ⟨t, l, hs, hl, hx.symm⟩)
    · exact .inl ⟨c, t, hs, hlist, hobject, (any_scalar_iff hs hlist hobject).1 h⟩

theorem any_str_starts {ps : List Piece} (h : Any s (.str ps) r) : ∃ t, skipBlank s = '"' :: t := by
  rcases any_cases h with ⟨c, t, hs, -, -, hx⟩ | ⟨_, _, _, _, ⟨⟩⟩ | ⟨_, _, _, _, ⟨⟩⟩
  cases hx with
  | str => exact ⟨t, hs⟩

theorem any_arr_starts {l : List Tree} (h : Any s (.arr l) r) : ∃ t, skipBlank s = '[' :: t := by
  rcases any_cases h with ⟨_, _, _, _, _, hx⟩ | ⟨t, _, hs, _, _⟩ | ⟨_, _, _, _, ⟨⟩⟩
  · cases hx
  · exact ⟨t, hs⟩

/-! ## Passing over -/

theorem skipValue_scalar_iff {c : Char} {t : List Char} (hs : skipBlank s = c :: t)
    (hlist : c ≠ '[') (hobject : c ≠ '{') (d : Nat) :
    skipValue d s = .ok r ↔ ∃ x, Scalar (c :: t) x r := by
  rw [skipValue.eq_def]
  simp only [hs]
  by_cases hn : c = 'n'
  · subst hn
    simp [word_iff, scalar_null_iff]
  by_cases ht : c = 't'
  · subst ht
    simp [word_iff, scalar_true_iff]
  by_cases hf : c = 'f'
  · subst hf
    simp [word_iff, scalar_false_iff]
  by_cases hminus : c = '-'
  · subst hminus
    simp [skipNumber_iff, scalar_minus_iff]
  by_cases hquote : c = '"'
  · subst hquote
    simp [skipString_iff, scalar_quote_iff, isDigit]
  simp only [hn, ht, hf, hminus, hquote, hlist, hobject, if_false,
    scalar_number_iff ⟨hn, ht, hf, hminus, hquote⟩]
  cases hd : isDigit c with
  | true => simp [skipNumber_iff]
  | false =>
    refine error_iff ?_
    rintro ⟨_, n, hnumber, -⟩
    cases hd.symm.trans (isDigit_of_decimal hnumber)

/-- Any value is passed over, as deep as the bound allows. -/
theorem skipValue_iff : skipValue d s = .ok r ↔ ∃ x, Value d s x r := by
  induction d using Nat.strongRecOn generalizing s r with
  | ind d ih =>
    cases hs : skipBlank s with
    | nil =>
      rw [skipValue.eq_def]
      simp only [hs]
      refine error_iff ?_
      rintro ⟨_, h⟩
      exact absurd h (not_value_of_nil hs)
    | cons c t =>
      by_cases hlist : c = '['
      · subst hlist
        rw [skipValue.eq_def]
        simp only [hs]
        cases d with
        | zero =>
          refine error_iff ?_
          rintro ⟨_, h⟩
          exact absurd h (not_value_zero hs (.inl rfl))
        | succ d =>
          simp only [value_list_iff hs, exists_comm (α := Tree), exists_and_left, exists_eq', and_true]
          exact skipItems_iff (isValueGrammar_value d) (fun _ _ => ih d (Nat.lt_succ_self d))
            (Nat.lt_succ_self t.length)
      · by_cases hobject : c = '{'
        · subst hobject
          rw [skipValue.eq_def]
          simp only [hs]
          cases d with
          | zero =>
            refine error_iff ?_
            rintro ⟨_, h⟩
            exact absurd h (not_value_zero hs (.inr rfl))
          | succ d =>
            simp only [value_object_iff hs, exists_comm (α := Tree), exists_and_left, exists_eq',
              and_true]
            exact skipMembers_iff (fun _ _ _ h => Grammar.Value.length_lt h)
              (fun _ _ => ih d (Nat.lt_succ_self d)) (Nat.lt_succ_self t.length)
        · simp only [value_scalar_iff hs hlist hobject]
          exact skipValue_scalar_iff hs hlist hobject d

/-! ## Reading -/

section Reading

variable {j : Json}

theorem constant_iff {k : Json} {letters : List Char} :
    value.constant j letters s = .ok (k, r) ↔ s = letters ++ r ∧ j = k := by
  rw [value.constant, ← word_iff]
  rcases word letters s with e | u <;> simp [and_comm]

theorem number_iff {negative : Bool} : value.number negative s = .ok (j, r)
    ↔ ∃ n, Decimal s n r ∧ (n.value? negative).map Number.toJson = some j := by
  rw [value.number, ← map_read_iff (fun _ => unsignedNumber_iff) Number.toJson]
  rcases unsignedNumber negative s with e | ⟨x, u⟩ <;> simp [and_assoc, and_comm]

theorem readValue_scalar_iff {c : Char} {t : List Char} (hs : skipBlank s = c :: t)
    (hlist : c ≠ '[') (hobject : c ≠ '{') (d : Nat) :
    value d s = .ok (j, r) ↔ ∃ x, Scalar (c :: t) x r ∧ x.value? = some j := by
  rw [value.eq_def]
  simp only [hs]
  by_cases hn : c = 'n'
  · subst hn
    simp [constant_iff, scalar_null_iff, and_assoc, Tree.value?]
  by_cases ht : c = 't'
  · subst ht
    simp [constant_iff, scalar_true_iff, and_assoc, Tree.value?]
  by_cases hf : c = 'f'
  · subst hf
    simp [constant_iff, scalar_false_iff, and_assoc, Tree.value?]
  by_cases hminus : c = '-'
  · subst hminus
    simp only [scalar_minus_iff, exists_exists_and_eq_and]
    exact number_iff
  by_cases hquote : c = '"'
  · subst hquote
    simp only [scalar_quote_iff, exists_exists_and_eq_and, Tree.value?,
      ← map_read_iff fun _ => stringBody_iff]
    rcases stringBody t with e | ⟨cs, u⟩ <;> simp [isDigit, and_assoc, and_comm]
  simp only [hn, ht, hf, hminus, hquote, hlist, hobject, if_false,
    scalar_number_iff ⟨hn, ht, hf, hminus, hquote⟩, exists_exists_and_eq_and]
  cases hd : isDigit c with
  | true => exact number_iff
  | false =>
    refine error_iff ?_
    rintro ⟨n, hdecimal, -⟩
    cases hd.symm.trans (isDigit_of_decimal hdecimal)

/-- What is worked out element by element is worked out for each element. -/
theorem collect_eq_some {α β : Type} {f : α → Option β} {g : List α → Option (List β)}
    (hnil : g [] = some []) (hcons : ∀ a l, g (a :: l) = (f a).bind fun b => (g l).map (b :: ·))
    {l : List α} {bs : List β} : g l = some bs ↔ List.Forall₂ (fun a b => f a = some b) l bs := by
  induction l generalizing bs with
  | nil => simp [hnil, eq_comm]
  | cons a l ih =>
    simp only [hcons, Option.bind_eq_some_iff, Option.map_eq_some_iff, ih, List.forall₂_cons_left_iff]
    constructor
    · rintro ⟨b, hb, bs, hbs, rfl⟩
      exact ⟨b, bs, hb, hbs, rfl⟩
    · rintro ⟨b, bs, hb, hbs, rfl⟩
      exact ⟨b, hb, bs, hbs, rfl⟩

theorem itemsValue?_eq_some {l : List Tree} {js : List Json} :
    itemsValue? l = some js ↔ List.Forall₂ (fun x j => x.value? = some j) l js :=
  collect_eq_some (g := itemsValue?) rfl fun _ _ => rfl

/-- A member of an object of values. -/
def putValue (ms : List (String × Json)) (key : String) (x : Tree) : Option (List (String × Json)) :=
  x.value?.map fun j => Keyed.insert key j ms

theorem gather_putValue (l : List (List Piece × Tree)) (acc : List (String × Json)) :
    gather putValue acc l
      = (membersValue? l).map fun ms => ms.foldl (fun acc m => Keyed.insert m.1 m.2 acc) acc := by
  induction l generalizing acc with
  | nil => rfl
  | cons m l ih =>
    obtain ⟨k, x⟩ := m
    rw [gather, membersValue?]
    cases spell k with
    | none => rfl
    | some cs =>
      simp only [Option.bind_some, putValue]
      cases x.value? with
      | none => rfl
      | some j =>
        simp only [Option.map_some, Option.bind_some, ih, Option.map_map]
        rfl

section Nested

variable (hread : ∀ ⦃s j r⦄, value d s = .ok (j, r) ↔ ∃ x, Value d s x r ∧ x.value? = some j)
include hread

theorem readsMember_value : ReadsMember (value.member (value d)) (Value d) putValue := by
  intro acc acc' k s r
  rw [value.member]
  cases hs : colon s with
  | error e =>
    refine error_iff ?_
    rintro ⟨x, t, ht, -⟩
    cases hs.symm.trans (colon_iff.2 ht)
  | ok t =>
    have hput : (∃ x u, skipBlank s = ':' :: u ∧ Value d u x r ∧ putValue acc k x = some acc')
        ↔ ∃ j, value d t = .ok (j, r) ∧ Keyed.insert k j acc = acc' := by
      rw [map_read_iff fun j => @hread t j r]
      constructor
      · rintro ⟨x, u, hu, hx, hacc⟩
        cases hs.symm.trans (colon_iff.2 hu)
        exact ⟨x, hx, hacc⟩
      · rintro ⟨x, hx, hacc⟩
        exact ⟨x, t, colon_iff.1 hs, hx, hacc⟩
    rw [hput]
    simp only
    rcases value d t with e | ⟨j, u⟩ <;> simp [and_assoc, and_comm]

theorem readValue_list_iff {t : List Char} (hs : skipBlank s = '[' :: t) :
    value (d + 1) s = .ok (j, r) ↔ ∃ x, Value (d + 1) s x r ∧ x.value? = some j := by
  have hitems (js : List Json) : items (value d) (t.length + 1) true t = .ok (js, r)
      ↔ ∃ l, Elements ']' (Value d) t l r ∧ itemsValue? l = some js := by
    simp only [itemsValue?_eq_some, ← elements_exists_iff]
    exact items_iff ((isValueGrammar_value d).exists _) hread (Nat.lt_succ_self t.length)
  rw [value.eq_def]
  simp only [hs, value_list_iff hs, exists_exists_and_eq_and, Tree.value?, ← map_read_iff hitems]
  rcases items (value d) (t.length + 1) true t with e | ⟨js, u⟩ <;> simp [isDigit, and_assoc, and_comm]

theorem readValue_object_iff {t : List Char} (hs : skipBlank s = '{' :: t) :
    value (d + 1) s = .ok (j, r) ↔ ∃ x, Value (d + 1) s x r ∧ x.value? = some j := by
  have hmembers (ms : List (String × Json)) :
      members (value.member (value d)) (t.length + 1) true [] t = .ok (ms, r)
        ↔ ∃ l, Elements '}' (Member (Value d)) t l r ∧ gather putValue [] l = some ms :=
    members_iff (fun _ _ _ h => Grammar.Value.length_lt h) (readsMember_value hread)
      (Nat.lt_succ_self t.length)
  have hmap (l : List (List Piece × Tree)) :
      (Tree.obj l).value? = (gather putValue [] l).map Json.obj := by
    rw [Tree.value?, gather_putValue, Option.map_map]
    rfl
  rw [value.eq_def]
  simp only [hs, value_object_iff hs, exists_exists_and_eq_and, hmap, ← map_read_iff hmembers]
  rcases members (value.member (value d)) (t.length + 1) true [] t with e | ⟨ms, u⟩ <;>
    simp [isDigit, and_assoc, and_comm]

end Nested

theorem not_readValue_zero {c : Char} {t : List Char} (hs : skipBlank s = c :: t)
    (hc : c = '[' ∨ c = '{') : value 0 s ≠ .ok (j, r) := by
  intro h
  rw [value.eq_def] at h
  rcases hc with rfl | rfl <;> simp [hs, isDigit] at h

/-- A value is read if it is one, nested no deeper than the bound, and its tree has a value. -/
theorem value_iff : value d s = .ok (j, r) ↔ ∃ x, Value d s x r ∧ x.value? = some j := by
  induction d using Nat.strongRecOn generalizing s r j with
  | ind d ih =>
    cases hs : skipBlank s with
    | nil =>
      rw [value.eq_def]
      simp only [hs]
      refine error_iff ?_
      rintro ⟨_, h, _⟩
      exact absurd h (not_value_of_nil hs)
    | cons c t =>
      by_cases hbracket : c = '[' ∨ c = '{'
      · cases d with
        | zero =>
          refine iff_of_false (not_readValue_zero hs hbracket) ?_
          rintro ⟨_, h, _⟩
          exact absurd h (not_value_zero hs hbracket)
        | succ d =>
          have hread : ∀ ⦃s j r⦄, value d s = .ok (j, r) ↔ ∃ x, Value d s x r ∧ x.value? = some j :=
            fun _ _ _ => ih d (Nat.lt_succ_self d)
          rcases hbracket with rfl | rfl
          · exact readValue_list_iff hread hs
          · exact readValue_object_iff hread hs
      · obtain ⟨hlist, hobject⟩ := not_or.1 hbracket
        simp only [value_scalar_iff hs hlist hobject]
        exact readValue_scalar_iff hs hlist hobject d

end Reading

/-! ## Documents -/

theorem finish_iff : finish s = .ok () ↔ skipBlank s = [] := by
  rw [finish]
  cases skipBlank s <;> simp

theorem document_iff {α : Type} {read : Reader α} {a : α} :
    document read s = .ok a ↔ ∃ r, read s = .ok (a, r) ∧ skipBlank r = [] := by
  rw [document]
  rcases read s with e | ⟨b, r⟩
  · refine error_iff ?_
    rintro ⟨_, h, _⟩
    cases h
  · simp only [← finish_iff]
    rcases hr : finish r with e | u
    · refine error_iff ?_
      rintro ⟨_, ⟨⟩, h⟩
      cases hr.symm.trans h
    · constructor
      · rintro ⟨⟩
        exact ⟨r, rfl, hr⟩
      · rintro ⟨_, ⟨⟩, -⟩
        rfl

/-- The document of a value is read if it is one, nested no deeper than the bound, and its tree has a
value. -/
theorem document_value_iff {j : Json} :
    document (value d) s = .ok j ↔ ∃ x, IsDocument d s x ∧ x.value? = some j := by
  simp only [document_iff, value_iff, IsDocument]
  constructor
  · rintro ⟨r, ⟨x, hx, hj⟩, hr⟩
    exact ⟨x, ⟨r, hx, hr⟩, hj⟩
  · rintro ⟨x, ⟨r, hx, hr⟩, hj⟩
    exact ⟨r, ⟨x, hx, hj⟩, hr⟩

end TopicMesh.Json
