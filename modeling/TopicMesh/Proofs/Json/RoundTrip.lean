import TopicMesh.Proofs.Json.Sequence

/-!
# TopicMesh.Proofs.Json.RoundTrip

A JSON value is read back as it was written, if it holds no floating-point number and the reader has
room for its nesting (`value_chars`). The rest after the value is arbitrary, except that a number
must not go on into it.
-/

namespace TopicMesh.Json

/-! ## Objects -/

/-- The text of one member of an object. -/
def memberText (e : String × Json) : List Char := stringChars e.1.toList ++ ':' :: e.2.chars

theorem itemsChars_eq : ∀ l : List Json, itemsChars l = separated chars l
  | [] => rfl
  | [a] => by simp [itemsChars, separated]
  | a :: b :: r => by
    have ih := itemsChars_eq (b :: r)
    simp only [itemsChars, ih, separated, List.flatMap_cons, List.cons_append]

theorem membersChars_eq : ∀ l : List (String × Json), membersChars l = separated memberText l
  | [] => rfl
  | [(k, a)] => by simp [membersChars, separated, memberText]
  | (k, a) :: b :: r => by
    have ih := membersChars_eq (b :: r)
    simp only [membersChars, ih, separated, memberText, List.flatMap_cons, List.cons_append,
      List.append_assoc]

section Members

variable {read : Reader Json}

theorem endsNumber_members (l : List (String × Json)) (r : List Char) :
    EndsNumber ((l.flatMap fun e => ',' :: memberText e) ++ '}' :: r) := by
  cases l with
  | nil => exact endsNumber_cons (by decide) r
  | cons a l => exact endsNumber_cons (by decide) _

theorem memberText_append (e : String × Json) (r : List Char) :
    memberText e ++ r = literal escapeChar e.1.toList ++ ':' :: (e.2.chars ++ r) := by
  rw [memberText, List.append_assoc, List.cons_append]
  rfl

theorem member_read {e : String × Json}
    (hr : ∀ r, EndsNumber r → read (e.2.chars ++ r) = .ok (e.2, r)) {r : List Char}
    (h : EndsNumber r) (ms : List (String × Json)) :
    value.member read ms e.1 (':' :: (e.2.chars ++ r)) = .ok (Keyed.insert e.1 e.2 ms, r) := by
  simp only [value.member, colon_cons, hr r h]

theorem members_rest {l : List (String × Json)}
    (hr : ∀ e ∈ l, ∀ r, EndsNumber r → read (e.2.chars ++ r) = .ok (e.2, r)) (r : List Char) :
    ∀ {bound : Nat} (acc : List (String × Json)), l.length < bound →
      members (value.member read) bound false acc
          ((l.flatMap fun e => ',' :: memberText e) ++ '}' :: r)
        = .ok (l.foldl (fun ms e => Keyed.insert e.1 e.2 ms) acc, r) := by
  induction l with
  | nil =>
    intro bound acc hb
    cases bound with
    | zero => exact absurd hb (by simp)
    | succ bound => exact members_closing false acc r bound
  | cons e l ih =>
    intro bound acc hb
    cases bound with
    | zero => exact absurd hb (by simp)
    | succ bound =>
      have hb : l.length < bound := by simpa using hb
      have ih := ih (fun b hm => hr b (List.mem_cons_of_mem e hm)) (Keyed.insert e.1 e.2 acc) hb
      have hm := member_read (hr e List.mem_cons_self) (endsNumber_members l r) acc
      rw [List.flatMap_cons, List.append_assoc, List.cons_append, memberText_append,
        members_comma spells_escapeChar hm]
      exact ih

/-- An object is read back if its values are; its members are put in order one by one. -/
theorem members_separated {l : List (String × Json)}
    (hr : ∀ e ∈ l, ∀ r, EndsNumber r → read (e.2.chars ++ r) = .ok (e.2, r)) (r : List Char)
    {bound : Nat} (hb : l.length < bound) :
    members (value.member read) bound true [] (separated memberText l ++ '}' :: r)
      = .ok (l.foldl (fun ms e => Keyed.insert e.1 e.2 ms) [], r) := by
  cases bound with
  | zero => exact absurd hb (by simp)
  | succ bound =>
    cases l with
    | nil => exact members_closing true [] r bound
    | cons e l =>
      have hb : l.length < bound := by simpa using hb
      have hrest := members_rest (fun b hm => hr b (List.mem_cons_of_mem e hm)) r
        (Keyed.insert e.1 e.2 []) hb
      have hm := member_read (hr e List.mem_cons_self) (endsNumber_members l r) []
      rw [separated, List.append_assoc, memberText_append, members_first spells_escapeChar hm]
      exact hrest

end Members

theorem insert_last {acc : List (String × Json)} {k : String} (h : ∀ e ∈ acc, e.1 < k) (v : Json) :
    Keyed.insert k v acc = acc ++ [(k, v)] := by
  induction acc with
  | nil => rfl
  | cons e acc ih =>
    obtain ⟨k', v'⟩ := e
    have hk : k' < k := h (k', v') List.mem_cons_self
    have hn : ¬k < k' := fun h' => Keyed.lt_irrefl k (Keyed.lt_trans h' hk)
    simp only [Keyed.insert, if_neg hn, if_pos hk, List.cons_append]
    rw [ih fun e hm => h e (List.mem_cons_of_mem _ hm)]

/-- Members that are in order already are kept as they are. -/
theorem foldl_insert_ascending {l acc : List (String × Json)} (h : Keyed.Ascending (acc ++ l)) :
    l.foldl (fun ms e => Keyed.insert e.1 e.2 ms) acc = acc ++ l := by
  induction l generalizing acc with
  | nil => simp
  | cons e l ih =>
    have hlt : ∀ x ∈ acc, x.1 < e.1 := fun x hx =>
      (List.pairwise_append.1 h).2.2 x hx e List.mem_cons_self
    rw [List.foldl_cons, insert_last hlt, ih (by simpa using h)]
    simp

/-! ## Values -/

theorem startsItem_digits {n : Nat} : StartsItem (Nat.toDigits 10 n) := by
  cases h : Nat.toDigits 10 n with
  | nil => exact absurd h Nat.toDigits_ne_nil
  | cons c ds =>
    have hd : isDigit c = true := isDigit_of_mem_toDigits (n := n) (h ▸ List.mem_cons_self)
    refine ⟨c, ds, rfl, ?_, ?_⟩
    · cases hb : isBlank c with
      | false => rfl
      | true =>
        simp only [isBlank, Bool.or_eq_true, beq_iff_eq] at hb
        rcases hb with ((rfl | rfl) | rfl) | rfl <;> exact absurd hd (by decide)
    · rintro rfl
      exact absurd hd (by decide)

theorem startsItem_chars : ∀ {j : Json}, j.IsFloatFree → StartsItem j.chars
  | .null, _ => ⟨'n', _, rfl, by decide, by decide⟩
  | .bool true, _ => ⟨'t', _, rfl, by decide, by decide⟩
  | .bool false, _ => ⟨'f', _, rfl, by decide, by decide⟩
  | .int n, _ => by
    simp only [chars, intChars]
    split
    · exact ⟨'-', _, rfl, by decide, by decide⟩
    · exact startsItem_digits
  | .float _, h => h.elim
  | .str s, _ => startsItem_literal escapeChar s.toList
  | .arr _, _ => ⟨'[', _, by simp [chars]; rfl, by decide, by decide⟩
  | .obj _, _ => ⟨'{', _, by simp [chars]; rfl, by decide, by decide⟩

theorem value_number_digit {c : Char} {r : List Char} (h : isDigit c = true) (d : Nat) :
    value d (c :: r) = value.number false (c :: r) := by
  have hne : ∀ x, isDigit x = false → c ≠ x := fun x hx hc => by
    rw [hc, hx] at h
    cases h
  have hb : isBlank c = false := by
    simp [isBlank, hne ' ' (by decide), hne '\n' (by decide), hne '\t' (by decide),
      hne '\r' (by decide)]
  rw [value.eq_def]
  simp [skipBlank, hb, hne 'n' (by decide), hne 't' (by decide), hne 'f' (by decide),
    hne '-' (by decide), h]

theorem value_int {n : Int} (h : minInt ≤ n ∧ n ≤ maxInt) (d : Nat) {r : List Char}
    (hr : EndsNumber r) : value d (intChars n ++ r) = .ok (.int n, r) := by
  have hmin : minInt = -9223372036854775808 := rfl
  have hmax : maxInt = 18446744073709551615 := rfl
  simp only [intChars]
  split
  · rename_i hn
    have hlt : n.natAbs < 18446744073709551616 := by omega
    rw [List.cons_append, value.eq_def]
    simp only [skipBlank, isBlank, List.dropWhile, value.number]
    simp only [Char.reduceBEq, Bool.or_false, Char.reduceEq, if_false, if_true]
    have hwhole : afterInteger.whole true n.natAbs 0 r = .ok (.int n, r) := by
      have hfits : 1 ≤ n.natAbs ∧ n.natAbs ≤ 9223372036854775808 := by omega
      have hn : -(n.natAbs : Int) = n := by omega
      rw [afterInteger.whole, if_neg (by decide), if_neg (by decide), if_pos hfits, hn]
    rw [unsignedNumber_toDigits hlt hr, hwhole]
    rfl
  · rename_i hn
    have hlt : n.natAbs < 18446744073709551616 := by omega
    obtain ⟨c, ds, hc⟩ : ∃ c ds, Nat.toDigits 10 n.natAbs = c :: ds := by
      cases hd : Nat.toDigits 10 n.natAbs with
      | nil => exact absurd hd Nat.toDigits_ne_nil
      | cons c ds => exact ⟨c, ds, rfl⟩
    have hd : isDigit c = true :=
      isDigit_of_mem_toDigits (n := n.natAbs) (hc ▸ List.mem_cons_self)
    have hwhole : afterInteger.whole false n.natAbs 0 r = .ok (.int n, r) := by
      have hn : (n.natAbs : Int) = n := by omega
      rw [afterInteger.whole, if_neg (by decide), if_pos rfl, hn]
    rw [hc, List.cons_append, value_number_digit hd, ← List.cons_append, ← hc, value.number,
      unsignedNumber_toDigits hlt hr, hwhole]
    rfl

theorem floatFree_of_mem : ∀ {l : List Json}, itemsFloatFree l → ∀ {a}, a ∈ l → a.IsFloatFree
  | b :: l, h, a, hm => by
    rcases List.mem_cons.1 hm with rfl | hm
    · exact h.1
    · exact floatFree_of_mem h.2 hm

mutual
/-- A value that the reader has room for is read back as it was written. -/
theorem value_chars : ∀ (j : Json) {d : Nat}, j.IsWellFormed → j.IsFloatFree → j.depth ≤ d →
    ∀ r, EndsNumber r → value d (j.chars ++ r) = .ok (j, r)
  | .null, d, _, _, _, r, _ => by
    rw [value.eq_def]
    simp [chars, skipBlank, isBlank, value.constant, word]
  | .bool true, d, _, _, _, r, _ => by
    rw [value.eq_def]
    simp [chars, skipBlank, isBlank, value.constant, word]
  | .bool false, d, _, _, _, r, _ => by
    rw [value.eq_def]
    simp [chars, skipBlank, isBlank, value.constant, word]
  | .int n, d, hw, _, _, r, hr => by
    rw [chars, value_int hw d hr]
  | .float x, d, _, hf, _, r, _ => hf.elim
  | .str s, d, _, _, _, r, _ => by
    rw [chars, stringChars_eq_literal, literal_append, value.eq_def]
    simp [skipBlank, isBlank, isDigit, stringBody_flatMap spells_escapeChar]
  | .arr l, d, hw, hf, hd, r, _ => by
    cases d with
    | zero => simp [depth] at hd
    | succ d =>
      have hd : itemsDepth l ≤ d := by simpa [depth] using hd
      have hs : ∀ a ∈ l, StartsItem a.chars := fun a hm => startsItem_chars (floatFree_of_mem hf hm)
      have hl := length_le_separated hs
      have hb : l.length < (separated chars l ++ ']' :: r).length + 1 := by
        simp only [List.length_append]
        omega
      have hread := items_separated hs (value_items l hw hf hd) r hb
      rw [chars, itemsChars_eq, List.append_assoc, value.eq_def]
      simp [skipBlank, isBlank, isDigit] at hread ⊢
      rw [hread]
  | .obj l, d, hw, hf, hd, r, _ => by
    cases d with
    | zero => simp [depth] at hd
    | succ d =>
      have hd : membersDepth l ≤ d := by simpa [depth] using hd
      have hs : ∀ e ∈ l, StartsItem (memberText e) := fun e _ =>
        (startsItem_literal escapeChar e.1.toList).append _
      have hl := length_le_separated hs
      have hb : l.length < (separated memberText l ++ '}' :: r).length + 1 := by
        simp only [List.length_append]
        omega
      have hread := members_separated (value_members l hw.2 hf hd) r hb
      have ha : Keyed.Ascending ([] ++ l) := hw.1
      rw [foldl_insert_ascending ha] at hread
      rw [chars, membersChars_eq, List.append_assoc, value.eq_def]
      simp [skipBlank, isBlank, isDigit] at hread ⊢
      rw [hread]

theorem value_items : ∀ (l : List Json) {d : Nat}, itemsWellFormed l → itemsFloatFree l →
    itemsDepth l ≤ d → ∀ a ∈ l, ∀ r, EndsNumber r → value d (a.chars ++ r) = .ok (a, r)
  | [], _, _, _, _, a, hm => absurd hm List.not_mem_nil
  | b :: l, d, hw, hf, hd, a, hm => by
    simp only [itemsDepth] at hd
    rcases List.mem_cons.1 hm with h | hm
    · rw [h]
      exact value_chars b hw.1 hf.1 (by omega)
    · exact value_items l hw.2 hf.2 (by omega) a hm

theorem value_members : ∀ (l : List (String × Json)) {d : Nat}, membersWellFormed l →
    membersFloatFree l → membersDepth l ≤ d →
    ∀ e ∈ l, ∀ r, EndsNumber r → value d (e.2.chars ++ r) = .ok (e.2, r)
  | [], _, _, _, _, a, hm => absurd hm List.not_mem_nil
  | (k, b) :: l, d, hw, hf, hd, a, hm => by
    simp only [membersDepth] at hd
    rcases List.mem_cons.1 hm with h | hm
    · rw [h]
      exact value_chars b hw.1 hf.1 (by omega)
    · exact value_members l hw.2 hf.2 (by omega) a hm
end

theorem document_value {j : Json} {d : Nat} (hw : j.IsWellFormed) (hf : j.IsFloatFree)
    (hd : j.depth ≤ d) : document (value d) j.chars = .ok j := by
  have h := value_chars j hw hf hd [] (by intro c hc; cases hc)
  rw [List.append_nil] at h
  simp [document, h, finish, skipBlank]

end TopicMesh.Json
