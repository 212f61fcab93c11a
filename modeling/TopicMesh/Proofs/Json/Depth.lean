import TopicMesh.Proofs.Json.RoundTrip

/-!
# TopicMesh.Proofs.Json.Depth

The bound on nesting is exact: values within it are read back (`value_chars`), and a value nested
deeper is refused, whatever stands after it (`value_of_deep`).

* `Refuses` — a reader never gets past a text.
* `items_separated_refused`, `members_separated_refused` — a list or an object is refused if one of
  its elements is, and the elements before that are read.
* `nested` — a value of any depth.
-/

namespace TopicMesh.Json

/-- A text that a reader does not get past. -/
def Refuses {α : Type} (read : Reader α) (text : List Char) : Prop :=
  ∀ r, ∃ e, read (text ++ r) = .error e

/-! ## Values in lists and objects -/

theorem itemsWellFormed_iff {l : List Json} : itemsWellFormed l ↔ ∀ a ∈ l, a.IsWellFormed := by
  induction l with
  | nil => simp [itemsWellFormed]
  | cons a l ih => simp [itemsWellFormed, ih]

theorem membersWellFormed_iff {l : List (String × Json)} :
    membersWellFormed l ↔ ∀ e ∈ l, e.2.IsWellFormed := by
  induction l with
  | nil => simp [membersWellFormed]
  | cons e l ih => simp [membersWellFormed, ih]

theorem membersFloatFree_iff {l : List (String × Json)} :
    membersFloatFree l ↔ ∀ e ∈ l, e.2.IsFloatFree := by
  induction l with
  | nil => simp [membersFloatFree]
  | cons e l ih => simp [membersFloatFree, ih]

theorem lt_itemsDepth_iff {l : List Json} {d : Nat} : d < itemsDepth l ↔ ∃ a ∈ l, d < a.depth := by
  induction l with
  | nil => simp [itemsDepth]
  | cons a l ih =>
    have hmax : d < max a.depth (itemsDepth l) ↔ d < a.depth ∨ d < itemsDepth l := by omega
    simp [itemsDepth, hmax, ih]

theorem lt_membersDepth_iff {l : List (String × Json)} {d : Nat} :
    d < membersDepth l ↔ ∃ e ∈ l, d < e.2.depth := by
  induction l with
  | nil => simp [membersDepth]
  | cons e l ih =>
    have hmax : d < max e.2.depth (membersDepth l) ↔ d < e.2.depth ∨ d < membersDepth l := by omega
    simp [membersDepth, hmax, ih]

/-! ## Lists -/

section Items

variable {α : Type} {item : Reader α} {text : α → List Char}

/-- Of the element that comes next and the ones after it, one is refused. -/
theorem items_refused_cons {first : Bool} {s r : List Char} {a : α} {bound : Nat}
    (hn : nextItem first s = .ok (some (), text a ++ r))
    (hr : ¬Refuses item (text a) →
      item (text a ++ r) = .ok (a, r) ∧ ∃ e, items item bound false r = .error e) :
    ∃ e, items item (bound + 1) first s = .error e := by
  rw [items, hn]
  simp only
  by_cases hno : Refuses item (text a)
  · obtain ⟨e, he⟩ := hno r
    rw [he]
    exact ⟨e, rfl⟩
  · obtain ⟨hok, e, he⟩ := hr hno
    rw [hok]
    simp only
    rw [he]
    exact ⟨e, rfl⟩

theorem items_rest_refused {l : List α} (hs : ∀ a ∈ l, StartsItem (text a))
    (hr : ∀ a ∈ l, ¬Refuses item (text a) → ∀ r, EndsNumber r → item (text a ++ r) = .ok (a, r))
    (hx : ∃ a ∈ l, Refuses item (text a)) (r : List Char) (bound : Nat) :
    ∃ e, items item bound false ((l.flatMap fun a => ',' :: text a) ++ ']' :: r) = .error e := by
  induction l generalizing bound with
  | nil => simp at hx
  | cons a l ih =>
    cases bound with
    | zero => exact ⟨_, rfl⟩
    | succ bound =>
      have ha := (hs a List.mem_cons_self).append
        ((l.flatMap fun b => ',' :: text b) ++ ']' :: r)
      rw [List.flatMap_cons, List.append_assoc, List.cons_append]
      refine items_refused_cons (nextItem_comma ha) ?_
      intro hno
      refine ⟨hr a List.mem_cons_self hno _ (endsNumber_items l r), ?_⟩
      exact ih (fun b hm => hs b (List.mem_cons_of_mem a hm))
        (fun b hm => hr b (List.mem_cons_of_mem a hm)) (by simpa [hno] using hx) bound

/-- A list is refused if one of its elements is, and the elements before that are read. -/
theorem items_separated_refused {l : List α} (hs : ∀ a ∈ l, StartsItem (text a))
    (hr : ∀ a ∈ l, ¬Refuses item (text a) → ∀ r, EndsNumber r → item (text a ++ r) = .ok (a, r))
    (hx : ∃ a ∈ l, Refuses item (text a)) (r : List Char) (bound : Nat) :
    ∃ e, items item bound true (separated text l ++ ']' :: r) = .error e := by
  cases bound with
  | zero => exact ⟨_, rfl⟩
  | succ bound =>
    cases l with
    | nil => simp at hx
    | cons a l =>
      have ha := (hs a List.mem_cons_self).append
        ((l.flatMap fun b => ',' :: text b) ++ ']' :: r)
      rw [separated, List.append_assoc]
      refine items_refused_cons (nextItem_first ha) ?_
      intro hno
      refine ⟨hr a List.mem_cons_self hno _ (endsNumber_items l r), ?_⟩
      exact items_rest_refused (fun b hm => hs b (List.mem_cons_of_mem a hm))
        (fun b hm => hr b (List.mem_cons_of_mem a hm)) (by simpa [hno] using hx) r bound

end Items

/-! ## Objects -/

section Members

variable {read : Reader Json}

/-- Of the member that comes next and the ones after it, one is refused. -/
theorem members_refused_cons {first : Bool} {s r : List Char} {e : String × Json} {bound : Nat}
    {acc : List (String × Json)} (hn : nextKey first s = .ok (some e.1, ':' :: (e.2.chars ++ r)))
    (hr : ¬Refuses read e.2.chars → read (e.2.chars ++ r) = .ok (e.2, r)
      ∧ ∀ acc, ∃ fault, members (value.member read) bound false acc r = .error fault) :
    ∃ fault, members (value.member read) (bound + 1) first acc s = .error fault := by
  rw [members, hn]
  simp only [value.member, colon_cons]
  by_cases hno : Refuses read e.2.chars
  · obtain ⟨fault, hf⟩ := hno r
    rw [hf]
    exact ⟨fault, rfl⟩
  · obtain ⟨hok, hlater⟩ := hr hno
    rw [hok]
    exact hlater _

theorem members_rest_refused {l : List (String × Json)}
    (hr : ∀ e ∈ l, ¬Refuses read e.2.chars →
      ∀ r, EndsNumber r → read (e.2.chars ++ r) = .ok (e.2, r))
    (hx : ∃ e ∈ l, Refuses read e.2.chars) (r : List Char) (bound : Nat)
    (acc : List (String × Json)) :
    ∃ fault, members (value.member read) bound false acc
      ((l.flatMap fun e => ',' :: memberText e) ++ '}' :: r) = .error fault := by
  induction l generalizing bound acc with
  | nil => simp at hx
  | cons e l ih =>
    cases bound with
    | zero => exact ⟨_, rfl⟩
    | succ bound =>
      rw [List.flatMap_cons, List.append_assoc, List.cons_append, memberText_append]
      refine members_refused_cons (nextKey_comma spells_escapeChar _ _) ?_
      intro hno
      refine ⟨hr e List.mem_cons_self hno _ (endsNumber_members l r), ?_⟩
      exact ih (fun b hm => hr b (List.mem_cons_of_mem e hm)) (by simpa [hno] using hx) bound

/-- An object is refused if one of its values is, and the values before that are read. -/
theorem members_separated_refused {l : List (String × Json)}
    (hr : ∀ e ∈ l, ¬Refuses read e.2.chars →
      ∀ r, EndsNumber r → read (e.2.chars ++ r) = .ok (e.2, r))
    (hx : ∃ e ∈ l, Refuses read e.2.chars) (r : List Char) (bound : Nat)
    (acc : List (String × Json)) :
    ∃ fault, members (value.member read) bound true acc (separated memberText l ++ '}' :: r)
      = .error fault := by
  cases bound with
  | zero => exact ⟨_, rfl⟩
  | succ bound =>
    cases l with
    | nil => simp at hx
    | cons e l =>
      rw [separated, List.append_assoc, memberText_append]
      refine members_refused_cons (nextKey_first spells_escapeChar _ _) ?_
      intro hno
      refine ⟨hr e List.mem_cons_self hno _ (endsNumber_members l r), ?_⟩
      exact members_rest_refused (fun b hm => hr b (List.mem_cons_of_mem e hm))
        (by simpa [hno] using hx) r bound

end Members

/-! ## Values -/

theorem arr_refused {l : List Json} {d : Nat} (hf : itemsFloatFree l)
    (hr : ∀ a ∈ l, ¬Refuses (value d) a.chars →
      ∀ r, EndsNumber r → value d (a.chars ++ r) = .ok (a, r))
    (hx : ∃ a ∈ l, Refuses (value d) a.chars) : Refuses (value (d + 1)) (arr l).chars := by
  intro r
  have hs : ∀ a ∈ l, StartsItem a.chars := fun a hm => startsItem_chars (floatFree_of_mem hf hm)
  obtain ⟨e, he⟩ := items_separated_refused hs hr hx r
    ((separated chars l ++ ']' :: r).length + 1)
  rw [chars, itemsChars_eq, List.append_assoc, value.eq_def]
  simp [skipBlank, isBlank, isDigit] at he ⊢
  rw [he]
  exact ⟨e, rfl⟩

theorem obj_refused {l : List (String × Json)} {d : Nat}
    (hr : ∀ e ∈ l, ¬Refuses (value d) e.2.chars →
      ∀ r, EndsNumber r → value d (e.2.chars ++ r) = .ok (e.2, r))
    (hx : ∃ e ∈ l, Refuses (value d) e.2.chars) : Refuses (value (d + 1)) (obj l).chars := by
  intro r
  obtain ⟨fault, hf⟩ := members_separated_refused hr hx r
    ((separated memberText l ++ '}' :: r).length + 1) []
  rw [chars, membersChars_eq, List.append_assoc, value.eq_def]
  simp [skipBlank, isBlank, isDigit] at hf ⊢
  rw [hf]
  exact ⟨fault, rfl⟩

/-- A reader that may open no more brackets refuses every list and object. -/
theorem value_zero_refused {j : Json} (hd : 0 < j.depth) : Refuses (value 0) j.chars := by
  intro r
  cases j with
  | arr l =>
    rw [value.eq_def]
    simp [chars, skipBlank, isBlank, isDigit]
  | obj l =>
    rw [value.eq_def]
    simp [chars, skipBlank, isBlank, isDigit]
  | _ => simp [depth] at hd

/-- A value with more brackets around one of its parts than the reader may open is refused. The
induction is on the brackets that may be opened: behind each one stands a part that is still too
deep. -/
theorem value_of_deep {j : Json} {d : Nat} (hw : j.IsWellFormed) (hf : j.IsFloatFree)
    (hd : d < j.depth) : Refuses (value d) j.chars := by
  induction d generalizing j with
  | zero => exact value_zero_refused hd
  | succ d ih =>
    have hread : ∀ a : Json, a.IsWellFormed → a.IsFloatFree → ¬Refuses (value d) a.chars →
        ∀ r, EndsNumber r → value d (a.chars ++ r) = .ok (a, r) := by
      intro a hw hf hno
      have hle : a.depth ≤ d := Nat.le_of_not_lt fun hlt => hno (ih hw hf hlt)
      exact value_chars a hw hf hle
    cases j with
    | arr l =>
      have hw := itemsWellFormed_iff.1 hw
      obtain ⟨a, hm, ha⟩ := lt_itemsDepth_iff.1 (Nat.lt_of_succ_lt_succ hd)
      exact arr_refused hf (fun a hm => hread a (hw a hm) (floatFree_of_mem hf hm))
        ⟨a, hm, ih (hw a hm) (floatFree_of_mem hf hm) ha⟩
    | obj l =>
      have hw := membersWellFormed_iff.1 hw.2
      have hf := membersFloatFree_iff.1 hf
      obtain ⟨e, hm, he⟩ := lt_membersDepth_iff.1 (Nat.lt_of_succ_lt_succ hd)
      exact obj_refused (fun e hm => hread e.2 (hw e hm) (hf e hm)) ⟨e, hm, ih (hw e hm) (hf e hm) he⟩
    | _ => simp [depth] at hd

theorem document_of_deep {j : Json} {d : Nat} (hw : j.IsWellFormed) (hf : j.IsFloatFree)
    (hd : d < j.depth) : ∃ e, document (value d) j.chars = .error e := by
  obtain ⟨e, he⟩ := value_of_deep hw hf hd []
  rw [List.append_nil] at he
  exact ⟨e.locate j.chars, by rw [document, he]⟩

/-! ## Brackets around nothing -/

/-- An empty list inside of so many lists. -/
def nested : Nat → Json
  | 0 => .arr []
  | n + 1 => .arr [nested n]

theorem isWellFormed_nested (n : Nat) : (nested n).IsWellFormed := by
  induction n with
  | zero => trivial
  | succ n ih => exact ⟨ih, trivial⟩

theorem isFloatFree_nested (n : Nat) : (nested n).IsFloatFree := by
  induction n with
  | zero => trivial
  | succ n ih => exact ⟨ih, trivial⟩

theorem depth_nested (n : Nat) : (nested n).depth = n + 1 := by
  induction n with
  | zero => rfl
  | succ n ih => rw [nested, depth, itemsDepth, ih, itemsDepth, Nat.max_zero]

theorem chars_nested (n : Nat) :
    (nested n).chars = List.replicate (n + 1) '[' ++ List.replicate (n + 1) ']' := by
  induction n with
  | zero => rfl
  | succ n ih =>
    rw [nested, chars, itemsChars, ih, List.cons_append, List.append_assoc,
      ← List.replicate_succ', List.replicate_succ (n := n + 1)]
    rfl

end TopicMesh.Json
