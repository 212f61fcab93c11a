import TopicMesh.Proofs.Json.Literal

/-!
# TopicMesh.Proofs.Json.Sequence

Lists and keys are read back as they were written, whatever stands in the lists and whatever spelling
the keys have.

* `separated`       — texts with commas between them, the common form of all lists and objects.
* `items_separated` — a list is read back if its elements are; the bound of the reader only has to
  exceed the number of elements.
* `nextKey_first`, `nextKey_comma` — a key in any spelling.
-/

namespace TopicMesh.Json

/-! ## Lists -/

/-- Texts with commas between them. -/
def separated {α : Type} (text : α → List Char) : List α → List Char
  | [] => []
  | a :: r => text a ++ r.flatMap fun b => ',' :: text b

/-- A text at which an element of a list can begin. -/
def StartsItem (s : List Char) : Prop := ∃ c r, s = c :: r ∧ isBlank c = false ∧ c ≠ ']'

theorem StartsItem.append {s : List Char} (h : StartsItem s) (r : List Char) :
    StartsItem (s ++ r) := by
  obtain ⟨c, t, rfl, hb, hc⟩ := h
  exact ⟨c, t ++ r, rfl, hb, hc⟩

theorem skipBlank_of_starts {s : List Char} (h : StartsItem s) : skipBlank s = s := by
  obtain ⟨c, t, rfl, hb, -⟩ := h
  simp [skipBlank, hb]

theorem nextItem_closing (first : Bool) (r : List Char) : nextItem first (']' :: r) = .ok (none, r) := by
  simp [nextItem, skipBlank, isBlank]

theorem nextItem_first {s : List Char} (h : StartsItem s) : nextItem true s = .ok (some (), s) := by
  rw [nextItem, skipBlank_of_starts h]
  obtain ⟨c, t, rfl, -, hc⟩ := h
  simp [hc]

theorem nextItem_comma {s : List Char} (h : StartsItem s) :
    nextItem false (',' :: s) = .ok (some (), s) := by
  have hs : skipBlank (',' :: s) = ',' :: s := by simp [skipBlank, isBlank]
  rw [nextItem, hs]
  simp only [skipBlank_of_starts h]
  obtain ⟨c, t, rfl, -, hc⟩ := h
  simp [hc]

theorem endsNumber_cons {c : Char} (h : isDigit c = false ∧ c ≠ '.' ∧ c ≠ 'e' ∧ c ≠ 'E')
    (r : List Char) : EndsNumber (c :: r) := by
  intro d hd
  cases hd
  exact h

section Items

variable {α : Type} {item : Reader α} {text : α → List Char}

/-- A rest after an element, from the comma or the closing bracket on. -/
theorem endsNumber_items (l : List α) (r : List Char) :
    EndsNumber ((l.flatMap fun a => ',' :: text a) ++ ']' :: r) := by
  cases l with
  | nil => exact endsNumber_cons (by decide) r
  | cons a l => exact endsNumber_cons (by decide) _

theorem items_rest {l : List α} (hs : ∀ a ∈ l, StartsItem (text a))
    (hr : ∀ a ∈ l, ∀ r, EndsNumber r → item (text a ++ r) = .ok (a, r)) (r : List Char) :
    ∀ {bound : Nat}, l.length < bound →
      items item bound false ((l.flatMap fun a => ',' :: text a) ++ ']' :: r) = .ok (l, r) := by
  induction l with
  | nil =>
    intro bound hb
    cases bound with
    | zero => exact absurd hb (by simp)
    | succ bound => simp only [items, List.flatMap_nil, List.nil_append, nextItem_closing]
  | cons a l ih =>
    intro bound hb
    cases bound with
    | zero => exact absurd hb (by simp)
    | succ bound =>
      have hb : l.length < bound := by simpa using hb
      have ih := ih (fun b hm => hs b (List.mem_cons_of_mem a hm))
        (fun b hm => hr b (List.mem_cons_of_mem a hm)) hb
      have ha := (hs a List.mem_cons_self).append
        ((l.flatMap fun b => ',' :: text b) ++ ']' :: r)
      simp only [List.flatMap_cons, List.cons_append, List.append_assoc, items]
      rw [nextItem_comma ha]
      simp only
      rw [hr a List.mem_cons_self _ (endsNumber_items l r)]
      simp only
      rw [ih]

/-- A list is read back if its elements are. -/
theorem items_separated {l : List α} (hs : ∀ a ∈ l, StartsItem (text a))
    (hr : ∀ a ∈ l, ∀ r, EndsNumber r → item (text a ++ r) = .ok (a, r)) (r : List Char)
    {bound : Nat} (hb : l.length < bound) :
    items item bound true (separated text l ++ ']' :: r) = .ok (l, r) := by
  cases bound with
  | zero => exact absurd hb (by simp)
  | succ bound =>
    cases l with
    | nil => simp only [items, separated, List.nil_append, nextItem_closing]
    | cons a l =>
      have ha := (hs a List.mem_cons_self).append
        ((l.flatMap fun b => ',' :: text b) ++ ']' :: r)
      simp only [separated, List.append_assoc, items]
      rw [nextItem_first ha]
      simp only
      rw [hr a List.mem_cons_self _ (endsNumber_items l r)]
      simp only
      rw [items_rest (fun b hm => hs b (List.mem_cons_of_mem a hm))
        (fun b hm => hr b (List.mem_cons_of_mem a hm)) r (by simpa using hb)]

theorem length_le_separated {l : List α} (hs : ∀ a ∈ l, StartsItem (text a)) :
    l.length ≤ (separated text l).length := by
  cases l with
  | nil => simp
  | cons a l =>
    obtain ⟨c, t, ha, -, -⟩ := hs a List.mem_cons_self
    have hl : l.length ≤ (l.flatMap fun b => ',' :: text b).length := by
      clear hs ha
      induction l with
      | nil => simp
      | cons b l ih =>
        simp only [List.flatMap_cons, List.length_append, List.length_cons]
        omega
    simp only [separated, ha, List.length_append, List.length_cons]
    omega

end Items

/-! ## Objects -/

/-- A string literal in any spelling of its characters. -/
def literal (f : Char → List Char) (s : List Char) : List Char := '"' :: s.flatMap f ++ ['"']

theorem stringChars_eq_literal (s : List Char) : stringChars s = literal escapeChar s := rfl

theorem literal_append (f : Char → List Char) (s r : List Char) :
    literal f s ++ r = '"' :: (s.flatMap f ++ '"' :: r) := by
  simp [literal]

section Literals

variable {f : Char → List Char}

theorem startsItem_literal (f : Char → List Char) (s : List Char) : StartsItem (literal f s) :=
  ⟨'"', _, rfl, by decide, by decide⟩

theorem nextKey_first (h : ∀ c, Spells (f c) c) (k : String) (r : List Char) :
    nextKey true (literal f k.toList ++ r) = .ok (some k, r) := by
  rw [literal_append]
  simp [nextKey, skipBlank, isBlank, nextKey.key, stringBody_flatMap h]

theorem nextKey_comma (h : ∀ c, Spells (f c) c) (k : String) (r : List Char) :
    nextKey false (',' :: (literal f k.toList ++ r)) = .ok (some k, r) := by
  rw [literal_append]
  simp [nextKey, skipBlank, isBlank, nextKey.key, stringBody_flatMap h]

theorem nextKey_closing {first : Bool} (r : List Char) : nextKey first ('}' :: r) = .ok (none, r) := by
  simp [nextKey, skipBlank, isBlank]

theorem colon_cons (r : List Char) : colon (':' :: r) = .ok r := by
  simp [colon, skipBlank, isBlank]

end Literals

section Members

variable {σ : Type} {member : σ → String → Reader σ} {f : Char → List Char}

theorem members_first (h : ∀ c, Spells (f c) c) {acc acc' : σ} {k : String} {r r' : List Char}
    (hm : member acc k r = .ok (acc', r')) (bound : Nat) :
    members member (bound + 1) true acc (literal f k.toList ++ r)
      = members member bound false acc' r' := by
  rw [members, nextKey_first h]
  simp only [hm]

theorem members_comma (h : ∀ c, Spells (f c) c) {acc acc' : σ} {k : String} {r r' : List Char}
    (hm : member acc k r = .ok (acc', r')) (bound : Nat) :
    members member (bound + 1) false acc (',' :: (literal f k.toList ++ r))
      = members member bound false acc' r' := by
  rw [members, nextKey_comma h]
  simp only [hm]

theorem members_closing (first : Bool) (acc : σ) (r : List Char) (bound : Nat) :
    members member (bound + 1) first acc ('}' :: r) = .ok (acc, r) := by
  rw [members, nextKey_closing]

end Members

theorem string_literal {f : Char → List Char} (h : ∀ c, Spells (f c) c) (s : String)
    (r : List Char) : string (literal f s.toList ++ r) = .ok (s, r) := by
  rw [literal_append, string, stringAs]
  simp [skipBlank, isBlank, stringBody_flatMap h]

theorem strings_separated {f : Char → List Char} (h : ∀ c, Spells (f c) c) (l : List String)
    (r : List Char) :
    strings ('[' :: (separated (fun s => literal f s.toList) l ++ ']' :: r)) = .ok (l, r) := by
  have hs : ∀ s ∈ l, StartsItem (literal f s.toList) := fun s _ => startsItem_literal f s.toList
  have hl := length_le_separated hs
  have hb : l.length < (separated (fun s => literal f s.toList) l ++ ']' :: r).length + 1 := by
    simp only [List.length_append]
    omega
  have hstring : ∀ s ∈ l, ∀ r, EndsNumber r → string (literal f s.toList ++ r) = .ok (s, r) :=
    fun s _ r _ => string_literal h s r
  have hread := items_separated hs hstring r hb
  simpa [strings, skipBlank, isBlank] using hread

theorem place_colon {α σ : Type} {read : Reader α} {key : String} {put : α → σ} {s r : List Char} {a : α}
    (h : read s = .ok (a, r)) : place none key read put (':' :: s) = .ok (put a, r) := by
  simp only [place, field, colon_cons, h]

end TopicMesh.Json
