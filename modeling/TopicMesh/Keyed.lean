/-!
# TopicMesh.Keyed

Lists of keyed entries in ascending order of their keys, each key once. `find?` is the view: an
entry is what `find?` gives for its key, `find?_insert` and `find?_erase` say what the operations
do to it, and `ext_find?` that it determines the list.
-/

namespace TopicMesh.Keyed

variable {α : Type}

/-- Each key is below all that follow it. -/
def Ascending (entries : List (String × α)) : Prop :=
  entries.Pairwise fun a b => a.1 < b.1

def find? (key : String) : List (String × α) → Option α
  | [] => none
  | (k, v) :: r => if k = key then some v else find? key r

def insert (key : String) (value : α) : List (String × α) → List (String × α)
  | [] => [(key, value)]
  | (k, v) :: r =>
    if key < k then (key, value) :: (k, v) :: r
    else if k < key then (k, v) :: insert key value r
    else (key, value) :: r

def erase (key : String) : List (String × α) → List (String × α)
  | [] => []
  | (k, v) :: r => if k = key then r else (k, v) :: erase key r

/-! ## Order of strings -/

theorem lt_irrefl (a : String) : ¬a < a := Std.lt_irrefl

theorem lt_trans {a b c : String} (h : a < b) (h' : b < c) : a < c := Std.lt_trans h h'

theorem eq_of_not_lt {a b : String} (h : ¬a < b) (h' : ¬b < a) : a = b :=
  Std.le_antisymm (Std.not_lt.mp h') (Std.not_lt.mp h)

theorem ne_of_lt {a b : String} (h : a < b) : a ≠ b := fun e => lt_irrefl a (e ▸ h)

/-! ## The operations keep the order -/

theorem mem_insert {key : String} {value : α} {entries : List (String × α)} {e : String × α}
    (h : e ∈ insert key value entries) : e = (key, value) ∨ e ∈ entries := by
  induction entries with
  | nil => simpa [insert] using h
  | cons x r ih =>
    obtain ⟨k, v⟩ := x
    simp only [insert] at h
    split at h
    · simpa using h
    · split at h
      · rcases List.mem_cons.1 h with h | h
        · exact .inr (by simp [h])
        · rcases ih h with h | h
          · exact .inl h
          · exact .inr (by simp [h])
      · rcases List.mem_cons.1 h with h | h
        · exact .inl h
        · exact .inr (by simp [h])

theorem ascending_insert {key : String} {value : α} {entries : List (String × α)}
    (h : Ascending entries) : Ascending (insert key value entries) := by
  induction entries with
  | nil => simp [insert, Ascending]
  | cons x r ih =>
    obtain ⟨k, v⟩ := x
    have hr : Ascending r := (List.pairwise_cons.1 h).2
    have hk := (List.pairwise_cons.1 h).1
    simp only [insert]
    split
    · rename_i hlt
      refine List.pairwise_cons.2 ⟨?_, h⟩
      intro e he
      rcases List.mem_cons.1 he with rfl | he
      · exact hlt
      · exact lt_trans hlt (hk e he)
    · split
      · rename_i hlt
        refine List.pairwise_cons.2 ⟨?_, ih hr⟩
        intro e he
        rcases mem_insert he with rfl | he
        · exact hlt
        · exact hk e he
      · rename_i h₁ h₂
        have : key = k := eq_of_not_lt h₁ h₂
        exact List.pairwise_cons.2 ⟨fun e he => this ▸ hk e he, hr⟩

theorem erase_sublist (key : String) (entries : List (String × α)) :
    (erase key entries).Sublist entries := by
  induction entries with
  | nil => exact .slnil
  | cons x r ih =>
    obtain ⟨k, v⟩ := x
    simp only [erase]
    split
    · exact .cons _ (List.Sublist.refl r)
    · exact .cons_cons _ ih

theorem ascending_erase {key : String} {entries : List (String × α)}
    (h : Ascending entries) : Ascending (erase key entries) :=
  List.Pairwise.sublist (erase_sublist key entries) h

/-! ## The view -/

theorem find?_eq_none_of_lt {key : String} {entries : List (String × α)}
    (h : ∀ e ∈ entries, key < e.1) : find? key entries = none := by
  induction entries with
  | nil => rfl
  | cons x r ih =>
    obtain ⟨k, v⟩ := x
    have hk : k ≠ key := fun e => ne_of_lt (h (k, v) (by simp)) e.symm
    simp [find?, hk, ih fun e he => h e (by simp [he])]

theorem find?_insert {key other : String} {value : α} {entries : List (String × α)} :
    find? other (insert key value entries) =
      if key = other then some value else find? other entries := by
  induction entries with
  | nil => simp [insert, find?]
  | cons x r ih =>
    obtain ⟨k, v⟩ := x
    simp only [insert]
    split
    · simp [find?]
    · split
      · rename_i hlt
        by_cases hk : k = other
        · subst hk
          simp [find?, Ne.symm (ne_of_lt hlt)]
        · simp [find?, hk, ih]
      · rename_i h₁ h₂
        have hkey : key = k := eq_of_not_lt h₁ h₂
        by_cases hk : k = other
        · simp [find?, hkey, hk]
        · simp [find?, hkey, hk]

theorem find?_erase {key other : String} {entries : List (String × α)} (h : Ascending entries) :
    find? other (erase key entries) = if key = other then none else find? other entries := by
  induction entries with
  | nil => simp [erase, find?]
  | cons x r ih =>
    obtain ⟨k, v⟩ := x
    have hr : Ascending r := (List.pairwise_cons.1 h).2
    have hk := (List.pairwise_cons.1 h).1
    by_cases hkey : k = key
    · subst hkey
      by_cases ho : k = other
      · subst ho
        simp [erase, find?_eq_none_of_lt hk]
      · simp [erase, find?, ho]
    · by_cases ho : k = other
      · subst ho
        simp [erase, find?, hkey, Ne.symm hkey]
      · simp [erase, find?, hkey, ho, ih hr]

theorem mem_of_find? {key : String} {value : α} {entries : List (String × α)}
    (h : find? key entries = some value) : (key, value) ∈ entries := by
  induction entries with
  | nil => simp [find?] at h
  | cons x r ih =>
    obtain ⟨k, v⟩ := x
    by_cases hk : k = key
    · simp [find?, hk] at h
      simp [hk, h]
    · simp [find?, hk] at h
      simp [ih h]

theorem find?_of_mem {key : String} {value : α} {entries : List (String × α)}
    (ha : Ascending entries) (h : (key, value) ∈ entries) : find? key entries = some value := by
  induction entries with
  | nil => simp at h
  | cons x r ih =>
    obtain ⟨k, v⟩ := x
    rcases List.mem_cons.1 h with h | h
    · cases h
      simp [find?]
    · have hlt := (List.pairwise_cons.1 ha).1 _ h
      simp [find?, ne_of_lt hlt, ih (List.pairwise_cons.1 ha).2 h]

/-- Two ascending lists with the same view are the same list. -/
theorem ext_find? {as bs : List (String × α)} (ha : Ascending as) (hb : Ascending bs)
    (h : ∀ key, find? key as = find? key bs) : as = bs := by
  induction as generalizing bs with
  | nil =>
    cases bs with
    | nil => rfl
    | cons y s => have := h y.1; simp [find?] at this
  | cons x r ih =>
    obtain ⟨k, v⟩ := x
    cases bs with
    | nil => have := h k; simp [find?] at this
    | cons y s =>
      obtain ⟨l, w⟩ := y
      have hra := List.pairwise_cons.1 ha
      have hsb := List.pairwise_cons.1 hb
      have hkl : k = l := by
        apply eq_of_not_lt
        · intro hlt
          have h₁ := h k
          have hn : find? k ((l, w) :: s) = none :=
            find?_eq_none_of_lt fun e he => by
              rcases List.mem_cons.1 he with rfl | he
              · exact hlt
              · exact lt_trans hlt (hsb.1 e he)
          rw [hn] at h₁
          simp [find?] at h₁
        · intro hlt
          have h₁ := h l
          have hn : find? l ((k, v) :: r) = none :=
            find?_eq_none_of_lt fun e he => by
              rcases List.mem_cons.1 he with rfl | he
              · exact hlt
              · exact lt_trans hlt (hra.1 e he)
          rw [hn] at h₁
          simp [find?] at h₁
      subst hkl
      have hv : v = w := by simpa [find?] using h k
      subst hv
      congr 1
      apply ih hra.2 hsb.2
      intro key
      by_cases hk : k = key
      · subst hk
        rw [find?_eq_none_of_lt hra.1, find?_eq_none_of_lt hsb.1]
      · simpa [find?, hk] using h key

end TopicMesh.Keyed
