import TopicMesh.Proofs.Json.Depth
import TopicMesh.Proofs.Json.Values

/-!
# TopicMesh.Proofs.Json.Range

The values that texts are for. Whatever a text looks like, its value is nested no deeper than its tree,
its integers are in range and the keys of its objects in order (`inRange_of_value`), so that it can be
written and read again. Floating-point numbers are left out here.
-/

namespace TopicMesh.Json

open Grammar (Pieces Scalar Further Elements Member Value)

variable {s r : List Char} {d : Nat} {x : Tree} {j : Json}

/-! ## Numbers -/

theorem absorb_lt {n : Nat} (h : n < Nat.pow 2 64) (ds : List Char) :
    (absorb n ds).1 < Nat.pow 2 64 := by
  induction ds generalizing n with
  | nil => exact h
  | cons c ds ih =>
    rw [absorb]
    split
    · rename_i hm
      exact ih hm
    · exact h

theorem scaled?_ne_int {negative : Bool} {m : Nat} {shift : Int} {e : Option (Bool × List Char)} {n : Int} :
    scaled? negative m shift e ≠ some (.int n) := by
  rw [scaled?.eq_def]
  split
  · simp
  · split
    · simp
    · split <;> simp

theorem completed?_inRange {negative : Bool} {m dropped : Nat} {ds : List Char}
    {e : Option (Bool × List Char)} {n : Int} (hm : m < Nat.pow 2 64)
    (h : completed? negative m dropped ds e = some (.int n)) : minInt ≤ n ∧ n ≤ maxInt := by
  have hmin : minInt = -9223372036854775808 := rfl
  have hmax : maxInt = 18446744073709551615 := rfl
  have hm : m < 18446744073709551616 := hm
  rw [completed?.eq_def] at h
  split at h
  · split at h
    · exact absurd h scaled?_ne_int
    · split at h
      · cases h
        omega
      · split at h
        · rename_i hfits
          have hle : m ≤ 9223372036854775808 := hfits.2
          cases h
          omega
        · exact absurd h scaled?_ne_int
  · exact absurd h scaled?_ne_int

/-! ## Scalars -/

/-- The value is nested at most so deep, and it is well-formed if its numbers are integers. -/
def InRange (d : Nat) (j : Json) : Prop := j.depth ≤ d ∧ (j.IsFloatFree → j.IsWellFormed)

theorem inRange_of_scalar (h : Scalar s x r) (hj : x.value? = some j) : InRange d j := by
  have hnumber {negative : Bool} {n : Numeral} (hj : (Tree.number negative n).value? = some j) :
      InRange d j := by
    rw [Tree.value?, Option.map_eq_some_iff] at hj
    obtain ⟨number, hn, rfl⟩ := hj
    cases number with
    | int n => exact ⟨Nat.zero_le d, fun _ => completed?_inRange (absorb_lt (by decide) _) hn⟩
    | float y => exact ⟨Nat.zero_le d, False.elim⟩
  cases h with
  | null =>
    cases hj
    exact ⟨Nat.zero_le d, fun _ => trivial⟩
  | true =>
    cases hj
    exact ⟨Nat.zero_le d, fun _ => trivial⟩
  | false =>
    cases hj
    exact ⟨Nat.zero_le d, fun _ => trivial⟩
  | negative => exact hnumber hj
  | number => exact hnumber hj
  | str =>
    rw [Tree.value?, Option.map_eq_some_iff] at hj
    obtain ⟨cs, -, rfl⟩ := hj
    exact ⟨Nat.zero_le d, fun _ => trivial⟩

/-! ## Brackets -/

section Sequences

variable {α : Type} {p : Grammar α} {closing : Char} {l : List α}

theorem exists_of_mem_further (h : Further closing p s l r) : ∀ a ∈ l, ∃ t u, p t a u := by
  induction l generalizing s with
  | nil => simp
  | cons a l ih =>
    obtain ⟨t, u, -, ha, hl⟩ := h
    intro b hb
    rcases List.mem_cons.1 hb with rfl | hb
    · exact ⟨t, u, ha⟩
    · exact ih hl b hb

theorem exists_of_mem_elements (h : Elements closing p s l r) : ∀ a ∈ l, ∃ t u, p t a u := by
  cases l with
  | nil => simp
  | cons a l =>
    obtain ⟨u, ha, hl⟩ := h
    intro b hb
    rcases List.mem_cons.1 hb with rfl | hb
    · exact ⟨s, u, ha⟩
    · exact exists_of_mem_further hl b hb

end Sequences

theorem inRange_arr {js : List Json} (h : ∀ a ∈ js, InRange d a) : InRange (d + 1) (.arr js) := by
  constructor
  · rw [depth, Nat.succ_le_succ_iff, ← Nat.not_lt, lt_itemsDepth_iff]
    rintro ⟨a, ha, hlt⟩
    exact absurd (h a ha).1 (Nat.not_le.2 hlt)
  · intro hf
    exact itemsWellFormed_iff.2 fun a ha => (h a ha).2 (floatFree_of_mem hf ha)

theorem inRange_obj {ms : List (String × Json)} (ha : Keyed.Ascending ms) (h : ∀ e ∈ ms, InRange d e.2) :
    InRange (d + 1) (.obj ms) := by
  constructor
  · rw [depth, Nat.succ_le_succ_iff, ← Nat.not_lt, lt_membersDepth_iff]
    rintro ⟨e, he, hlt⟩
    exact absurd (h e he).1 (Nat.not_le.2 hlt)
  · intro hf
    exact ⟨ha, membersWellFormed_iff.2 fun e he => (h e he).2 (membersFloatFree_iff.1 hf e he)⟩

/-- Members put in order one by one are in order, and none is new. -/
theorem foldl_insert (ms acc : List (String × Json)) (h : Keyed.Ascending acc) :
    Keyed.Ascending (ms.foldl (fun acc m => Keyed.insert m.1 m.2 acc) acc)
    ∧ ∀ e ∈ ms.foldl (fun acc m => Keyed.insert m.1 m.2 acc) acc, e ∈ acc ∨ e ∈ ms := by
  induction ms generalizing acc with
  | nil => exact ⟨h, fun e he => .inl he⟩
  | cons m ms ih =>
    obtain ⟨ha, hmem⟩ := ih (Keyed.insert m.1 m.2 acc) (Keyed.ascending_insert h)
    refine ⟨ha, ?_⟩
    intro e he
    rcases hmem e he with he | he
    · rcases Keyed.mem_insert he with rfl | he
      · exact .inr List.mem_cons_self
      · exact .inl he
    · exact .inr (List.mem_cons_of_mem m he)

theorem membersValue?_eq_some {l : List (List Piece × Tree)} {ms : List (String × Json)} :
    membersValue? l = some ms
      ↔ List.Forall₂ (fun m e => ((spell m.1).bind fun cs => m.2.value?.map fun j =>
          (String.ofList cs, j)) = some e) l ms := by
  refine collect_eq_some (g := membersValue?) rfl fun m l => ?_
  obtain ⟨k, x⟩ := m
  rw [membersValue?]
  cases spell k with
  | none => rfl
  | some cs => cases x.value? <;> rfl

/-! ## Values -/

/-- The value of a text is in range. The induction is on the brackets that may be opened. -/
theorem inRange_of_value (h : Value d s x r) (hj : x.value? = some j) : InRange d j := by
  induction d generalizing s x r j with
  | zero => exact inRange_of_scalar h hj
  | succ d ih =>
    rcases h with h | h
    · exact inRange_of_scalar h hj
    generalize skipBlank s = t at h
    cases h with
    | arr h =>
      rw [Tree.value?, Option.map_eq_some_iff] at hj
      obtain ⟨js, hjs, rfl⟩ := hj
      have hread := elements_exists_iff.2 ⟨_, h, itemsValue?_eq_some.1 hjs⟩
      refine inRange_arr fun a ha => ?_
      obtain ⟨t, u, x, hx, ha⟩ := exists_of_mem_elements hread a ha
      exact ih hx ha
    | obj h =>
      rw [Tree.value?, Option.map_eq_some_iff] at hj
      obtain ⟨ms, hms, rfl⟩ := hj
      have hread := elements_exists_iff.2 ⟨_, h, membersValue?_eq_some.1 hms⟩
      obtain ⟨hascending, hmem⟩ := foldl_insert ms [] .nil
      refine inRange_obj hascending fun e he => ?_
      have he : e ∈ ms := (hmem e he).resolve_left List.not_mem_nil
      obtain ⟨t, u, m, ⟨_, _, v, _, _, _, hx⟩, he⟩ := exists_of_mem_elements hread e he
      obtain ⟨cs, -, he⟩ := Option.bind_eq_some_iff.1 he
      obtain ⟨j, hj, rfl⟩ := Option.map_eq_some_iff.1 he
      exact ih hx hj

/-- Whatever is read as a document can be written and read again. -/
theorem inRange_of_document (h : document (value d) s = .ok j) : InRange d j := by
  obtain ⟨x, ⟨r, hx, -⟩, hj⟩ := document_value_iff.1 h
  exact inRange_of_value hx hj

end TopicMesh.Json
