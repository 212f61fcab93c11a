/-!
# TopicMesh.Text.Delimited

Fields separated by one delimiter character, over lists of characters:

* `cut d s`    — the text before and after the first `d`, or `none` when there is no `d`.
* `cutString`  — the same on strings.

`cut_eq_some_iff` says that `cut` is the inverse of joining a delimiter-free field to a rest.
-/

namespace TopicMesh.Text

/-- Splits at the first `d`; the delimiter itself belongs to neither part. -/
def cut (d : Char) : List Char → Option (List Char × List Char)
  | [] => none
  | c :: r =>
    if c = d then some ([], r)
    else
      match cut d r with
      | none => none
      | some (a, b) => some (c :: a, b)

def cutString (d : Char) (s : String) : Option (String × String) :=
  match cut d s.toList with
  | none => none
  | some (a, b) => some (String.ofList a, String.ofList b)

theorem cut_eq_none_iff {d : Char} {s : List Char} : cut d s = none ↔ d ∉ s := by
  induction s with
  | nil => simp [cut]
  | cons c r ih =>
    by_cases h : c = d
    · simp [cut, h]
    · cases hr : cut d r with
      | none => simp [cut, h, hr, ih.1 hr, Ne.symm h]
      | some p =>
        have : d ∈ r := by
          by_cases hm : d ∈ r
          · exact hm
          · rw [ih.2 hm] at hr; cases hr
        simp [cut, h, hr, this]

theorem cut_append_cons {d : Char} {a : List Char} (b : List Char) (h : d ∉ a) :
    cut d (a ++ d :: b) = some (a, b) := by
  induction a with
  | nil => simp [cut]
  | cons c r ih =>
    have hc : c ≠ d := fun e => h (by simp [e])
    have hr : d ∉ r := fun e => h (by simp [e])
    simp [cut, hc, ih hr]

/-- The first part has no delimiter, and the parts joined by it are the text. -/
theorem cut_eq_some_iff {d : Char} {s a b : List Char} :
    cut d s = some (a, b) ↔ d ∉ a ∧ s = a ++ d :: b := by
  constructor
  · intro h
    induction s generalizing a with
    | nil => simp [cut] at h
    | cons c r ih =>
      by_cases hc : c = d
      · simp [cut, hc] at h
        obtain ⟨rfl, rfl⟩ := h
        simp [hc]
      · cases hr : cut d r with
        | none => simp [cut, hc, hr] at h
        | some p =>
          obtain ⟨x, y⟩ := p
          simp [cut, hc, hr] at h
          obtain ⟨rfl, rfl⟩ := h
          obtain ⟨h₁, h₂⟩ := ih hr
          exact ⟨by simp [h₁, Ne.symm hc], by simp [h₂]⟩
  · rintro ⟨h, rfl⟩
    exact cut_append_cons b h

theorem cutString_eq_some_iff {d : Char} {s a b : String} :
    cutString d s = some (a, b) ↔ d ∉ a.toList ∧ s = a ++ String.singleton d ++ b := by
  have hparts : cutString d s = some (a, b) ↔ cut d s.toList = some (a.toList, b.toList) := by
    unfold cutString
    cases cut d s.toList with
    | none => simp
    | some parts =>
      obtain ⟨x, y⟩ := parts
      simp only [Option.some.injEq, Prod.mk.injEq, ← String.toList_inj, String.toList_ofList]
  have hjoined : s = a ++ String.singleton d ++ b ↔ s.toList = a.toList ++ d :: b.toList := by
    rw [← String.toList_inj]
    simp
  rw [hparts, cut_eq_some_iff, hjoined]

end TopicMesh.Text
