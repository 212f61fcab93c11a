import TopicMesh.Proofs.Json.Grammar
import TopicMesh.Proofs.Json.Literal

/-!
# TopicMesh.Proofs.Json.Scalars

The readers of strings and of numbers accept exactly what the grammar says, and read what it means.

* `skipString_iff`, `stringBody_iff`       — the inside of a string, passed over or read.
* `skipNumber_iff`, `unsignedNumber_iff`   — a number, passed over or read.
-/

namespace TopicMesh.Json

open Grammar (Pieces Digits Whole Fraction Exponent Decimal)

variable {s r : List Char}

/-- What is refused is not read as anything. -/
theorem error_iff {ε α : Type} {e : ε} {a : α} {P : Prop} (h : ¬P) : Except.error e = .ok a ↔ P := by
  refine iff_of_false ?_ h
  intro he
  cases he

/-- What is made of a reading means what is made of the meaning. -/
theorem map_read_iff {α β γ : Type} {read : Except Fault (α × List Char)} {P : γ → Prop}
    {meaning : γ → Option α} (hread : ∀ a, read = .ok (a, r) ↔ ∃ t, P t ∧ meaning t = some a)
    (f : α → β) {b : β} :
    (∃ a, read = .ok (a, r) ∧ f a = b) ↔ ∃ t, P t ∧ (meaning t).map f = some b := by
  simp only [hread, Option.map_eq_some_iff]
  constructor
  · rintro ⟨a, ⟨t, ht, ha⟩, hb⟩
    exact ⟨t, ht, a, ha, hb⟩
  · rintro ⟨t, ht, a, ha, hb⟩
    exact ⟨a, ⟨t, ht, ha⟩, hb⟩

/-! ## Strings -/

theorem prepend_eq_ok {c : Char} {x : Except Fault (List Char × List Char)} {cs : List Char} :
    prepend c x = .ok (cs, r) ↔ ∃ cs', x = .ok (cs', r) ∧ cs = c :: cs' := by
  cases x with
  | error e => exact error_iff (by simp)
  | ok p =>
    obtain ⟨cs', r'⟩ := p
    constructor
    · rintro ⟨⟩
      exact ⟨cs', rfl, rfl⟩
    · rintro ⟨-, ⟨⟩, rfl⟩
      rfl

theorem spells_pair {h₁ h₂ h₃ h₄ h₅ h₆ h₇ h₈ : Char} {n m : Nat}
    (hn : hexUnit h₁ h₂ h₃ h₄ = some n) (hm : hexUnit h₅ h₆ h₇ h₈ = some m)
    (ht : isTrailingSurrogate n = false) (hl : isLeadingSurrogate n = true)
    (hp : isTrailingSurrogate m = true) :
    Spells ['\\', 'u', h₁, h₂, h₃, h₄, '\\', 'u', h₅, h₆, h₇, h₈] (pairedChar n m) := by
  intro r
  show stringBody ('\\' :: 'u' :: h₁ :: h₂ :: h₃ :: h₄ :: '\\' :: 'u' :: h₅ :: h₆ :: h₇ :: h₈ :: r) = _
  rw [stringBody.eq_def]
  simp [shortEscape, hn, hm, ht, hl, hp]

theorem pieces_of_stringBody {cs : List Char} (h : stringBody s = .ok (cs, r)) :
    ∃ ps, Pieces s ps r ∧ spell ps = some cs := by
  fun_induction stringBody s generalizing cs with
  | case2 =>
    cases h
    exact ⟨[], .close, rfl⟩
  | case4 e s d he _ ih =>
    obtain ⟨cs, hcs, rfl⟩ := prepend_eq_ok.1 h
    obtain ⟨ps, hps, hspell⟩ := ih hcs
    exact ⟨_, .short he hps, by rw [spell, hspell, Option.map_some]⟩
  | case10 _ _ _ _ n hn ht hl _ _ _ _ s m hm hp _ _ ih =>
    obtain ⟨cs, hcs, rfl⟩ := prepend_eq_ok.1 h
    obtain ⟨ps, hps, hspell⟩ := ih hcs
    refine ⟨_, .unit hn (.unit hm hps), ?_⟩
    rw [spell, if_neg ht, if_pos hl, if_pos hp, hspell, Option.map_some]
  | case15 _ _ _ _ s n hn ht hl _ _ ih =>
    obtain ⟨cs, hcs, rfl⟩ := prepend_eq_ok.1 h
    obtain ⟨ps, hps, hspell⟩ := ih hcs
    refine ⟨_, .unit hn hps, ?_⟩
    rw [spell.eq_def]
    simp only [if_neg ht, if_neg hl, hspell, Option.map_some]
  | case19 c s hquote hescape hcontrol ih =>
    obtain ⟨cs, hcs, rfl⟩ := prepend_eq_ok.1 h
    obtain ⟨ps, hps, hspell⟩ := ih hcs
    exact ⟨_, .plain hquote hescape hcontrol hps, by rw [spell, hspell, Option.map_some]⟩
  | _ => cases h

theorem stringBody_of_pieces {ps : List Piece} {cs : List Char} (h : Pieces s ps r)
    (hs : spell ps = some cs) : stringBody s = .ok (cs, r) := by
  fun_induction spell ps generalizing s cs with
  | case1 =>
    cases hs
    cases h
    rw [stringBody.eq_def]
    exact if_pos rfl
  | case2 c ps ih =>
    obtain ⟨cs, hcs, rfl⟩ := Option.map_eq_some_iff.1 hs
    cases h with
    | plain hquote hescape hcontrol h =>
      have hspells := spells_self hquote hescape hcontrol
      exact (hspells _).trans (by rw [ih h hcs, prepend])
    | short he h => exact (spells_short he _).trans (by rw [ih h hcs, prepend])
  | case4 n ht hl m ps hp ih =>
    obtain ⟨cs, hcs, rfl⟩ := Option.map_eq_some_iff.1 hs
    cases h with
    | unit hn h =>
      cases h with
      | unit hm h =>
        have hspells := spells_pair hn hm (Bool.eq_false_iff.2 ht) hl hp
        exact (hspells _).trans (by rw [ih h hcs, prepend])
  | case7 n ps ht hl ih =>
    obtain ⟨cs, hcs, rfl⟩ := Option.map_eq_some_iff.1 hs
    cases h with
    | unit hn h =>
      have hspells := spells_unit hn (Bool.eq_false_iff.2 ht) (Bool.eq_false_iff.2 hl)
      exact (hspells _).trans (by rw [ih h hcs, prepend])
  | _ => cases hs

/-- A string is read if it is one and spells characters. -/
theorem stringBody_iff {cs : List Char} :
    stringBody s = .ok (cs, r) ↔ ∃ ps, Pieces s ps r ∧ spell ps = some cs :=
  ⟨pieces_of_stringBody, fun ⟨_, h, hs⟩ => stringBody_of_pieces h hs⟩

theorem skipString_iff : skipString s = .ok r ↔ ∃ ps, Pieces s ps r := by
  constructor
  · intro h
    fun_induction skipString s with
    | case2 =>
      cases h
      exact ⟨[], .close⟩
    | case4 e s he _ ih =>
      obtain ⟨c, hc⟩ := Option.isSome_iff_exists.1 he
      obtain ⟨ps, hps⟩ := ih h
      exact ⟨_, .short hc hps⟩
    | case6 _ _ _ _ s n hn _ _ ih =>
      obtain ⟨ps, hps⟩ := ih h
      exact ⟨_, .unit hn hps⟩
    | case10 c s hquote hescape hcontrol ih =>
      obtain ⟨ps, hps⟩ := ih h
      exact ⟨_, .plain hquote hescape hcontrol hps⟩
    | _ => cases h
  · rintro ⟨ps, h⟩
    induction h with
    | close =>
      rw [skipString.eq_def]
      exact if_pos rfl
    | plain hquote hescape hcontrol _ ih =>
      rw [skipString.eq_def]
      simp only [if_neg hquote, if_neg hescape, if_neg hcontrol, ih]
    | short he _ ih =>
      rw [skipString.eq_def]
      simp [he, ih]
    | unit hn _ ih =>
      rw [skipString.eq_def]
      simp [shortEscape, hn, ih]

theorem Grammar.Pieces.length_lt {ps : List Piece} (h : Pieces s ps r) : r.length < s.length := by
  induction h with
  | close => exact Nat.lt_succ_self _
  | plain _ _ _ _ ih => exact Nat.lt_succ_of_lt ih
  | short _ _ ih | unit _ _ ih =>
    simp only [List.length_cons]
    omega

/-! ## Numbers -/

theorem digits_nil {ds : List Char} : ¬Digits [] ds r := fun ⟨hne, hds, _⟩ => hne hds.symm

theorem digits_cons {c : Char} {ds : List Char} :
    Digits (c :: s) ds r
      ↔ isDigit c = true ∧ ds = c :: s.takeWhile isDigit ∧ r = s.dropWhile isDigit := by
  constructor
  · rintro ⟨hne, rfl, rfl⟩
    cases hc : isDigit c with
    | false =>
      rw [List.takeWhile_cons_of_neg (Bool.eq_false_iff.1 hc)] at hne
      exact absurd rfl hne
    | true => exact ⟨rfl, List.takeWhile_cons_of_pos hc, List.dropWhile_cons_of_pos hc⟩
  · rintro ⟨hc, rfl, rfl⟩
    exact ⟨List.cons_ne_nil _ _, List.takeWhile_cons_of_pos hc, List.dropWhile_cons_of_pos hc⟩

theorem skipExponent_eq (s : List Char) :
    skipExponent s = match (Grammar.exponentSign s).2 with
      | [] => .error ⟨.invalidNumber, [], 0⟩
      | c :: r =>
        if isDigit c then .ok (r.dropWhile isDigit) else .error ⟨.invalidNumber, c :: r, 1⟩ := by
  cases s with
  | nil => rfl
  | cons c r =>
    by_cases hplus : c = '+'
    · subst hplus
      cases r <;> rfl
    · by_cases hminus : c = '-'
      · subst hminus
        cases r <;> rfl
      · rw [skipExponent.eq_def, Grammar.exponentSign, if_neg hplus, if_neg hminus]
        simp [hplus, hminus]

theorem skipExponent_iff : skipExponent s = .ok r ↔ ∃ ds, Digits (Grammar.exponentSign s).2 ds r := by
  rw [skipExponent_eq]
  cases (Grammar.exponentSign s).2 with
  | nil =>
    refine error_iff ?_
    rintro ⟨_, h⟩
    exact absurd h digits_nil
  | cons c t =>
    simp only [digits_cons]
    split
    · rename_i hc
      constructor
      · rintro ⟨⟩
        exact ⟨_, hc, rfl, rfl⟩
      · rintro ⟨_, -, -, rfl⟩
        rfl
    · rename_i hc
      refine error_iff ?_
      rintro ⟨_, h, _⟩
      exact absurd h hc

section Exponents

variable {p : Option (Bool × List Char) → Prop}

theorem exists_exponent_of_none (h : exponentLetter s = none) :
    (∃ e, Exponent s e r ∧ p e) ↔ r = s ∧ p none := by
  constructor
  · rintro ⟨e, he, hp⟩
    cases e with
    | none => exact ⟨he.2, hp⟩
    | some e =>
      obtain ⟨t, ht, -⟩ := he
      cases h.symm.trans ht
  · rintro ⟨hr, hp⟩
    exact ⟨none, ⟨h, hr⟩, hp⟩

theorem exists_exponent_of_some {t : List Char} (h : exponentLetter s = some t) :
    (∃ e, Exponent s e r ∧ p e)
      ↔ ∃ ds, Digits (Grammar.exponentSign t).2 ds r ∧ p (some ((Grammar.exponentSign t).1, ds)) := by
  constructor
  · rintro ⟨e, he, hp⟩
    cases e with
    | none => cases h.symm.trans he.1
    | some e =>
      obtain ⟨down, ds⟩ := e
      obtain ⟨u, hu, rfl, hds⟩ := he
      cases h.symm.trans hu
      exact ⟨ds, hds, hp⟩
  · rintro ⟨ds, hds, hp⟩
    exact ⟨some (_, ds), ⟨t, h, rfl, hds⟩, hp⟩

end Exponents

/-- After its digits a number goes on with an exponent, or it ends. -/
theorem skipExponent_or_end_iff : (match exponentLetter s with
    | some t => skipExponent t
    | none => .ok s) = .ok r ↔ ∃ e, Exponent s e r ∧ True := by
  cases hs : exponentLetter s with
  | none =>
    rw [exists_exponent_of_none hs]
    simp [eq_comm]
  | some t =>
    rw [exists_exponent_of_some hs]
    simp only [skipExponent_iff, and_true]

theorem fraction_nil {ds : List Char} : Fraction [] ds r ↔ ds = [] ∧ r = [] := by
  simp [Fraction]

theorem fraction_point {ds : List Char} : Fraction ('.' :: s) ds r ↔ Digits s ds r := by
  simp [Fraction]

theorem fraction_cons {c : Char} (hc : c ≠ '.') {ds : List Char} :
    Fraction (c :: s) ds r ↔ ds = [] ∧ r = c :: s := by
  simp [Fraction, hc]

theorem skipFraction_iff :
    skipFraction s = .ok r ↔ ∃ fs t e, Fraction s fs t ∧ Exponent t e r ∧ True := by
  cases s with
  | nil =>
    have hend : skipFraction [] = (match exponentLetter [] with
      | some t => skipExponent t
      | none => .ok []) := rfl
    simp only [hend, skipExponent_or_end_iff, fraction_nil]
    simp
  | cons c s =>
    by_cases hc : c = '.'
    · subst hc
      simp only [fraction_point]
      cases s with
      | nil =>
        refine error_iff ?_
        rintro ⟨_, _, _, h, _⟩
        exact absurd h digits_nil
      | cons d s =>
        rw [skipFraction.eq_def]
        simp only [digits_cons, if_true]
        split
        · rename_i hd
          rw [List.dropWhile_cons_of_pos hd]
          refine skipExponent_or_end_iff.trans ?_
          constructor
          · rintro ⟨e, he⟩
            exact ⟨_, _, e, ⟨hd, rfl, rfl⟩, he⟩
          · rintro ⟨_, _, e, ⟨-, -, rfl⟩, he⟩
            exact ⟨e, he⟩
        · rename_i hd
          refine error_iff ?_
          rintro ⟨_, _, _, ⟨h, _⟩, _⟩
          exact absurd h hd
    · have hend : skipFraction (c :: s) = (match exponentLetter (c :: s) with
        | some t => skipExponent t
        | none => .ok (c :: s)) := by
        rw [skipFraction.eq_def]
        exact if_neg hc
      simp only [hend, skipExponent_or_end_iff, fraction_cons hc]
      simp

theorem whole_nil {ds t : List Char} : ¬Whole [] ds t := fun h => digits_nil h.1

theorem whole_zero {ds t : List Char} :
    Whole ('0' :: s) ds t ↔ (∀ c ∈ s.head?, isDigit c = false) ∧ ds = ['0'] ∧ t = s := by
  have hzero : isDigit '0' = true := by decide
  rw [Whole, digits_cons]
  cases s with
  | nil => simp +contextual [hzero]
  | cons c s => cases hc : isDigit c <;> simp +contextual [hzero, hc]

theorem whole_cons {c : Char} (hc : c ≠ '0') {ds t : List Char} :
    Whole (c :: s) ds t
      ↔ isDigit c = true ∧ ds = c :: s.takeWhile isDigit ∧ t = s.dropWhile isDigit := by
  rw [Whole, digits_cons]
  constructor
  · exact And.left
  · rintro ⟨hd, rfl, rfl⟩
    exact ⟨⟨hd, rfl, rfl⟩, fun h => absurd (Option.some.inj h) hc⟩

theorem skipNumber_iff : skipNumber s = .ok r ↔ ∃ n, Decimal s n r := by
  have hwhole : skipNumber s = .ok r ↔ ∃ ds t, Whole s ds t ∧ skipFraction t = .ok r := by
    cases s with
    | nil =>
      refine error_iff ?_
      rintro ⟨_, _, h, _⟩
      exact absurd h whole_nil
    | cons c s =>
      rw [skipNumber.eq_def]
      by_cases hc : c = '0'
      · subst hc
        simp only [whole_zero, if_true]
        cases s with
        | nil => simp [skipFraction]
        | cons d s => cases hd : isDigit d <;> simp [hd]
      · simp only [whole_cons hc, if_neg hc]
        cases hd : isDigit c <;> simp
  rw [hwhole]
  simp only [skipFraction_iff, and_true]
  constructor
  · rintro ⟨ds, t, hds, fs, u, e, hfs, he⟩
    exact ⟨⟨ds, fs, e⟩, t, u, hds, hfs, he⟩
  · rintro ⟨n, t, u, hds, hfs, he⟩
    exact ⟨n.whole, t, hds, n.fraction, u, n.exponent, hfs, he⟩

section Values

variable {negative : Bool} {m : Nat} {shift : Int} {x : Number}

theorem scientific_iff :
    scientific negative m shift s = .ok (x, r) ↔ scaled? negative m shift none = some x ∧ r = s := by
  rw [scientific, scaled?]
  cases Binary64.ofScientific negative m shift with
  | none => exact error_iff (by simp)
  | some y =>
    constructor
    · rintro ⟨⟩
      exact ⟨rfl, rfl⟩
    · rintro ⟨⟨⟩, rfl⟩
      rfl

/-- Digits that make an exponent too large are all passed over. -/
theorem exponentDigits_eq (n : Nat) (s : List Char) :
    (exponentDigits n s).1 = (exponentDigits n (s.takeWhile isDigit)).1
      ∧ (exponentDigits n s).2.dropWhile isDigit = s.dropWhile isDigit
      ∧ ((exponentDigits n s).1.isSome = true → (exponentDigits n s).2 = s.dropWhile isDigit) := by
  induction s generalizing n with
  | nil => exact ⟨rfl, rfl, fun _ => rfl⟩
  | cons c s ih =>
    cases hc : isDigit c with
    | false => simp [exponentDigits, hc]
    | true =>
      by_cases hm : n * 10 + digitValue c ≤ maxExponent
      · simpa [exponentDigits, hc, hm] using ih (n * 10 + digitValue c)
      · simp [exponentDigits, hc, hm]

theorem digitValue_le {c : Char} (hc : isDigit c = true) : digitValue c ≤ 9 := by
  rw [isDigit, Bool.and_eq_true, decide_eq_true_eq, decide_eq_true_eq] at hc
  have hle : c.toNat ≤ 57 := UInt32.le_iff_toNat_le.1 (Char.le_def.1 hc.2)
  have hzero : '0'.toNat = 48 := rfl
  rw [digitValue]
  omega

/-- The digits of an exponent, whose sign is known. -/
def signedExponent (negative : Bool) (m : Nat) (shift : Int) : Bool × List Char →
    Except Fault (Number × List Char)
  | (_, []) => .error ⟨.eofInValue, [], 0⟩
  | (down, c :: r) =>
    if isDigit c then
      match exponentDigits (digitValue c) r with
      | (some n, r) => scientific negative m (if down then shift - n else shift + n) r
      | (none, r) =>
        if m ≠ 0 ∧ down = false then .error ⟨.numberOutOfRange, r, 0⟩
        else .ok (.float (Binary64.zero negative), r.dropWhile isDigit)
    else .error ⟨.invalidNumber, c :: r, 1⟩

theorem exponentPart_eq (negative : Bool) (m : Nat) (shift : Int) (s : List Char) :
    exponentPart negative m shift s = signedExponent negative m shift (Grammar.exponentSign s) := by
  cases s with
  | nil => rfl
  | cons c r =>
    by_cases hplus : c = '+'
    · subst hplus
      cases r <;> rfl
    · by_cases hminus : c = '-'
      · subst hminus
        cases r <;> rfl
      · have hsign : Grammar.exponentSign (c :: r) = (false, c :: r) := by
          rw [Grammar.exponentSign, if_neg hplus, if_neg hminus]
        rw [exponentPart.eq_def, hsign]
        dsimp only
        rw [if_neg hplus, if_neg hminus]
        rfl

theorem exponentPart_iff : exponentPart negative m shift s = .ok (x, r)
    ↔ ∃ ds, Digits (Grammar.exponentSign s).2 ds r
      ∧ scaled? negative m shift (some ((Grammar.exponentSign s).1, ds)) = some x := by
  rw [exponentPart_eq]
  obtain ⟨down, t⟩ := Grammar.exponentSign s
  rw [signedExponent.eq_def]
  cases t with
  | nil =>
    refine error_iff ?_
    rintro ⟨_, h, _⟩
    exact absurd h digits_nil
  | cons c t =>
    simp only [digits_cons]
    cases hc : isDigit c with
    | false =>
      refine error_iff ?_
      rintro ⟨_, ⟨h, _⟩, _⟩
      cases h
    | true =>
      obtain ⟨hvalue, hrest, hread⟩ := exponentDigits_eq (digitValue c) t
      have hfirst : (exponentDigits 0 (c :: t.takeWhile isDigit)).1
          = (exponentDigits (digitValue c) t).1 := by
        have hle : digitValue c ≤ maxExponent :=
          Nat.le_trans (digitValue_le hc) (by decide : 9 ≤ maxExponent)
        rw [exponentDigits, hvalue, if_pos hc]
        simp only [Nat.zero_mul, Nat.zero_add, if_pos hle]
      simp only [true_and, if_true]
      generalize exponentDigits (digitValue c) t = read at hfirst hrest hread
      obtain ⟨e, u⟩ := read
      have hds : (∃ ds, (ds = c :: t.takeWhile isDigit ∧ r = t.dropWhile isDigit)
            ∧ scaled? negative m shift (some (down, ds)) = some x)
          ↔ r = t.dropWhile isDigit
            ∧ scaled? negative m shift (some (down, c :: t.takeWhile isDigit)) = some x := by
        constructor
        · rintro ⟨_, ⟨rfl, hr⟩, hx⟩
          exact ⟨hr, hx⟩
        · rintro ⟨hr, hx⟩
          exact ⟨_, ⟨rfl, hr⟩, hx⟩
      rw [hds, scaled?]
      simp only [hfirst]
      cases e with
      | some e =>
        have hu : u = t.dropWhile isDigit := hread rfl
        simp only [scientific_iff, hu, scaled?]
        exact And.comm
      | none =>
        have hu : u.dropWhile isDigit = t.dropWhile isDigit := hrest
        simp only [hu]
        split
        · exact error_iff (by simp)
        · constructor
          · rintro ⟨⟩
            exact ⟨rfl, rfl⟩
          · rintro ⟨rfl, ⟨⟩⟩
            rfl

theorem exponentPart_or_end_iff : (match exponentLetter s with
    | some t => exponentPart negative m shift t
    | none => scientific negative m shift s) = .ok (x, r)
      ↔ ∃ e, Exponent s e r ∧ scaled? negative m shift e = some x := by
  cases hs : exponentLetter s with
  | none =>
    rw [exists_exponent_of_none hs]
    exact scientific_iff.trans And.comm
  | some t =>
    rw [exists_exponent_of_some hs]
    exact exponentPart_iff

theorem fraction_iff : fraction negative m shift s = .ok (x, r)
    ↔ ∃ fs t e, Digits s fs t ∧ Exponent t e r
      ∧ scaled? negative (absorb m fs).1 (shift - (fs.length - (absorb m fs).2.length)) e = some x := by
  rw [fraction.eq_def]
  cases s with
  | nil =>
    refine error_iff ?_
    rintro ⟨_, _, _, h, _⟩
    exact absurd h digits_nil
  | cons c s =>
    simp only [digits_cons]
    cases hc : isDigit c with
    | false =>
      simp only [List.takeWhile_cons_of_neg (Bool.eq_false_iff.1 hc),
        List.dropWhile_cons_of_neg (Bool.eq_false_iff.1 hc), Bool.false_eq_true, false_and, exists_false]
      exact error_iff id
    | true =>
      simp only [List.takeWhile_cons_of_pos hc, List.dropWhile_cons_of_pos hc]
      refine exponentPart_or_end_iff.trans ?_
      constructor
      · rintro ⟨e, he, hx⟩
        exact ⟨_, _, e, ⟨trivial, rfl, rfl⟩, he, hx⟩
      · rintro ⟨_, _, e, ⟨-, rfl, rfl⟩, he, hx⟩
        exact ⟨e, he, hx⟩

theorem whole_iff {dropped : Nat} : afterInteger.whole negative m dropped s = .ok (x, r)
    ↔ completed? negative m dropped [] none = some x ∧ r = s := by
  rw [afterInteger.whole, completed?]
  split
  · exact scientific_iff
  · split
    · constructor
      · rintro ⟨⟩
        exact ⟨rfl, rfl⟩
      · rintro ⟨⟨⟩, rfl⟩
        rfl
    · split
      · constructor
        · rintro ⟨⟩
          exact ⟨rfl, rfl⟩
        · rintro ⟨⟨⟩, rfl⟩
          rfl
      · exact scientific_iff

theorem completed?_exponent (negative : Bool) (m dropped : Nat) (p : Bool × List Char) :
    completed? negative m dropped [] (some p) = scaled? negative m dropped (some p) := by
  simp [completed?, absorb]

theorem completed?_fraction (negative : Bool) (m dropped : Nat) {fs : List Char} (hfs : fs ≠ [])
    (e : Option (Bool × List Char)) :
    completed? negative m dropped fs e
      = scaled? negative (absorb m fs).1 (dropped - (fs.length - (absorb m fs).2.length)) e := by
  cases fs with
  | nil => exact absurd rfl hfs
  | cons c fs => rfl

/-- A number without a fraction: an exponent, or an integer if it ends here. -/
theorem exponentPart_or_whole_iff {dropped : Nat} : (match exponentLetter s with
    | some t => exponentPart negative m dropped t
    | none => afterInteger.whole negative m dropped s) = .ok (x, r)
      ↔ ∃ e, Exponent s e r ∧ completed? negative m dropped [] e = some x := by
  cases hs : exponentLetter s with
  | none =>
    rw [exists_exponent_of_none hs]
    exact whole_iff.trans And.comm
  | some t =>
    rw [exists_exponent_of_some hs]
    simp only [completed?_exponent]
    exact exponentPart_iff

theorem afterInteger_iff {dropped : Nat} : afterInteger negative m dropped s = .ok (x, r)
    ↔ ∃ fs t e, Fraction s fs t ∧ Exponent t e r ∧ completed? negative m dropped fs e = some x := by
  cases s with
  | nil =>
    have hend : afterInteger negative m dropped [] = (match exponentLetter [] with
      | some t => exponentPart negative m dropped t
      | none => afterInteger.whole negative m dropped []) := rfl
    simp only [hend, exponentPart_or_whole_iff, fraction_nil]
    simp
  | cons c s =>
    by_cases hc : c = '.'
    · subst hc
      have hpoint : afterInteger negative m dropped ('.' :: s) = fraction negative m dropped s := by
        rw [afterInteger.eq_def]
        exact if_pos rfl
      rw [hpoint, fraction_iff]
      simp only [fraction_point]
      constructor
      · rintro ⟨fs, t, e, hfs, he, hx⟩
        exact ⟨fs, t, e, hfs, he, by rw [completed?_fraction _ _ _ hfs.1, hx]⟩
      · rintro ⟨fs, t, e, hfs, he, hx⟩
        rw [completed?_fraction _ _ _ hfs.1] at hx
        exact ⟨fs, t, e, hfs, he, hx⟩
    · have hend : afterInteger negative m dropped (c :: s) = (match exponentLetter (c :: s) with
        | some t => exponentPart negative m dropped t
        | none => afterInteger.whole negative m dropped (c :: s)) := by
        rw [afterInteger.eq_def]
        exact if_neg hc
      simp only [hend, exponentPart_or_whole_iff, fraction_cons hc]
      simp

theorem unsignedNumber_iff :
    unsignedNumber negative s = .ok (x, r) ↔ ∃ n, Decimal s n r ∧ n.value? negative = some x := by
  have hwhole : unsignedNumber negative s = .ok (x, r)
      ↔ ∃ ds t, Whole s ds t
        ∧ afterInteger negative (absorb 0 ds).1 (absorb 0 ds).2.length t = .ok (x, r) := by
    cases s with
    | nil =>
      refine error_iff ?_
      rintro ⟨_, _, h, _⟩
      exact absurd h whole_nil
    | cons c s =>
      rw [unsignedNumber.eq_def]
      by_cases hc : c = '0'
      · subst hc
        have habsorb : absorb 0 ['0'] = (0, []) := rfl
        simp only [whole_zero, if_true]
        cases s with
        | nil => simp [habsorb]
        | cons d s => cases hd : isDigit d <;> simp [hd, habsorb]
      · simp only [whole_cons hc, if_neg hc]
        cases hd : isDigit c <;> simp
  rw [hwhole]
  simp only [afterInteger_iff]
  constructor
  · rintro ⟨ds, t, hds, fs, u, e, hfs, he, hx⟩
    exact ⟨⟨ds, fs, e⟩, ⟨t, u, hds, hfs, he⟩, hx⟩
  · rintro ⟨n, ⟨t, u, hds, hfs, he⟩, hx⟩
    exact ⟨n.whole, t, hds, n.fraction, u, n.exponent, hfs, he, hx⟩

end Values

/-! ## Texts without brackets -/

theorem word_iff {letters : List Char} : word letters s = .ok r ↔ s = letters ++ r := by
  induction letters generalizing s with
  | nil => simp [word]
  | cons c cs ih =>
    cases s with
    | nil => simp [word]
    | cons d s => by_cases hd : d = c <;> simp [word, hd, ih]

theorem Grammar.Digits.length_lt {ds : List Char} (h : Digits s ds r) : r.length < s.length := by
  cases s with
  | nil => exact absurd h digits_nil
  | cons c s =>
    obtain ⟨-, -, rfl⟩ := digits_cons.1 h
    exact Nat.lt_succ_of_le (List.dropWhile_sublist _).length_le

theorem Grammar.Decimal.length_lt {n : Numeral} (h : Decimal s n r) : r.length < s.length := by
  obtain ⟨t, u, hwhole, hfraction, hexponent⟩ := h
  have h₁ := hwhole.1.length_lt
  have h₂ : u.length ≤ t.length := by
    rcases hfraction with ⟨v, rfl, hds⟩ | ⟨-, -, rfl⟩
    · exact Nat.le_succ_of_le (Nat.le_of_lt hds.length_lt)
    · exact Nat.le_refl _
  have h₃ : r.length ≤ u.length := by
    cases he : n.exponent with
    | none =>
      rw [he] at hexponent
      exact Nat.le_of_eq (congrArg List.length hexponent.2)
    | some e =>
      rw [he] at hexponent
      obtain ⟨v, hletter, -, hds⟩ := hexponent
      have hv : v.length ≤ u.length := by
        cases u with
        | nil => cases hletter
        | cons c u =>
          rw [exponentLetter] at hletter
          split at hletter
          · cases hletter
            exact Nat.le_succ _
          · cases hletter
      have hsign : (Grammar.exponentSign v).2.length ≤ v.length := by
        cases v with
        | nil => exact Nat.le_refl _
        | cons c v =>
          rw [Grammar.exponentSign]
          split
          · exact Nat.le_succ _
          · split
            · exact Nat.le_succ _
            · exact Nat.le_refl _
      have hlt := hds.length_lt
      omega
  omega

theorem isDigit_of_decimal {c : Char} {n : Numeral} (h : Decimal (c :: s) n r) : isDigit c = true := by
  obtain ⟨t, u, hwhole, -⟩ := h
  exact (digits_cons.1 hwhole.1).1

section Inversion

open Grammar (Scalar)

variable {x : Tree} {t : List Char}

theorem scalar_null_iff : Scalar ('n' :: t) x r ↔ t = ['u', 'l', 'l'] ++ r ∧ x = .null := by
  constructor
  · intro h
    cases h with
    | null => exact ⟨rfl, rfl⟩
    | number h => exact absurd (isDigit_of_decimal h) (by decide)
  · rintro ⟨rfl, rfl⟩
    exact .null

theorem scalar_true_iff : Scalar ('t' :: t) x r ↔ t = ['r', 'u', 'e'] ++ r ∧ x = .bool true := by
  constructor
  · intro h
    cases h with
    | true => exact ⟨rfl, rfl⟩
    | number h => exact absurd (isDigit_of_decimal h) (by decide)
  · rintro ⟨rfl, rfl⟩
    exact .true

theorem scalar_false_iff : Scalar ('f' :: t) x r ↔ t = ['a', 'l', 's', 'e'] ++ r ∧ x = .bool false := by
  constructor
  · intro h
    cases h with
    | false => exact ⟨rfl, rfl⟩
    | number h => exact absurd (isDigit_of_decimal h) (by decide)
  · rintro ⟨rfl, rfl⟩
    exact .false

theorem scalar_minus_iff : Scalar ('-' :: t) x r ↔ ∃ n, Decimal t n r ∧ Tree.number true n = x := by
  constructor
  · intro h
    cases h with
    | negative h => exact ⟨_, h, rfl⟩
    | number h => exact absurd (isDigit_of_decimal h) (by decide)
  · rintro ⟨n, h, rfl⟩
    exact .negative h

theorem scalar_quote_iff : Scalar ('"' :: t) x r ↔ ∃ ps, Pieces t ps r ∧ Tree.str ps = x := by
  constructor
  · intro h
    cases h with
    | str h => exact ⟨_, h, rfl⟩
    | number h => exact absurd (isDigit_of_decimal h) (by decide)
  · rintro ⟨ps, h, rfl⟩
    exact .str h

/-- What begins with another character is a number, if it is anything. -/
theorem scalar_number_iff {c : Char}
    (hc : c ≠ 'n' ∧ c ≠ 't' ∧ c ≠ 'f' ∧ c ≠ '-' ∧ c ≠ '"') :
    Scalar (c :: t) x r ↔ ∃ n, Decimal (c :: t) n r ∧ Tree.number false n = x := by
  obtain ⟨hn, ht, hf, hminus, hquote⟩ := hc
  constructor
  · intro h
    cases h with
    | number h => exact ⟨_, h, rfl⟩
    | null => exact absurd rfl hn
    | true => exact absurd rfl ht
    | false => exact absurd rfl hf
    | negative => exact absurd rfl hminus
    | str => exact absurd rfl hquote
  · rintro ⟨n, h, rfl⟩
    exact .number h

theorem Grammar.Scalar.starts (h : Scalar s x r) :
    ∃ c t, s = c :: t ∧ c ≠ ']' ∧ c ≠ '[' ∧ c ≠ '{' ∧ r.length ≤ t.length := by
  cases h with
  | null => exact ⟨_, _, rfl, by decide, by decide, by decide, Nat.le_add_right _ 3⟩
  | true => exact ⟨_, _, rfl, by decide, by decide, by decide, Nat.le_add_right _ 3⟩
  | false => exact ⟨_, _, rfl, by decide, by decide, by decide, Nat.le_add_right _ 4⟩
  | negative h => exact ⟨_, _, rfl, by decide, by decide, by decide, Nat.le_of_lt h.length_lt⟩
  | str h => exact ⟨_, _, rfl, by decide, by decide, by decide, Nat.le_of_lt h.length_lt⟩
  | number h =>
    cases s with
    | nil => exact absurd h.length_lt (Nat.not_lt_zero _)
    | cons c s =>
      have hd := isDigit_of_decimal h
      refine ⟨c, s, rfl, ?_, ?_, ?_, Nat.le_of_lt_succ h.length_lt⟩ <;>
        · rintro rfl
          exact absurd hd (by decide)

end Inversion

end TopicMesh.Json
