import TopicMesh.Proofs.Json.Values
import TopicMesh.Record

/-!
# TopicMesh.Proofs.Record.Spelling

All the texts of a record. A record can be spelled as an object or as a list of its fields, with blanks
anywhere and escapes in its strings.

* `Json.Tree.record?`    — the record that a tree is for, if it is for one.
* `Record.reader_iff`    — a text is read as a record exactly if its tree is for that record.
* `Record.document_iff`  — the same of a whole text.
-/

namespace TopicMesh

namespace Json

open Grammar (Any Elements Further Member)

variable {s r : List Char} {x : Tree}

/-! ## Strings and lists of strings -/

def Tree.text? : Tree → Option String
  | .str ps => (spell ps).map String.ofList
  | _ => none

def textItems? : List Tree → Option (List String)
  | [] => some []
  | x :: l => x.text?.bind fun a => (textItems? l).map (a :: ·)

def Tree.texts? : Tree → Option (List String)
  | .arr items => textItems? items
  | _ => none

theorem textItems?_eq_some {l : List Tree} {texts : List String} :
    textItems? l = some texts ↔ List.Forall₂ (fun x a => x.text? = some a) l texts :=
  collect_eq_some (g := textItems?) rfl fun _ _ => rfl

theorem text?_eq_some {a : String} :
    x.text? = some a ↔ ∃ ps cs, x = .str ps ∧ spell ps = some cs ∧ String.ofList cs = a := by
  cases x with
  | str ps => simp [Tree.text?]
  | _ => simp [Tree.text?]

theorem texts?_eq_some {texts : List String} :
    x.texts? = some texts ↔ ∃ l, x = .arr l ∧ textItems? l = some texts := by
  cases x with
  | arr l => simp [Tree.texts?]
  | _ => simp [Tree.texts?]

theorem string_iff {a : String} : string s = .ok (a, r) ↔ ∃ x, Any s x r ∧ x.text? = some a := by
  rw [string, stringAs]
  cases hs : skipBlank s with
  | nil =>
    refine error_iff ?_
    rintro ⟨_, ⟨_, h⟩, _⟩
    exact absurd h (not_value_of_nil hs)
  | cons c t =>
    by_cases hc : c = '"'
    · subst hc
      simp only [any_scalar_iff hs (by decide) (by decide), scalar_quote_iff, exists_exists_and_eq_and,
        if_true, Tree.text?, ← map_read_iff fun _ => stringBody_iff]
      rcases stringBody t with e | ⟨cs, u⟩ <;> simp [and_assoc, and_comm]
    · simp only [if_neg hc]
      refine error_iff ?_
      rintro ⟨x, hx, ha⟩
      obtain ⟨ps, cs, rfl, -, -⟩ := text?_eq_some.1 ha
      obtain ⟨u, hu⟩ := any_str_starts hx
      cases hs.symm.trans hu
      exact absurd rfl hc

theorem strings_iff {l : List String} :
    strings s = .ok (l, r) ↔ ∃ x, Any s x r ∧ x.texts? = some l := by
  rw [strings]
  cases hs : skipBlank s with
  | nil =>
    refine error_iff ?_
    rintro ⟨_, ⟨_, h⟩, _⟩
    exact absurd h (not_value_of_nil hs)
  | cons c t =>
    by_cases hc : c = '['
    · subst hc
      simp only [any_list_iff hs, exists_exists_and_eq_and, if_true, Tree.texts?, textItems?_eq_some,
        ← elements_exists_iff]
      exact items_iff (isValueGrammar_any.exists _) (fun _ _ _ => string_iff)
        (Nat.lt_succ_self t.length)
    · simp only [if_neg hc]
      refine error_iff ?_
      rintro ⟨x, hx, ha⟩
      obtain ⟨_, rfl, -⟩ := texts?_eq_some.1 ha
      obtain ⟨u, hu⟩ := any_arr_starts hx
      cases hs.symm.trans hu
      exact absurd rfl hc

/-! ## Fields -/

section Fields

variable {α : Type} {p : Grammar α} {read : Reader α}

theorem unknownField_iff : unknownField s = .ok r ↔ ∃ x t, skipBlank s = ':' :: t ∧ Any t x r := by
  rw [unknownField]
  cases hs : colon s with
  | error e =>
    refine error_iff ?_
    rintro ⟨_, t, ht, -⟩
    cases hs.symm.trans (colon_iff.2 ht)
  | ok t =>
    simp only [skipValue_iff, ← any_iff_of_length_le (Nat.le_refl t.length)]
    constructor
    · rintro ⟨x, hx⟩
      exact ⟨x, t, colon_iff.1 hs, hx⟩
    · rintro ⟨x, u, hu, hx⟩
      cases hs.symm.trans (colon_iff.2 hu)
      exact ⟨x, hx⟩

theorem place_iff {σ : Type} {taken : Option α} {key : String} {put : α → σ} {b : σ} :
    place taken key read put s = .ok (b, r)
      ↔ taken = none ∧ ∃ a t, skipBlank s = ':' :: t ∧ read t = .ok (a, r) ∧ put a = b := by
  cases taken with
  | some a => exact error_iff (by simp)
  | none =>
    rw [place, field]
    cases hs : colon s with
    | error e =>
      refine error_iff ?_
      rintro ⟨-, _, t, ht, -⟩
      cases hs.symm.trans (colon_iff.2 ht)
    | ok t =>
      simp only [true_and]
      cases ht : read t with
      | error e =>
        refine error_iff ?_
        rintro ⟨a, u, hu, ha, -⟩
        cases hs.symm.trans (colon_iff.2 hu)
        cases ht.symm.trans ha
      | ok found =>
        obtain ⟨a, u⟩ := found
        constructor
        · rintro ⟨⟩
          exact ⟨a, t, colon_iff.1 hs, ht, rfl⟩
        · rintro ⟨_, v, hv, ha, rfl⟩
          cases hs.symm.trans (colon_iff.2 hv)
          cases ht.symm.trans ha
          rfl

theorem element_iff (hp : IsValueGrammar p) (hread : ∀ ⦃s a r⦄, read s = .ok (a, r) ↔ p s a r)
    {first : Bool} {o : Option α} : element read first s = .ok (o, r)
      ↔ (skipBlank s = ']' :: r ∧ o = none) ∨ ∃ t a, NextAt first s t ∧ p t a r ∧ o = some a := by
  have helement : element read first s = .ok (o, r)
      ↔ (nextItem first s = .ok (none, r) ∧ o = none)
        ∨ ∃ a, (∃ t, nextItem first s = .ok (some (), t) ∧ read t = .ok (a, r)) ∧ o = some a := by
    rw [element]
    rcases nextItem first s with e | ⟨_ | _, t⟩
    · simp
    · simp [and_comm, eq_comm]
    · rcases ht : read t with e | ⟨a, u⟩
      · simp [ht]
      · simp [ht, and_comm, eq_comm]
  rw [helement, nextItem_none_iff]
  simp only [nextItem_read_iff hp hread]
  refine or_congr_right ⟨?_, ?_⟩
  · rintro ⟨a, ⟨t, ht, ha⟩, ho⟩
    exact ⟨t, a, ht, ha, ho⟩
  · rintro ⟨t, a, ht, ha, ho⟩
    exact ⟨a, ⟨t, ht, ha⟩, ho⟩

theorem requiredElement_iff (hp : IsValueGrammar p) (hread : ∀ ⦃s a r⦄, read s = .ok (a, r) ↔ p s a r)
    {index : Nat} {wanted : String} {a : α} : requiredElement read index wanted s = .ok (a, r)
      ↔ ∃ t, NextAt (index == 0) s t ∧ p t a r := by
  have hrequired : requiredElement read index wanted s = .ok (a, r)
      ↔ element read (index == 0) s = .ok (some a, r) := by
    rw [requiredElement]
    rcases element read (index == 0) s with e | ⟨_ | b, t⟩ <;> simp
  rw [hrequired, element_iff hp hread]
  constructor
  · rintro (⟨-, ⟨⟩⟩ | ⟨t, _, ht, ha, ⟨⟩⟩)
    exact ⟨t, ht, ha⟩
  · rintro ⟨t, ht, ha⟩
    exact .inr ⟨t, a, ht, ha, rfl⟩

theorem closeList_iff : closeList s = .ok r ↔ skipBlank s = ']' :: r := by
  rw [closeList]
  cases skipBlank s with
  | nil => simp
  | cons c t =>
    by_cases hc : c = ']'
    · simp [hc]
    · by_cases hcomma : c = ','
      · cases ht : skipBlank t <;> simp [hcomma, ht]
      · simp [hc, hcomma]

end Fields

end Json

open Json (Tree Piece spell gather skipBlank error_iff)
open Json.Grammar (Any Elements Further Member)

namespace Record

variable {s r : List Char}

/-! ## Records in trees -/

/-- The members of an object with their keys as text. -/
def keyed? : List (List Piece × Tree) → Option (List (String × Tree))
  | [] => some []
  | (k, x) :: l => (spell k).bind fun cs => (keyed? l).map ((String.ofList cs, x) :: ·)

/-- What is read for a place that must be empty. -/
def once {α : Type} (taken read : Option α) : Option α :=
  match taken with
  | none => read
  | some _ => none

/-- What a field is with the members for it, of which there may be one if its place was empty. -/
def fill? {α : Type} (taken : Option α) (meaning : Tree → Option α) (key : String)
    (members : List (String × Tree)) : Option (Option α) :=
  match members.filter fun m => m.1 = key with
  | [] => some taken
  | [m] => (once taken (meaning m.2)).map some
  | _ => none

/-- The fields with these members; those with other keys can be anything. -/
def Partial.fill? (p : Partial) (members : List (String × Tree)) : Option Partial :=
  (Record.fill? p.clientId Tree.text? "client_id" members).bind fun clientId =>
  (Record.fill? p.owner Tree.text? "channel_id" members).bind fun owner =>
  (Record.fill? p.topics Tree.texts? "subscriptions" members).bind fun topics =>
  (Record.fill? p.authRef Tree.text? "auth_ref" members).bind fun authRef =>
  (Record.fill? p.updatedBy Tree.text? "updated_by_channel_id" members).map fun updatedBy =>
    { clientId, owner, topics, authRef, updatedBy }

/-- A field of the list that may be missing, with all that follow it. -/
def optional? {α : Type} (meaning : Tree → Option α) (p : Partial) (next : α → List Tree → Option Partial) :
    List Tree → Option Partial
  | [] => some p
  | x :: l => (meaning x).bind fun a => next a l

/-- The optional fields of the list; nothing may follow them. -/
def listedRest? (p : Partial) : List Tree → Option Partial :=
  optional? Tree.texts? p fun topics =>
    let p := { p with topics := some topics }
    optional? Tree.text? p fun authRef =>
      let p := { p with authRef := some authRef }
      optional? Tree.text? p fun updatedBy l =>
        if l.isEmpty then some { p with updatedBy := some updatedBy } else none

def listed? : List Tree → Option Partial
  | clientId :: owner :: l =>
    clientId.text?.bind fun clientId => owner.text?.bind fun owner =>
      listedRest? { clientId := some clientId, owner := some owner } l
  | _ => none

/-- The record with these fields, if the first two are there. -/
def Partial.record? (p : Partial) : Option Record :=
  p.clientId.bind fun clientId => p.owner.map fun owner =>
    { clientId
      owner
      topics := .ofList (p.topics.getD [])
      authRef := p.authRef.getD ""
      updatedBy := p.updatedBy.getD "" }

end Record

/-- The record that a tree is for. -/
def Json.Tree.record? : Json.Tree → Option Record
  | .obj members =>
    (Record.keyed? members).bind fun members =>
      (Record.Partial.fill? {} members).bind Record.Partial.record?
  | .arr items => (Record.listed? items).bind Record.Partial.record?
  | _ => none

namespace Record

variable {s r : List Char}

/-! ## Reading -/

theorem complete_iff {p : Partial} {x : Record} : p.complete r = .ok x ↔ p.record? = some x := by
  rw [Partial.complete, Partial.record?]
  cases p.clientId with
  | none => exact error_iff (by simp)
  | some clientId =>
    cases p.owner with
    | none => exact error_iff (by simp)
    | some owner => simp

/-- A member of the object, put to the fields before it. -/
def Partial.put (p : Partial) (key : String) (x : Tree) : Option Partial :=
  if key = "client_id" then (once p.clientId x.text?).map fun a => { p with clientId := some a }
  else if key = "channel_id" then (once p.owner x.text?).map fun a => { p with owner := some a }
  else if key = "subscriptions" then (once p.topics x.texts?).map fun a => { p with topics := some a }
  else if key = "auth_ref" then (once p.authRef x.text?).map fun a => { p with authRef := some a }
  else if key = "updated_by_channel_id" then
    (once p.updatedBy x.text?).map fun a => { p with updatedBy := some a }
  else some p

section Members

variable {α : Type} {taken : Option α} {meaning : Tree → Option α} {key : String}

theorem fill?_cons_self (x : Tree) (members : List (String × Tree)) :
    fill? taken meaning key ((key, x) :: members)
      = (once taken (meaning x)).bind fun a => fill? (some a) meaning key members := by
  have hfilter : (((key, x) :: members).filter fun m => m.1 = key)
      = (key, x) :: members.filter fun m => m.1 = key := List.filter_cons_of_pos (decide_eq_true rfl)
  simp only [fill?, hfilter]
  generalize (members.filter fun m => m.1 = key) = found
  have hfull (a : α) (read : Option α) : once (some a) read = none := rfl
  rcases found with _ | ⟨m, _ | ⟨n, rest⟩⟩ <;> cases h : once taken (meaning x) <;> simp [hfull, h]

theorem fill?_cons_of_ne {other : String} (h : other ≠ key) (x : Tree)
    (members : List (String × Tree)) :
    fill? taken meaning key ((other, x) :: members) = fill? taken meaning key members := by
  have hfilter : (((other, x) :: members).filter fun m => m.1 = key)
      = members.filter fun m => m.1 = key := List.filter_cons_of_neg (by simpa using h)
  rw [fill?, fill?, hfilter]

theorem put_fill? (p : Partial) (key : String) (x : Tree) (members : List (String × Tree)) :
    ((p.put key x).bind fun p => p.fill? members) = p.fill? ((key, x) :: members) := by
  rw [Partial.put, Partial.fill?]
  split
  · subst key
    simp only [fill?_cons_self, fill?_cons_of_ne, ne_eq, String.reduceEq, not_false_eq_true]
    cases once p.clientId x.text? <;> simp [Partial.fill?]
  split
  · subst key
    simp only [fill?_cons_self, fill?_cons_of_ne, ne_eq, String.reduceEq, not_false_eq_true]
    cases once p.owner x.text? <;> simp [Partial.fill?]
  split
  · subst key
    simp only [fill?_cons_self, fill?_cons_of_ne, ne_eq, String.reduceEq, not_false_eq_true]
    cases once p.topics x.texts? <;> simp [Partial.fill?]
  split
  · subst key
    simp only [fill?_cons_self, fill?_cons_of_ne, ne_eq, String.reduceEq, not_false_eq_true]
    cases once p.authRef x.text? <;> simp [Partial.fill?]
  split
  · subst key
    simp only [fill?_cons_self, fill?_cons_of_ne, ne_eq, String.reduceEq, not_false_eq_true]
    cases once p.updatedBy x.text? <;> simp [Partial.fill?]
  · rename_i hclient howner htopics hauth hupdated
    rw [fill?_cons_of_ne hclient, fill?_cons_of_ne howner, fill?_cons_of_ne htopics,
      fill?_cons_of_ne hauth, fill?_cons_of_ne hupdated]
    rfl

/-- The members are put to the fields one by one, in whatever order they come. -/
theorem gather_put (l : List (List Piece × Tree)) (p : Partial) :
    gather Partial.put p l = (keyed? l).bind fun members => p.fill? members := by
  induction l generalizing p with
  | nil => simp [gather, keyed?, Partial.fill?, fill?]
  | cons m l ih =>
    obtain ⟨k, x⟩ := m
    rw [gather, keyed?]
    cases spell k with
    | none => rfl
    | some cs =>
      simp only [Option.bind_some, ih]
      cases keyed? l with
      | none => simp
      | some members => simp [put_fill?]

end Members

theorem map_once_eq_some {α : Type} {taken read : Option α} {put : α → Partial} {p : Partial} :
    (once taken read).map put = some p ↔ taken = none ∧ ∃ a, read = some a ∧ put a = p := by
  cases taken <;> simp [once]

theorem readsMember : Json.ReadsMember member Any Partial.put := by
  have hplace {α : Type} {read : Json.Reader α} {meaning : Tree → Option α}
      (hread : ∀ {s r a}, read s = .ok (a, r) ↔ ∃ x, Any s x r ∧ meaning x = some a)
      {taken : Option α} {key : String} {put : α → Partial} {p' : Partial} {s r : List Char} :
      Json.place taken key read put s = .ok (p', r)
        ↔ ∃ x t, skipBlank s = ':' :: t ∧ Any t x r ∧ (once taken (meaning x)).map put = some p' := by
    simp only [Json.place_iff, hread, map_once_eq_some]
    constructor
    · rintro ⟨htaken, a, t, hs, ⟨x, hx, ha⟩, hput⟩
      exact ⟨x, t, hs, hx, htaken, a, ha, hput⟩
    · rintro ⟨x, t, hs, hx, htaken, a, ha, hput⟩
      exact ⟨htaken, a, t, hs, ⟨x, hx, ha⟩, hput⟩
  intro p p' key s r
  simp only [member, Partial.put]
  split
  · exact hplace Json.string_iff
  split
  · exact hplace Json.string_iff
  split
  · exact hplace Json.strings_iff
  split
  · exact hplace Json.string_iff
  split
  · exact hplace Json.string_iff
  · rcases hs : Json.unknownField s with e | u
    · refine error_iff ?_
      rintro ⟨x, t, ht, hx, -⟩
      cases hs.symm.trans (Json.unknownField_iff.2 ⟨x, t, ht, hx⟩)
    · constructor
      · rintro ⟨⟩
        obtain ⟨x, t, ht, hx⟩ := Json.unknownField_iff.1 hs
        exact ⟨x, t, ht, hx, rfl⟩
      · rintro ⟨x, t, ht, hx, ⟨⟩⟩
        cases hs.symm.trans (Json.unknownField_iff.2 ⟨x, t, ht, hx⟩)
        rfl

/-- An optional field and the fields that follow it. -/
def optionalElement {α : Type} (read : Json.Reader α) (p : Partial) (next : α → Json.Reader Partial) :
    Json.Reader Partial := fun s =>
  match Json.element read false s with
  | .error e => .error e
  | .ok (none, s) => .ok (p, s)
  | .ok (some a, s) => next a s

theorem listedRest_eq (p : Partial) :
    listedRest p = optionalElement Json.strings p fun topics =>
      let p := { p with topics := some topics }
      optionalElement Json.string p fun authRef =>
        let p := { p with authRef := some authRef }
        optionalElement Json.string p fun updatedBy s =>
          match Json.closeList s with
          | .error e => .error e
          | .ok s => .ok ({ p with updatedBy := some updatedBy }, s) := by
  funext s
  rw [listedRest, optionalElement]
  rcases Json.element Json.strings false s with e | ⟨_ | topics, s⟩
  · rfl
  · rfl
  simp only [optionalElement]
  rcases Json.element Json.string false s with e | ⟨_ | authRef, s⟩
  · rfl
  · rfl
  simp only
  rcases Json.element Json.string false s with e | ⟨_ | updatedBy, s⟩ <;> rfl

/-- An optional field and the fields that follow it are read as they are meant. -/
theorem optional_iff {α : Type} {read : Json.Reader α} {meaning : Tree → Option α}
    (hread : ∀ ⦃s a r⦄, read s = .ok (a, r) ↔ ∃ x, Any s x r ∧ meaning x = some a)
    {p p' : Partial} {next : α → Json.Reader Partial} {next? : α → List Tree → Option Partial}
    (hnext : ∀ a s, next a s = .ok (p', r) ↔ ∃ l, Further ']' Any s l r ∧ next? a l = some p') :
    optionalElement read p next s = .ok (p', r)
      ↔ ∃ l, Further ']' Any s l r ∧ optional? meaning p next? l = some p' := by
  have helement {o : Option α} {u : List Char} : Json.element read false s = .ok (o, u)
      ↔ (skipBlank s = ']' :: u ∧ o = none)
        ∨ ∃ t a, skipBlank s = ',' :: t ∧ (∃ x, Any t x u ∧ meaning x = some a) ∧ o = some a :=
    Json.element_iff (Json.isValueGrammar_any.exists _) hread
  rw [optionalElement]
  constructor
  · intro h
    rcases he : Json.element read false s with e | ⟨_ | a, u⟩ <;> rw [he] at h
    · cases h
    · cases h
      rcases helement.1 he with ⟨hs, -⟩ | ⟨_, _, _, _, ⟨⟩⟩
      exact ⟨[], hs, rfl⟩
    · rcases helement.1 he with ⟨_, ⟨⟩⟩ | ⟨t, _, hs, ⟨x, hx, ha⟩, ⟨⟩⟩
      obtain ⟨l, hl, hp⟩ := (hnext a u).1 h
      exact ⟨x :: l, ⟨t, u, hs, hx, hl⟩, by rw [optional?, ha, Option.bind_some, hp]⟩
  · rintro ⟨l, hl, hp⟩
    cases l with
    | nil =>
      cases hp
      rw [helement.2 (.inl ⟨hl, rfl⟩)]
    | cons x l =>
      obtain ⟨t, u, hs, hx, hl⟩ := hl
      obtain ⟨a, ha, hp⟩ := Option.bind_eq_some_iff.1 hp
      rw [helement.2 (.inr ⟨t, a, hs, ⟨x, hx, ha⟩, rfl⟩)]
      exact (hnext a u).2 ⟨l, hl, hp⟩

theorem listedRest_iff {p p' : Partial} : listedRest p s = .ok (p', r)
    ↔ ∃ l, Further ']' Any s l r ∧ listedRest? p l = some p' := by
  rw [listedRest_eq, listedRest?]
  refine optional_iff (fun _ _ _ => Json.strings_iff) fun topics s => ?_
  refine optional_iff (fun _ _ _ => Json.string_iff) fun authRef s => ?_
  refine optional_iff (fun _ _ _ => Json.string_iff) fun updatedBy s => ?_
  rcases hs : Json.closeList s with e | u
  · refine error_iff ?_
    rintro ⟨l, hl, hp⟩
    cases l with
    | nil => cases hs.symm.trans (Json.closeList_iff.2 hl)
    | cons x l => cases hp
  · constructor
    · rintro ⟨⟩
      exact ⟨[], Json.closeList_iff.1 hs, rfl⟩
    · rintro ⟨l, hl, hp⟩
      cases l with
      | nil =>
        cases hs.symm.trans (Json.closeList_iff.2 hl)
        cases hp
        rfl
      | cons x l => cases hp

theorem listed_iff {p : Partial} :
    listed s = .ok (p, r) ↔ ∃ l, Elements ']' Any s l r ∧ listed? l = some p := by
  have hgrammar := Json.isValueGrammar_any.exists fun x a => Json.Tree.text? x = some a
  have hstring ⦃s : List Char⦄ ⦃a : String⦄ ⦃r : List Char⦄ := Json.string_iff (s := s) (r := r) (a := a)
  have hfirst {s r : List Char} {a : String} : Json.requiredElement Json.string 0 listShape s = .ok (a, r)
      ↔ ∃ x, Any s x r ∧ x.text? = some a := by
    rw [Json.requiredElement_iff hgrammar hstring]
    exact exists_eq_left'
  have hsecond {s r : List Char} {a : String} : Json.requiredElement Json.string 1 listShape s = .ok (a, r)
      ↔ ∃ t, skipBlank s = ',' :: t ∧ ∃ x, Any t x r ∧ x.text? = some a :=
    Json.requiredElement_iff hgrammar hstring
  constructor
  · intro h
    rw [listed] at h
    rcases hc : Json.requiredElement Json.string 0 listShape s with e | ⟨clientId, t⟩ <;> rw [hc] at h
    · cases h
    rcases ho : Json.requiredElement Json.string 1 listShape t with e | ⟨owner, u⟩ <;>
      simp only [ho] at h
    · cases h
    obtain ⟨x, hx, hclient⟩ := hfirst.1 hc
    obtain ⟨v, hv, y, hy, howner⟩ := hsecond.1 ho
    obtain ⟨l, hl, hp⟩ := listedRest_iff.1 h
    refine ⟨x :: y :: l, ⟨t, hx, v, u, hv, hy, hl⟩, ?_⟩
    rw [listed?, hclient, howner]
    exact hp
  · rintro ⟨l, hl, hp⟩
    match l with
    | [] => cases hp
    | [_] => cases hp
    | x :: y :: l =>
      obtain ⟨t, hx, v, u, hv, hy, hl⟩ := hl
      obtain ⟨clientId, hclient, hp⟩ := Option.bind_eq_some_iff.1 hp
      obtain ⟨owner, howner, hp⟩ := Option.bind_eq_some_iff.1 hp
      rw [listed, hfirst.2 ⟨x, hx, hclient⟩]
      simp only [hsecond.2 ⟨v, hv, y, hy, howner⟩]
      exact listedRest_iff.2 ⟨l, hl, hp⟩

theorem finish_iff {read : Except Json.Fault (Partial × List Char)} {x : Record} :
    reader.finish read = .ok (x, r) ↔ ∃ p, read = .ok (p, r) ∧ p.record? = some x := by
  rcases read with e | ⟨p, u⟩
  · refine error_iff ?_
    rintro ⟨_, h, _⟩
    cases h
  · simp only [reader.finish]
    rcases hp : p.complete u with e | y
    · refine error_iff ?_
      rintro ⟨_, ⟨⟩, hx⟩
      cases hp.symm.trans (complete_iff.2 hx)
    · constructor
      · rintro ⟨⟩
        exact ⟨p, rfl, complete_iff.1 hp⟩
      · rintro ⟨_, ⟨⟩, hx⟩
        cases hp.symm.trans (complete_iff.2 hx)
        rfl

/-- A text is read as a record exactly if it begins with a tree that is for that record. -/
theorem reader_iff {x : Record} : reader s = .ok (x, r) ↔ ∃ tree, Any s tree r ∧ tree.record? = some x := by
  rw [reader]
  cases hs : skipBlank s with
  | nil =>
    refine error_iff ?_
    rintro ⟨_, ⟨_, h⟩, _⟩
    exact absurd h (Json.not_value_of_nil hs)
  | cons c t =>
    by_cases hlist : c = '['
    · subst hlist
      simp only [if_true, finish_iff, listed_iff, Json.any_list_iff hs, exists_exists_and_eq_and,
        Tree.record?, Option.bind_eq_some_iff]
      constructor
      · rintro ⟨p, ⟨l, hl, hp⟩, hx⟩
        exact ⟨l, hl, p, hp, hx⟩
      · rintro ⟨l, hl, p, hp, hx⟩
        exact ⟨p, ⟨l, hl, hp⟩, hx⟩
    · by_cases hobject : c = '{'
      · subst hobject
        have hmembers {p : Partial} : Json.members member (t.length + 1) true {} t = .ok (p, r)
            ↔ ∃ l, Elements '}' (Member Any) t l r ∧ gather Partial.put {} l = some p :=
          Json.members_iff Json.any_length_lt readsMember (Nat.lt_succ_self t.length)
        simp only [Char.reduceEq, if_false, if_true, finish_iff, hmembers, gather_put,
          Json.any_object_iff hs, exists_exists_and_eq_and, Tree.record?, Option.bind_eq_some_iff]
        constructor
        · rintro ⟨p, ⟨l, hl, members, hm, hp⟩, hx⟩
          exact ⟨l, hl, members, hm, p, hp, hx⟩
        · rintro ⟨l, hl, members, hm, p, hp, hx⟩
          exact ⟨p, ⟨l, hl, members, hm, hp⟩, hx⟩
      · simp only [if_neg hlist, if_neg hobject, Json.any_scalar_iff hs hlist hobject]
        refine error_iff ?_
        rintro ⟨tree, htree, hx⟩
        cases htree <;> cases hx

/-! ## Whole texts -/

/-- The whole text is a tree for the record, with blanks around it and brackets nested as deep as they
may be. -/
def IsDocument (s : List Char) (x : Record) : Prop :=
  ∃ d tree, Json.IsDocument d s tree ∧ tree.record? = some x

theorem document_iff {x : Record} : Json.document reader s = .ok x ↔ IsDocument s x := by
  simp only [Json.document_iff, reader_iff, IsDocument, Json.IsDocument]
  constructor
  · rintro ⟨r, ⟨tree, ⟨d, htree⟩, hx⟩, hr⟩
    exact ⟨d, tree, ⟨r, htree, hr⟩, hx⟩
  · rintro ⟨d, tree, ⟨r, htree, hr⟩, hx⟩
    exact ⟨r, ⟨tree, ⟨d, htree⟩, hx⟩, hr⟩

end Record

end TopicMesh
