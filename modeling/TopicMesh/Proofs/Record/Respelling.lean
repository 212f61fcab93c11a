import Mathlib.Data.List.Perm.Basic
import TopicMesh.Proofs.Record.Spelling

/-!
# TopicMesh.Proofs.Record.Respelling

Trees for the same record. The members of an object may come in any order, and there may be others, which
can be anything; the last three fields may be left out; the topics may come in any order and more than
once; and the fields may be listed without their names.

* `Record.Respells`         — one such difference between two trees.
* `record?_eq_of_respells`  — trees that differ in such ways are for the same record.
-/

namespace TopicMesh

open Json (Tree Piece spell)

namespace Record

/-- An object is for a record field by field. -/
theorem record?_obj_iff {l : List (List Piece × Tree)} {x : Record} :
    (Tree.obj l).record? = some x ↔ ∃ named, keyed? l = some named
      ∧ fill? none Tree.text? "client_id" named = some (some x.clientId)
      ∧ fill? none Tree.text? "channel_id" named = some (some x.owner)
      ∧ ((fill? none Tree.texts? "subscriptions" named).map fun o => TopicSet.ofList (o.getD []))
        = some x.topics
      ∧ ((fill? none Tree.text? "auth_ref" named).map fun o => o.getD "") = some x.authRef
      ∧ ((fill? none Tree.text? "updated_by_channel_id" named).map fun o => o.getD "")
        = some x.updatedBy := by
  obtain ⟨clientId, owner, topics, authRef, updatedBy⟩ := x
  simp only [Tree.record?, Partial.fill?, Partial.record?, Option.bind_eq_some_iff,
    Option.map_eq_some_iff, Record.mk.injEq]
  refine exists_congr fun named => and_congr_right fun _ => ?_
  constructor
  · rintro ⟨_, ⟨_, hc, _, ho, _, ht, _, ha, _, hu, rfl⟩, _, rfl, _, rfl, rfl, rfl, rfl, rfl, rfl⟩
    exact ⟨hc, ho, ⟨_, ht, rfl⟩, ⟨_, ha, rfl⟩, _, hu, rfl⟩
  · rintro ⟨hc, ho, ⟨_, ht, rfl⟩, ⟨_, ha, rfl⟩, _, hu, rfl⟩
    exact ⟨_, ⟨_, hc, _, ho, _, ht, _, ha, _, hu, rfl⟩, _, rfl, _, rfl, rfl, rfl, rfl, rfl, rfl⟩

theorem keyed?_eq_some {l : List (List Piece × Tree)} {named : List (String × Tree)} :
    keyed? l = some named
      ↔ List.Forall₂ (fun m n => ((spell m.1).map fun cs => (String.ofList cs, m.2)) = some n) l named := by
  refine Json.collect_eq_some (g := keyed?) rfl fun m l => ?_
  obtain ⟨k, x⟩ := m
  rw [keyed?]
  cases spell k <;> rfl

theorem fill?_perm {α : Type} {taken : Option α} {meaning : Tree → Option α} {key : String}
    {named named' : List (String × Tree)} (h : named.Perm named') :
    fill? taken meaning key named = fill? taken meaning key named' := by
  have hfound := h.filter fun m => m.1 = key
  rw [fill?, fill?]
  generalize (named.filter fun m => m.1 = key) = found at hfound ⊢
  generalize (named'.filter fun m => m.1 = key) = found' at hfound ⊢
  rcases found with _ | ⟨m, _ | ⟨n, found⟩⟩
  · rw [List.nil_perm.1 hfound]
  · rw [List.singleton_perm.1 hfound]
  · have hlength := hfound.length_eq
    rcases found' with _ | ⟨m', _ | ⟨n', found'⟩⟩
    · simp at hlength
    · simp at hlength
    · rfl

/-- The members of an object may come in any order. -/
theorem record?_perm {l l' : List (List Piece × Tree)} (h : l.Perm l') :
    (Tree.obj l).record? = (Tree.obj l').record? := by
  have hle {l l' : List (List Piece × Tree)} (h : l.Perm l') {x : Record}
      (hx : (Tree.obj l).record? = some x) : (Tree.obj l').record? = some x := by
    obtain ⟨named, hnamed, hfields⟩ := record?_obj_iff.1 hx
    obtain ⟨named', hnamed', hperm⟩ := List.perm_comp_forall₂ h.symm (keyed?_eq_some.1 hnamed)
    refine record?_obj_iff.2 ⟨named', keyed?_eq_some.2 hnamed', ?_⟩
    simpa only [fill?_perm hperm] using hfields
  exact Option.ext fun x => ⟨hle h, hle h.symm⟩

/-- The names of the fields, in their order. -/
def fieldNames : List String :=
  ["client_id", "channel_id", "subscriptions", "auth_ref", "updated_by_channel_id"]

/-- The optional fields, and what they stand for if they are missing. -/
def defaults : List (String × Tree) :=
  [("subscriptions", .arr []), ("auth_ref", .str []), ("updated_by_channel_id", .str [])]

theorem record?_cons {k : List Piece} {cs : List Char} (hk : spell k = some cs) (x : Tree)
    (l : List (List Piece × Tree)) : (Tree.obj ((k, x) :: l)).record?
      = (keyed? l).bind fun named =>
          (Partial.fill? {} ((String.ofList cs, x) :: named)).bind Partial.record? := by
  simp only [Tree.record?, keyed?, hk, Option.bind_some]
  cases keyed? l <;> rfl

/-- A member with another key can be anything. -/
theorem record?_unknown {k : List Piece} {cs : List Char} (hk : spell k = some cs)
    (hunknown : String.ofList cs ∉ fieldNames) (x : Tree) (l : List (List Piece × Tree)) :
    (Tree.obj ((k, x) :: l)).record? = (Tree.obj l).record? := by
  simp only [fieldNames, List.mem_cons, List.not_mem_nil, or_false, not_or] at hunknown
  obtain ⟨hclient, howner, htopics, hauth, hupdated⟩ := hunknown
  rw [record?_cons hk, Tree.record?]
  refine congrArg _ (funext fun named => ?_)
  simp only [Partial.fill?, fill?_cons_of_ne hclient, fill?_cons_of_ne howner, fill?_cons_of_ne htopics,
    fill?_cons_of_ne hauth, fill?_cons_of_ne hupdated]

/-- A key counts for the text that it spells, and so do the texts of a member. -/
theorem record?_member {k k' : List Piece} (hk : spell k = spell k') {x y : Tree}
    (htext : x.text? = y.text?) (htexts : x.texts? = y.texts?) (l : List (List Piece × Tree)) :
    (Tree.obj ((k, x) :: l)).record? = (Tree.obj ((k', y) :: l)).record? := by
  cases h : spell k' with
  | none => simp only [Tree.record?, keyed?, hk, h, Option.bind_none]
  | some cs =>
    rw [record?_cons (hk.trans h), record?_cons h]
    simp only [← put_fill?, Partial.put, htext, htexts]

theorem fill?_some {α : Type} (a : α) (meaning : Tree → Option α) (key : String)
    (named : List (String × Tree)) : fill? (some a) meaning key named
      = if (named.filter fun m => m.1 = key) = [] then some (some a) else none := by
  rw [fill?]
  generalize (named.filter fun m => decide (m.1 = key)) = found
  rcases found with _ | ⟨m, _ | ⟨n, found⟩⟩ <;> rfl

theorem fill?_of_absent {α : Type} {taken : Option α} {meaning : Tree → Option α} {key : String}
    {named : List (String × Tree)} (h : (named.filter fun m => m.1 = key) = []) :
    fill? taken meaning key named = some taken := by
  rw [fill?, h]

theorem ofList_congr {topics topics' : List String} (h : ∀ t, t ∈ topics ↔ t ∈ topics') :
    TopicSet.ofList topics = .ofList topics' := by
  ext t
  simp [TopicSet.ofList, h]

/-- The topics may come in any order, and more than once. -/
theorem record?_topics {k : List Piece} (hk : spell k = some "subscriptions".toList) {x y : Tree}
    {topics topics' : List String} (hx : x.texts? = some topics) (hy : y.texts? = some topics')
    (h : ∀ t, t ∈ topics ↔ t ∈ topics') (l : List (List Piece × Tree)) :
    (Tree.obj ((k, x) :: l)).record? = (Tree.obj ((k, y) :: l)).record? := by
  rw [record?_cons hk, record?_cons hk]
  refine congrArg _ (funext fun named => ?_)
  simp only [String.ofList_toList, Partial.fill?, fill?_cons_self, fill?_cons_of_ne, ne_eq,
    String.reduceEq, not_false_eq_true, once, hx, hy, fill?_some]
  split
  · simp only [Option.bind_some, Option.bind_assoc, Option.map_eq_bind, Partial.record?,
      Option.getD_some, ofList_congr h, Function.comp_def]
  · rfl

theorem filter_keyed? {key : String} {l : List (List Piece × Tree)} {named : List (String × Tree)}
    (h : ∀ m ∈ l, (spell m.1).map String.ofList ≠ some key) (hl : keyed? l = some named) :
    (named.filter fun m => m.1 = key) = [] := by
  induction l generalizing named with
  | nil =>
    cases hl
    rfl
  | cons m l ih =>
    obtain ⟨k, x⟩ := m
    rw [keyed?] at hl
    obtain ⟨cs, hk, hl⟩ := Option.bind_eq_some_iff.1 hl
    obtain ⟨rest, hrest, rfl⟩ := Option.map_eq_some_iff.1 hl
    have hne : String.ofList cs ≠ key := by
      intro he
      exact h _ List.mem_cons_self (by rw [hk, Option.map_some, he])
    rw [List.filter_cons_of_neg (by simpa using hne)]
    exact ih (fun m hm => h m (List.mem_cons_of_mem _ hm)) hrest

/-- An optional field that is missing stands for nothing. -/
theorem record?_missing {k : List Piece} {name : String} {x : Tree} (hk : spell k = some name.toList)
    (hx : (name, x) ∈ defaults) {l : List (List Piece × Tree)}
    (h : ∀ m ∈ l, (spell m.1).map String.ofList ≠ some name) :
    (Tree.obj ((k, x) :: l)).record? = (Tree.obj l).record? := by
  rw [record?_cons hk, Tree.record?]
  cases hl : keyed? l with
  | none => rfl
  | some named =>
    have hnone := filter_keyed? h hl
    simp only [defaults, List.mem_cons, Prod.mk.injEq, List.not_mem_nil, or_false] at hx
    rcases hx with ⟨rfl, rfl⟩ | ⟨rfl, rfl⟩ | ⟨rfl, rfl⟩ <;>
      simp [Partial.fill?, fill?_cons_self, fill?_cons_of_ne, fill?_of_absent, hnone, once, Tree.text?,
        Tree.texts?, Json.textItems?, spell, Option.bind_assoc, Option.map_eq_bind, Partial.record?]

theorem spell_chars (cs : List Char) : spell (cs.map Piece.char) = some cs := by
  induction cs with
  | nil => rfl
  | cons c cs ih => rw [List.map_cons, spell, ih, Option.map_some]

theorem keyed?_fields (names : List String) (items : List Tree) :
    keyed? ((names.map fun name => name.toList.map Piece.char).zip items) = some (names.zip items) := by
  induction names generalizing items with
  | nil => rfl
  | cons name names ih =>
    cases items with
    | nil => rfl
    | cons x items =>
      simp only [List.map_cons, List.zip_cons_cons, keyed?, spell_chars, ih, Option.bind_some,
        Option.map_some, String.ofList_toList]

/-- A list of fields is for the record that the object with these fields is for. -/
theorem record?_arr {items : List Tree} (h : items.length ≤ fieldNames.length) :
    (Tree.arr items).record?
      = (Tree.obj ((fieldNames.map fun name => name.toList.map Piece.char).zip items)).record? := by
  simp only [Tree.record?, keyed?_fields, Option.bind_some, fieldNames, Partial.fill?]
  rcases items with _ | ⟨x, _ | ⟨y, _ | ⟨t, _ | ⟨a, _ | ⟨u, _ | ⟨z, items⟩⟩⟩⟩⟩⟩
  · rfl
  · cases hx : x.text? <;> simp [listed?, fill?, once, hx, Partial.record?]
  · simp [listed?, listedRest?, optional?, fill?, once, Option.map_eq_bind, Option.bind_assoc]
  · simp [listed?, listedRest?, optional?, fill?, once, Option.map_eq_bind, Option.bind_assoc]
  · simp [listed?, listedRest?, optional?, fill?, once, Option.map_eq_bind, Option.bind_assoc]
  · simp [listed?, listedRest?, optional?, fill?, once, Option.map_eq_bind, Option.bind_assoc]
  · have hlength : fieldNames.length = 5 := rfl
    simp only [hlength, List.length_cons] at h
    omega

/-- One difference between two trees for the same record. -/
inductive Respells : Tree → Tree → Prop
  | order {l l' : List (List Piece × Tree)} (h : l.Perm l') : Respells (.obj l) (.obj l')
  | unknown {k : List Piece} {cs : List Char} (hk : spell k = some cs)
    (hunknown : String.ofList cs ∉ fieldNames) (x : Tree) (l : List (List Piece × Tree)) :
    Respells (.obj ((k, x) :: l)) (.obj l)
  /-- The texts of a member are spelled with other escapes. -/
  | member {k k' : List Piece} (hk : spell k = spell k') {x y : Tree} (htext : x.text? = y.text?)
    (htexts : x.texts? = y.texts?) (l : List (List Piece × Tree)) :
    Respells (.obj ((k, x) :: l)) (.obj ((k', y) :: l))
  | topics {k : List Piece} (hk : spell k = some "subscriptions".toList) {x y : Tree}
    {topics topics' : List String} (hx : x.texts? = some topics) (hy : y.texts? = some topics')
    (h : ∀ t, t ∈ topics ↔ t ∈ topics') (l : List (List Piece × Tree)) :
    Respells (.obj ((k, x) :: l)) (.obj ((k, y) :: l))
  | missing {k : List Piece} {name : String} {x : Tree} (hk : spell k = some name.toList)
    (hx : (name, x) ∈ defaults) {l : List (List Piece × Tree)}
    (h : ∀ m ∈ l, (spell m.1).map String.ofList ≠ some name) :
    Respells (.obj ((k, x) :: l)) (.obj l)
  | listed {items : List Tree} (h : items.length ≤ fieldNames.length) :
    Respells (.arr items)
      (.obj ((fieldNames.map fun name => name.toList.map Piece.char).zip items))

/-- Trees that come from each other by such differences are for the same record. -/
theorem record?_eq_of_respells {x y : Tree} (h : Relation.EqvGen Respells x y) :
    x.record? = y.record? := by
  induction h with
  | rel x y h =>
    cases h with
    | order h => exact record?_perm h
    | unknown hk hunknown x l => exact record?_unknown hk hunknown x l
    | member hk htext htexts l => exact record?_member hk htext htexts l
    | topics hk hx hy h l => exact record?_topics hk hx hy h l
    | missing hk hx h => exact record?_missing hk hx h
    | listed h => exact record?_arr h
  | refl x => rfl
  | symm x y _ ih => exact ih.symm
  | trans x y z _ _ ihxy ihyz => exact ihxy.trans ihyz

end Record

end TopicMesh
