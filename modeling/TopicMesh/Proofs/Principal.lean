import Mathlib.Data.List.Nodup
import TopicMesh.Principal

/-!
# TopicMesh.Proofs.Principal

Principals that travel. A peer is told a reference and a snapshot, and puts together from them what its
own schema declares of the principal, and nothing else.

* `Schema.Resolves`     — what a reference means in a schema, by name or else by id.
* `Principal.IsRef`     — a reference and its two parts; both readers of references agree on it.
* `Principal.projected` — what a collection declares of a principal. A snapshot is rebuilt as that
  (`ofSnapshot_snapshot`), and a second time as the same again (`projected_projected`).
-/

namespace TopicMesh

/-! ## Collections -/

namespace Schema

variable {s : Schema} {ref : String} {c : Collection}

/-- No two collections have the same id. -/
def HasDistinctIds (s : Schema) : Prop := (s.collections.values.map (·.id)).Nodup

/-- The collections are listed under their names. -/
def IsKeyed (s : Schema) : Prop := ∀ name c, s.collections.find? name = some c → c.name = name

/-- A reference means the collection of that name or, if there is none, the one with that id. -/
def Resolves (s : Schema) (ref : String) (c : Collection) : Prop :=
  s.collections.find? ref = some c
    ∨ s.collections.find? ref = none ∧ c ∈ s.collections.values ∧ c.id = ref

theorem IsKeyed.insert (h : s.IsKeyed) (c : Collection) : (s.insert c).IsKeyed := by
  intro name c' hc
  rw [Schema.insert, Table.find?_insert] at hc
  split at hc
  · rename_i hname
    cases hc
    exact hname
  · exact h name c' hc

/-- However a cache was filled, its collections are listed under their names. -/
theorem isKeyed_ofList (collections : List Collection) : (ofList collections).IsKeyed := by
  have h : ∀ s : Schema, s.IsKeyed → (collections.foldl Schema.insert s).IsKeyed := by
    induction collections with
    | nil => exact fun s hs => hs
    | cons c rest ih => exact fun s hs => ih (s.insert c) (hs.insert c)
  refine h {} ?_
  intro name c hc
  cases hc

/-- The order in which the collections are searched for an id does not matter. -/
theorem find?_eq_some_iff (h : s.HasDistinctIds) : s.find? ref = some c ↔ s.Resolves ref c := by
  unfold find? Resolves
  cases hname : s.collections.find? ref with
  | some named => simp
  | none =>
    simp only [reduceCtorEq, false_or, true_and]
    constructor
    · intro hc
      exact ⟨List.mem_of_find?_eq_some hc, by simpa using List.find?_some hc⟩
    · rintro ⟨hmem, hid⟩
      cases hfound : s.collections.values.find? fun c => c.id = ref with
      | none =>
        rw [List.find?_eq_none] at hfound
        exact absurd (decide_eq_true hid) (hfound c hmem)
      | some found =>
        have hsame : found.id = ref := by simpa using List.find?_some hfound
        rw [List.inj_on_of_nodup_map h (List.mem_of_find?_eq_some hfound) hmem (hsame.trans hid.symm)]

/-- A reference means one collection at most. -/
theorem Resolves.unique (h : s.HasDistinctIds) (hc : s.Resolves ref c) {c' : Collection}
    (hc' : s.Resolves ref c') : c' = c := by
  rw [← find?_eq_some_iff h] at hc hc'
  exact Option.some.inj (hc'.symm.trans hc)

end Schema

namespace Principal

variable {schema : Schema} {ref name id : String} {snapshot : Json} {p q : Principal} {c : Collection}

/-! ## References -/

/-- The reference is a name and an id, neither of them empty; the first separator stands between them. -/
def IsRef (ref name id : String) : Prop :=
  name ≠ "" ∧ authRefSeparator ∉ name.toList ∧ id ≠ "" ∧ ref = authRefOf name id

theorem splitRef_eq_some_iff : splitRef ref = some (name, id) ↔ IsRef ref name id := by
  unfold splitRef IsRef authRefOf
  rw [Option.filter_eq_some_iff, Text.cutString_eq_some_iff, decide_eq_true_eq]
  constructor
  · rintro ⟨⟨hsep, href⟩, hname, hid⟩
    exact ⟨hname, hsep, hid, href⟩
  · rintro ⟨hname, hsep, hid, href⟩
    exact ⟨⟨hsep, href⟩, hname, hid⟩

theorem authRefParts_eq_some_iff : authRefParts ref = some (name, id) ↔ IsRef ref name id := by
  unfold authRefParts IsRef authRefOf
  cases hcut : Text.cutString authRefSeparator ref with
  | none =>
    refine iff_of_false (by simp) ?_
    rintro ⟨-, hsep, -, href⟩
    rw [Text.cutString_eq_some_iff.2 ⟨hsep, href⟩] at hcut
    cases hcut
  | some parts =>
    obtain ⟨a, b⟩ := parts
    obtain ⟨hsep, href⟩ := Text.cutString_eq_some_iff.1 hcut
    simp only [Option.ite_none_left_eq_some, not_or, Option.some.injEq, Prod.mk.injEq]
    constructor
    · rintro ⟨⟨ha, hb⟩, rfl, rfl⟩
      exact ⟨ha, hsep, hb, href⟩
    · rintro ⟨ha, hsep', hb, href'⟩
      rw [Text.cutString_eq_some_iff.2 ⟨hsep', href'⟩] at hcut
      cases hcut
      exact ⟨⟨ha, hb⟩, rfl, rfl⟩

/-- A record and the reader of snapshots take every reference apart in the same way. -/
theorem splitRef_eq_authRefParts (ref : String) : splitRef ref = authRefParts ref := by
  apply Option.ext
  rintro ⟨name, id⟩
  rw [splitRef_eq_some_iff, authRefParts_eq_some_iff]

/-! ## Declared fields -/

theorem find?_project (fields : List String) (members : List (String × Json)) (f : String) :
    (project fields members).find? f
      = if f ∈ fields ∧ f ≠ idField then some ((Keyed.find? f members).getD .null) else none := by
  rw [project, Table.find?_ofList_map]
  simp only [List.mem_filter, decide_eq_true_eq]

/-- Only the declared fields of a snapshot count, and the id among them does not. -/
theorem project_congr {fields : List String} {members members' : List (String × Json)}
    (h : ∀ f ∈ fields, f ≠ idField → Keyed.find? f members = Keyed.find? f members') :
    project fields members = project fields members' := by
  apply Table.ext
  intro f
  rw [find?_project, find?_project]
  split
  · rename_i hf
    rw [h f hf.1 hf.2]
  · rfl

/-- A field that is null because it was missing is null once more. -/
theorem project_project (fields : List String) (members : List (String × Json)) :
    project fields (project fields members).entries = project fields members := by
  apply Table.ext
  intro f
  have hview : Keyed.find? f (project fields members).entries = (project fields members).find? f := rfl
  rw [find?_project, hview, find?_project]
  split <;> rfl

/-- What a collection declares of a principal. -/
def projected (c : Collection) (p : Principal) : Principal :=
  { collection := c.name, id := p.id, data := project c.fields p.data.entries }

theorem projected_projected (c : Collection) (p : Principal) :
    projected c (projected c p) = projected c p := by
  simp only [projected, project_project]

/-- The id that a snapshot carries stands in the way of no declared field. -/
theorem project_snapshot (fields : List String) (p : Principal) :
    project fields (p.data.insert idField (.str p.id)).entries = project fields p.data.entries := by
  refine project_congr ?_
  intro f _ hf
  exact Table.find?_insert_other (Ne.symm hf) p.data (.str p.id)

/-! ## Snapshots -/

theorem ofSnapshot_eq_ok_iff (h : schema.HasDistinctIds) :
    ofSnapshot ref snapshot schema = .ok p
      ↔ ∃ name id c members, IsRef ref name id ∧ schema.Resolves name c ∧ snapshot = .obj members
          ∧ p = { collection := c.name, id, data := project c.fields members } := by
  constructor
  · intro hp
    unfold ofSnapshot at hp
    split at hp
    · cases hp
    · rename_i name id href
      split at hp
      · cases hp
      · rename_i c hc
        split at hp
        · rename_i members
          cases hp
          exact ⟨name, id, c, members, splitRef_eq_some_iff.1 href,
            (Schema.find?_eq_some_iff h).1 hc, rfl, rfl⟩
        · cases hp
  · rintro ⟨name, id, c, members, href, hc, rfl, rfl⟩
    rw [ofSnapshot, splitRef_eq_some_iff.2 href]
    simp only [(Schema.find?_eq_some_iff h).2 hc]

/-- A snapshot is refused for its reference exactly if a record with it has none to show. -/
theorem ofSnapshot_eq_invalid_iff :
    (∃ text, ofSnapshot ref snapshot schema = .error (.schema (.invalidAuthRef text)))
      ↔ authRefParts ref = none := by
  rw [← splitRef_eq_authRefParts, ofSnapshot]
  cases splitRef ref with
  | none => simp
  | some parts =>
    refine iff_of_false ?_ (by simp)
    rintro ⟨text, he⟩
    simp only at he
    split at he
    · cases he
    · split at he <;> cases he

/-- The reference of a principal that comes from a collection. -/
theorem isRef_authRef (hname : p.collection ≠ "") (hsep : authRefSeparator ∉ p.collection.toList)
    (hid : p.id ≠ "") : IsRef p.authRef p.collection p.id :=
  ⟨hname, hsep, hid, rfl⟩

theorem ofSnapshot_snapshot (h : schema.HasDistinctIds) (href : IsRef p.authRef p.collection p.id)
    (hc : schema.Resolves p.collection c) :
    ofSnapshot p.authRef p.snapshot schema = .ok (projected c p) := by
  refine (ofSnapshot_eq_ok_iff h).2 ⟨p.collection, p.id, c, _, href, hc, rfl, ?_⟩
  rw [projected, project_snapshot]

/-- In the cache of an instance a collection is found under its own name. -/
theorem resolves_projected (hk : schema.IsKeyed) (hc : schema.Resolves ref c) :
    schema.Resolves (projected c p).collection c := by
  show schema.Resolves c.name c
  obtain hc | ⟨-, hmem, -⟩ := hc
  · rw [hk ref c hc]
    exact .inl hc
  · obtain ⟨⟨name, c'⟩, he, rfl⟩ := List.mem_map.1 hmem
    have hfind := (Table.mem_entries_iff _ _ _).1 he
    rw [hk name c' hfind]
    exact .inl hfind

/-- A principal that is sent to a peer arrives as what the peer's schema declares of it: in the
collection that its reference means there, under its own id, with its value or null for every field
that is declared, and with no other field. What has arrived so arrives again as the same. The id and
the undeclared fields of a snapshot never count, and a reference is refused exactly if a record with
this reference says that it has none. -/
theorem ofSnapshot_projects {schema : Schema} (hk : schema.IsKeyed) (hd : schema.HasDistinctIds) :
    (∀ (p : Principal) (c : Collection), p.collection ≠ "" →
        authRefSeparator ∉ p.collection.toList → schema.Resolves p.collection c → p.id ≠ "" →
      ∃ q, ofSnapshot p.authRef p.snapshot schema = .ok q
        ∧ q.collection = c.name ∧ q.id = p.id
        ∧ (∀ f, q.data.find? f
            = if f ∈ c.fields ∧ f ≠ "id" then some ((p.data.find? f).getD .null) else none)
        ∧ (c.name ≠ "" → authRefSeparator ∉ c.name.toList →
            ofSnapshot q.authRef q.snapshot schema = .ok q)
        ∧ ∀ members members', (∀ f ∈ c.fields, f ≠ "id" →
              Keyed.find? f members = Keyed.find? f members') →
            ofSnapshot p.authRef (.obj members) schema = ofSnapshot p.authRef (.obj members') schema)
    ∧ ∀ ref snapshot, (∃ text, ofSnapshot ref snapshot schema = .error (.schema (.invalidAuthRef text)))
        ↔ authRefParts ref = none := by
  refine ⟨?_, fun ref snapshot => ofSnapshot_eq_invalid_iff⟩
  intro p c hname hsep hc hid
  have href := isRef_authRef hname hsep hid
  refine ⟨projected c p, ofSnapshot_snapshot hd href hc, rfl, rfl, fun f => find?_project _ _ f, ?_, ?_⟩
  · intro hname' hsep'
    have href' : IsRef (projected c p).authRef (projected c p).collection (projected c p).id :=
      isRef_authRef hname' hsep' hid
    rw [ofSnapshot_snapshot hd href' (resolves_projected hk hc), projected_projected]
  · intro members members' hagree
    have hread : ∀ m, ofSnapshot p.authRef (.obj m) schema
        = .ok { collection := c.name, id := p.id, data := project c.fields m } :=
      fun m => (ofSnapshot_eq_ok_iff hd).2 ⟨_, _, c, m, href, hc, rfl, rfl⟩
    rw [hread, hread, project_congr hagree]

/-- A principal named by the id of its collection, whose own id has the separator in it and whose
password is not declared, arrives under the collection's name and without the password. -/
theorem ofSnapshot_projects_undeclared :
    let users : Collection := { id := "pbc_1", name := "users", fields := ["id", "email", "verified"] }
    let schema := Schema.ofList [users]
    let p : Principal :=
      { collection := "pbc_1", id := "u/1",
        data := .ofList [("email", .str "a@example.com"), ("password", .str "secret")] }
    schema.HasDistinctIds ∧ schema.Resolves p.collection users
      ∧ ∃ q, ofSnapshot p.authRef p.snapshot schema = .ok q
        ∧ q.collection = "users" ∧ q.id = "u/1"
        ∧ q.data.find? "email" = some (.str "a@example.com") ∧ q.data.find? "verified" = some .null
        ∧ q.data.find? "password" = none
        ∧ ofSnapshot q.authRef q.snapshot schema = .ok q := by
  intro users schema p
  have hd : schema.HasDistinctIds := List.nodup_singleton "pbc_1"
  have hc : schema.Resolves p.collection users := (Schema.find?_eq_some_iff hd).1 (by decide)
  obtain ⟨q, hq, hname, hid, hdata, hagain, -⟩ :=
    (ofSnapshot_projects (Schema.isKeyed_ofList [users]) hd).1 p users
      (by decide) (by decide) hc (by decide)
  refine ⟨hd, hc, q, hq, hname, hid, ?_, ?_, ?_, hagain (by decide) (by decide)⟩
  · rw [hdata]
    rfl
  · rw [hdata]
    rfl
  · rw [hdata]
    rfl

end Principal

end TopicMesh
