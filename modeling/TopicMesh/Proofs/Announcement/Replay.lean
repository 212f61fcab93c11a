import TopicMesh.Announcement

/-!
# TopicMesh.Proofs.Announcement.Replay

Announcements as changes: of the record table (`applyTo`), and of what one instance follows of one
client (`effect`). An instance may hear announcements that its view reflects already, and it passes
over those that it wrote itself; that its view comes out right nevertheless rests on three facts.

* `settles_replay` — a sequence of announcements either fixes what is followed or only takes it away.
* `Follows.step` and `Follows.fresh_step` — the view of a client elsewhere keeps up with the table,
  be it a view that grew with the announcements or one that was copied from the table just now.
* `Shadows.step` — while a client is attached its announcements lead to no view that disagrees with
  the table on the owner.
-/

namespace TopicMesh

/-- The record of a client, if the instance `own` has to follow it. -/
def visibleTo (own : String) (t : Table Record) (id : String) : Option Record :=
  (t.find? id).filter fun r => r.owner ≠ own

/-- Either there is one outcome, or something is only ever taken away. -/
def Settles {α : Type} (f : Option α → Option α) : Prop :=
  (∃ c, ∀ x, f x = c) ∨ ∃ p, ∀ x, f x = x.filter p

namespace Settles

variable {α : Type} {f g : Option α → Option α}

theorem same (h : ∀ x, f x = x) : Settles f := by
  refine .inr ⟨fun _ => true, ?_⟩
  intro x
  rw [h]
  cases x with
  | none => rfl
  | some v => rfl

theorem comp (hg : Settles g) (hf : Settles f) : Settles fun x => g (f x) := by
  rcases hg with ⟨c, hc⟩ | ⟨p, hp⟩
  · exact .inl ⟨c, fun x => hc (f x)⟩
  · rcases hf with ⟨c, hc⟩ | ⟨q, hq⟩
    · refine .inl ⟨c.filter p, ?_⟩
      intro x
      simp only [hp, hc]
    · refine .inr ⟨fun v => q v && p v, ?_⟩
      intro x
      simp only [hp, hq, Option.filter_filter]

theorem foldl {ι : Type} {step : ι → Option α → Option α} (h : ∀ a, Settles (step a))
    (as : List ι) : Settles fun x => as.foldl (fun x a => step a x) x := by
  induction as with
  | nil => exact .same fun _ => rfl
  | cons a as ih => exact ih.comp (h a)

/-- Once something has settled, the same changes nothing any more. -/
theorem idem (h : Settles f) (x : Option α) : f (f x) = f x := by
  rcases h with ⟨c, hc⟩ | ⟨p, hp⟩
  · rw [hc, hc]
  · rw [hp, hp, Option.filter_filter]
    congr 1
    funext v
    exact Bool.and_self (p v)

end Settles

namespace Announcement

/-- What an announcement says of the record table. -/
def applyTo (a : Announcement) (t : Table Record) : Table Record :=
  match a with
  | .upsert r _ => t.insert r.clientId r
  | .delete id => t.erase id
  | .offline channel => t.filter fun _ r => r.owner ≠ channel
  | .collectionsUpdated | .settingsUpdated => t

/-- What an announcement does to the record that the instance `own` follows for a client. -/
def effect (own id : String) (a : Announcement) (x : Option Record) : Option Record :=
  match a with
  | .upsert r _ => if r.clientId = id ∧ r.updatedBy ≠ own ∧ r.owner ≠ own then some r else x
  | .delete c => if c = id then none else x
  | .offline channel => if channel = own then x else x.filter fun r => r.owner ≠ channel
  | .collectionsUpdated | .settingsUpdated => x

/-- The same of whatever the instance keeps of a client elsewhere: `make` is what it keeps of a
record. -/
def revise {α : Type} (own id : String) (make : Record → Option Json → α) (ownerOf : α → String)
    (a : Announcement) (x : Option α) : Option α :=
  match a with
  | .upsert r snapshot =>
    if r.clientId = id ∧ r.updatedBy ≠ own ∧ r.owner ≠ own then some (make r snapshot) else x
  | .delete c => if c = id then none else x
  | .offline channel => if channel = own then x else x.filter fun v => ownerOf v ≠ channel
  | .collectionsUpdated | .settingsUpdated => x

def replay (own id : String) (as : List Announcement) (x : Option Record) : Option Record :=
  as.foldl (fun x a => a.effect own id x) x

/-- An announcement that the instance `writer` may make: of a client attached to it, whose record
keeps the owner it had, or of an instance that was reaped. -/
def IsLawful (writer : String) (isLocal : String → Prop) (t : Table Record) :
    Announcement → Prop
  | .upsert r _ => r.updatedBy = writer ∧ isLocal r.clientId
      ∧ r.owner = ((t.find? r.clientId).map (·.owner)).getD writer
  | .delete id => isLocal id
  | .offline _ | .collectionsUpdated | .settingsUpdated => True

/-- The announcements of `as` one after the other. -/
def AllLawful (writer : String) (isLocal : String → Prop) :
    Table Record → List Announcement → Prop
  | _, [] => True
  | t, a :: as => a.IsLawful writer isLocal t ∧ AllLawful writer isLocal (a.applyTo t) as

def applyAll (as : List Announcement) (t : Table Record) : Table Record :=
  as.foldl (fun t a => a.applyTo t) t

/-- The followed record, brought up to date by the announcements, is that of the table. -/
def Follows (own id : String) (x : Option Record) (as : List Announcement) (t : Table Record) :
    Prop :=
  replay own id as x = visibleTo own t id

/-- The announcements lead to no record of the client, or to one with the table's owner. -/
def Shadows (own id : String) (as : List Announcement) (t : Table Record) : Prop :=
  ∀ r, replay own id as none = some r → ∃ r', visibleTo own t id = some r' ∧ r'.owner = r.owner

variable {own id writer : String} {isLocal : String → Prop} {t : Table Record}
  {a : Announcement} {as : List Announcement} {x : Option Record}

theorem effect_eq_revise (own id : String) (a : Announcement) :
    a.effect own id = a.revise own id (fun r _ => r) Record.owner := by
  funext x
  cases a <;> rfl

theorem map_revise {α β : Type} {make : Record → Option Json → α} {ownerOf : β → String}
    (g : α → β) (a : Announcement) (x : Option α) :
    (a.revise own id make (fun v => ownerOf (g v)) x).map g
      = a.revise own id (fun r s => g (make r s)) ownerOf (x.map g) := by
  cases a with
  | upsert r snapshot =>
    simp only [revise]
    split
    · rfl
    · rfl
  | delete c =>
    simp only [revise]
    split
    · rfl
    · rfl
  | offline channel =>
    simp only [revise]
    split
    · rfl
    · cases x with
      | none => rfl
      | some v =>
        rw [Option.map_some, Option.filter_some, Option.filter_some]
        split
        · rfl
        · rfl
  | collectionsUpdated => rfl
  | settingsUpdated => rfl

theorem replay_append (own id : String) (as bs : List Announcement) (x : Option Record) :
    replay own id (as ++ bs) x = replay own id bs (replay own id as x) := by
  rw [replay, List.foldl_append]
  rfl

theorem applyAll_append (as bs : List Announcement) (t : Table Record) :
    applyAll (as ++ bs) t = applyAll bs (applyAll as t) := by
  rw [applyAll, List.foldl_append]
  rfl

theorem allLawful_append {bs : List Announcement} :
    AllLawful writer isLocal t (as ++ bs) ↔
      AllLawful writer isLocal t as ∧ AllLawful writer isLocal (applyAll as t) bs := by
  induction as generalizing t with
  | nil => simp [AllLawful, applyAll]
  | cons a as ih =>
    simp only [List.cons_append, AllLawful, ih, and_assoc]
    rfl

theorem AllLawful.mono {isLocal' : String → Prop} (h : AllLawful writer isLocal t as)
    (hl : ∀ c, isLocal c → isLocal' c) : AllLawful writer isLocal' t as := by
  induction as generalizing t with
  | nil => trivial
  | cons a as ih =>
    refine ⟨?_, ih h.2⟩
    have ha := h.1
    cases a with
    | upsert r snapshot => exact ⟨ha.1, hl _ ha.2.1, ha.2.2⟩
    | delete c => exact hl c ha
    | offline channel => trivial
    | collectionsUpdated => trivial
    | settingsUpdated => trivial

theorem allLawful_map_offline (channels : List String) :
    AllLawful writer isLocal t (channels.map .offline) := by
  induction channels generalizing t with
  | nil => trivial
  | cons channel channels ih => exact ⟨trivial, ih⟩

/-- Announcements of other clients leave the record of a client alone, unless its owner goes. -/
theorem find?_applyAll {r : Record} (h : AllLawful writer isLocal t as) (hid : ¬isLocal id)
    (hr : t.find? id = some r) (ho : .offline r.owner ∉ as) :
    (applyAll as t).find? id = some r := by
  induction as generalizing t with
  | nil => exact hr
  | cons a as ih =>
    have ho' : .offline r.owner ∉ as := fun hm => ho (List.mem_cons_of_mem a hm)
    refine ih h.2 ?_ ho'
    have ha := h.1
    cases a with
    | upsert r' snapshot =>
      have hne : r'.clientId ≠ id := fun he => hid (he ▸ ha.2.1)
      exact (Table.find?_insert_other hne t r').trans hr
    | delete c =>
      have hne : c ≠ id := fun he => hid (he ▸ ha)
      exact (Table.find?_erase_other hne t).trans hr
    | offline channel =>
      have hne : r.owner ≠ channel := fun he => ho (he ▸ List.mem_cons_self)
      simp only [applyTo, Table.find?_filter, hr]
      simp [hne, Option.filter]
    | collectionsUpdated => exact hr
    | settingsUpdated => exact hr

/-! ## What a sequence of announcements can do -/

theorem settles_revise {α : Type} (own id : String) (make : Record → Option Json → α)
    (ownerOf : α → String) (a : Announcement) : Settles (a.revise own id make ownerOf) := by
  cases a with
  | upsert r snapshot =>
    by_cases h : r.clientId = id ∧ r.updatedBy ≠ own ∧ r.owner ≠ own
    · exact .inl ⟨some (make r snapshot), fun x => if_pos h⟩
    · exact .same fun x => if_neg h
  | delete c =>
    by_cases h : c = id
    · exact .inl ⟨none, fun x => if_pos h⟩
    · exact .same fun x => if_neg h
  | offline channel =>
    by_cases h : channel = own
    · exact .same fun x => if_pos h
    · exact .inr ⟨fun v => ownerOf v ≠ channel, fun x => if_neg h⟩
  | collectionsUpdated => exact .same fun _ => rfl
  | settingsUpdated => exact .same fun _ => rfl

theorem settles_effect (own id : String) (a : Announcement) : Settles (a.effect own id) := by
  rw [effect_eq_revise]
  exact settles_revise own id _ _ a

theorem settles_replay (own id : String) (as : List Announcement) :
    Settles (replay own id as) :=
  .foldl (settles_effect own id) as

/-- Announcements that lead anywhere from nothing lead there from everything. -/
theorem replay_of_replay_none {r : Record} (h : replay own id as none = some r)
    (x : Option Record) : replay own id as x = some r := by
  rcases settles_replay own id as with ⟨c, hc⟩ | ⟨p, hp⟩
  · rw [hc x, ← hc none, h]
  · rw [hp] at h
    cases h

/-! ## Keeping up with the table -/

theorem visibleTo_upsert (r : Record) (snapshot : Option Json) (t : Table Record) :
    visibleTo own ((Announcement.upsert r snapshot).applyTo t) id
      = if r.clientId = id then (some r).filter fun r => r.owner ≠ own else visibleTo own t id := by
  rw [visibleTo, applyTo, Table.find?_insert]
  split <;> rfl

theorem visibleTo_delete (c : String) (t : Table Record) :
    visibleTo own ((Announcement.delete c).applyTo t) id
      = if c = id then none else visibleTo own t id := by
  rw [visibleTo, applyTo, Table.find?_erase]
  split <;> rfl

theorem visibleTo_offline (channel : String) (t : Table Record) :
    visibleTo own ((Announcement.offline channel).applyTo t) id
      = (visibleTo own t id).filter fun r => r.owner ≠ channel := by
  rw [visibleTo, applyTo, Table.find?_filter, visibleTo, Option.filter_filter, Option.filter_filter]
  congr 1
  funext r
  exact Bool.and_comm _ _

/-- If the record written is one's own, there was nothing to follow before. -/
theorem visibleTo_of_kept_owner {r : Record} (hw : writer ≠ own) (hr : r.owner = own)
    (ho : r.owner = ((t.find? r.clientId).map (·.owner)).getD writer) :
    visibleTo own t r.clientId = none := by
  rw [visibleTo]
  cases hf : t.find? r.clientId with
  | none =>
    rw [hf] at ho
    exact absurd (ho.symm.trans hr) hw
  | some old =>
    rw [hf] at ho
    have hold : old.owner = own := ho.symm.trans hr
    rw [Option.filter_some, decide_eq_false (fun h => h hold)]
    rfl

/-- An announcement of somebody else changes what is followed just as it changes the table. -/
theorem effect_visibleTo (ha : a.IsLawful writer isLocal t) (hw : writer = own → ¬isLocal id) :
    a.effect own id (visibleTo own t id) = visibleTo own (a.applyTo t) id := by
  cases a with
  | upsert r snapshot =>
    obtain ⟨hu, hl, ho⟩ := ha
    rw [visibleTo_upsert, effect]
    by_cases hid : r.clientId = id
    · have hne : writer ≠ own := fun e => hw e (hid ▸ hl)
      by_cases hr : r.owner = own
      · have hv := visibleTo_of_kept_owner hne hr ho
        rw [hid] at hv
        rw [if_neg (fun h => h.2.2 hr), if_pos hid, hv, Option.filter_some,
          decide_eq_false (fun h => h hr)]
        rfl
      · rw [if_pos ⟨hid, hu ▸ hne, hr⟩, if_pos hid, Option.filter_some, decide_eq_true hr]
        rfl
    · rw [if_neg (fun h => hid h.1), if_neg hid]
  | delete c => rw [visibleTo_delete, effect]
  | offline channel =>
    rw [visibleTo_offline, effect]
    split
    · rename_i hc
      rw [hc, visibleTo, Option.filter_filter]
      congr 1
      funext r
      simp
    · rfl
  | collectionsUpdated => rfl
  | settingsUpdated => rfl

theorem Follows.step (h : Follows own id x as t) (ha : a.IsLawful writer isLocal t)
    (hw : writer = own → ¬isLocal id) : Follows own id x (as ++ [a]) (a.applyTo t) := by
  have hv := effect_visibleTo ha hw
  rw [← h] at hv
  rw [Follows, replay_append]
  exact hv

/-- A view copied from the table is not spoilt by announcements that the table reflects already. -/
theorem Follows.fresh_step (h : Follows own id (visibleTo own t id) as t)
    (ha : a.IsLawful writer isLocal t) (hw : writer = own → ¬isLocal id) :
    Follows own id (visibleTo own (a.applyTo t) id) (as ++ [a]) (a.applyTo t) := by
  have hv := effect_visibleTo ha hw
  rw [Follows] at h
  rw [Follows, replay_append, ← hv]
  -- what waits either fixes the record or only ever takes it away
  rcases settles_replay own id as with ⟨c, hc⟩ | ⟨p, hp⟩
  · rw [hc, ← hc (visibleTo own t id), h]
    rfl
  · rw [hp] at h ⊢
    rcases settles_effect own id a with ⟨c, hc⟩ | ⟨q, hq⟩
    · rw [hc]
      exact hc _
    · have happ : ∀ y, replay own id [a] y = y.filter q := hq
      rw [hq, happ]
      cases hx : visibleTo own t id with
      | none => rfl
      | some r =>
        rw [hx, Option.filter_eq_some_iff] at h
        cases hr : q r <;> simp [Option.filter, h.2, hr]

theorem Shadows.step (h : Shadows own id as t) (ha : a.IsLawful writer isLocal t) :
    Shadows own id (as ++ [a]) (a.applyTo t) := by
  intro r hr
  rw [replay_append] at hr
  have hr : a.effect own id (replay own id as none) = some r := hr
  cases a with
  | upsert row snapshot =>
    obtain ⟨hu, -, ho⟩ := ha
    rw [effect] at hr
    rw [visibleTo_upsert]
    split at hr
    · rename_i hc
      cases hr
      rw [if_pos hc.1, Option.filter_some, decide_eq_true hc.2.2]
      exact ⟨_, rfl, rfl⟩
    · rename_i hc
      obtain ⟨r', hv, hro⟩ := h r hr
      by_cases hid : row.clientId = id
      · -- the row keeps the owner that the table had
        have hf : t.find? row.clientId = some r' := by
          rw [hid]
          exact Option.eq_some_of_filter_eq_some hv
        have hne : r'.owner ≠ own := of_decide_eq_true (Option.filter_eq_some_iff.1 hv).2
        rw [hf] at ho
        have ho : row.owner = r'.owner := ho
        rw [if_pos hid, Option.filter_some, decide_eq_true (ho ▸ hne)]
        exact ⟨row, rfl, ho.trans hro⟩
      · rw [if_neg hid]
        exact ⟨r', hv, hro⟩
  | delete c =>
    rw [effect] at hr
    rw [visibleTo_delete]
    split at hr
    · cases hr
    · rename_i hc
      rw [if_neg hc]
      exact h r hr
  | offline channel =>
    rw [effect] at hr
    rw [visibleTo_offline]
    split at hr
    · rename_i hc
      obtain ⟨r', hv, hro⟩ := h r hr
      have hne := (Option.filter_eq_some_iff.1 hv).2
      refine ⟨r', ?_, hro⟩
      rw [hv, Option.filter_some, hc, if_pos hne]
    · rw [Option.filter_eq_some_iff] at hr
      obtain ⟨r', hv, hro⟩ := h r hr.1
      refine ⟨r', ?_, hro⟩
      rw [hv, Option.filter_some, hro, if_pos hr.2]
  | collectionsUpdated => exact h r hr
  | settingsUpdated => exact h r hr

/-! ## Several announcements -/

/-- What every lawful announcement keeps up, a sequence of them keeps up. -/
theorem steps_of_step {P : List Announcement → Table Record → Prop}
    (hstep : ∀ as t a, a.IsLawful writer isLocal t → P as t → P (as ++ [a]) (a.applyTo t))
    {bs : List Announcement} (hb : AllLawful writer isLocal t bs) (h : P as t) :
    P (as ++ bs) (applyAll bs t) := by
  induction bs generalizing as t with
  | nil =>
    rw [List.append_nil]
    exact h
  | cons b bs ih =>
    rw [List.append_cons]
    exact ih hb.2 (hstep as t b hb.1 h)

theorem Follows.steps {bs : List Announcement} (h : Follows own id x as t)
    (hb : AllLawful writer isLocal t bs) (hw : writer = own → ¬isLocal id) :
    Follows own id x (as ++ bs) (applyAll bs t) :=
  steps_of_step (P := Follows own id x) (fun _ _ _ ha h => h.step ha hw) hb h

theorem Follows.fresh_steps {bs : List Announcement} (h : Follows own id (visibleTo own t id) as t)
    (hb : AllLawful writer isLocal t bs) (hw : writer = own → ¬isLocal id) :
    Follows own id (visibleTo own (applyAll bs t) id) (as ++ bs) (applyAll bs t) :=
  steps_of_step (P := fun as t => Follows own id (visibleTo own t id) as t)
    (fun _ _ _ ha h => h.fresh_step ha hw) hb h

theorem Shadows.steps {bs : List Announcement} (h : Shadows own id as t)
    (hb : AllLawful writer isLocal t bs) : Shadows own id (as ++ bs) (applyAll bs t) :=
  steps_of_step (P := Shadows own id) (fun _ _ _ ha h => h.step ha) hb h

/-! ## Clients that come and go -/

theorem Follows.shadows (h : Follows own id x as t) : Shadows own id as t := by
  intro r hr
  have hx := replay_of_replay_none hr x
  rw [h] at hx
  exact ⟨r, hx, rfl⟩

theorem Shadows.follows_none (h : Shadows own id as t) (hv : visibleTo own t id = none) :
    Follows own id none as t := by
  rw [Follows, hv]
  cases hr : replay own id as none with
  | none => rfl
  | some r =>
    obtain ⟨r', hr', -⟩ := h r hr
    rw [hv] at hr'
    cases hr'

theorem Shadows.of_append {bs : List Announcement} (h : Shadows own id (as ++ bs) t) :
    Shadows own id bs t := by
  intro r hr
  apply h r
  rw [replay_append]
  exact replay_of_replay_none hr _

end Announcement

end TopicMesh
