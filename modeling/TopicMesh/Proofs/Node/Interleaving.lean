import TopicMesh.Proofs.Node.Redelivery

/-!
# TopicMesh.Proofs.Node.Interleaving

Announcements that are heard in another order. The bus keeps the order of one writer's announcements
only, so that two instances may hear those of several writers interleaved differently.

* `Announcement.Conflicts` — the order of two announcements matters.
* `Announcement.Agree`     — two orders of delivery have the announcements that conflict in the same
  order.
* `revise_comm`            — what two announcements without a conflict make of one client.
* `followAll_interleaved`  — an instance ends with the same registry in either order.

Of two announcements without a conflict at most one settles what is followed of a client, and the
other one only takes away what belongs to a channel that was reaped.
-/

namespace TopicMesh

/-! ## Orders -/

/-- One element of an order comes before another. -/
def Precedes {ι : Type} (order : List ι) (i j : ι) : Prop := [i, j].Sublist order

section Orders

variable {ι σ : Type} {conflicts : ι → ι → Prop} {step : σ → ι → σ}

theorem precedes_cons_of_mem {i j : ι} {order : List ι} (h : j ∈ order) :
    Precedes (i :: order) i j :=
  List.cons_sublist_cons.2 (List.singleton_sublist.2 h)

theorem Precedes.cons {i j : ι} {order : List ι} (h : Precedes order i j) (k : ι) :
    Precedes (k :: order) i j :=
  List.Sublist.cons k h

theorem Precedes.left_mem {i j : ι} {order : List ι} (h : Precedes order i j) : i ∈ order :=
  List.Sublist.subset h List.mem_cons_self

theorem Precedes.right_mem {i j : ι} {order : List ι} (h : Precedes order i j) : j ∈ order :=
  List.Sublist.subset h (List.mem_cons_of_mem i List.mem_cons_self)

/-- What stands before an element that occurs once does not come after it. -/
theorem not_precedes_of_mem {i j : ι} {before after : List ι}
    (hnodup : (before ++ i :: after).Nodup) (h : j ∈ before) :
    ¬Precedes (before ++ i :: after) i j := by
  rw [List.nodup_append] at hnodup
  obtain ⟨-, hlast, hdisjoint⟩ := hnodup
  intro hp
  obtain ⟨front, back, heq, hfront, hback⟩ := List.sublist_append_iff.1 hp
  cases front with
  | nil =>
    -- both come from the second part, where the element itself is the first
    have hj : j ∈ i :: after := by
      rw [List.nil_append] at heq
      rw [← heq] at hback
      exact hback.subset (List.mem_cons_of_mem i List.mem_cons_self)
    exact hdisjoint j h j hj rfl
  | cons k front =>
    rw [List.cons_append, List.cons.injEq] at heq
    have hi : i ∈ before := hfront.subset (heq.1 ▸ List.mem_cons_self)
    exact hdisjoint i hi i List.mem_cons_self rfl

/-- An element that is left out has no part in how the others follow each other. -/
theorem Precedes.of_middle [DecidableEq ι] {i j k : ι} {before after : List ι}
    (h : Precedes (before ++ k :: after) i j) (hk : k ∉ before) (hi : k ≠ i) (hj : k ≠ j) :
    Precedes (before ++ after) i j := by
  have he := List.Sublist.erase k h
  rw [List.erase_append_right _ hk, List.erase_cons_head,
    List.erase_of_not_mem (by simp [hi, hj])] at he
  exact he

/-- A step that conflicts with none of those before it may as well come first. -/
theorem foldl_middle (hcomm : ∀ i j, ¬conflicts i j → ∀ s, step (step s i) j = step (step s j) i)
    {i : ι} {before : List ι} (h : ∀ j ∈ before, ¬conflicts i j) (after : List ι) (s : σ) :
    (before ++ i :: after).foldl step s = (i :: (before ++ after)).foldl step s := by
  induction before generalizing s with
  | nil => rfl
  | cons j before ih =>
    have hrest : ∀ k ∈ before, ¬conflicts i k := fun k hk => h k (List.mem_cons_of_mem j hk)
    rw [List.cons_append, List.foldl_cons, ih hrest, List.foldl_cons, List.foldl_cons,
      List.cons_append, List.foldl_cons, hcomm i j (h j List.mem_cons_self)]

/-- Two orders of the same steps lead to the same, if they agree on the steps that conflict. -/
theorem foldl_eq_of_agree [DecidableEq ι]
    (hcomm : ∀ i j, ¬conflicts i j → ∀ s, step (step s i) j = step (step s j) i)
    {order order' : List ι} (hnodup : order'.Nodup) (hperm : order.Perm order')
    (hagree : ∀ i j, conflicts i j → Precedes order i j → Precedes order' i j) (s : σ) :
    order.foldl step s = order'.foldl step s := by
  induction order generalizing order' s with
  | nil => rw [List.nil_perm.1 hperm]
  | cons i order ih =>
    have hnodup₀ : (i :: order).Nodup := hperm.nodup_iff.2 hnodup
    obtain ⟨hi, -⟩ := List.nodup_cons.1 hnodup₀
    obtain ⟨before, after, rfl⟩ := List.append_of_mem (hperm.subset List.mem_cons_self)
    have hrest : order.Perm (before ++ after) := (hperm.trans List.perm_middle).cons_inv
    have hbefore : i ∉ before := fun hm => hi (hrest.symm.subset (List.mem_append_left after hm))
    -- whatever comes before the first step in the other order does not conflict with it
    have hfree : ∀ j ∈ before, ¬conflicts i j := by
      intro j hj hc
      have hmem : j ∈ order := hrest.symm.subset (List.mem_append_left after hj)
      exact not_precedes_of_mem hnodup hj (hagree i j hc (precedes_cons_of_mem hmem))
    rw [foldl_middle hcomm hfree, List.foldl_cons, List.foldl_cons]
    refine ih ?_ hrest ?_ (step s i)
    · exact (List.nodup_cons.1 (List.perm_middle.nodup_iff.1 hnodup)).2
    · intro j k hc hp
      have hj : i ≠ j := fun he => hi (he ▸ hp.left_mem)
      have hk : i ≠ k := fun he => hi (he ▸ hp.right_mem)
      exact (hagree j k hc (hp.cons i)).of_middle hbefore hj hk

end Orders

/-! ## Conflicts -/

namespace Announcement

/-- The client whose subscriptions are announced. -/
def client? : Announcement → Option String
  | .upsert record _ => some record.clientId
  | .delete clientId => some clientId
  | .offline _ | .collectionsUpdated | .settingsUpdated => none

/-- The owner of the record that is announced. -/
def owner? : Announcement → Option String
  | .upsert record _ => some record.owner
  | .delete _ | .offline _ | .collectionsUpdated | .settingsUpdated => none

/-- The channel that was reaped. -/
def reaped? : Announcement → Option String
  | .offline channel => some channel
  | .upsert _ _ | .delete _ | .collectionsUpdated | .settingsUpdated => none

/-- The order of two announcements matters: both are of one client's subscriptions, or one is of a
channel that was reaped and the other of a record that this channel owns. -/
def Conflicts (a a' : Announcement) : Prop :=
  (a.client? ≠ none ∧ a.client? = a'.client?)
    ∨ (a.reaped? ≠ none ∧ a.reaped? = a'.owner?)
    ∨ (a'.reaped? ≠ none ∧ a'.reaped? = a.owner?)

instance : DecidableRel Conflicts := fun _ _ => inferInstanceAs (Decidable (_ ∨ _))

/-- Two orders in which announcements are delivered agree on those that conflict. -/
def Agree (as : List Announcement) (order order' : List (Fin as.length)) : Prop :=
  ∀ i j, (as.get i).Conflicts (as.get j) → (Precedes order i j ↔ Precedes order' i j)

variable {α : Type} {own id : String} {make : Record → Option Json → α} {ownerOf : α → String}
  {a a' : Announcement}

/-- An announcement that is not of the client's subscriptions only ever takes something away. -/
theorem revise_of_other (own : String) (make : Record → Option Json → α) (ownerOf : α → String)
    (h : a.client? ≠ some id) :
    ∃ p : α → Bool, ∀ x, a.revise own id make ownerOf x = x.filter p := by
  have hsame : (∀ x, a.revise own id make ownerOf x = x) →
      ∃ p : α → Bool, ∀ x, a.revise own id make ownerOf x = x.filter p := by
    intro hx
    refine ⟨fun _ => true, ?_⟩
    intro x
    rw [hx]
    cases x <;> rfl
  cases a with
  | upsert r snapshot =>
    exact hsame fun x => if_neg fun hc => h (congrArg some hc.1)
  | delete c => exact hsame fun x => if_neg fun hc => h (congrArg some hc)
  | offline channel =>
    by_cases ho : channel = own
    · exact hsame fun x => if_pos ho
    · exact ⟨fun v => ownerOf v ≠ channel, fun x => if_neg ho⟩
  | collectionsUpdated => exact hsame fun _ => rfl
  | settingsUpdated => exact hsame fun _ => rfl

/-- What one announcement settles for its client, another one without a conflict leaves as it is. -/
theorem revise_settled (own : String) (hmake : ∀ r snapshot, ownerOf (make r snapshot) = r.owner)
    (ha : a.client? = some id) (h : ¬a.Conflicts a') :
    (∀ x, a.revise own id make ownerOf x = x)
    ∨ ∃ c, (∀ x, a.revise own id make ownerOf x = c) ∧ a'.revise own id make ownerOf c = c := by
  have hother : a'.client? ≠ some id := by
    intro ha'
    exact h (.inl ⟨by simp [ha], ha.trans ha'.symm⟩)
  obtain ⟨p, hp⟩ := revise_of_other own make ownerOf hother
  cases a with
  | upsert r snapshot =>
    by_cases hc : r.clientId = id ∧ r.updatedBy ≠ own ∧ r.owner ≠ own
    · refine .inr ⟨some (make r snapshot), fun x => if_pos hc, ?_⟩
      cases a' with
      | offline channel =>
        have hne : r.owner ≠ channel := by
          rintro rfl
          exact h (.inr (.inr ⟨by simp [reaped?], rfl⟩))
        rw [revise]
        split
        · rfl
        · rw [Option.filter_some, hmake, decide_eq_true hne, if_pos rfl]
      | upsert r' snapshot' => exact if_neg fun hc => hother (congrArg some hc.1)
      | delete c => exact if_neg fun hc => hother (congrArg some hc)
      | collectionsUpdated => rfl
      | settingsUpdated => rfl
    · exact .inl fun x => if_neg hc
  | delete c =>
    refine .inr ⟨none, fun x => if_pos (Option.some.inj ha), ?_⟩
    rw [hp]
    rfl
  | offline channel => cases ha
  | collectionsUpdated => cases ha
  | settingsUpdated => cases ha

theorem Conflicts.symm (h : a.Conflicts a') : a'.Conflicts a := by
  rcases h with ⟨hne, heq⟩ | hr | hr
  · exact .inl ⟨heq ▸ hne, heq.symm⟩
  · exact .inr (.inr hr)
  · exact .inr (.inl hr)

/-- Of two announcements without a conflict it makes no difference to a client which is heard first. -/
theorem revise_comm (hmake : ∀ r snapshot, ownerOf (make r snapshot) = r.owner)
    (h : ¬a.Conflicts a') (x : Option α) :
    a'.revise own id make ownerOf (a.revise own id make ownerOf x)
      = a.revise own id make ownerOf (a'.revise own id make ownerOf x) := by
  by_cases ha : a.client? = some id
  · rcases revise_settled own hmake ha h with hx | ⟨c, hc, hstays⟩
    · rw [hx, hx]
    · rw [hc, hc, hstays]
  · by_cases ha' : a'.client? = some id
    · have h' : ¬a'.Conflicts a := fun hc => h hc.symm
      rcases revise_settled own hmake ha' h' with hx | ⟨c, hc, hstays⟩
      · rw [hx, hx]
      · rw [hc, hc, hstays]
    · obtain ⟨p, hp⟩ := revise_of_other own make ownerOf ha
      obtain ⟨q, hq⟩ := revise_of_other own make ownerOf ha'
      rw [hp, hq, hp, hq, Option.filter_filter, Option.filter_filter]
      congr 1
      funext v
      exact Bool.and_comm _ _

end Announcement

namespace Node

open Announcement (Agree)

/-- Announcements in two orders that agree make the same of a client elsewhere. -/
theorem reviseAll_of_agree (n : Node) (id : String) {as : List Announcement}
    {order order' : List (Fin as.length)} (hperm : order.Perm order') (hnodup : order'.Nodup)
    (hagree : Agree as order order') (x : Option Proxy) :
    n.reviseAll id (order.map as.get) x = n.reviseAll id (order'.map as.get) x := by
  rw [reviseAll, reviseAll, List.foldl_map, List.foldl_map]
  apply foldl_eq_of_agree _ hnodup hperm fun i j hc => (hagree i j hc).1
  intro i j hc x
  apply Announcement.revise_comm
  · intro r snapshot
    rfl
  · exact hc

/-- The order in which announcements are delivered makes no difference, as long as those that conflict
keep theirs: an instance ends with the same clients, with the same kinds of proxies, records and
principals, whatever the services do meanwhile. -/
theorem followAll_interleaved {own : String} {n : Node} (h : n.SoundAs own)
    {as : List Announcement} {order order' : List (Fin as.length)}
    (ho : order.Perm (List.finRange as.length)) (ho' : order'.Perm (List.finRange as.length))
    (hagree : Agree as order order') (b b' : Backend) :
    (n.followAll b (order.map as.get)).1.registry
      = (n.followAll b' (order'.map as.get)).1.registry := by
  have hnodup : order'.Nodup := ho'.nodup_iff.2 (List.nodup_finRange _)
  apply Table.ext
  intro id
  cases hl : n.isLocal id with
  | true =>
    -- an attached client keeps the proxy it has
    obtain ⟨p, hp, ha⟩ := isLocal_eq_true_iff.1 hl
    rw [((h.spares_followAll b _).attached id p ha).2 hp,
      ((h.spares_followAll b' _).attached id p ha).2 hp]
  | false =>
    rw [h.find?_followAll hl, h.find?_followAll hl]
    exact n.reviseAll_of_agree id (ho.trans ho'.symm) hnodup hagree _

/-- `gossip` in another order: the peer that was reaped is heard of before the client's second move, and
the two clients that it had announced are swapped. -/
def crossed : List (Fin gossip.length) := ([4, 1, 0, 3, 2] : List (Fin 5))

theorem followAll_interleaved_gossip :
    besieged.SoundAs "a"
    ∧ crossed.Perm (List.finRange gossip.length)
    ∧ Agree gossip crossed (List.finRange gossip.length)
    ∧ (besieged.followAll claiming (crossed.map gossip.get)).1.registry
        = (besieged.followAll claiming gossip).1.registry
    ∧ (besieged.followAll claiming gossip).1.registry.find? "moved"
        = some (.mirror ⟨"moved", "c", .empty, "", "c"⟩ none)
    ∧ (besieged.followAll claiming gossip).1.registry.find? "stayed" = none := by
  have hs : besieged.SoundAs "a" := reachable_besieged.soundAs
  have hperm : crossed.Perm (List.finRange gossip.length) := by decide
  have hagree : Agree gossip crossed (List.finRange gossip.length) := by
    unfold Agree Precedes
    decide
  have hsame := followAll_interleaved hs hperm (.refl _) hagree claiming claiming
  exact ⟨hs, hperm, hagree, hsame, rfl, rfl⟩

end Node

end TopicMesh
