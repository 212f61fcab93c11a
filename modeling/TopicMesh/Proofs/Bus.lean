import TopicMesh.Bus

/-!
# TopicMesh.Proofs.Bus

What the operations of the bus do to one subscription, found by its ticket. Nothing is published
past a subscription: one that hears a channel and has lost nothing has all that was published there
(`find?_publishAll_inv`).
-/

namespace TopicMesh.Bus

theorem ticket_of_find? {b : Bus} {ticket : Nat} {s : Subscription}
    (h : b.find? ticket = some s) : s.ticket = ticket := by
  have hs := List.find?_some h
  simpa using hs

/-! ## Publishing -/

theorem publishAll_append (b : Bus) (channel : String) (ps qs : List String) :
    b.publishAll channel (ps ++ qs) = (b.publishAll channel ps).publishAll channel qs := by
  rw [publishAll, List.foldl_append]
  rfl

theorem find?_publish (b : Bus) (channel payload : String) (ticket : Nat) :
    (b.publish channel payload).find? ticket = (b.find? ticket).map fun s =>
      if s.hears channel then s.receive payload else s := by
  rw [find?, publish, List.find?_map, find?]
  congr 2
  funext s
  simp only [Function.comp_apply, Subscription.receive]
  split
  · split <;> rfl
  · rfl

theorem hears_receive (s : Subscription) (payload channel : String) :
    (s.receive payload).hears channel = s.hears channel := by
  rw [Subscription.receive]
  split <;> rfl

/-- A subscription that hears a channel receives the payloads in order, and any other one nothing. -/
theorem find?_publishAll (b : Bus) (channel : String) (payloads : List String) (ticket : Nat) :
    (b.publishAll channel payloads).find? ticket = (b.find? ticket).map fun s =>
      if s.hears channel then payloads.foldl Subscription.receive s else s := by
  induction payloads generalizing b with
  | nil => simp [publishAll]
  | cons payload payloads ih =>
    have hcons : b.publishAll channel (payload :: payloads)
        = (b.publish channel payload).publishAll channel payloads := rfl
    rw [hcons, ih, find?_publish, Option.map_map]
    congr 1
    funext s
    cases hs : s.hears channel with
    | true => simp [hs, hears_receive]
    | false => simp [hs]

/-- A subscription that hears a channel and has lost nothing has all that was published there. -/
theorem find?_publishAll_inv {b : Bus} {channel : String} {payloads : List String} {ticket : Nat}
    {s' : Subscription} (h : (b.publishAll channel payloads).find? ticket = some s')
    (hh : s'.hears channel = true) (hl : s'.lost = 0) :
    ∃ s, b.find? ticket = some s ∧ s.hears channel = true ∧ s.lost = 0
      ∧ s'.waiting = s.waiting ++ payloads := by
  induction payloads generalizing b with
  | nil => exact ⟨s', h, hh, hl, by simp⟩
  | cons payload payloads ih =>
    obtain ⟨s₁, h₁, hh₁, hl₁, hw₁⟩ := ih h
    rw [find?_publish, Option.map_eq_some_iff] at h₁
    obtain ⟨s, hs, rfl⟩ := h₁
    cases hhs : s.hears channel with
    | false =>
      rw [hhs, if_neg Bool.false_ne_true, hhs] at hh₁
      cases hh₁
    | true =>
      rw [hhs, if_pos rfl, Subscription.receive] at hl₁ hw₁
      split at hl₁
      · rename_i hroom
        rw [if_pos hroom] at hw₁
        refine ⟨s, hs, hhs, hl₁, ?_⟩
        rw [hw₁, List.append_assoc]
        rfl
      · exact absurd hl₁ (Nat.succ_ne_zero _)

theorem nextTicket_publishAll (b : Bus) (channel : String) (payloads : List String) :
    (b.publishAll channel payloads).nextTicket = b.nextTicket := by
  induction payloads generalizing b with
  | nil => rfl
  | cons payload payloads ih => exact ih (b.publish channel payload)

/-- Publishes payloads on channels of their own, in order. -/
def publishEach (b : Bus) (posts : List (String × String)) : Bus :=
  posts.foldl (fun b post => b.publish post.1 post.2) b

/-- A connected subscription gets what is published on its channel, as far as it has room. -/
theorem find?_publishEach {b : Bus} {posts : List (String × String)} {ticket : Nat}
    {s : Subscription} (hs : b.find? ticket = some s) (hc : s.isConnected = true)
    (hroom : s.waiting.length + (posts.filter fun post => post.1 = s.channel).length
      ≤ Subscription.backlog) :
    (b.publishEach posts).find? ticket = some { s with
      waiting := s.waiting ++ (posts.filter fun post => post.1 = s.channel).map (·.2) } := by
  induction posts generalizing b s with
  | nil =>
    rw [List.filter_nil, List.map_nil, List.append_nil]
    exact hs
  | cons post posts ih =>
    have hpublish := find?_publish b post.1 post.2 ticket
    rw [hs, Option.map_some] at hpublish
    by_cases hp : post.1 = s.channel
    · have hh : s.hears post.1 = true := by simp [Subscription.hears, hc, hp]
      rw [List.filter_cons_of_pos (by simp [hp])] at hroom ⊢
      rw [List.length_cons] at hroom
      have hlt : s.waiting.length < Subscription.backlog := by omega
      rw [hh, if_pos rfl, Subscription.receive, if_pos hlt] at hpublish
      have hrest := ih hpublish hc (by
        simp only [List.length_append, List.length_singleton]
        omega)
      rw [publishEach, List.foldl_cons]
      rw [publishEach] at hrest
      rw [hrest]
      simp
    · have hh : s.hears post.1 = false := by
        simp only [Subscription.hears, hc, Bool.true_and, beq_eq_false_iff_ne]
        exact fun he => hp he.symm
      rw [List.filter_cons_of_neg (by simp [hp])] at hroom ⊢
      rw [hh, if_neg Bool.false_ne_true] at hpublish
      exact ih hpublish hc hroom

/-! ## Opening, reading and closing -/

theorem find?_unsubscribe (b : Bus) (ticket other : Nat) :
    (b.unsubscribe ticket).find? other = if ticket = other then none else b.find? other := by
  rw [find?, unsubscribe, List.find?_filter, find?]
  split
  · rename_i h
    rw [List.find?_eq_none]
    intro s _
    simp [h]
  · rename_i h
    congr 1
    funext s
    by_cases hs : s.ticket = other
    · simp [hs, Ne.symm h]
    · simp [hs]

theorem find?_subscribe (b : Bus) (channel : String) (ticket : Nat) :
    (b.subscribe channel).2.find? ticket
      = (b.find? ticket).or
          (if b.nextTicket = ticket then some { ticket := b.nextTicket, channel } else none) := by
  rw [find?, subscribe, List.find?_append, find?, List.find?_singleton]
  simp only [decide_eq_true_eq]

theorem find?_update (b : Bus) (s : Subscription) (ticket : Nat) :
    (b.update s).find? ticket
      = if s.ticket = ticket then (b.find? ticket).map fun _ => s else b.find? ticket := by
  rw [find?, update, List.find?_map, find?]
  have hp : ((fun s' : Subscription => decide (s'.ticket = ticket)) ∘ fun s' =>
      if s'.ticket = s.ticket then s else s') = fun s' => decide (s'.ticket = ticket) := by
    funext s'
    simp only [Function.comp_apply]
    split
    · rename_i h
      rw [h]
    · rfl
  rw [hp]
  cases hf : b.subscriptions.find? fun s' => s'.ticket = ticket with
  | none => simp
  | some s' =>
    have hs : s'.ticket = ticket := ticket_of_find? hf
    rw [Option.map_some, Option.map_some, hs]
    by_cases ht : ticket = s.ticket
    · rw [if_pos ht, if_pos ht.symm]
    · rw [if_neg ht, if_neg (Ne.symm ht)]

theorem find?_disconnectAll (b : Bus) (ticket : Nat) :
    b.disconnectAll.find? ticket
      = (b.find? ticket).map fun s => { s with isConnected := false } := by
  rw [find?, disconnectAll, List.find?_map, find?]
  rfl

section Reads

variable {b : Bus} {ticket : Nat} {s : Subscription}

theorem read_of_none (h : b.find? ticket = none) : b.read ticket = (.ended, b) := by
  rw [read, h]

theorem read_of_lost (h : b.find? ticket = some s) (hl : s.lost ≠ 0) :
    b.read ticket = (.lagged (.lagged s.channel s.lost), b.unsubscribe ticket) := by
  rw [read, h]
  simp only [if_neg hl]

theorem read_of_waiting (h : b.find? ticket = some s) (hl : s.lost = 0) {text : String}
    {rest : List String} (hw : s.waiting = text :: rest) :
    b.read ticket = (.payload text, b.update { s with waiting := rest }) := by
  rw [read, h]
  simp only [if_pos hl, hw]

theorem read_of_idle (h : b.find? ticket = some s) (hl : s.lost = 0) (hw : s.waiting = []) :
    b.read ticket = if s.isConnected then (.pending, b) else (.ended, b.unsubscribe ticket) := by
  rw [read, h]
  simp only [if_pos hl, hw]

end Reads

/-- A payload that was read is the oldest one that waited. -/
theorem read_eq_payload {b bus : Bus} {ticket : Nat} {text : String}
    (h : b.read ticket = (.payload text, bus)) :
    ∃ s rest, b.find? ticket = some s ∧ s.lost = 0 ∧ s.waiting = text :: rest
      ∧ bus = b.update { s with waiting := rest } := by
  unfold read at h
  split at h
  · cases h
  · rename_i s hs
    split at h
    · rename_i hl
      split at h
      · rename_i payload rest hw
        cases h
        exact ⟨s, rest, hs, hl, hw, rfl⟩
      · split at h <;> cases h
    · cases h

/-- A read concerns no other subscription. -/
theorem find?_read {b : Bus} {ticket other : Nat} (h : ticket ≠ other) :
    (b.read ticket).2.find? other = b.find? other := by
  unfold read
  split
  · rfl
  · rename_i s hs
    have ht := ticket_of_find? hs
    split
    · split
      · rw [find?_update, if_neg]
        exact fun he => h (ht.symm.trans he)
      · split
        · rfl
        · rw [find?_unsubscribe, if_neg h]
    · rw [find?_unsubscribe, if_neg h]

theorem nextTicket_read (b : Bus) (ticket : Nat) : (b.read ticket).2.nextTicket = b.nextTicket := by
  unfold read
  split
  · rfl
  · split
    · split
      · rfl
      · split <;> rfl
    · rfl

/-! ## Tickets -/

/-- Every open subscription has a ticket that was issued. -/
def IsTidy (b : Bus) : Prop := ∀ ticket s, b.find? ticket = some s → ticket < b.nextTicket

theorem IsTidy.of_map {b b' : Bus} (h : b.IsTidy) (hn : b'.nextTicket = b.nextTicket)
    (hf : ∀ ticket, ∃ f, b'.find? ticket = (b.find? ticket).map f) : b'.IsTidy := by
  intro ticket s hs
  obtain ⟨f, hft⟩ := hf ticket
  rw [hft, Option.map_eq_some_iff] at hs
  obtain ⟨s₀, hs₀, -⟩ := hs
  rw [hn]
  exact h ticket s₀ hs₀

theorem IsTidy.publishAll {b : Bus} (h : b.IsTidy) (channel : String) (payloads : List String) :
    (b.publishAll channel payloads).IsTidy := by
  induction payloads generalizing b with
  | nil => exact h
  | cons payload payloads ih =>
    exact ih (h.of_map rfl fun ticket => ⟨_, b.find?_publish channel payload ticket⟩)

theorem IsTidy.unsubscribe {b : Bus} (h : b.IsTidy) (ticket : Nat) :
    (b.unsubscribe ticket).IsTidy := by
  intro t s hs
  rw [find?_unsubscribe] at hs
  split at hs
  · cases hs
  · exact h t s hs

theorem IsTidy.update {b : Bus} (h : b.IsTidy) (s : Subscription) : (b.update s).IsTidy := by
  intro t s' hs
  rw [find?_update] at hs
  split at hs
  · rw [Option.map_eq_some_iff] at hs
    obtain ⟨s₀, hs₀, -⟩ := hs
    exact h t s₀ hs₀
  · exact h t s' hs

theorem IsTidy.disconnectAll {b : Bus} (h : b.IsTidy) : b.disconnectAll.IsTidy :=
  h.of_map rfl fun ticket => ⟨_, b.find?_disconnectAll ticket⟩

theorem IsTidy.read {b : Bus} (h : b.IsTidy) (ticket : Nat) : (b.read ticket).2.IsTidy := by
  unfold Bus.read
  split
  · exact h
  · split
    · split
      · exact h.update _
      · split
        · exact h
        · exact h.unsubscribe ticket
    · exact h.unsubscribe ticket

/-- The subscription that was just opened. -/
theorem IsTidy.find?_subscribe_self {b : Bus} (h : b.IsTidy) (channel : String) :
    (b.subscribe channel).2.find? b.nextTicket
      = some { ticket := b.nextTicket, channel := channel } := by
  rw [find?_subscribe, if_pos rfl]
  cases hold : b.find? b.nextTicket with
  | none => rfl
  | some s => exact absurd (h _ s hold) (Nat.lt_irrefl _)

theorem find?_subscribe_other {b : Bus} {ticket : Nat} (hlt : ticket < b.nextTicket)
    (channel : String) : (b.subscribe channel).2.find? ticket = b.find? ticket := by
  rw [find?_subscribe, if_neg (Nat.ne_of_gt hlt), Option.or_none]

theorem IsTidy.subscribe {b : Bus} (h : b.IsTidy) (channel : String) :
    (b.subscribe channel).2.IsTidy := by
  intro ticket s hs
  have hnext : (b.subscribe channel).2.nextTicket = b.nextTicket + 1 := rfl
  rw [hnext]
  rw [find?_subscribe, Option.or_eq_some_iff] at hs
  rcases hs with hs | ⟨-, hs⟩
  · exact Nat.lt_succ_of_lt (h ticket s hs)
  · split at hs
    · rename_i ht
      rw [← ht]
      exact Nat.lt_succ_self _
    · cases hs

end TopicMesh.Bus
