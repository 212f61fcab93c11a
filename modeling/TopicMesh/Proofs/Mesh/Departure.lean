import TopicMesh.Proofs.Backing
import TopicMesh.Proofs.Mesh.Ownership
import TopicMesh.Proofs.Node.Retired
import TopicMesh.Proofs.Proxy.Broadcast

/-!
# TopicMesh.Proofs.Mesh.Departure

What an instance leaves in the store when it stops for good.

* `Mesh.Deed`          — an act, or a request to a proxy that someone keeps.
* `Mesh.Orderly`       — every instance owns the clients whose proxies it gave out, at all times
  (`Orderly.perform`).
* `Mesh.WritesNothing` — what most acts come to: one instance moves and the tables stay as they are.

What the others do is neutral for the channel of the instance that has stopped (`neutral_perform`). So if
the lease of the channel stood behind its records then, it stands behind them until a peer reaps both
(`no_record_of_departed`).
-/

namespace TopicMesh

open Store (Neutral)

namespace Proxy

variable {own channel : String} {p : Proxy}

theorem neutral_request (ho : p.isAttached = true → p.record.owner = own) (hne : own ≠ channel)
    (r : Request) (b : Backend) : Neutral channel b.store (p.request own r b).2.store := by
  cases r with
  | edit f => exact .refl channel b.store
  | broadcast => exact neutral_broadcast ho hne b
  | goOffline => exact p.neutral_goOffline b

end Proxy

namespace Node

variable {own channel : String} {n : Node}

theorem SoundAs.neutral_subscriptionsChanged (h : n.SoundAs own) (hne : own ≠ channel) (id : String)
    (b : Backend) : Neutral channel b.store (n.subscriptionsChanged id b).backend.store := by
  rw [subscriptionsChanged]
  split
  · exact .refl channel b.store
  · rename_i p hp
    have ho := h.owner_of_attached (localProxy_eq_ok hp).1
    rw [h.channel]
    exact Proxy.neutral_broadcast ho hne b

theorem neutral_disconnect (n : Node) (id : String) (b : Backend) :
    Neutral channel b.store (n.disconnect id b).backend.store := by
  rw [disconnect]
  split
  · exact .refl channel b.store
  · rename_i p _
    have hoffline : Neutral channel b.store (p.goOffline b).backend.store := p.neutral_goOffline b
    dsimp only
    split <;> exact hoffline

theorem neutral_reannounceEntries (hne : own ≠ channel) {entries : List (String × Proxy)}
    (he : ∀ e ∈ entries, e.2.isAttached = true → e.2.record.owner = own) (hc : n.channel = own)
    (b : Backend) : Neutral channel b.store (entries.foldl reannounceOne (n, b)).2.store := by
  induction entries generalizing n b with
  | nil => exact .refl channel b.store
  | cons e entries ih =>
    have he' : ∀ e' ∈ entries, e'.2.isAttached = true → e'.2.record.owner = own :=
      fun e' hm => he e' (List.mem_cons_of_mem e hm)
    rw [List.foldl_cons, reannounceOne]
    split
    · have hfirst := Proxy.neutral_broadcast (he e List.mem_cons_self) hne b
      dsimp only
      rw [hc]
      have hput : (n.putBack e.1 (e.2.broadcast own b).subject).channel = own := hc
      exact hfirst.trans (ih he' hput _)
    · exact ih he' hc b

theorem SoundAs.neutral_reannounce (h : n.SoundAs own) (hne : own ≠ channel) (b : Backend) :
    Neutral channel b.store (n.reannounce b).2.store :=
  neutral_reannounceEntries hne (fun _ he => (h.mem_entries he).attached_iff.1) h.channel b

/-- After the heartbeat a beat writes no more than records of clients that are attached here. -/
theorem SoundAs.neutral_after_heartbeat (h : n.SoundAs own) (hne : own ≠ channel) (hasJoined : Bool)
    (b : Backend) :
    Neutral channel (b.heartbeat own n.settings.channelTtl).backend.store
      (n.beat hasJoined b).backend.store := by
  cases hr : (b.heartbeat own n.settings.channelTtl).result with
  | error e =>
    rw [beat_of_error h.channel hr]
    exact .refl channel _
  | ok pulse =>
    rw [beat_of_ok h.channel hr]
    split
    · exact h.neutral_reannounce hne _
    · exact .refl channel _

theorem SoundAs.neutral_beat (h : n.SoundAs own) (hne : own ≠ channel) (hasJoined : Bool) (b : Backend) :
    Neutral channel b.store (n.beat hasJoined b).backend.store :=
  (Backend.neutral_heartbeat hne _).trans (h.neutral_after_heartbeat hne hasJoined b)

/-- A beat leaves nothing of a channel whose lease has run out by then. -/
theorem SoundAs.forgot_beat (h : n.SoundAs own) (hne : own ≠ channel) {hasJoined : Bool} {b : Backend}
    (hb : b.store.Backs channel)
    (hx : ∀ t, b.store.deadlines.find? channel = some t →
      (Lease.mk channel t).isExpiredAt b.tick.clock = true)
    {pulse : Pulse} (hok : (n.beat hasJoined b).result = .ok pulse) :
    (n.beat hasJoined b).backend.store.Forgot channel := by
  refine (h.neutral_after_heartbeat hne hasJoined b).forgot ?_
  cases hr : (b.heartbeat own n.settings.channelTtl).result with
  | error e =>
    rw [beat_of_error h.channel hr] at hok
    cases hok
  | ok pulse' => exact Backend.forgot_heartbeat hne hb hx hr

/-- What an instance hears is no reason for it to write. -/
theorem store_hear (n : Node) (heard : Heard) (b : Backend) :
    (n.hear heard b).backend.store = b.store := by
  obtain ⟨outages, hb⟩ := n.hear_rests heard b
  rw [hb]

end Node

theorem Backend.store_subscribe (b : Backend) (channel : String) :
    (b.subscribe channel).backend.store = b.store := by
  rw [subscribe]
  rcases b.attempt_cases .subscribe _ with ⟨e, outages, he⟩ | he <;> rw [he]

namespace Mesh

/-- What can happen while instances hand out proxies of their clients. -/
inductive Deed where
  | act (a : Act)
  /-- Someone asks something of a proxy of an instance. -/
  | ask (channel : String) (ref : ProxyRef) (r : Proxy.Request)

/-- The instance that takes a step, if it is one that does. -/
def Act.actor? : Act → Option String
  | .register channel _ | .edit channel _ _ | .announce channel _ | .disconnect channel _
  | .beat channel | .subscribe channel | .catchUp channel | .handle channel => some channel
  | .expire _ | .wait _ | .cutOff | .hangUp _ => none

def Deed.actor? : Deed → Option String
  | .act a => a.actor?
  | .ask channel _ _ => some channel

def ask (m : Mesh) (channel : String) (ref : ProxyRef) (r : Proxy.Request) : Mesh :=
  m.onNode channel fun n b =>
    match n.proxy? ref with
    | none => (n, b)
    | some p => (n.update ref (p.request n.channel r b).1, (p.request n.channel r b).2)

def perform (m : Mesh) : Deed → Mesh
  | .act a => m.step a
  | .ask channel ref r => m.ask channel ref r

def performAll (m : Mesh) (deeds : List Deed) : Mesh := deeds.foldl perform m

/-- Every instance has the clients it gave out proxies of for its own. -/
def Orderly (m : Mesh) : Prop := ∀ channel n, m.cluster.node? channel = some n → n.Owns channel

variable {m : Mesh} {channel own : String} {n n' : Node}

/-! ## One step -/

theorem node?_hangUp (m : Mesh) (channel c : String) :
    (m.hangUp channel).cluster.node? c = m.cluster.node? c := by
  rw [hangUp]
  split <;> rfl

/-- Every instance is as it was, or took one step. -/
def Moves (m m' : Mesh) : Prop :=
  ∀ c n', m'.cluster.node? c = some n' →
    ∃ n, m.cluster.node? c = some n ∧ (n' = n ∨ Node.Step n n')

theorem moves_refl (m : Mesh) : m.Moves m := fun _ n' hn => ⟨n', hn, .inl rfl⟩

theorem Puts.moves {b : Backend} {m' : Mesh} (h : m.Puts channel n' b m')
    (hn : m.cluster.node? channel = some n) (hs : n' = n ∨ Node.Step n n') : m.Moves m' := by
  intro c x hx
  rw [h.node] at hx
  split at hx
  · rename_i hc
    cases hx
    exact ⟨n, hc ▸ hn, hs⟩
  · exact ⟨x, hx, .inl rfl⟩

theorem moves_onNode {f : Node → Backend → Node × Backend}
    (h : ∀ n b, (f n b).1 = n ∨ Node.Step n (f n b).1) : m.Moves (m.onNode channel f) := by
  rcases m.onNode_cases channel f with ⟨-, he⟩ | ⟨n, hn, hp⟩
  · rw [he]
    exact m.moves_refl
  · exact hp.moves hn (h n _)

/-- At most one instance moved, and the tables are as they were. -/
structure WritesNothing (m m' : Mesh) : Prop where
  moves : m.Moves m'
  store : m'.cluster.backend.store = m.cluster.backend.store

namespace WritesNothing

theorem refl (m : Mesh) : m.WritesNothing m := ⟨m.moves_refl, rfl⟩

theorem hangUp {m' : Mesh} (h : m.WritesNothing m') (channel : String) :
    m.WritesNothing (m'.hangUp channel) where
  moves c n' hn := h.moves c n' (m'.node?_hangUp channel c ▸ hn)
  store := (m'.find?_hangUp channel).trans h.store

theorem of_puts {b : Backend} {m' : Mesh} (h : m.Puts channel n' b m')
    (hn : m.cluster.node? channel = some n) (hs : Node.Step n n')
    (hb : b.store = m.cluster.backend.store) : m.WritesNothing m' :=
  ⟨h.moves hn (.inr hs), by rw [h.backend, hb]⟩

theorem subscribe (m : Mesh) (channel : String) : m.WritesNothing (m.subscribe channel) := by
  rw [Mesh.subscribe]
  split
  · rename_i n _ _
    have hs := m.cluster.backend.store_subscribe (Line.control.channel n)
    split <;> rename_i hb <;> rw [hb] at hs <;> exact ⟨m.moves_refl, hs⟩
  · exact .refl m

theorem catchUp (m : Mesh) (channel : String) : m.WritesNothing (m.catchUp channel) := by
  rw [Mesh.catchUp]
  split
  · rename_i ticket n _ hn
    have hcaught := of_puts (puts_put hn (n.catchUp m.cluster.backend).subject _) hn (.catchUp n _)
      (n.store_hear .connected m.cluster.backend)
    dsimp only
    split
    · exact hcaught.hangUp channel
    · exact ⟨hcaught.moves, hcaught.store⟩
  · exact .refl m

theorem handle (m : Mesh) (channel : String) : m.WritesNothing (m.handle channel) := by
  rw [Mesh.handle]
  split
  · rename_i ticket n _ hn
    split
    · exact .refl m
    · rename_i text bus _
      have hheard := of_puts (puts_put hn
        (n.handleControl text { m.cluster.backend with bus }).subject _) hn (.handleControl n text _)
        (n.store_hear (.payload text) { m.cluster.backend with bus })
      dsimp only
      split
      · split
        · exact hheard.hangUp channel
        · exact hheard
      · exact hheard
    · exact ⟨m.moves_refl, rfl⟩
  · exact .refl m

end WritesNothing

theorem mapHeld_step (n : Node) (serial : Nat) (f : Client → Client) :
    n.mapHeld serial f = n ∨ Node.Step n (n.mapHeld serial f) := by
  rw [Node.mapHeld]
  split
  · exact .inl rfl
  · rename_i p hp
    have hp : n.proxy? (.held serial) = some p := hp
    exact .inr (.onProxy hp (.edit p f))

theorem moves_step (m : Mesh) (a : Act) : m.Moves (m.step a) := by
  cases a with
  | register channel client => exact moves_onNode fun n _ => .inr (.registerLocal n client)
  | edit channel serial f => exact moves_onNode fun n _ => mapHeld_step n serial f
  | announce channel id => exact moves_onNode fun n b => .inr (.subscriptionsChanged n id b)
  | disconnect channel id => exact moves_onNode fun n b => .inr (.disconnect n id b)
  | beat channel =>
    rcases m.beat_cases channel with ⟨-, he⟩ | ⟨member, hm, hp⟩
    · rw [step, he]
      exact m.moves_refl
    · exact hp.moves (Cluster.node?_eq_some_iff.2 ⟨member, hm, rfl⟩) (.inr (.beat _ _ _))
  | expire channel => exact m.moves_refl
  | wait time => exact m.moves_refl
  | cutOff => exact m.moves_refl
  | hangUp channel => exact ((WritesNothing.refl m).hangUp channel).moves
  | subscribe channel => exact (WritesNothing.subscribe m channel).moves
  | catchUp channel => exact (WritesNothing.catchUp m channel).moves
  | handle channel => exact (WritesNothing.handle m channel).moves

theorem moves_ask (m : Mesh) (channel : String) (ref : ProxyRef) (r : Proxy.Request) :
    m.Moves (m.ask channel ref r) := by
  refine moves_onNode fun n b => ?_
  split
  · exact .inl rfl
  · rename_i p hp
    exact .inr (.onProxy hp (p.step_request n.channel r b))

/-! ## Any number of steps -/

theorem Orderly.perform (h : m.Orderly) (d : Deed) : (m.perform d).Orderly := by
  have hmoves : m.Moves (m.perform d) := by
    cases d with
    | act a => exact m.moves_step a
    | ask channel ref r => exact m.moves_ask channel ref r
  intro c n' hn'
  obtain ⟨n, hn, rfl | hs⟩ := hmoves c n' hn'
  · exact h c n' hn
  · exact (h c n hn).step hs

theorem Orderly.performAll (h : m.Orderly) (deeds : List Deed) : (m.performAll deeds).Orderly := by
  induction deeds generalizing m with
  | nil => exact h
  | cons d deeds ih => exact ih (h.perform d)

theorem orderly_start {nodes : List (String × Settings × Schema)} {controlChannel : String}
    {clock : Instant} {c : Cluster}
    (h : Cluster.create nodes { controlChannel, clock } = .ok c) : (start c).Orderly := by
  intro channel n hn
  obtain ⟨settings, schema, hn⟩ := (Cluster.create_members h).2 channel n hn
  exact Node.create_owns hn

/-! ## The tables -/

theorem WritesNothing.neutral {m' : Mesh} (h : m.WritesNothing m') :
    Neutral channel m.cluster.backend.store m'.cluster.backend.store := by
  rw [h.store]
  exact .refl channel _

theorem neutral_onNode {f : Node → Backend → Node × Backend}
    (h : ∀ n b, m.cluster.node? own = some n → Neutral channel b.store (f n b).2.store) :
    Neutral channel m.cluster.backend.store (m.onNode own f).cluster.backend.store := by
  rcases m.onNode_cases own f with ⟨-, he⟩ | ⟨n, hn, hp⟩
  · rw [he]
    exact .refl channel _
  · rw [hp.backend]
    exact h n _ hn

theorem Orderly.neutral_step (h : m.Orderly) {a : Act} (ha : a.actor? ≠ some channel) :
    Neutral channel m.cluster.backend.store (m.step a).cluster.backend.store := by
  cases a with
  | register own client => exact neutral_onNode fun _ b _ => .refl channel b.store
  | edit own serial f => exact neutral_onNode fun _ b _ => .refl channel b.store
  | announce own id =>
    have hne : own ≠ channel := fun he => ha (congrArg some he)
    exact neutral_onNode fun n b hn => (h own n hn).sound.neutral_subscriptionsChanged hne id b
  | disconnect own id => exact neutral_onNode fun n b _ => n.neutral_disconnect id b
  | beat own =>
    have hne : own ≠ channel := fun he => ha (congrArg some he)
    rcases m.beat_cases own with ⟨-, he⟩ | ⟨member, hm, hp⟩
    · rw [step, he]
      exact .refl channel _
    · have hn := Cluster.node?_eq_some_iff.2 ⟨member, hm, rfl⟩
      rw [step, hp.backend]
      exact (h own _ hn).sound.neutral_beat hne _ _
  | expire other => exact Store.neutral_expire _ other
  | wait time => exact .refl channel _
  | cutOff => exact .refl channel _
  | hangUp other => exact ((WritesNothing.refl m).hangUp other).neutral
  | subscribe own => exact (WritesNothing.subscribe m own).neutral
  | catchUp own => exact (WritesNothing.catchUp m own).neutral
  | handle own => exact (WritesNothing.handle m own).neutral

theorem Orderly.neutral_perform (h : m.Orderly) {d : Deed} (hd : d.actor? ≠ some channel) :
    Neutral channel m.cluster.backend.store (m.perform d).cluster.backend.store := by
  cases d with
  | act a => exact h.neutral_step hd
  | ask own ref r =>
    have hne : own ≠ channel := fun he => hd (congrArg some he)
    refine neutral_onNode fun n b hn => ?_
    split
    · exact .refl channel b.store
    · rename_i p hp
      have howns := h own n hn
      rw [howns.sound.channel]
      exact Proxy.neutral_request (howns.proxy? hp) hne r b

theorem Orderly.neutral_performAll (h : m.Orderly) {deeds : List Deed}
    (hd : ∀ d ∈ deeds, d.actor? ≠ some channel) :
    Neutral channel m.cluster.backend.store (m.performAll deeds).cluster.backend.store := by
  induction deeds generalizing m with
  | nil => exact .refl channel _
  | cons d deeds ih =>
    exact (h.neutral_perform (hd d List.mem_cons_self)).trans
      (ih (h.perform d) fun d' hd' => hd d' (List.mem_cons_of_mem d hd'))

/-! ## The departure -/

theorem performAll_append (m : Mesh) (ds ds' : List Deed) :
    m.performAll (ds ++ ds') = (m.performAll ds).performAll ds' := List.foldl_append

/-- If the lease of an instance stood behind its records at its last step, then every beat of another
instance that finds no lease of it, or one that has run out, leaves no record of it, and none comes
back. -/
theorem no_record_of_departed {nodes : List (String × Settings × Schema)} {controlChannel : String}
    {clock : Instant} {c₀ : Cluster} (hc₀ : Cluster.create nodes { controlChannel, clock } = .ok c₀)
    {channel peer : String} {pre post after : List Deed}
    (hbacks : ((start c₀).performAll pre).cluster.backend.store.Backs channel)
    (hpost : ∀ d ∈ post ++ after, d.actor? ≠ some channel)
    {m : Mesh} (hm : m = (start c₀).performAll (pre ++ post)) (hpeer : peer ≠ channel)
    {pulse : Pulse} {c : Cluster} (hbeat : m.cluster.beat peer = some (.ok pulse, c))
    (hexpired : ∀ t, m.cluster.backend.store.deadlines.find? channel = some t →
      (Lease.mk channel t).isExpiredAt m.cluster.backend.tick.clock = true) :
    ∀ id r, (m.performAll (.act (.beat peer) :: after)).cluster.backend.store.records.find? id = some r →
      r.owner ≠ channel := by
  have hpre : ((start c₀).performAll pre).Orderly := (orderly_start hc₀).performAll pre
  have horderly : m.Orderly := by
    rw [hm]
    exact (orderly_start hc₀).performAll _
  have hstands : m.cluster.backend.store.Backs channel := by
    rw [hm, performAll_append]
    exact (hpre.neutral_performAll fun d hd => hpost d (List.mem_append_left _ hd)).backs hbacks
  have hforgot : (m.step (.beat peer)).cluster.backend.store.Forgot channel := by
    rcases m.beat_cases peer with ⟨hnone, -⟩ | ⟨member, hmember, hp⟩
    · rw [Cluster.node?, Option.map_eq_none_iff] at hnone
      rw [Cluster.beat, hnone] at hbeat
      cases hbeat
    · rw [Cluster.beat, hmember, Option.some.injEq, Prod.mk.injEq] at hbeat
      have hn := Cluster.node?_eq_some_iff.2 ⟨member, hmember, rfl⟩
      rw [step, hp.backend]
      exact (horderly peer _ hn).sound.forgot_beat hpeer hstands hexpired hbeat.1
  have hafter : ∀ d ∈ after, d.actor? ≠ some channel :=
    fun d hd => hpost d (List.mem_append_right _ hd)
  exact ((horderly.perform (.act (.beat peer))).neutral_performAll hafter |>.forgot hforgot).records

/-- The instance "a" announces a client, and "b" broadcasts for the same client through a proxy it gave
out; the record stays with "a", whose lease runs out. -/
def sharesClient : List Deed :=
  [.act (.register "b" (guest "s")), .ask "b" (.held 0) .broadcast, .act (.expire "a")]

theorem no_record_of_departed_shared :
    ∃ m, m = (start pair).performAll
        ([.act (.beat "a"), .act (.register "a" (guest "t")), .act (.announce "a" "c")] ++ sharesClient)
      ∧ m.cluster.backend.store.records.find? "c"
        = some ⟨"c", "a", TopicSet.empty.insert "s", "", "b"⟩
      ∧ ∀ id r, (m.performAll [.act (.beat "b"), .ask "b" (.held 0) .broadcast]
          ).cluster.backend.store.records.find? id = some r → r.owner ≠ "a" := by
  have hpost : ∀ d ∈ sharesClient ++ [.ask "b" (.held 0) .broadcast], d.actor? ≠ some "a" := by
    intro d hd
    simp only [sharesClient, List.cons_append, List.nil_append, List.mem_cons, List.not_mem_nil,
      or_false] at hd
    rcases hd with rfl | rfl | rfl | rfl <;> decide
  refine ⟨_, rfl, rfl, no_record_of_departed create_pair (fun hl => ?_) hpost rfl (by decide) rfl ?_⟩
  · cases hl
  · intro t ht
    cases ht
    decide +kernel

/-- A client is announced by an instance that has no lease, because it has not beaten yet or because it
was reaped. -/
def announcesEarly : List Deed := [.act (.register "a" (guest "t")), .act (.announce "a" "c")]

def announcesLate : List Deed :=
  [.act (.beat "a"), .act (.expire "a"), .act (.beat "b")] ++ announcesEarly

/-- The lease of "a", whether a beat of "b" goes well, and the record of the client after it. -/
def survey (m : Mesh) : Option Instant × Option Bool × Option Record :=
  (m.cluster.backend.store.deadlines.find? "a",
    (m.cluster.beat "b").map fun o => o.1.isOk,
    (m.step (.beat "b")).cluster.backend.store.records.find? "c")

/-- No beat deletes a record whose owner never beats again. -/
theorem record_of_departed_without_lease :
    survey ((start pair).performAll announcesEarly)
      = (none, some true, some ⟨"c", "a", TopicSet.empty.insert "t", "", "a"⟩)
    ∧ survey ((start pair).performAll announcesLate)
      = (none, some true, some ⟨"c", "a", TopicSet.empty.insert "t", "", "a"⟩) := by
  constructor
  · decide +kernel
  · decide +kernel

end Mesh

end TopicMesh
