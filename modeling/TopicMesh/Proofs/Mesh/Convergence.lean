import TopicMesh.Proofs.Json.Depth
import TopicMesh.Proofs.Mesh.Basic

/-!
# TopicMesh.Proofs.Mesh.Convergence

An instance that has handled everything follows exactly the foreign records in the store
(`mirrors_of_isQuiet`), in every run. What carries the induction is `Mesh.Tracked`: every connected
instance is in step. Every act keeps that up, in whatever order the acts come.
-/

namespace TopicMesh

namespace Mesh

/-- A run's clients have ids that can be announced, and their principals snapshots with a property. -/
def Act.Shows (P : Json → Prop) : Act → Prop
  | .register _ client =>
    client.id ≠ "" ∧ delimiter ∉ client.id.toList ∧ client.Shows P
  | .edit _ _ f => ∀ c : Client, c.Shows P → (f c).Shows P
  | .announce _ _ | .disconnect _ _ | .beat _ | .expire _ | .wait _ | .cutOff | .hangUp _
  | .subscribe _ | .catchUp _ | .handle _ => True

def Act.IsPlain (a : Act) : Prop := a.Shows Announcement.IsPlainSnapshot

/-- Every instance is in step, on a subscription of its own. -/
structure Tracked (m : Mesh) : Prop where
  regular : m.Regular
  plain : ∀ channel n, m.cluster.node? channel = some n → n.Holds channel Proxy.PlainAt
  tidy : m.cluster.backend.bus.IsTidy
  issued : ∀ channel ticket, (m.links channel).ticket? = some ticket →
    ticket < m.cluster.backend.bus.nextTicket
  distinct : ∀ channel other ticket, (m.links channel).ticket? = some ticket →
    (m.links other).ticket? = some ticket → channel = other
  inStep : ∀ channel n, m.cluster.node? channel = some n →
    n.InStep channel (m.links channel) m.cluster.backend

variable {m m' : Mesh} {channel : String} {n n' : Node} {b : Backend}

theorem links_setLink (m : Mesh) (channel : String) (link : Link) (c : String) :
    (m.setLink channel link).links c = if c = channel then link else m.links c := rfl

/-- One instance, its link and the services have changed, and every instance is in step still. -/
theorem Tracked.of_change (h : m.Tracked) (channel : String) (hreg : m'.Regular)
    (hnodes : ∀ c x, c ≠ channel → m'.cluster.node? c = some x → m.cluster.node? c = some x)
    (hlinks : ∀ c, c ≠ channel → m'.links c = m.links c)
    (hplain : ∀ x, m'.cluster.node? channel = some x → x.Holds channel Proxy.PlainAt)
    (htidy : m'.cluster.backend.bus.IsTidy)
    (hnext : m.cluster.backend.bus.nextTicket ≤ m'.cluster.backend.bus.nextTicket)
    (hissued : ∀ t, (m'.links channel).ticket? = some t → t < m'.cluster.backend.bus.nextTicket)
    (hfresh : ∀ c t, c ≠ channel → (m.links c).ticket? = some t →
      (m'.links channel).ticket? ≠ some t)
    (hself : ∀ x, m'.cluster.node? channel = some x →
      x.InStep channel (m'.links channel) m'.cluster.backend)
    (hother : ∀ c x, c ≠ channel → m.cluster.node? c = some x →
      x.InStep c (m.links c) m'.cluster.backend) : m'.Tracked where
  regular := hreg
  plain c x hx := by
    by_cases hc : c = channel
    · rw [hc] at hx ⊢
      exact hplain x hx
    · exact h.plain c x (hnodes c x hc hx)
  tidy := htidy
  issued c t hl := by
    by_cases hc : c = channel
    · rw [hc] at hl
      exact hissued t hl
    · rw [hlinks c hc] at hl
      exact Nat.lt_of_lt_of_le (h.issued c t hl) hnext
  distinct c c' t hl hl' := by
    by_cases hc : c = channel
    · by_cases hc' : c' = channel
      · rw [hc, hc']
      · rw [hlinks c' hc'] at hl'
        rw [hc] at hl
        exact absurd hl (hfresh c' t hc' hl')
    · rw [hlinks c hc] at hl
      by_cases hc' : c' = channel
      · rw [hc'] at hl'
        exact absurd hl' (hfresh c t hc hl)
      · rw [hlinks c' hc'] at hl'
        exact h.distinct c c' t hl hl'
  inStep c x hx := by
    by_cases hc : c = channel
    · rw [hc] at hx ⊢
      exact hself x hx
    · rw [hlinks c hc]
      exact hother c x hc (hnodes c x hc hx)

/-- An act of one instance that leaves the links alone. -/
theorem Tracked.puts (h : m.Tracked) (hp : m.Puts channel n' b m') (hreg : m'.Regular)
    (hplain : n'.Holds channel Proxy.PlainAt) (htidy : b.bus.IsTidy)
    (hticket : b.bus.nextTicket = m.cluster.backend.bus.nextTicket)
    (hself : n'.InStep channel (m.links channel) b)
    (hother : ∀ c x, m.cluster.node? c = some x → c ≠ channel → x.InStep c (m.links c) b) :
    m'.Tracked := by
  have hnode : ∀ x, m'.cluster.node? channel = some x → x = n' := by
    intro x hx
    rw [hp.node, if_pos rfl] at hx
    exact (Option.some.inj hx).symm
  refine h.of_change channel hreg ?_ ?_ ?_ ?_ ?_ ?_ ?_ ?_ ?_
  · intro c x hc hx
    rw [hp.node, if_neg (Ne.symm hc)] at hx
    exact hx
  · intro c _
    rw [hp.links]
  · intro x hx
    rw [hnode x hx]
    exact hplain
  · rw [hp.backend]
    exact htidy
  · exact Nat.le_of_eq (by rw [hp.backend, hticket])
  · intro t hl
    rw [hp.links] at hl
    rw [hp.backend, hticket]
    exact h.issued channel t hl
  · intro c t hc hl hl'
    rw [hp.links] at hl'
    exact hc (h.distinct c channel t hl hl')
  · intro x hx
    rw [hnode x hx, hp.links, hp.backend]
    exact hself
  · intro c x hc hx
    rw [hp.backend]
    exact hother c x hx hc

/-- An instance that announces something keeps the others in step, and stays in step itself. -/
theorem Tracked.announced (h : m.Tracked) {isLocal isGone : String → Prop}
    (hn : m.cluster.node? channel = some n)
    (ha : n.Announces channel isLocal isGone m.cluster.backend b)
    (hl : ∀ id, isLocal id → n.isLocal id = true) :
    b.bus.IsTidy ∧ b.bus.nextTicket = m.cluster.backend.bus.nextTicket
      ∧ ∀ c x, m.cluster.node? c = some x → x.InStep c (m.links c) b := by
  have hbus : ∃ payloads, b.bus = m.cluster.backend.bus.publishAll
      m.cluster.backend.controlChannel payloads := by
    obtain ⟨as, ht, -⟩ := ha
    obtain ⟨payloads, hbus, -⟩ := ht.bus
    exact ⟨payloads, hbus⟩
  obtain ⟨payloads, hbus⟩ := hbus
  refine ⟨?_, ?_, ?_⟩
  · rw [hbus]
    exact h.tidy.publishAll _ payloads
  · rw [hbus, Bus.nextTicket_publishAll]
  · intro c x hx
    refine (h.inStep c x hx).announced ha (h.plain channel n hn) ?_
    rintro rfl id hid
    rw [hn] at hx
    cases hx
    exact hl id hid

theorem Tracked.announce (h : m.Tracked) (channel id : String) :
    (m.step (.announce channel id)).Tracked := by
  have hreg := h.regular.step (.announce channel id)
  rcases m.onNode_cases channel _ with ⟨-, he⟩ | ⟨n, hn, hp⟩
  · rw [Mesh.step, he]
    exact h
  · have hs := h.regular.sound channel n hn
    obtain ⟨ha, hv⟩ := Node.subscriptionsChanged_announces hs h.regular.outages id
    obtain ⟨htidy, hticket, hstep⟩ := h.announced hn ha fun c hc => hc.2
    exact h.puts hp hreg ((h.plain channel n hn).subscriptionsChanged id _) htidy hticket
      ((hstep channel n hn).of_sameView hv) fun c x hx _ => hstep c x hx

theorem Tracked.disconnect (h : m.Tracked) (channel id : String) :
    (m.step (.disconnect channel id)).Tracked := by
  have hreg := h.regular.step (.disconnect channel id)
  rcases m.onNode_cases channel _ with ⟨-, he⟩ | ⟨n, hn, hp⟩
  · rw [Mesh.step, he]
    exact h
  · have hs := h.regular.sound channel n hn
    obtain ⟨ha, hleft, hstayed⟩ := Node.disconnect_announces hs h.regular.outages id
    obtain ⟨htidy, hticket, hstep⟩ := h.announced hn ha fun c hc => hc.2
    refine h.puts hp hreg ((h.plain channel n hn).disconnect id _) htidy hticket ?_
      fun c x hx _ => hstep c x hx
    cases hl : n.isLocal id with
    | true =>
      obtain ⟨hgone, hregistry⟩ := hleft hl
      exact (hstep channel n hn).erase hl hgone hregistry
    | false =>
      rw [hstayed hl]
      exact h.inStep channel n hn

theorem Tracked.beat (h : m.Tracked) (channel : String) : (m.step (.beat channel)).Tracked := by
  have hreg := h.regular.step (.beat channel)
  rcases m.beat_cases channel with ⟨-, he⟩ | ⟨member, hm, hp⟩
  · rw [Mesh.step, he]
    exact h
  · have hn : m.cluster.node? channel = some member.node := Cluster.node?_eq_some_iff.2 ⟨member, hm, rfl⟩
    have hs := h.regular.sound channel _ hn
    obtain ⟨ha, hv⟩ := Node.beat_announces hs h.regular.outages h.regular.leases
      (h.regular.valid channel _ hn) member.hasJoined
    obtain ⟨htidy, hticket, hstep⟩ := h.announced hn ha fun c hc => hc.2
    exact h.puts hp hreg ((h.plain channel _ hn).beat _ _) htidy hticket
      ((hstep channel _ hn).of_sameView hv) fun c x hx _ => hstep c x hx

theorem Tracked.register (h : m.Tracked) (channel : String) {client : Client}
    (hc : (Act.register channel client).IsPlain) : (m.step (.register channel client)).Tracked := by
  have hreg := h.regular.step (.register channel client)
  rcases m.onNode_cases channel _ with ⟨-, he⟩ | ⟨n, hn, hp⟩
  · rw [Mesh.step, he]
    exact h
  · have hplain : (n.registerLocal client).2.Holds channel Proxy.PlainAt := by
      refine (h.plain channel n hn).of_insert (Node.registerLocal_channel n client)
        (Node.registerLocal_registry n client) ?_
      intro c hclient
      cases hclient
      exact hc
    exact h.puts hp hreg hplain h.tidy rfl ((h.inStep channel n hn).registerLocal client)
      fun c x hx _ => h.inStep c x hx

theorem sameView_mapHeld {own : String} (h : n.SoundAs own) (serial : Nat) (f : Client → Client) :
    n.SameView (n.mapHeld serial f) := by
  obtain ⟨-, hr | ⟨id, p, hf, ha, hr⟩⟩ := h.mapHeld_cases serial f
  · have hfind : ∀ id, (n.mapHeld serial f).registry.find? id = n.registry.find? id := by
      intro id
      rw [hr]
    exact ⟨fun id => Node.isLocal_congr (hfind id), fun id => Node.followed_congr (hfind id)⟩
  · have hl : n.isLocal id = true := Node.isLocal_eq_true_iff.2 ⟨p, hf, ha⟩
    have hv := Node.sameView_putBack hl ((Proxy.alike_mapClient p f).isAttached.trans ha)
    have hfind : ∀ c, (n.mapHeld serial f).registry.find? c
        = (n.putBack id (p.mapClient f)).registry.find? c := by
      intro c
      rw [hr, Node.putBack_registry]
    exact ⟨fun c => (Node.isLocal_congr (hfind c)).trans (hv.isLocal c),
      fun c => (Node.followed_congr (hfind c)).trans (hv.followed c)⟩

theorem Tracked.edit (h : m.Tracked) (channel : String) (serial : Nat) {f : Client → Client}
    (hf : (Act.edit channel serial f).IsPlain) : (m.step (.edit channel serial f)).Tracked := by
  have hreg := h.regular.step (.edit channel serial f)
  rcases m.onNode_cases channel _ with ⟨-, he⟩ | ⟨n, hn, hp⟩
  · rw [Mesh.step, he]
    exact h
  · have hs := h.regular.sound channel n hn
    have hplain : (n.mapHeld serial f).Holds channel Proxy.PlainAt := by
      have hold := h.plain channel n hn
      obtain ⟨hc, hr | ⟨id, p, hfind, -, hr⟩⟩ := hs.mapHeld_cases serial f
      · refine ⟨hc.trans hold.channel, ?_⟩
        rw [hr]
        exact hold.proxies
      · exact hold.of_insert hc hr ((hold.proxies id p hfind).mapClient hf)
    exact h.puts hp hreg hplain h.tidy rfl
      ((h.inStep channel n hn).of_sameView (sameView_mapHeld hs serial f))
      fun c x hx _ => h.inStep c x hx

/-! ## The services and the links -/

/-- A change of the services that nobody hears of. -/
theorem Tracked.onServices {f : Backend → Backend} (h : m.Tracked) (hreg : (m.onServices f).Regular)
    (htidy : (f m.cluster.backend).bus.IsTidy)
    (hticket : (f m.cluster.backend).bus.nextTicket = m.cluster.backend.bus.nextTicket)
    (hc : (f m.cluster.backend).controlChannel = m.cluster.backend.controlChannel)
    (hr : (f m.cluster.backend).store.records = m.cluster.backend.store.records)
    (hb : ∀ ticket s, (f m.cluster.backend).bus.find? ticket = some s →
      s.hears m.cluster.backend.controlChannel = true →
      m.cluster.backend.bus.find? ticket = some s) : (m.onServices f).Tracked where
  regular := hreg
  plain := h.plain
  tidy := htidy
  issued c ticket hl := by
    have hi := h.issued c ticket hl
    rw [← hticket] at hi
    exact hi
  distinct := h.distinct
  inStep c x hx := (h.inStep c x hx).of_services hc hr fun ticket s _ => hb ticket s

/-- A link goes down, with its subscription or without. -/
theorem Tracked.setDown {f : Backend → Backend} (h : m.Tracked) (channel : String)
    (hreg : ((m.onServices f).setLink channel .down).Regular)
    (htidy : (f m.cluster.backend).bus.IsTidy)
    (hticket : (f m.cluster.backend).bus.nextTicket = m.cluster.backend.bus.nextTicket)
    (hc : (f m.cluster.backend).controlChannel = m.cluster.backend.controlChannel)
    (hr : (f m.cluster.backend).store.records = m.cluster.backend.store.records)
    (hb : ∀ c t, c ≠ channel → (m.links c).ticket? = some t →
      (f m.cluster.backend).bus.find? t = m.cluster.backend.bus.find? t) :
    ((m.onServices f).setLink channel .down).Tracked := by
  have hdown : ((m.onServices f).setLink channel .down).links channel = .down := if_pos rfl
  refine h.of_change channel hreg ?_ ?_ ?_ htidy ?_ ?_ ?_ ?_ ?_
  · intro c x _ hx
    exact hx
  · intro c hne
    exact if_neg hne
  · exact h.plain channel
  · exact Nat.le_of_eq hticket.symm
  · intro t hl
    rw [hdown] at hl
    cases hl
  · intro c t _ _ hl
    rw [hdown] at hl
    cases hl
  · intro x _
    rw [hdown]
    exact Node.inStep_down channel x _
  · intro c x hne hx
    refine (h.inStep c x hx).of_services hc hr ?_
    intro t s hl hs _
    rw [← hb c t hne hl]
    exact hs

theorem Tracked.hangUp (h : m.Tracked) (channel : String) : (m.hangUp channel).Tracked := by
  have hreg := h.regular.hangUp channel
  cases hl : (m.links channel).ticket? with
  | none =>
    have he : m.hangUp channel = m := by
      unfold Mesh.hangUp
      split
      · rfl
      · rename_i t ht
        rw [hl] at ht
        cases ht
    rw [he]
    exact h
  | some ticket =>
    have he : m.hangUp channel = (m.onServices fun b =>
        { b with bus := b.bus.unsubscribe ticket }).setLink channel .down := by
      unfold Mesh.hangUp
      rw [hl]
    rw [he] at hreg ⊢
    refine h.setDown channel hreg (h.tidy.unsubscribe ticket) rfl rfl rfl ?_
    intro c t hne ht
    have hother : ticket ≠ t := by
      rintro rfl
      exact hne (h.distinct c channel ticket ht hl)
    exact (m.cluster.backend.bus.find?_unsubscribe ticket t).trans (if_neg hother)

theorem Tracked.subscribe (h : m.Tracked) (channel : String) : (m.subscribe channel).Tracked := by
  have hreg := h.regular.subscribe channel
  rcases subscribe_cases h.regular channel with he | ⟨n, -, -, he⟩
  · rw [he]
    exact h
  · obtain ⟨next, hnext⟩ : ∃ next, next = m.cluster.backend.bus.nextTicket := ⟨_, rfl⟩
    have hself := h.tidy.find?_subscribe_self (Line.control.channel n)
    rw [← hnext] at he hself
    rw [he] at hreg ⊢
    have hlink : ((m.onServices fun b =>
        { b with bus := (b.bus.subscribe (Line.control.channel n)).2 }).setLink channel
          (.subscribed next)).links channel = .subscribed next := if_pos rfl
    refine h.of_change channel hreg ?_ ?_ ?_ (h.tidy.subscribe _) (Nat.le_succ _) ?_ ?_ ?_ ?_
    · intro c x _ hx
      exact hx
    · intro c hne
      exact if_neg hne
    · exact h.plain channel
    · intro t hl
      rw [hlink] at hl
      cases hl
      rw [hnext]
      exact Nat.lt_succ_self _
    · intro c t _ hl hl'
      rw [hlink] at hl'
      cases hl'
      have hlt := h.issued c next hl
      rw [← hnext] at hlt
      exact Nat.lt_irrefl _ hlt
    · intro x _
      rw [hlink]
      exact Node.inStep_subscribed hself rfl
    · intro c x hne hx
      refine (h.inStep c x hx).of_services rfl rfl ?_
      intro t s hl hs _
      rw [← Bus.find?_subscribe_other (h.issued c t hl)]
      exact hs

theorem Tracked.catchUp (h : m.Tracked) (channel : String) : (m.catchUp channel).Tracked := by
  have hreg := h.regular.catchUp channel
  rcases catchUp_cases h.regular channel with he | ⟨n, ticket, m', hl, hn, hp, he⟩
  · rw [he]
    exact h
  · have hs := h.regular.sound channel n hn
    obtain ⟨-, hback, -, -⟩ := Node.catchUp_view hs h.regular.outages
    have hstep := h.inStep channel n hn
    rw [hl] at hstep
    have hcaught := hstep.catchUp hs h.regular.outages
    rw [hback] at hp hcaught
    have hissued : ticket < m.cluster.backend.bus.nextTicket :=
      h.issued channel ticket (by rw [hl]; rfl)
    have hnode : ∀ x, m'.cluster.node? channel = some x
        → x = (n.catchUp m.cluster.backend).subject := by
      intro x hx
      rw [hp.node, if_pos rfl] at hx
      exact (Option.some.inj hx).symm
    have hlink : (m'.setLink channel (.caughtUp ticket)).links channel = .caughtUp ticket :=
      if_pos rfl
    have hservices : (m'.setLink channel (.caughtUp ticket)).cluster.backend
        = m.cluster.backend := hp.backend
    rw [he] at hreg ⊢
    refine h.of_change channel hreg ?_ ?_ ?_ ?_ ?_ ?_ ?_ ?_ ?_
    · intro c x hne hx
      have hx : m'.cluster.node? c = some x := hx
      rw [hp.node, if_neg (Ne.symm hne)] at hx
      exact hx
    · intro c hne
      rw [links_setLink, if_neg hne, hp.links]
    · intro x hx
      rw [hnode x hx]
      exact (h.plain channel n hn).catchUp _
    · rw [hservices]
      exact h.tidy
    · exact Nat.le_of_eq (by rw [hservices])
    · intro t ht
      rw [hlink] at ht
      cases ht
      rw [hservices]
      exact hissued
    · intro c t hne ht ht'
      rw [hlink] at ht'
      cases ht'
      exact hne (h.distinct c channel ticket ht (by rw [hl]; rfl))
    · intro x hx
      rw [hnode x hx, hlink, hservices]
      exact hcaught
    · intro c x _ hx
      rw [hservices]
      exact h.inStep c x hx

theorem Tracked.handle (h : m.Tracked) (channel : String) : (m.handle channel).Tracked := by
  have hreg := h.regular.handle channel
  rcases handle_cases h.regular channel with
    he | ⟨ticket, hl, he⟩ | ⟨n, ticket, s, text, rest, m', hl, hn, hfind, hw, hp, he⟩
  · rw [he]
    exact h
  · rw [he] at hreg ⊢
    refine h.setDown channel hreg (h.tidy.read ticket) (Bus.nextTicket_read _ ticket) rfl rfl ?_
    intro c t hne ht
    have hother : ticket ≠ t := by
      rintro rfl
      exact hne (h.distinct c channel ticket ht (by rw [hl]; rfl))
    exact Bus.find?_read hother
  · have hs := h.regular.sound channel n hn
    have hstep := h.inStep channel n hn
    rw [hl] at hstep
    have hself := hstep.handle hs h.regular.outages hfind hw rfl
    obtain ⟨hback, -, -⟩ := Node.handleControl_view (n := n) (b := { m.cluster.backend with
      bus := m.cluster.backend.bus.update { s with waiting := rest } }) hs h.regular.outages text
    rw [hback] at hself
    have hreg' : m'.Regular :=
      h.regular.puts hn hp h.regular.outages h.regular.leases (hs.handleControl text _)
        ((h.regular.isOpen channel n hn).handleControl text _)
    have htracked : m'.Tracked := by
      refine h.puts hp hreg' ((h.plain channel n hn).handleControl text _)
        (h.tidy.update _) rfl ?_ ?_
      · rw [hl]
        exact hself
      · intro c x hx hne
        refine (h.inStep c x hx).of_services rfl rfl ?_
        intro t s' ht hs' _
        have hother : s.ticket ≠ t := by
          rw [Bus.ticket_of_find? hfind]
          rintro rfl
          exact hne (h.distinct c channel ticket ht (by rw [hl]; rfl))
        have hs' : (m.cluster.backend.bus.update { s with waiting := rest }).find? t = some s' := hs'
        rw [Bus.find?_update, if_neg hother] at hs'
        exact hs'
    rcases he with he | he
    · rw [he]
      exact htracked
    · rw [he]
      exact htracked.hangUp channel

theorem Tracked.step (h : m.Tracked) {a : Act} (ha : a.IsPlain) : (m.step a).Tracked := by
  cases a with
  | register channel client => exact h.register channel ha
  | edit channel serial f => exact h.edit channel serial ha
  | announce channel id => exact h.announce channel id
  | disconnect channel id => exact h.disconnect channel id
  | beat channel => exact h.beat channel
  | expire channel =>
    have hreg := h.regular.step (.expire channel)
    refine h.onServices (f := fun b => b.expire channel) hreg h.tidy rfl rfl ?_ fun _ _ hs _ => hs
    simp only [Backend.expire, Store.expire]
    split <;> rfl
  | wait time =>
    have hreg := h.regular.step (.wait time)
    exact h.onServices (f := fun b => { b with clock := (b.clock.add time).getD b.clock })
      hreg h.tidy rfl rfl rfl fun _ _ hs _ => hs
  | cutOff =>
    have hreg := h.regular.step .cutOff
    refine h.onServices (f := fun b => { b with bus := b.bus.disconnectAll })
      hreg h.tidy.disconnectAll rfl rfl rfl ?_
    -- no subscription hears anything any more
    intro t s hs hh
    have hs : m.cluster.backend.bus.disconnectAll.find? t = some s := hs
    rw [Bus.find?_disconnectAll, Option.map_eq_some_iff] at hs
    obtain ⟨s₀, -, rfl⟩ := hs
    cases hh
  | hangUp channel => exact h.hangUp channel
  | subscribe channel => exact h.subscribe channel
  | catchUp channel => exact h.catchUp channel
  | handle channel => exact h.handle channel

theorem Tracked.run (h : m.Tracked) {acts : List Act} (ha : ∀ a ∈ acts, a.IsPlain) :
    (m.run acts).Tracked := by
  induction acts generalizing m with
  | nil => exact h
  | cons a acts ih =>
    exact ih (h.step (ha a List.mem_cons_self)) fun a' hm => ha a' (List.mem_cons_of_mem a hm)

theorem tracked_start {nodes : List (String × Settings × Schema)} {controlChannel : String}
    {clock : Instant} {c : Cluster}
    (h : Cluster.create nodes { controlChannel, clock } = .ok c) : (start c).Tracked := by
  obtain ⟨hb, hm⟩ := Cluster.create_members h
  have hback : (start c).cluster.backend = { controlChannel, clock } := hb
  constructor
  · exact regular_start h
  · intro channel n hn
    obtain ⟨settings, schema, hn⟩ := hm channel n hn
    refine ⟨(Node.create_soundAs hn).channel, ?_⟩
    intro id p hp
    rw [(Node.create_eq_ok hn).2] at hp
    cases hp
  · rw [hback]
    intro ticket s hs
    cases hs
  · intro channel ticket hl
    cases hl
  · intro channel other ticket hl
    cases hl
  · intro channel n _
    exact Node.inStep_down channel n _

theorem Tracked.mirrors (h : m.Tracked) (hq : m.IsQuiet channel)
    (hn : m.cluster.node? channel = some n) : n.Mirrors m.cluster.backend.store.records := by
  obtain ⟨ticket, s, hl, hs, hh, hlost, hw⟩ := hq
  rw [(h.regular.sound channel n hn).mirrors_iff]
  intro id hid
  have hstep := h.inStep channel n hn
  rw [hl] at hstep
  have hf := (hstep ticket s rfl hs hh hlost id).2 hid
  rw [hw] at hf
  exact hf

/-! ## Quiet instances -/

/-- Two instances that listen to the control channel they announce on. -/
def pair : Cluster where
  members := (Table.empty.insert "a" { node := { channel := "a" } }).insert "b"
    { node := { channel := "b" } }
  backend := { controlChannel := "shared_bridge_channel", clock := ⟨0, 0⟩ }

theorem create_pair : Cluster.create [("a", {}, {}), ("b", {}, {})]
    { controlChannel := "shared_bridge_channel", clock := ⟨0, 0⟩ } = .ok pair := rfl

/-- A client whose principal has one field besides its id. -/
def visitor (id : String) (field : Json) : Client :=
  ((Client.connect id 8).subscribe ["t"]).setPrincipal
    (some { collection := "users", id := "u", data := Table.empty.insert "k" field })

theorem shows_visitor {P : Json → Prop} {field : Json}
    (h : P (.obj [("id", .str "u"), ("k", field)])) (id : String) : (visitor id field).Shows P := by
  intro j hj
  cases hj
  exact h

/-- The key of the field stands after "id". -/
theorem ascending_visitor (field : Json) :
    Keyed.Ascending [("id", .str "u"), ("k", field)] :=
  List.pairwise_pair.2 (show "id" < "k" by decide)

/-- An instance that has nothing left to handle follows exactly the foreign records. -/
theorem mirrors_of_isQuiet {nodes : List (String × Settings × Schema)} {controlChannel : String}
    {clock : Instant} {c : Cluster} (hc : Cluster.create nodes { controlChannel, clock } = .ok c)
    {acts : List Act} (ha : ∀ a ∈ acts, a.IsPlain) {channel : String} {n : Node}
    (hn : ((start c).run acts).cluster.node? channel = some n)
    (hq : ((start c).run acts).IsQuiet channel) :
    n.Mirrors ((start c).run acts).cluster.backend.store.records :=
  ((tracked_start hc).run ha).mirrors hq hn

/-- Of two clients that "b" has caught up with one leaves. -/
def leaves : List Act :=
  [.register "a" (visitor "c" .null), .announce "a" "c", .register "a" (visitor "d" .null),
    .announce "a" "d", .subscribe "b", .catchUp "b", .disconnect "a" "c", .handle "b"]

theorem mirrors_of_isQuiet_leaves :
    ∃ n, ((start pair).run leaves).cluster.node? "b" = some n
      ∧ n.followed "c" = none ∧ (n.followed "d").map Record.owner = some "a"
      ∧ n.Mirrors ((start pair).run leaves).cluster.backend.store.records := by
  have hv : (((start pair).run leaves).cluster.node? "b").map
      (fun n => (n.followed "c", (n.followed "d").map Record.owner)) = some (none, some "a") := by
    decide +kernel
  have hq : ((start pair).run leaves).IsQuiet "b" :=
    ⟨0, { ticket := 0, channel := "shared_bridge_channel" }, by decide +kernel⟩
  obtain ⟨n, hn, hv⟩ := Option.map_eq_some_iff.1 hv
  injection hv with hc hd
  have hplain : ∀ id, (visitor id .null).IsPlain := by
    refine shows_visitor ⟨?_, ?_, ?_⟩
    · exact ⟨ascending_visitor .null, trivial, trivial, trivial⟩
    · exact ⟨trivial, trivial, trivial⟩
    · decide
  refine ⟨n, hn, hc, hd, mirrors_of_isQuiet create_pair ?_ hn hq⟩
  intro a ha
  simp only [leaves, List.mem_cons, List.not_mem_nil, or_false] at ha
  rcases ha with rfl | rfl | rfl | rfl | rfl | rfl | rfl | rfl
  case inl => exact ⟨by decide, by decide, hplain "c"⟩
  case inr.inr.inl => exact ⟨by decide, by decide, hplain "d"⟩
  all_goals trivial

/-! ## Snapshots that peers cannot read -/

/-- What cannot be read is dropped, and the connection stays. -/
theorem handle_of_unreadable {m : Mesh} {channel : String} {ticket : Nat} {n : Node} {text : String}
    {bus : Bus} {fault : Malformation} (hl : m.links channel = .caughtUp ticket)
    (hn : m.cluster.node? channel = some n)
    (hr : m.cluster.backend.bus.read ticket = (.payload text, bus))
    (hd : Announcement.decode text = .error (.malformed fault)) :
    m.handle channel = m.put channel n { m.cluster.backend with bus } := by
  simp only [handle, hl, hn, hr, Node.handleControl, hd]
  rfl

/-- A client of "a" is announced to "b". -/
def appears (field : Json) : List Act :=
  [.subscribe "b", .catchUp "b", .register "a" (visitor "c" field), .announce "a" "c"]

theorem run_appears {r : Record} (hr : r = ⟨"c", "a", TopicSet.empty.insert "t", "users/u", "a"⟩)
    {field : Json} {text : String}
    (h : (Announcement.upsert r (some (.obj [("id", .str "u"), ("k", field)]))).encode = .ok text) :
    ((start pair).run (appears field)).links "b" = .caughtUp 0
    ∧ (∃ n, ((start pair).run (appears field)).cluster.node? "b" = some n
        ∧ n.channel = "b" ∧ n.registry = .empty)
    ∧ ((start pair).run (appears field)).cluster.backend.bus.read 0 = (.payload text,
        ⟨[{ ticket := 0, channel := "shared_bridge_channel" }], 1⟩)
    ∧ ((start pair).run (appears field)).cluster.backend.controlChannel = "shared_bridge_channel"
    ∧ ((start pair).run (appears field)).cluster.backend.store.records.find? "c" = some r := by
  rw [hr] at h ⊢
  obtain rfl : _ = text := Except.ok.inj h
  exact ⟨rfl, ⟨_, rfl, rfl, rfl⟩, rfl, rfl, rfl⟩

/-- Where the snapshot cannot be read, "b" has nothing left to handle and still misses the client. -/
theorem misses_of_unreadable {field : Json}
    (hrefused : (Json.document (Json.value Json.maxDepth)
      (Json.obj [("id", .str "u"), ("k", field)]).chars).isOk = false) :
    ((start pair).run (appears field ++ [.handle "b"])).IsQuiet "b"
    ∧ ∃ n, ((start pair).run (appears field ++ [.handle "b"])).cluster.node? "b" = some n
      ∧ ¬n.Mirrors ((start pair).run (appears field ++ [.handle "b"])).cluster.backend.store.records
      := by
  obtain ⟨r, hr⟩ : ∃ r : Record, r = ⟨"c", "a", TopicSet.empty.insert "t", "users/u", "a"⟩ :=
    ⟨_, rfl⟩
  obtain ⟨text, htext⟩ : ∃ text, (Announcement.upsert r
      (some (.obj [("id", .str "u"), ("k", field)]))).encode = .ok text := Announcement.encode_upsert r _
  have hne : (Json.obj [("id", .str "u"), ("k", field)]).chars ≠ [] := by simp [Json.chars]
  obtain ⟨fault, hd⟩ : ∃ fault, Announcement.decode text = .error (.malformed fault) := by
    cases he : Json.document (Json.value Json.maxDepth)
        (Json.obj [("id", .str "u"), ("k", field)]).chars with
    | error e => exact ⟨_, Announcement.decode_of_unreadable hne he htext⟩
    | ok j =>
      rw [he] at hrefused
      cases hrefused
  obtain ⟨hl, ⟨n, hn, hc, hempty⟩, hread, hcontrol, hrecord⟩ := run_appears hr htext
  rw [run_concat, step, handle_of_unreadable hl hn hread hd]
  generalize (start pair).run (appears field) = m at hl hn hread hcontrol hrecord ⊢
  refine ⟨⟨0, { ticket := 0, channel := "shared_bridge_channel" }, hl, rfl, ?_, rfl, rfl⟩, n, ?_, ?_⟩
  · simp [put, Subscription.hears, hcontrol]
  · rw [(puts_put hn n _).node, if_pos rfl]
  · intro hm
    rcases hm.complete "c" r hrecord (by rw [hr, hc]; decide) with hlocal | ⟨p, hp, -⟩
    · rw [Node.isLocal, hempty] at hlocal
      cases hlocal
    · rw [hempty] at hp
      cases hp

theorem not_mirrors_of_deep :
    ¬ ∀ nodes controlChannel clock c,
        Cluster.create nodes { controlChannel, clock } = .ok c →
        (∀ channel n, c.node? channel = some n → channel ≠ controlChannel) →
        ∀ acts : List Act, (∀ a ∈ acts, a.Shows fun j => j.IsWellFormed ∧ j.IsFloatFree) →
        ∀ channel n, ((start c).run acts).cluster.node? channel = some n →
        ((start c).run acts).IsQuiet channel →
        n.Mirrors ((start c).run acts).cluster.backend.store.records := by
  intro h
  obtain ⟨field, hfield⟩ : ∃ field, field = Json.nested 126 := ⟨_, rfl⟩
  have hrefused : (Json.document (Json.value Json.maxDepth)
      (Json.obj [("id", .str "u"), ("k", field)]).chars).isOk = false := by
    rw [hfield]
    decide +kernel
  have hown : ∀ channel n, pair.node? channel = some n → channel ≠ "shared_bridge_channel" := by
    rintro channel n hn rfl
    cases hn
  have hid : "c" ≠ "" ∧ delimiter ∉ "c".toList := by decide
  have hshows : ∀ a ∈ appears field ++ [.handle "b"],
      a.Shows fun j => j.IsWellFormed ∧ j.IsFloatFree := by
    intro a ha
    simp only [appears, List.cons_append, List.nil_append, List.mem_cons, List.not_mem_nil,
      or_false] at ha
    rcases ha with rfl | rfl | rfl | rfl | rfl
    case inr.inr.inl =>
      refine ⟨hid.1, hid.2, shows_visitor ⟨?_, ?_⟩ "c"⟩
      · rw [hfield]
        exact ⟨ascending_visitor _, trivial, Json.isWellFormed_nested 126, trivial⟩
      · rw [hfield]
        exact ⟨trivial, Json.isFloatFree_nested 126, trivial⟩
    all_goals trivial
  obtain ⟨hq, n, hn, hm⟩ := misses_of_unreadable hrefused
  exact hm (h _ _ _ pair create_pair hown _ hshows "b" n hn hq)

end Mesh

end TopicMesh
