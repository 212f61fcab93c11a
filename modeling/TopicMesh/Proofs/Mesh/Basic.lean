import TopicMesh.Proofs.Cluster.Basic
import TopicMesh.Proofs.Mesh.InStep

/-!
# TopicMesh.Proofs.Mesh.Basic

Runs of a cluster in which every instance acts when it likes.

* `Mesh`         — a cluster, and how each instance stands to the control channel.
* `Mesh.Act`     — what can happen: an instance serves its clients or beats, a lease runs out, time
  passes, a connection breaks, or an instance subscribes, catches up or handles one payload.
* `Mesh.step`    — what an act does, made of the operations of the instances, the store and the bus.
* `Mesh.Regular` — the invariant that every act keeps up (`Regular.step`): instances are sound, no
  registered client has gone offline for good, and every lease can be announced.
-/

namespace TopicMesh

structure Mesh where
  cluster : Cluster
  links : String → Link

namespace Mesh

inductive Act where
  | register (channel : String) (client : Client)
  /-- A client here changes its topics, its principal or its queue. -/
  | edit (channel : String) (serial : Nat) (f : Client → Client)
  | announce (channel clientId : String)
  | disconnect (channel clientId : String)
  | beat (channel : String)
  /-- A lease runs out. -/
  | expire (channel : String)
  | wait (time : Duration)
  /-- Every connection to the bus breaks. -/
  | cutOff
  /-- The control connection of an instance breaks, with all that it has not handled yet. -/
  | hangUp (channel : String)
  | subscribe (channel : String)
  | catchUp (channel : String)
  /-- An instance handles the next payload of its control connection. -/
  | handle (channel : String)

/-- A cluster of which no instance is connected yet. -/
def start (c : Cluster) : Mesh := ⟨c, fun _ => .down⟩

def setLink (m : Mesh) (channel : String) (link : Link) : Mesh :=
  { m with links := fun c => if c = channel then link else m.links c }

def onServices (m : Mesh) (f : Backend → Backend) : Mesh :=
  { m with cluster := { m.cluster with backend := f m.cluster.backend } }

/-- Puts back an instance and the services after the instance did something. -/
def put (m : Mesh) (channel : String) (n : Node) (b : Backend) : Mesh :=
  { m with cluster := { m.cluster.setNode channel n with backend := b } }

def onNode (m : Mesh) (channel : String) (f : Node → Backend → Node × Backend) : Mesh :=
  match m.cluster.node? channel with
  | none => m
  | some n => m.put channel (f n m.cluster.backend).1 (f n m.cluster.backend).2

def beat (m : Mesh) (channel : String) : Mesh :=
  match m.cluster.beat channel with
  | none => m
  | some (_, cluster) => { m with cluster }

def hangUp (m : Mesh) (channel : String) : Mesh :=
  match (m.links channel).ticket? with
  | none => m
  | some ticket =>
    (m.onServices fun b => { b with bus := b.bus.unsubscribe ticket }).setLink channel .down

def subscribe (m : Mesh) (channel : String) : Mesh :=
  match m.links channel, m.cluster.node? channel with
  | .down, some n =>
    match m.cluster.backend.subscribe (Line.control.channel n) with
    | { result := .error _, backend } => m.onServices fun _ => backend
    | { result := .ok ticket, backend } =>
      (m.onServices fun _ => backend).setLink channel (.subscribed ticket)
  | _, _ => m

/-- A failure to catch up breaks the connection. -/
def catchUp (m : Mesh) (channel : String) : Mesh :=
  match m.links channel, m.cluster.node? channel with
  | .subscribed ticket, some n =>
    let o := n.catchUp m.cluster.backend
    let m := m.put channel o.subject o.backend
    match o.result with
    | .error _ => m.hangUp channel
    | .ok () => m.setLink channel (.caughtUp ticket)
  | _, _ => m

/-- A fatal payload ends the loop that listens; a subscription that lags or ends is lost. -/
def handle (m : Mesh) (channel : String) : Mesh :=
  match m.links channel, m.cluster.node? channel with
  | .caughtUp ticket, some n =>
    match m.cluster.backend.bus.read ticket with
    | (.pending, _) => m
    | (.payload text, bus) =>
      let o := n.handleControl text { m.cluster.backend with bus }
      let m := m.put channel o.subject o.backend
      match o.result with
      | .error e => if e.isFatal then m.hangUp channel else m
      | .ok () => m
    | (_, bus) => (m.onServices fun b => { b with bus }).setLink channel .down
  | _, _ => m

def step (m : Mesh) : Act → Mesh
  | .register channel client => m.onNode channel fun n b => ((n.registerLocal client).2, b)
  | .edit channel serial f => m.onNode channel fun n b => (n.mapHeld serial f, b)
  | .announce channel clientId => m.onNode channel fun n b =>
      ((n.subscriptionsChanged clientId b).subject, (n.subscriptionsChanged clientId b).backend)
  | .disconnect channel clientId => m.onNode channel fun n b =>
      ((n.disconnect clientId b).subject, (n.disconnect clientId b).backend)
  | .beat channel => m.beat channel
  | .expire channel => m.onServices fun b => b.expire channel
  | .wait time => m.onServices fun b => { b with clock := (b.clock.add time).getD b.clock }
  | .cutOff => m.onServices fun b => { b with bus := b.bus.disconnectAll }
  | .hangUp channel => m.hangUp channel
  | .subscribe channel => m.subscribe channel
  | .catchUp channel => m.catchUp channel
  | .handle channel => m.handle channel

def run (m : Mesh) (acts : List Act) : Mesh := acts.foldl step m

theorem run_concat (m : Mesh) (acts : List Act) (a : Act) :
    m.run (acts ++ [a]) = (m.run acts).step a := by
  rw [run, List.foldl_append]
  rfl

/-- An instance is connected to the control channel, has caught up and has nothing left to handle. -/
def IsQuiet (m : Mesh) (channel : String) : Prop :=
  ∃ ticket s, m.links channel = .caughtUp ticket
    ∧ m.cluster.backend.bus.find? ticket = some s
    ∧ s.hears m.cluster.backend.controlChannel = true ∧ s.lost = 0 ∧ s.waiting = []

/-! ## What an act touches -/

/-- Nothing but one instance and the services. -/
structure Puts (m : Mesh) (channel : String) (n : Node) (b : Backend) (m' : Mesh) : Prop where
  node : ∀ c, m'.cluster.node? c = if channel = c then some n else m.cluster.node? c
  backend : m'.cluster.backend = b
  links : m'.links = m.links

theorem puts_put {m : Mesh} {channel : String} {n : Node} (h : m.cluster.node? channel = some n)
    (n' : Node) (b : Backend) : m.Puts channel n' b (m.put channel n' b) :=
  ⟨Cluster.node?_setNode h n', rfl, rfl⟩

theorem onNode_cases (m : Mesh) (channel : String) (f : Node → Backend → Node × Backend) :
    (m.cluster.node? channel = none ∧ m.onNode channel f = m)
      ∨ ∃ n, m.cluster.node? channel = some n
        ∧ m.Puts channel (f n m.cluster.backend).1 (f n m.cluster.backend).2 (m.onNode channel f) := by
  cases h : m.cluster.node? channel with
  | none => exact .inl ⟨rfl, by rw [onNode, h]⟩
  | some n =>
    refine .inr ⟨n, rfl, ?_⟩
    rw [onNode, h]
    exact puts_put h _ _

theorem beat_cases (m : Mesh) (channel : String) :
    (m.cluster.node? channel = none ∧ m.beat channel = m)
      ∨ ∃ member, m.cluster.members.find? channel = some member
        ∧ m.Puts channel (member.node.beat member.hasJoined m.cluster.backend).subject
            (member.node.beat member.hasJoined m.cluster.backend).backend (m.beat channel) := by
  cases h : m.cluster.members.find? channel with
  | none =>
    refine .inl ⟨?_, ?_⟩
    · rw [Cluster.node?, h]
      rfl
    · rw [beat, Cluster.beat, h]
  | some member =>
    refine .inr ⟨member, rfl, ?_⟩
    rw [beat, Cluster.beat, h]
    refine ⟨?_, rfl, rfl⟩
    intro c
    rw [Cluster.node?]
    simp only
    rw [Table.find?_insert]
    split
    · rfl
    · rfl

/-! ## The invariant of every run -/

structure Regular (m : Mesh) : Prop where
  outages : m.cluster.backend.outages = []
  leases : m.cluster.backend.store.HasValidLeases
  valid : ∀ channel n, m.cluster.node? channel = some n → ChannelName.isValid channel = true
  sound : ∀ channel n, m.cluster.node? channel = some n → n.SoundAs channel
  isOpen : ∀ channel n, m.cluster.node? channel = some n → n.Holds channel Proxy.OpenAt

theorem Regular.puts {m m' : Mesh} {channel : String} {n n' : Node} {b : Backend} (h : m.Regular)
    (hn : m.cluster.node? channel = some n) (hp : m.Puts channel n' b m') (hb : b.outages = [])
    (hl : b.store.HasValidLeases) (hs : n'.SoundAs channel) (ho : n'.Holds channel Proxy.OpenAt) :
    m'.Regular where
  outages := by rw [hp.backend, hb]
  leases := by
    rw [hp.backend]
    exact hl
  valid c x hx := by
    rw [hp.node] at hx
    split at hx
    · rename_i hc
      rw [← hc]
      exact h.valid channel n hn
    · exact h.valid c x hx
  sound c x hx := by
    rw [hp.node] at hx
    split at hx
    · rename_i hc
      cases hx
      exact hc ▸ hs
    · exact h.sound c x hx
  isOpen c x hx := by
    rw [hp.node] at hx
    split at hx
    · rename_i hc
      cases hx
      exact hc ▸ ho
    · exact h.isOpen c x hx

theorem Regular.onServices {m : Mesh} {f : Backend → Backend} (h : m.Regular)
    (hb : (f m.cluster.backend).outages = []) (hl : (f m.cluster.backend).store.HasValidLeases) :
    (m.onServices f).Regular :=
  ⟨hb, hl, h.valid, h.sound, h.isOpen⟩

theorem Regular.setLink {m : Mesh} (h : m.Regular) (channel : String) (link : Link) :
    (m.setLink channel link).Regular :=
  ⟨h.outages, h.leases, h.valid, h.sound, h.isOpen⟩

theorem Regular.hangUp {m : Mesh} (h : m.Regular) (channel : String) :
    (m.hangUp channel).Regular := by
  unfold Mesh.hangUp
  split
  · exact h
  · exact (h.onServices h.outages h.leases).setLink channel _

theorem subscribe_cases {m : Mesh} (h : m.Regular) (channel : String) :
    m.subscribe channel = m ∨ ∃ n, m.links channel = .down ∧ m.cluster.node? channel = some n
      ∧ m.subscribe channel
        = (m.onServices fun b =>
            { b with bus := (b.bus.subscribe (Line.control.channel n)).2 }).setLink channel
              (.subscribed m.cluster.backend.bus.nextTicket) := by
  unfold subscribe
  split
  · rename_i n hl hn
    refine .inr ⟨n, hl, hn, ?_⟩
    rw [Backend.subscribe, Backend.attempt_of_no_outages h.outages]
    rfl
  · exact .inl rfl

theorem catchUp_cases {m : Mesh} (h : m.Regular) (channel : String) :
    m.catchUp channel = m ∨ ∃ n ticket m', m.links channel = .subscribed ticket
      ∧ m.cluster.node? channel = some n
      ∧ m.Puts channel (n.catchUp m.cluster.backend).subject (n.catchUp m.cluster.backend).backend m'
      ∧ m.catchUp channel = m'.setLink channel (.caughtUp ticket) := by
  unfold catchUp
  split
  · rename_i ticket n hl hn
    obtain ⟨hok, -, -, -⟩ := Node.catchUp_view (h.sound channel n hn) h.outages
    refine .inr ⟨n, ticket, _, hl, hn, puts_put hn _ _, ?_⟩
    simp only [hok]
  · exact .inl rfl

/-- Handling takes the oldest payload off the subscription; where there is none the link may go
down. -/
theorem handle_cases {m : Mesh} (h : m.Regular) (channel : String) :
    m.handle channel = m
    ∨ (∃ ticket, m.links channel = .caughtUp ticket
        ∧ m.handle channel = (m.onServices fun b =>
            { b with bus := (b.bus.read ticket).2 }).setLink channel .down)
    ∨ ∃ n ticket s text rest m', m.links channel = .caughtUp ticket
      ∧ m.cluster.node? channel = some n
      ∧ m.cluster.backend.bus.find? ticket = some s ∧ s.waiting = text :: rest
      ∧ m.Puts channel
          (n.handleControl text { m.cluster.backend with
            bus := m.cluster.backend.bus.update { s with waiting := rest } }).subject
          { m.cluster.backend with
            bus := m.cluster.backend.bus.update { s with waiting := rest } } m'
      ∧ (m.handle channel = m' ∨ m.handle channel = m'.hangUp channel) := by
  unfold handle
  split
  · rename_i ticket n hl hn
    split
    · exact .inl rfl
    · rename_i text bus hread
      obtain ⟨s, rest, hs, -, hw, rfl⟩ := Bus.read_eq_payload hread
      have hb : ({ m.cluster.backend with
          bus := m.cluster.backend.bus.update { s with waiting := rest } } : Backend).outages = [] :=
        h.outages
      obtain ⟨hback, -, -⟩ := Node.handleControl_view (h.sound channel n hn) hb text
      have hp := puts_put hn (n.handleControl text { m.cluster.backend with
          bus := m.cluster.backend.bus.update { s with waiting := rest } }).subject
        (n.handleControl text { m.cluster.backend with
          bus := m.cluster.backend.bus.update { s with waiting := rest } }).backend
      rw [hback] at hp
      simp only [hback]
      refine .inr (.inr ⟨n, ticket, s, text, rest, _, hl, hn, hs, hw, hp, ?_⟩)
      split
      · split
        · exact .inr rfl
        · exact .inl rfl
      · exact .inl rfl
    · rename_i bus _ _ hread
      refine .inr (.inl ⟨ticket, hl, ?_⟩)
      simp only [onServices, hread]
  · exact .inl rfl

theorem Regular.subscribe {m : Mesh} (h : m.Regular) (channel : String) :
    (m.subscribe channel).Regular := by
  rcases subscribe_cases h channel with he | ⟨n, -, -, he⟩
  · rw [he]
    exact h
  · rw [he]
    exact (h.onServices h.outages h.leases).setLink channel _

theorem Regular.catchUp {m : Mesh} (h : m.Regular) (channel : String) :
    (m.catchUp channel).Regular := by
  rcases catchUp_cases h channel with he | ⟨n, ticket, m', -, hn, hp, he⟩
  · rw [he]
    exact h
  · obtain ⟨-, hback, -, -⟩ := Node.catchUp_view (h.sound channel n hn) h.outages
    rw [hback] at hp
    rw [he]
    exact (h.puts hn hp h.outages h.leases ((h.sound channel n hn).catchUp _)
      ((h.isOpen channel n hn).catchUp _)).setLink channel _

theorem Regular.handle {m : Mesh} (h : m.Regular) (channel : String) :
    (m.handle channel).Regular := by
  rcases handle_cases h channel with
    he | ⟨ticket, -, he⟩ | ⟨n, ticket, s, text, rest, m', -, hn, -, -, hp, he⟩
  · rw [he]
    exact h
  · rw [he]
    exact (h.onServices h.outages h.leases).setLink channel _
  · have hreg : m'.Regular :=
      h.puts hn hp h.outages h.leases ((h.sound channel n hn).handleControl text _)
        ((h.isOpen channel n hn).handleControl text _)
    rcases he with he | he
    · rw [he]
      exact hreg
    · rw [he]
      exact hreg.hangUp channel

theorem Regular.beat {m : Mesh} (h : m.Regular) (channel : String) : (m.beat channel).Regular := by
  rcases m.beat_cases channel with ⟨-, he⟩ | ⟨member, hm, hp⟩
  · rw [he]
    exact h
  · have hn : m.cluster.node? channel = some member.node := Cluster.node?_eq_some_iff.2 ⟨member, hm, rfl⟩
    have hs := h.sound channel _ hn
    obtain ⟨⟨as, ht, -⟩, -⟩ := Node.beat_announces hs h.outages h.leases (h.valid channel _ hn)
      member.hasJoined
    exact h.puts hn hp (ht.outages.trans h.outages) (ht.leases h.leases) (hs.beat _ _)
      ((h.isOpen channel _ hn).beat _ _)

theorem isOpen_registerLocal {own : String} {n : Node} (h : n.Holds own Proxy.OpenAt)
    (client : Client) : (n.registerLocal client).2.Holds own Proxy.OpenAt :=
  h.of_insert (Node.registerLocal_channel n client) (Node.registerLocal_registry n client) rfl

theorem isOpen_mapHeld {own : String} {n : Node} (hs : n.SoundAs own)
    (h : n.Holds own Proxy.OpenAt) (serial : Nat) (f : Client → Client) :
    (n.mapHeld serial f).Holds own Proxy.OpenAt := by
  obtain ⟨hc, hr | ⟨id, p, hf, -, hr⟩⟩ := hs.mapHeld_cases serial f
  · refine ⟨hc.trans h.channel, ?_⟩
    rw [hr]
    exact h.proxies
  · exact h.of_insert hc hr ((Proxy.isClosed_mapClient p f).trans (h.proxies id p hf))

theorem hasValidLeases_expire {s : Store} (h : s.HasValidLeases) (now : Instant)
    (channel : String) : (s.expire now channel).HasValidLeases := by
  unfold Store.expire
  split
  · rename_i hc
    intro c hm
    rw [Table.contains, Table.find?_insert] at hm
    split at hm
    · rename_i he
      rw [← he]
      exact h channel hc
    · exact h c hm
  · exact h

theorem Regular.step {m : Mesh} (h : m.Regular) (a : Act) : (m.step a).Regular := by
  cases a with
  | register channel client =>
    rcases m.onNode_cases channel _ with ⟨-, he⟩ | ⟨n, hn, hp⟩
    · rw [Mesh.step, he]
      exact h
    · exact h.puts hn hp h.outages h.leases ((h.sound channel n hn).registerLocal client)
        (isOpen_registerLocal (h.isOpen channel n hn) client)
  | edit channel serial f =>
    rcases m.onNode_cases channel _ with ⟨-, he⟩ | ⟨n, hn, hp⟩
    · rw [Mesh.step, he]
      exact h
    · have hs := h.sound channel n hn
      exact h.puts hn hp h.outages h.leases (hs.mapHeld serial f)
        (isOpen_mapHeld hs (h.isOpen channel n hn) serial f)
  | announce channel id =>
    rcases m.onNode_cases channel _ with ⟨-, he⟩ | ⟨n, hn, hp⟩
    · rw [Mesh.step, he]
      exact h
    · have hs := h.sound channel n hn
      obtain ⟨⟨as, ht, -⟩, -⟩ := Node.subscriptionsChanged_announces hs h.outages id
      exact h.puts hn hp (ht.outages.trans h.outages) (ht.leases h.leases)
        (hs.subscriptionsChanged id _) ((h.isOpen channel n hn).subscriptionsChanged id _)
  | disconnect channel id =>
    rcases m.onNode_cases channel _ with ⟨-, he⟩ | ⟨n, hn, hp⟩
    · rw [Mesh.step, he]
      exact h
    · have hs := h.sound channel n hn
      obtain ⟨⟨as, ht, -⟩, -⟩ := Node.disconnect_announces hs h.outages id
      exact h.puts hn hp (ht.outages.trans h.outages) (ht.leases h.leases)
        (hs.disconnect id _) ((h.isOpen channel n hn).disconnect id _)
  | beat channel => exact h.beat channel
  | expire channel =>
    refine h.onServices (f := fun b => b.expire channel) h.outages ?_
    exact hasValidLeases_expire h.leases _ channel
  | wait time =>
    refine h.onServices (f := fun b => { b with clock := _ }) h.outages ?_
    exact h.leases
  | cutOff =>
    refine h.onServices (f := fun b => { b with bus := _ }) h.outages ?_
    exact h.leases
  | hangUp channel => exact h.hangUp channel
  | subscribe channel => exact h.subscribe channel
  | catchUp channel => exact h.catchUp channel
  | handle channel => exact h.handle channel

theorem Regular.run {m : Mesh} (h : m.Regular) (acts : List Act) : (m.run acts).Regular := by
  induction acts generalizing m with
  | nil => exact h
  | cons a acts ih => exact ih (h.step a)

/-! ## The start of a run -/

theorem regular_start {nodes : List (String × Settings × Schema)} {controlChannel : String}
    {clock : Instant} {c : Cluster}
    (h : Cluster.create nodes { controlChannel, clock } = .ok c) : (start c).Regular := by
  obtain ⟨hb, hm⟩ := Cluster.create_members h
  have hback : (start c).cluster.backend = { controlChannel, clock } := hb
  constructor
  · rw [hback]
  · intro channel hc
    rw [hback] at hc
    cases hc
  · intro channel n hn
    obtain ⟨settings, schema, hn⟩ := hm channel n hn
    exact (Node.create_eq_ok hn).1
  · intro channel n hn
    obtain ⟨settings, schema, hn⟩ := hm channel n hn
    exact Node.create_soundAs hn
  · intro channel n hn
    obtain ⟨settings, schema, hn⟩ := hm channel n hn
    refine ⟨(Node.create_soundAs hn).channel, ?_⟩
    intro id p hp
    rw [(Node.create_eq_ok hn).2] at hp
    cases hp

end Mesh

end TopicMesh
