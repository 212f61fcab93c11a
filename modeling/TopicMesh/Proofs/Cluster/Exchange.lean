import TopicMesh.Proofs.Cluster.Basic
import TopicMesh.Proofs.Node.FanOut

/-!
# TopicMesh.Proofs.Cluster.Exchange

A cluster together with the loops that listen on the instances' own channels.

* `Exchange.publish` — an instance publishes a message.
* `Exchange.turn`    — the loop of an instance does the next thing it can.
* `Exchange.Heads`   — where the payloads that wait will take every instance.

Turns may come in any order: an instance that has had as many as payloads waited for it has handled
them all, and is where it headed (`Heads.turns`).
-/

namespace TopicMesh

structure Exchange where
  cluster : Cluster
  /-- The loop that listens on the channel of an instance. -/
  lines : String → ListenLoop

namespace Exchange

/-- Puts back an instance and the services after the instance did something. -/
def put (x : Exchange) (channel : String) (n : Node) (b : Backend) : Exchange :=
  { x with cluster := { x.cluster.setNode channel n with backend := b } }

/-- An instance publishes a message; gives the number of clients that it says it reached. -/
def publish (x : Exchange) (channel topic : String) (m : Message) : Nat × Exchange :=
  match x.cluster.node? channel with
  | none => (0, x)
  | some n =>
    let f := n.publish topic m x.cluster.backend
    (f.sent, x.put channel f.node f.backend)

def turn (x : Exchange) (channel : String) : Exchange :=
  match x.cluster.node? channel with
  | none => x
  | some n =>
    match (x.lines channel).move false x.cluster.time ⟨n, x.cluster.backend⟩ with
    | none => x
    | some (line, s) =>
      { x.put channel s.node s.backend with
        lines := fun c => if c = channel then line else x.lines c }

def turns (x : Exchange) (channels : List String) : Exchange := channels.foldl turn x

/-- The loop of an instance listens on the instance's channel, where these payloads wait. -/
structure Listens (x : Exchange) (channel : String) (ticket : Nat) (payloads : List String) :
    Prop where
  loop : ∃ wakeAt, x.lines channel
    = { line := .relays, state := .listening, ticket := some ticket, wakeAt }
  waiting : x.cluster.backend.bus.find? ticket
    = some { ticket, channel, waiting := payloads }

variable {x : Exchange} {channel : String} {n : Node} {ticket : Nat}

theorem turn_pending (hn : x.cluster.node? channel = some n) (hl : x.Listens channel ticket []) :
    x.turn channel = x := by
  have hread : x.cluster.backend.bus.read ticket = (.pending, x.cluster.backend.bus) := by
    rw [Bus.read, hl.waiting]
    rfl
  obtain ⟨wakeAt, hloop⟩ := hl.loop
  have hmove : (x.lines channel).move false x.cluster.time ⟨n, x.cluster.backend⟩ = none := by
    simp [hloop, ListenLoop.move, ListenLoop.readNext, hread]
  simp only [turn, hn, hmove]

theorem turn_payload {payload : String} {rest : List String}
    (hn : x.cluster.node? channel = some n) (hl : x.Listens channel ticket (payload :: rest))
    (hok : (n.handleRelay payload).1 = .ok ()) :
    x.turn channel = x.put channel (n.handleRelay payload).2 { x.cluster.backend with
      bus := x.cluster.backend.bus.update { ticket, channel, waiting := rest } } := by
  have hread : x.cluster.backend.bus.read ticket = (.payload payload,
      x.cluster.backend.bus.update { ticket, channel, waiting := rest }) := by
    rw [Bus.read, hl.waiting]
    rfl
  obtain ⟨wakeAt, hloop⟩ := hl.loop
  have hmove : (x.lines channel).move false x.cluster.time ⟨n, x.cluster.backend⟩
      = some (x.lines channel, ⟨(n.handleRelay payload).2, { x.cluster.backend with
          bus := x.cluster.backend.bus.update { ticket, channel, waiting := rest } }⟩) := by
    simp [hloop, ListenLoop.move, ListenLoop.readNext, hread, Line.handle, hok, ListenLoop.after,
      Listener.step]
  have hlines : (fun c => if c = channel then x.lines channel else x.lines c) = x.lines := by
    funext c
    split
    · rename_i h
      rw [h]
    · rfl
  simp only [turn, hn, hmove]
  rw [hlines]
  rfl

theorem Listens.channel_eq {other : String} {payloads payloads' : List String}
    (h : x.Listens channel ticket payloads) (h' : x.Listens other ticket payloads') :
    channel = other := by
  have he := h.waiting.symm.trans h'.waiting
  cases he
  rfl

section Turn

variable {payload : String} {rest : List String}

theorem node?_turn (hn : x.cluster.node? channel = some n)
    (hl : x.Listens channel ticket (payload :: rest)) (hok : (n.handleRelay payload).1 = .ok ())
    (c : String) : (x.turn channel).cluster.node? c
      = if channel = c then some (n.handleRelay payload).2 else x.cluster.node? c := by
  rw [turn_payload hn hl hok]
  exact Cluster.node?_setNode hn _ c

theorem Listens.turn_self (hn : x.cluster.node? channel = some n)
    (hl : x.Listens channel ticket (payload :: rest)) (hok : (n.handleRelay payload).1 = .ok ()) :
    (x.turn channel).Listens channel ticket rest := by
  rw [turn_payload hn hl hok]
  refine ⟨hl.loop, ?_⟩
  have hfind := x.cluster.backend.bus.find?_update { ticket, channel, waiting := rest } ticket
  rw [if_pos rfl, hl.waiting] at hfind
  exact hfind

/-- The payloads that wait elsewhere wait still. -/
theorem Listens.turn_other (hn : x.cluster.node? channel = some n)
    (hl : x.Listens channel ticket (payload :: rest)) (hok : (n.handleRelay payload).1 = .ok ())
    {other : String} {ticket' : Nat} {payloads : List String} (hne : channel ≠ other)
    (h : x.Listens other ticket' payloads) : (x.turn channel).Listens other ticket' payloads := by
  have ht : ticket ≠ ticket' := by
    rintro rfl
    exact hne (hl.channel_eq h)
  rw [turn_payload hn hl hok]
  refine ⟨h.loop, ?_⟩
  have hfind := x.cluster.backend.bus.find?_update { ticket, channel, waiting := rest } ticket'
  rw [if_neg ht, h.waiting] at hfind
  exact hfind

end Turn

/-- Every instance will be at its end once it has handled what waits, which takes so many turns. -/
structure Heads (x : Exchange) (ends : String → Option Node) (turns : String → Nat) : Prop where
  member : ∀ channel n, x.cluster.node? channel = some n →
    ∃ ticket payloads n', x.Listens channel ticket payloads ∧ payloads.length ≤ turns channel
      ∧ n.Handles payloads n' ∧ ends channel = some n'
  other : ∀ channel, x.cluster.node? channel = none → ends channel = none

variable {ends : String → Option Node}

/-- A loop with nothing to do has its turn. -/
theorem Heads.of_idle {turns : String → Nat}
    (h : x.Heads ends fun c => turns c + if channel = c then 1 else 0)
    (hidle : ∀ n, x.cluster.node? channel = some n → ∃ ticket, x.Listens channel ticket []) :
    x.Heads ends turns where
  member c n hn := by
    obtain ⟨ticket, payloads, n', hl, hle, hh, he⟩ := h.member c n hn
    refine ⟨ticket, payloads, n', hl, ?_, hh, he⟩
    by_cases hc : channel = c
    · rw [← hc] at hn hl ⊢
      -- the loop has one ticket, so what waits for it is nothing
      obtain ⟨ticket', hl'⟩ := hidle n hn
      obtain ⟨wakeAt, hloop⟩ := hl.loop
      obtain ⟨wakeAt', hloop'⟩ := hl'.loop
      have ht := hloop.symm.trans hloop'
      injection ht with _ _ ht _
      cases ht
      have hw := hl.waiting.symm.trans hl'.waiting
      injection hw with hw
      injection hw with _ _ hw
      rw [hw]
      exact Nat.zero_le _
    · rw [if_neg hc] at hle
      exact hle
  other := h.other

theorem Heads.turn {turns : String → Nat} (channel : String)
    (h : x.Heads ends fun c => turns c + if channel = c then 1 else 0) :
    (x.turn channel).Heads ends turns := by
  cases hn : x.cluster.node? channel with
  | none =>
    have he : x.turn channel = x := by
      simp only [Exchange.turn, hn]
    rw [he]
    refine h.of_idle ?_
    intro n hn'
    rw [hn] at hn'
    cases hn'
  | some n =>
    obtain ⟨ticket, payloads, n', hl, hle, hh, he⟩ := h.member channel n hn
    cases payloads with
    | nil =>
      rw [turn_pending hn hl]
      exact h.of_idle fun _ _ => ⟨ticket, hl⟩
    | cons payload rest =>
      have hnode := node?_turn hn hl hh.1
      constructor
      · intro c x' hx'
        rw [hnode c] at hx'
        by_cases hc : channel = c
        · rw [if_pos hc] at hx'
          cases hx'
          rw [← hc]
          rw [if_pos rfl, List.length_cons] at hle
          exact ⟨ticket, rest, n', hl.turn_self hn hh.1, Nat.le_of_succ_le_succ hle, hh.2, he⟩
        · rw [if_neg hc] at hx'
          obtain ⟨t, ps, y, hlc, hlec, hhc, hec⟩ := h.member c x' hx'
          rw [if_neg hc] at hlec
          exact ⟨t, ps, y, hl.turn_other hn hh.1 hc hlc, hlec, hhc, hec⟩
      · intro c hc
        rw [hnode c] at hc
        split at hc
        · cases hc
        · exact h.other c hc

theorem Heads.turns {channels : List String} (h : x.Heads ends fun c => channels.count c) :
    (x.turns channels).Heads ends fun _ => 0 := by
  induction channels generalizing x with
  | nil => exact h
  | cons channel channels ih =>
    refine ih (Heads.turn channel ?_)
    have hcount : (fun c => (channel :: channels).count c)
        = fun c => channels.count c + if channel = c then 1 else 0 := by
      funext c
      rw [List.count_cons]
      simp only [beq_iff_eq]
    rw [← hcount]
    exact h

/-- After its turns an instance has nothing left to handle, and is at its end. -/
theorem Heads.node?_eq (h : x.Heads ends fun _ => 0) (channel : String) :
    x.cluster.node? channel = ends channel
      ∧ ∀ n, x.cluster.node? channel = some n → ∃ ticket, x.Listens channel ticket [] := by
  cases hn : x.cluster.node? channel with
  | none =>
    refine ⟨(h.other channel hn).symm, ?_⟩
    intro n hn'
    cases hn'
  | some n =>
    obtain ⟨ticket, payloads, n', hl, hle, hh, he⟩ := h.member channel n hn
    obtain rfl : payloads = [] := List.eq_nil_of_length_eq_zero (Nat.le_zero.1 hle)
    obtain rfl : n' = n := hh
    exact ⟨he.symm, fun _ _ => ⟨ticket, hl⟩⟩

end Exchange

end TopicMesh
