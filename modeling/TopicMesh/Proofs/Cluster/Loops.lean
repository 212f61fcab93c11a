import TopicMesh.Proofs.Node.Announce
import TopicMesh.Rehearsal.Beating
import TopicMesh.Rehearsal.Listening

/-!
# TopicMesh.Proofs.Cluster.Loops

The loops of a started instance against their rehearsals.

* `ListenLoop.called`      — the calls that the next move of a listening loop makes, with their results.
* `ListenLoop.Moves`       — a listening loop moves, whatever becomes of the instance and the services in
  between.
* `Moves.exists_run`       — its calls are those of a rehearsed loop, and it ends as that does.
* `HeartLoop.beat_eq`      — a beat asks of the store what it asks in a rehearsal, and leaves the loop as
  it does there.
-/

namespace TopicMesh

open Rehearsal (Choice Connection Loop Phase Stream)

namespace ListenLoop

/-- The calls of an attempt to subscribe. -/
def connectCalls (l : ListenLoop) (s : Site) : List Rehearsal.Call :=
  match s.backend.subscribe (l.line.channel s.node) with
  | { result := .error _, .. } => [.subscribe]
  | { result := .ok _, backend } => [.subscribe, .connect (l.line.connect { s with backend }).1]

/-- The call for what the subscription has next. -/
def readCalls (l : ListenLoop) (s : Site) : List Rehearsal.Call :=
  match s.backend.bus.read (l.ticket.getD s.backend.bus.nextTicket) with
  | (.payload text, bus) =>
    [.payload text (l.line.handle text { s with backend := { s.backend with bus } }).1]
  | _ => []

/-- The calls of the next thing that the loop does. -/
def called (l : ListenLoop) (isCancelled : Bool) (s : Site) : List Rehearsal.Call :=
  if isCancelled then []
  else
    match l.state with
    | .connecting => l.connectCalls s
    | .listening => l.readCalls s
    | _ => []

/-- The loop makes some moves, each at some time and with the instance and the services as they are by
then. If there is a shutdown, the loop may learn of it before any move. -/
inductive Moves (isShutdown : Bool) : ListenLoop → List Rehearsal.Call → ListenLoop → Prop where
  | refl (l : ListenLoop) : Moves isShutdown l [] l
  | cons {l l' l'' : ListenLoop} {isCancelled : Bool} {time : Nat} {s s' : Site} {calls : List Rehearsal.Call} :
      (isCancelled = true → isShutdown = true) → l.move isCancelled time s = some (l', s') →
      Moves isShutdown l' calls l'' → Moves isShutdown l (l.called isCancelled s ++ calls) l''

/-- What can happen to a listening loop, and the calls in the course of it. -/
inductive Happens (isCancelled : Bool) : Listener → List Rehearsal.Call → Listener.Event → Prop where
  | refused (e : MeshError) : Happens isCancelled .connecting [.subscribe] .refused
  | connected (hook : Except MeshError Unit) :
      Happens isCancelled .connecting [.subscribe, .connect hook] (.connected hook)
  | handled (text : String) (result : Except MeshError Unit) :
      Happens isCancelled .listening [.payload text result] (.handled result)
  | lost : Happens isCancelled .listening [] .lost
  | rested : Happens isCancelled .resting [] .rested
  | cancelled {state : Listener} : isCancelled = true → (∀ result, state ≠ .stopped result) →
      Happens isCancelled state [] .cancelled

variable {l l' l'' : ListenLoop} {isCancelled isShutdown : Bool} {time : Nat} {s s' : Site}
  {calls calls' : List Rehearsal.Call}

theorem state_hangUp (l : ListenLoop) (s : Site) : (l.hangUp s).1.state = l.state := by
  rw [hangUp]
  split <;> rfl

theorem state_after (l : ListenLoop) (event : Listener.Event) (time : Nat) (s : Site) :
    (l.after event time s).1.state = l.state.step event := by
  rw [after]
  split
  · rfl
  · exact state_hangUp _ s
  · rfl

theorem state_of_after {event : Listener.Event} {state : Listener} (hl : l.state = state)
    (h : some (l.after event time s) = some (l', s')) : l'.state = state.step event := by
  rw [← hl, ← state_after l event time s, Option.some.inj h]

theorem connect_happens (hl : l.state = .connecting)
    (h : some (l.connect time s) = some (l', s')) :
    ∃ event, Happens isCancelled .connecting (l.connectCalls s) event
      ∧ l'.state = Listener.connecting.step event := by
  rw [connect] at h
  split at h
  · rename_i e backend heq
    rw [connectCalls, heq]
    exact ⟨.refused, .refused e, state_of_after hl h⟩
  · rename_i ticket backend heq
    rw [connectCalls, heq]
    exact ⟨_, .connected _, state_of_after (l := { l with ticket := some ticket }) hl h⟩

theorem readNext_happens (hl : l.state = .listening) (h : l.readNext time s = some (l', s')) :
    ∃ event, Happens isCancelled .listening (l.readCalls s) event
      ∧ l'.state = Listener.listening.step event := by
  rw [readNext] at h
  split at h
  · cases h
  · rename_i text bus heq
    rw [readCalls, heq]
    exact ⟨_, .handled text _, state_of_after hl h⟩
  · rename_i reading bus hpending hpayload heq
    rw [readCalls, heq]
    have hlost : l'.state = Listener.listening.step .lost :=
      state_of_after (l := { l with ticket := none }) hl h
    cases reading with
    | payload text => exact (hpayload text rfl).elim
    | pending => exact (hpending rfl).elim
    | lagged | ended => exact ⟨.lost, .lost, hlost⟩

/-- All that one move does to a loop. -/
theorem move_happens (h : l.move isCancelled time s = some (l', s')) :
    ∃ event, Happens isCancelled l.state (l.called isCancelled s) event
      ∧ l'.state = l.state.step event := by
  rw [move] at h
  rw [called]
  cases isCancelled with
  | true =>
    cases hstate : l.state with
    | stopped =>
      rw [hstate] at h
      cases h
    | connecting | listening | resting =>
      rw [hstate] at h
      exact ⟨.cancelled, .cancelled rfl nofun, state_of_after hstate h⟩
  | false =>
    cases hstate : l.state with
    | stopped =>
      rw [hstate] at h
      cases h
    | connecting =>
      rw [hstate] at h
      exact connect_happens hstate h
    | listening =>
      rw [hstate] at h
      exact readNext_happens hstate h
    | resting =>
      rw [hstate] at h
      dsimp only at h
      rw [if_neg Bool.false_ne_true] at h
      split at h
      · exact ⟨.rested, .rested, state_of_after ((state_hangUp l s).trans hstate) h⟩
      · cases h

/-- A rehearsed loop can go on with those calls and that result. -/
def Replays (isShutdown : Bool) (l : Loop) (calls : List Rehearsal.Call)
    (result : Option (Except MeshError Unit)) : Prop :=
  ∃ choices, (.trigger ∈ choices → isShutdown = true) ∧ .drop ∉ choices
    ∧ (l.run choices).calls = l.calls ++ calls ∧ (l.run choices).result? = result

/-- A rehearsed loop in that state can, against some script. -/
def Rehearsed (isShutdown : Bool) (state : Listener) (calls : List Rehearsal.Call)
    (result : Option (Except MeshError Unit)) : Prop :=
  ∃ stream script, ∀ earlier,
    Replays isShutdown { phase := .of stream state, script, calls := earlier } calls result

variable {state : Listener} {result : Option (Except MeshError Unit)} {event : Listener.Event}
  {made : List Rehearsal.Call}

theorem Replays.go {l : Loop} (h : Replays isShutdown (l.step .go) calls result)
    (hcalls : (l.step .go).calls = l.calls ++ made) :
    Replays isShutdown l (made ++ calls) result := by
  obtain ⟨choices, htrigger, hdrop, hrun, hresult⟩ := h
  refine ⟨.go :: choices, fun hmem => htrigger ?_, fun hmem => hdrop ?_, ?_, hresult⟩
  · exact (List.mem_cons.1 hmem).resolve_left nofun
  · exact (List.mem_cons.1 hmem).resolve_left nofun
  · rw [← List.append_assoc, ← hcalls]
    exact hrun

theorem Replays.pass {l : Loop} (hcalls : (l.step .go).calls = l.calls)
    (h : Replays isShutdown (l.step .go) calls result) : Replays isShutdown l calls result := by
  have hmade : (l.step .go).calls = l.calls ++ [] := hcalls.trans (List.append_nil _).symm
  exact h.go hmade

theorem Replays.call {l : Loop} {call : Rehearsal.Call}
    (hcalls : (l.step .go).calls = l.calls ++ [call])
    (h : Replays isShutdown (l.step .go) calls result) :
    Replays isShutdown l (call :: calls) result := h.go hcalls

theorem rehearsed_refl (isShutdown : Bool) (l : ListenLoop) :
    Rehearsed isShutdown l.state [] l.result? := by
  refine ⟨{}, [], fun earlier => ⟨[], nofun, nofun, (List.append_nil earlier).symm, ?_⟩⟩
  rw [result?]
  cases l.state <;> rfl

/-- The loop learns of the shutdown, after which nothing happens to it. -/
theorem rehearsed_cancelled (h : ∀ result, state ≠ .stopped result) :
    Rehearsed true state [] (some (.ok ())) := by
  refine ⟨{}, [], fun earlier => ⟨[.trigger, .quit], fun _ => rfl, by decide, ?_, ?_⟩⟩
  · cases state <;> exact (List.append_nil earlier).symm
  · cases state with
    | stopped result => exact absurd rfl (h result)
    | connecting | listening | resting => rfl

/-- The script of what is still to happen, with what happened before it. -/
theorem Rehearsed.cons (h : Rehearsed isShutdown (state.step event) calls result)
    (hmade : Happens isCancelled state made event) (hevent : event ≠ .cancelled) :
    Rehearsed isShutdown state (made ++ calls) result := by
  obtain ⟨stream, script, hrun⟩ := h
  cases hmade with
  | refused e =>
    refine ⟨stream, .refused e :: script, fun earlier => ?_⟩
    exact .call rfl (.pass rfl (hrun (earlier ++ [Rehearsal.Call.subscribe])))
  | connected hook =>
    refine ⟨stream, .opened hook stream :: script, fun earlier => ?_⟩
    have hrest := hrun (earlier ++ [Rehearsal.Call.subscribe] ++ [Rehearsal.Call.connect hook])
    exact .call rfl (.call rfl (.pass rfl hrest))
  | handled text outcome =>
    refine ⟨{ stream with items := ⟨0, .payload text outcome⟩ :: stream.items }, script,
      fun earlier => ?_⟩
    exact .call rfl (.pass rfl (hrun (earlier ++ [Rehearsal.Call.payload text outcome])))
  | lost => exact ⟨{}, script, fun earlier => .pass rfl (hrun earlier)⟩
  | rested => exact ⟨stream, script, fun earlier => .pass rfl (hrun earlier)⟩
  | cancelled => exact absurd rfl hevent

theorem Moves.of_stopped {result : Except MeshError Unit} (h : Moves isShutdown l calls l')
    (hl : l.state = .stopped result) : calls = [] ∧ l' = l := by
  cases h with
  | refl => exact ⟨rfl, rfl⟩
  | cons _ hmove =>
    rw [move, hl] at hmove
    cases hmove

theorem Moves.rehearsed (h : Moves isShutdown l calls l') :
    Rehearsed isShutdown l.state calls l'.result? := by
  induction h with
  | refl l => exact rehearsed_refl isShutdown l
  | @cons l l' l'' isCancelled time s s' calls hshutdown hmove hrest ih =>
    obtain ⟨event, hmade, hstate⟩ := move_happens hmove
    rw [hstate] at ih
    by_cases hevent : event = .cancelled
    · subst hevent
      generalize l.state = state, l.called isCancelled s = made at hmade hstate ⊢
      cases hmade with
      | cancelled hc hgoes =>
        have hstopped : l'.state = .stopped (.ok ()) := by
          rw [hstate]
          cases state with
          | stopped result => exact absurd rfl (hgoes result)
          | connecting | listening | resting => rfl
        obtain ⟨rfl, rfl⟩ := hrest.of_stopped hstopped
        rw [result?, hstopped, hshutdown hc]
        exact rehearsed_cancelled hgoes
    · exact ih.cons hmade hevent

/-- Whatever a listening loop of an instance does, a rehearsed loop does it against some script, so that
it keeps the same discipline. -/
theorem Moves.exists_run (h : Moves isShutdown l calls l') (hl : l.state = .connecting) :
    ∃ script choices, (.trigger ∈ choices → isShutdown = true) ∧ .drop ∉ choices
      ∧ ((Loop.start script).run choices).calls = calls
      ∧ ((Loop.start script).run choices).result? = l'.result? := by
  obtain ⟨stream, script, hrun⟩ := h.rehearsed
  rw [hl] at hrun
  obtain ⟨choices, htrigger, hdrop, hcalls, hresult⟩ := hrun []
  exact ⟨script, choices, htrigger, hdrop, hcalls, hresult⟩

theorem Moves.trans (h : Moves isShutdown l calls l') (h' : Moves isShutdown l' calls' l'') :
    Moves isShutdown l (calls ++ calls') l'' := by
  induction h with
  | refl => exact h'
  | cons hshutdown hmove _ ih =>
    rw [List.append_assoc]
    exact .cons hshutdown hmove (ih h')

theorem moves_of_move (h : l.move isCancelled time s = some (l', s')) :
    Moves isCancelled l (l.called isCancelled s) l' :=
  List.append_nil (l.called isCancelled s) ▸ .cons (fun hc => hc) h (.refl l')

theorem exists_moves_dial (l : ListenLoop) (isCancelled : Bool) (time : Nat) (s : Site) :
    ∃ calls, Moves isCancelled l calls (l.dial isCancelled time s).1 := by
  rw [dial]
  split
  · cases h : l.move isCancelled time s with
    | none => exact ⟨[], .refl l⟩
    | some moved => exact ⟨_, moves_of_move h⟩
  · exact ⟨[], .refl l⟩

theorem exists_moves_runFor (isCancelled : Bool) (time fuel : Nat) (l : ListenLoop) (s : Site) :
    ∃ calls, Moves isCancelled l calls (runFor isCancelled time fuel l s).1 := by
  induction fuel generalizing l s with
  | zero => exact ⟨[], .refl l⟩
  | succ fuel ih =>
    rw [runFor]
    obtain ⟨dialled, hdial⟩ := exists_moves_dial l isCancelled time s
    dsimp only
    split
    · exact ⟨dialled, hdial⟩
    · rename_i moved s' hmove
      obtain ⟨calls, hrest⟩ := ih moved s'
      exact ⟨_, hdial.trans ((moves_of_move hmove).trans hrest)⟩

/-- A turn of a listening loop is some moves of it. -/
theorem exists_moves_run (l : ListenLoop) (isCancelled : Bool) (time : Nat) (s : Site) :
    ∃ calls, Moves isCancelled l calls (l.run isCancelled time s).1 :=
  exists_moves_runFor isCancelled time turnLength l s

end ListenLoop

/-! ## The heartbeat loop -/

open Rehearsal (Beat beatOnce)

/-- The services after a heartbeat loop asked the store for something. -/
def Backend.after (b : Backend) : Beat → Backend
  | .heartbeat channel ttl => (b.heartbeat channel ttl).backend
  | .write change => (b.write change).backend

namespace Node

theorem broadcast_writes (own : String) (p : Proxy) (b : Backend) :
    (p.broadcast own b).backend
      = match p.pendingChange own with
        | .ok (some change) => b.after (.write change)
        | _ => b := by
  rw [Proxy.broadcast]
  cases p.pendingChange own with
  | error => rfl
  | ok change =>
    cases change with
    | none => rfl
    | some change =>
      dsimp only [Backend.after]
      split <;> rename_i heq <;> rw [heq]

theorem reannounceEntries_writes {own : String} {entries : List (String × Proxy)}
    {acc : Node × Backend} (hc : acc.1.channel = own) :
    (entries.foldl reannounceOne acc).2
      = ((((entries.map Prod.snd).filter fun p => p.isAttached).filterMap fun p =>
          match p.pendingChange own with
          | .ok change => change
          | .error _ => none).map Beat.write).foldl Backend.after acc.2 := by
  induction entries generalizing acc with
  | nil => rfl
  | cons e entries ih =>
    rw [List.foldl_cons, List.map_cons, List.filter_cons, reannounceOne]
    split
    · refine (@ih (acc.1.putBack e.1 _, _) hc).trans ?_
      dsimp only
      rw [hc, broadcast_writes, List.filterMap_cons]
      cases e.2.pendingChange own with
      | error => rfl
      | ok change => cases change <;> rfl
    · exact ih hc

theorem reannounce_writes (n : Node) (b : Backend) :
    (n.reannounce b).2 = (n.reannouncements.map Beat.write).foldl Backend.after b :=
  reannounceEntries_writes rfl

/-- A beat asks of the store what it asks in a rehearsal. -/
theorem backend_beat (n : Node) (hasJoined : Bool) (b : Backend) :
    (n.beat hasJoined b).backend
      = (beatOnce n hasJoined (b.heartbeat n.channel n.settings.channelTtl).result).foldl
          Backend.after b
      ∧ (n.beat hasJoined b).result = (b.heartbeat n.channel n.settings.channelTtl).result := by
  cases hresult : (b.heartbeat n.channel n.settings.channelTtl).result with
  | error e =>
    rw [beat_of_error rfl hresult]
    exact ⟨rfl, rfl⟩
  | ok pulse =>
    rw [beat_of_ok rfl hresult]
    unfold beatOnce
    dsimp only
    split
    · exact ⟨reannounce_writes n _, rfl⟩
    · exact ⟨rfl, rfl⟩

end Node

/-- A beat leaves the loop and the services as it does in a rehearsal where the heartbeat has the same
answer. -/
theorem HeartLoop.beat_eq {s : Site} {answer : Except MeshError Pulse}
    (h : (s.backend.heartbeat s.node.channel s.node.settings.channelTtl).result = answer)
    (l : HeartLoop) (isCancelled : Bool) (time : Nat) :
    (l.beat isCancelled time s).1 = l.after s.node.settings isCancelled time answer
      ∧ (l.beat isCancelled time s).2.backend
        = (beatOnce s.node l.hasJoined answer).foldl Backend.after s.backend := by
  obtain ⟨hbackend, hresult⟩ := s.node.backend_beat l.hasJoined s.backend
  subst h
  refine ⟨?_, hbackend⟩
  rw [beat, hresult]

end TopicMesh
