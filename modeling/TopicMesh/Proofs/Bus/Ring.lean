import Mathlib.Data.List.Forall2
import TopicMesh.Proofs.Bus.History
import TopicMesh.Table

/-!
# TopicMesh.Proofs.Bus.Ring

The bus that keeps each payload once. All receivers of a channel share one ring of slots and differ in
the position that they read next; a payload stays in its slot until a later one overwrites it. When the
connections are lost, the senders of all rings are dropped, and the next subscription to a channel
makes a new ring for it.

* `Ring.look_eq`             — what a receiver finds in a ring, from the log of all that was put into it.
* `Switchboard.history_eq`   — the rings and the queues of `Bus` answer every call alike.
-/

namespace TopicMesh

/-! ## One ring -/

/-- Slots for payloads, each with the position of the payload in it. -/
structure Ring where
  slots : Nat → Option (Nat × String) := fun _ => none
  /-- The position of the next payload. -/
  tail : Nat := 0

/-- What a receiver finds at the position that it reads next. -/
inductive Finding where
  | payload (text : String)
  /-- The payload there was overwritten, the first of so many. -/
  | overwritten (count : Nat)
  | nothing
deriving DecidableEq, Repr

namespace Ring

/-- The number of slots. -/
def size : Nat := 1024

theorem size_eq : size = 1024 := rfl

def push (r : Ring) (payload : String) : Ring where
  slots i := if i = r.tail % size then some (r.tail, payload) else r.slots i
  tail := r.tail + 1

/-- Looks into the slot of a position. One that holds the payload of a round before, or none at all, has
not been reached by the sender. -/
def look (r : Ring) (next : Nat) : Finding :=
  match r.slots (next % size) with
  | none => .nothing
  | some (position, text) =>
    if position = next then .payload text
    else if position + size = next then .nothing
    else .overwritten (r.tail - size - next)

/-- The ring after these payloads: the last ones are in their slots, and no slot was skipped. -/
structure Holds (r : Ring) (log : List String) : Prop where
  tail : r.tail = log.length
  kept : ∀ position text, log[position]? = some text → log.length ≤ position + size →
    r.slots (position % size) = some (position, text)
  unused : ∀ i, log.length ≤ i → i < size → r.slots i = none

theorem holds_nil : Holds {} [] where
  tail := rfl
  kept position text h := by cases h
  unused _ _ _ := rfl

theorem Holds.push {r : Ring} {log : List String} (h : r.Holds log) (payload : String) :
    (r.push payload).Holds (log ++ [payload]) where
  tail := by rw [Ring.push, h.tail, List.length_append, List.length_singleton]
  kept position text hp hl := by
    rw [List.length_append, List.length_singleton] at hl
    simp only [Ring.push, h.tail]
    have hlt : position < log.length + 1 := by
      obtain ⟨hlt, -⟩ := List.getElem?_eq_some_iff.1 hp
      rwa [List.length_append, List.length_singleton] at hlt
    rcases Nat.lt_succ_iff_lt_or_eq.1 hlt with hlt | heq
    · rw [List.getElem?_append_left hlt] at hp
      have hne : position % size ≠ log.length % size := by
        rw [size_eq] at hl ⊢
        omega
      rw [if_neg hne, h.kept position text hp (by omega)]
    · subst heq
      rw [List.getElem?_append_right (Nat.le_refl _), Nat.sub_self] at hp
      cases hp
      rw [if_pos rfl]
  unused i hl hi := by
    rw [List.length_append, List.length_singleton] at hl
    have hne : i ≠ log.length % size := by
      have hle := Nat.mod_le log.length size
      omega
    simp only [Ring.push, h.tail, if_neg hne]
    exact h.unused i (by omega) hi

/-- A receiver that is more than a round behind finds an overwritten payload, any other one the payload
at its position if there is one. -/
theorem Holds.look_eq {r : Ring} {log : List String} (h : r.Holds log) {next : Nat}
    (hn : next ≤ log.length) :
    (next + size < log.length ∧ r.look next = .overwritten (log.length - size - next))
    ∨ (log.length ≤ next + size
      ∧ ((∃ text, log[next]? = some text ∧ r.look next = .payload text)
        ∨ (next = log.length ∧ r.look next = .nothing))) := by
  have hsize := size_eq
  rcases Nat.lt_or_ge (next + size) log.length with hfar | hnear
  · -- the last position before the tail that falls into the same slot
    obtain ⟨position, hposition⟩ : ∃ p, p = next + 1024 * ((log.length - 1 - next) / 1024) := ⟨_, rfl⟩
    have hlt : position < log.length := by omega
    have hlast : log.length ≤ position + size := by omega
    have hslot : next % size = position % size := by
      rw [hposition, hsize, Nat.add_mul_mod_self_left]
    have hkept := h.kept position _ (List.getElem?_eq_getElem hlt) hlast
    refine .inl ⟨hfar, ?_⟩
    rw [Ring.look, hslot, hkept]
    simp only
    rw [if_neg (by omega), if_neg (by omega), h.tail]
  · refine .inr ⟨hnear, ?_⟩
    rcases Nat.lt_or_eq_of_le hn with hlt | rfl
    · have hkept := h.kept next _ (List.getElem?_eq_getElem hlt) hnear
      refine .inl ⟨_, List.getElem?_eq_getElem hlt, ?_⟩
      rw [Ring.look, hkept]
      simp only [if_true]
    · refine .inr ⟨rfl, ?_⟩
      rcases Nat.lt_or_ge log.length size with hfirst | hround
      · rw [Ring.look, Nat.mod_eq_of_lt hfirst, h.unused _ (Nat.le_refl _) hfirst]
      · have hlt : log.length - size < log.length := by omega
        have hslot : log.length % size = (log.length - size) % size := Nat.mod_eq_sub_mod hround
        have hkept := h.kept (log.length - size) _ (List.getElem?_eq_getElem hlt) (by omega)
        rw [Ring.look, hslot, hkept]
        simp only
        rw [if_neg (by omega), if_pos (by omega)]

end Ring

/-! ## The switchboard -/

structure Receiver where
  ticket : Nat
  channel : String
  /-- The number of its ring. -/
  ring : Nat
  /-- The position that it reads next. -/
  next : Nat
deriving DecidableEq, Repr

structure Switchboard where
  /-- The rings that were made, by number; `ringCount` of them. -/
  rings : Nat → Ring := fun _ => {}
  ringCount : Nat := 0
  /-- The ring of each channel that has a sender. -/
  senders : Table Nat := .empty
  receivers : List Receiver := []
  nextTicket : Nat := 0

namespace Switchboard

open Bus (Act Event)

def push (w : Switchboard) (ring : Nat) (payload : String) : Switchboard :=
  { w with rings := fun i => if i = ring then (w.rings ring).push payload else w.rings i }

/-- Puts a payload into the ring of a channel if somebody receives from it; says how many. -/
def publish (w : Switchboard) (channel payload : String) : Nat × Switchboard :=
  match w.senders.find? channel with
  | none => (0, w)
  | some i =>
    match w.receivers.countP fun r => r.ring = i with
    | 0 => (0, w)
    | n + 1 => (n + 1, w.push i payload)

/-- The ring of a channel, a new one if there is none. -/
def ringOf (w : Switchboard) (channel : String) : Nat × Switchboard :=
  match w.senders.find? channel with
  | some i => (i, w)
  | none =>
    (w.ringCount,
      { w with ringCount := w.ringCount + 1, senders := w.senders.insert channel w.ringCount })

def subscribe (w : Switchboard) (channel : String) : Nat × Switchboard :=
  let (ring, w) := w.ringOf channel
  (w.nextTicket,
    { w with
      receivers := w.receivers ++ [{ ticket := w.nextTicket, channel, ring, next := (w.rings ring).tail }]
      nextTicket := w.nextTicket + 1 })

def drop (w : Switchboard) (ticket : Nat) : Switchboard :=
  { w with receivers := w.receivers.filter fun r => r.ticket ≠ ticket }

def update (w : Switchboard) (receiver : Receiver) : Switchboard :=
  { w with receivers := w.receivers.map fun r => if r.ticket = receiver.ticket then receiver else r }

/-- What a receiver has next. What was overwritten is reported before the end, and the report is the
last thing it has. -/
def read (w : Switchboard) (ticket : Nat) : Reading × Switchboard :=
  match w.receivers.find? fun r => r.ticket = ticket with
  | none => (.ended, w)
  | some r =>
    match (w.rings r.ring).look r.next with
    | .payload text => (.payload text, w.update { r with next := r.next + 1 })
    | .overwritten count => (.lagged (.lagged r.channel count), w.drop ticket)
    | .nothing =>
      if w.senders.values.contains r.ring then (.pending, w) else (.ended, w.drop ticket)

def disconnectAll (w : Switchboard) : Switchboard := { w with senders := .empty }

def perform (w : Switchboard) : Act → Event × Switchboard
  | .publish channel payload =>
    (.published channel payload (w.publish channel payload).1, (w.publish channel payload).2)
  | .subscribe channel => (.subscribed channel (w.subscribe channel).1, (w.subscribe channel).2)
  | .read ticket => (.read ticket (w.read ticket).1, (w.read ticket).2)
  | .drop ticket => (.dropped ticket, w.drop ticket)
  | .disconnectAll => (.disconnected, w.disconnectAll)

/-! ## Queues and rings -/

/-- A queue with what can be read of a log from a position on. -/
structure Remains (log : List String) (next : Nat) (s : Subscription) : Prop where
  next_le : next ≤ log.length
  lost : s.lost = log.length - Ring.size - next
  waiting : s.waiting = log.drop (max next (log.length - Ring.size))

/-- The queue of a subscription is what its receiver can still read, and the ring of the receiver serves
no other channel. -/
structure Tracks (w : Switchboard) (s : Subscription) (r : Receiver) : Prop where
  ticket : s.ticket = r.ticket
  channel : s.channel = r.channel
  isConnected : s.isConnected = true ↔ w.senders.find? r.channel = some r.ring
  queue : ∃ log, (w.rings r.ring).Holds log ∧ Remains log r.next s
  ring_lt : r.ring < w.ringCount
  channel_eq : ∀ channel, w.senders.find? channel = some r.ring → channel = r.channel

/-- The switchboard has a receiver for each subscription, and one ring for each channel. -/
structure Serves (w : Switchboard) (b : Bus) : Prop where
  nextTicket : w.nextTicket = b.nextTicket
  tracks : List.Forall₂ w.Tracks b.subscriptions w.receivers
  holds : ∀ i, ∃ log, (w.rings i).Holds log
  sender_lt : ∀ channel i, w.senders.find? channel = some i → i < w.ringCount
  channel_inj : ∀ channel other i, w.senders.find? channel = some i →
    w.senders.find? other = some i → channel = other

section Simulation

variable {w : Switchboard} {b : Bus} {s : Subscription} {r : Receiver} {log : List String}
  {next ticket : Nat} {channel payload : String}

theorem serves_empty : Serves {} {} where
  nextTicket := rfl
  tracks := .nil
  holds _ := ⟨[], Ring.holds_nil⟩
  sender_lt _ _ h := nomatch h
  channel_inj _ _ _ h := nomatch h

theorem Remains.receive (h : Remains log next s) (payload : String) :
    Remains (log ++ [payload]) next (s.receive payload) := by
  obtain ⟨hn, hl, hw⟩ := h
  have hlength : s.waiting.length = log.length - max next (log.length - Ring.size) := by
    rw [hw, List.length_drop]
  have hsize : Subscription.backlog = Ring.size := rfl
  have hpos : 0 < Ring.size := by decide
  rw [Subscription.receive, hsize, hlength]
  split
  · rename_i hroom
    have hstart : max next (log.length + 1 - Ring.size) = max next (log.length - Ring.size) := by omega
    refine ⟨?_, ?_, ?_⟩ <;> simp only [List.length_append, List.length_singleton]
    · omega
    · omega
    · rw [hstart, hw, List.drop_append_of_le_length (by omega)]
  · rename_i hfull
    have hstart : max next (log.length + 1 - Ring.size) = max next (log.length - Ring.size) + 1 := by
      omega
    refine ⟨?_, ?_, ?_⟩ <;> simp only [List.length_append, List.length_singleton]
    · omega
    · omega
    · rw [hstart, hw, List.drop_drop, List.drop_append_of_le_length (by omega)]

/-- A subscription hears a channel if its receiver is at the ring that the channel has now. -/
theorem Tracks.hears_iff (h : w.Tracks s r) (channel : String) :
    s.hears channel = true ↔ w.senders.find? channel = some r.ring := by
  rw [Subscription.hears, Bool.and_eq_true, beq_iff_eq, h.isConnected, h.channel]
  constructor
  · rintro ⟨hf, rfl⟩
    exact hf
  · intro hf
    cases h.channel_eq channel hf
    exact ⟨hf, rfl⟩

/-- A ring that no channel has any more gets nothing. -/
theorem Tracks.isConnected_iff (h : w.Tracks s r) :
    s.isConnected = true ↔ w.senders.values.contains r.ring = true := by
  rw [h.isConnected, List.contains_iff_mem, Table.values, List.mem_map]
  constructor
  · intro hf
    exact ⟨(r.channel, r.ring), (Table.mem_entries_iff _ _ _).2 hf, rfl⟩
  · rintro ⟨⟨channel, ring⟩, hm, hring⟩
    cases hring
    have hf := (Table.mem_entries_iff _ _ _).1 hm
    rwa [← h.channel_eq channel hf]

theorem Serves.subscriberCount_eq (h : w.Serves b) (channel : String) :
    b.subscriberCount channel
      = w.receivers.countP fun r => w.senders.find? channel = some r.ring := by
  rw [Bus.subscriberCount, List.countP_eq_length_filter, List.countP_eq_length_filter]
  have hrel := List.rel_filter (R := w.Tracks)
    (fun _ _ hr => (hr.hears_iff channel).trans decide_eq_true_iff.symm) h.tracks
  exact hrel.length_eq

theorem receive_fields (s : Subscription) (payload : String) :
    (s.receive payload).ticket = s.ticket ∧ (s.receive payload).channel = s.channel
      ∧ (s.receive payload).isConnected = s.isConnected := by
  rw [Subscription.receive]
  split <;> exact ⟨rfl, rfl, rfl⟩

theorem Tracks.push (h : w.Tracks s r) {ring : Nat} (hring : w.senders.find? channel = some ring)
    (payload : String) :
    (w.push ring payload).Tracks (if s.hears channel then s.receive payload else s) r := by
  obtain ⟨log, hlog, hq⟩ := h.queue
  by_cases heq : r.ring = ring
  · have hhears : s.hears channel = true := (h.hears_iff channel).2 (heq ▸ hring)
    obtain ⟨hticket, hchannel, hconnected⟩ := receive_fields s payload
    have hrings : (w.push ring payload).rings r.ring = (w.rings r.ring).push payload := by
      rw [Switchboard.push, heq]
      exact if_pos rfl
    rw [if_pos hhears]
    refine ⟨hticket.trans h.ticket, hchannel.trans h.channel, ?_, ⟨log ++ [payload], ?_, hq.receive _⟩,
      h.ring_lt, h.channel_eq⟩
    · rw [hconnected]
      exact h.isConnected
    · rw [hrings]
      exact hlog.push payload
  · have hhears : ¬s.hears channel = true := by
      rw [h.hears_iff, hring]
      exact fun hs => heq (Option.some.inj hs).symm
    have hrings : (w.push ring payload).rings r.ring = w.rings r.ring := if_neg heq
    rw [if_neg hhears]
    refine ⟨h.ticket, h.channel, h.isConnected, ⟨log, ?_, hq⟩, h.ring_lt, h.channel_eq⟩
    rw [hrings]
    exact hlog

theorem Serves.publish (h : w.Serves b) (channel payload : String) :
    (w.publish channel payload).1 = b.subscriberCount channel
      ∧ (w.publish channel payload).2.Serves (b.publish channel payload) := by
  have hcount := h.subscriberCount_eq channel
  -- without a receiver the payload is kept nowhere, by the queues no more than by the rings
  have hidle (hzero : b.subscriberCount channel = 0) : w.Serves (b.publish channel payload) := by
    have hid : ∀ s ∈ b.subscriptions, (if s.hears channel then s.receive payload else s) = s :=
      fun s hs => if_neg (List.countP_eq_zero.1 hzero s hs)
    rw [Bus.publish, List.map_congr_left hid, List.map_id']
    exact h
  rw [Switchboard.publish]
  cases hring : w.senders.find? channel with
  | none =>
    have hzero : b.subscriberCount channel = 0 := by
      rw [hcount, hring, List.countP_eq_zero]
      intro _ _ he
      cases of_decide_eq_true he
    exact ⟨hzero.symm, hidle hzero⟩
  | some ring =>
    have hsame : (w.receivers.countP fun r => r.ring = ring) = b.subscriberCount channel := by
      rw [hcount, hring]
      refine List.countP_congr fun r _ => ?_
      rw [decide_eq_true_iff, decide_eq_true_iff, Option.some.injEq, eq_comm]
    simp only [hsame]
    cases hn : b.subscriberCount channel with
    | zero => exact ⟨rfl, hidle hn⟩
    | succ n =>
      refine ⟨rfl, h.nextTicket, ?_, fun i => ?_, h.sender_lt, h.channel_inj⟩
      · rw [Bus.publish, List.forall₂_map_left_iff]
        exact h.tracks.imp fun s r ht => ht.push hring payload
      · by_cases hi : i = ring
        · obtain ⟨log, hlog⟩ := h.holds ring
          exact ⟨_, by simpa only [Switchboard.push, if_pos hi] using hlog.push payload⟩
        · simpa only [Switchboard.push, if_neg hi] using h.holds i

/-- The ring of a channel serves that channel and no other one. -/
theorem Serves.ringOf (h : w.Serves b) (channel : String) :
    (w.ringOf channel).2.Serves b
      ∧ (w.ringOf channel).2.senders.find? channel = some (w.ringOf channel).1 := by
  rw [Switchboard.ringOf]
  cases hring : w.senders.find? channel with
  | some ring => exact ⟨h, hring⟩
  | none =>
    have hsenders (other : String) (i : Nat)
        (hf : (w.senders.insert channel w.ringCount).find? other = some i) :
        (other = channel ∧ i = w.ringCount) ∨ (w.senders.find? other = some i ∧ i < w.ringCount) := by
      rw [Table.find?_insert] at hf
      split at hf
      · rename_i heq
        exact .inl ⟨heq.symm, (Option.some.inj hf).symm⟩
      · exact .inr ⟨hf, h.sender_lt other i hf⟩
    refine ⟨⟨h.nextTicket, ?_, h.holds, ?_, ?_⟩, Table.find?_insert_self _ _ _⟩
    · refine h.tracks.imp fun s r ht => ⟨ht.ticket, ht.channel, ?_, ht.queue,
        Nat.lt_succ_of_lt ht.ring_lt, ?_⟩
      · rw [ht.isConnected, Table.find?_insert]
        split
        · rename_i heq
          have hlt := ht.ring_lt
          rw [← heq, hring]
          exact ⟨nofun, fun he => absurd (Option.some.inj he).symm (Nat.ne_of_lt hlt)⟩
        · exact Iff.rfl
      · intro other hf
        rcases hsenders other _ hf with ⟨-, heq⟩ | ⟨hf, -⟩
        · exact absurd heq (Nat.ne_of_lt ht.ring_lt)
        · exact ht.channel_eq other hf
    · intro other i hf
      rcases hsenders other i hf with ⟨-, rfl⟩ | ⟨-, hlt⟩
      · exact Nat.lt_succ_self _
      · exact Nat.lt_succ_of_lt hlt
    · intro first other i hf hf'
      rcases hsenders first i hf with ⟨rfl, rfl⟩ | ⟨hf, hlt⟩ <;>
        rcases hsenders other _ hf' with ⟨rfl, hi⟩ | ⟨hf', hlt'⟩
      · rfl
      · exact absurd hlt' (Nat.lt_irrefl _)
      · exact absurd hi (Nat.ne_of_lt hlt)
      · exact h.channel_inj first other i hf hf'

theorem nextTicket_ringOf (w : Switchboard) (channel : String) :
    (w.ringOf channel).2.nextTicket = w.nextTicket := by
  rw [Switchboard.ringOf]
  split <;> rfl

/-- Who receives, and what of, is asked of the rings and of the senders alone. -/
theorem Serves.of_tracks {w' : Switchboard} {b' : Bus} (h : w.Serves b) (hrings : w'.rings = w.rings)
    (hcount : w'.ringCount = w.ringCount) (hsenders : w'.senders = w.senders)
    (hticket : w'.nextTicket = b'.nextTicket)
    (htracks : List.Forall₂ w.Tracks b'.subscriptions w'.receivers) : w'.Serves b' := by
  obtain ⟨rings, ringCount, senders, receivers, nextTicket⟩ := w'
  cases hrings
  cases hcount
  cases hsenders
  refine ⟨hticket, htracks.imp fun s r ht => ?_, h.holds, h.sender_lt, h.channel_inj⟩
  exact ⟨ht.ticket, ht.channel, ht.isConnected, ht.queue, ht.ring_lt, ht.channel_eq⟩

theorem Serves.subscribe (h : w.Serves b) (channel : String) :
    (w.subscribe channel).1 = (b.subscribe channel).1
      ∧ (w.subscribe channel).2.Serves (b.subscribe channel).2 := by
  obtain ⟨hs, hring⟩ := h.ringOf channel
  have hticket := (nextTicket_ringOf w channel).trans h.nextTicket
  refine ⟨hticket, ?_⟩
  rw [Switchboard.subscribe, Bus.subscribe]
  generalize w.ringOf channel = opened at hs hring hticket ⊢
  obtain ⟨ring, w'⟩ := opened
  obtain ⟨log, hlog⟩ := hs.holds ring
  have hqueue : Remains log (w'.rings ring).tail { ticket := b.nextTicket, channel := channel } := by
    refine ⟨Nat.le_of_eq hlog.tail, ?_, ?_⟩
    · rw [hlog.tail]
      exact (Nat.sub_eq_zero_of_le (Nat.sub_le _ _)).symm
    · rw [hlog.tail, Nat.max_eq_left (Nat.sub_le _ _), List.drop_length]
  refine hs.of_tracks rfl rfl rfl (congrArg (· + 1) hticket) (List.rel_append hs.tracks (.cons ?_ .nil))
  exact ⟨hticket.symm, rfl, ⟨fun _ => hring, fun _ => rfl⟩, ⟨log, hlog, hqueue⟩,
    hs.sender_lt channel ring hring, fun other hf => hs.channel_inj other channel ring hf hring⟩

/-- Receivers that are left out are left out with their subscriptions. -/
theorem Serves.drop (h : w.Serves b) (ticket : Nat) : (w.drop ticket).Serves (b.unsubscribe ticket) :=
  h.of_tracks rfl rfl rfl h.nextTicket
    (List.rel_filter (fun _ _ hr => by simp only [hr.ticket]) h.tracks)

/-- Nobody can send to a ring that all have left. -/
theorem find?_disconnectAll_ne (w : Switchboard) (channel : String) (ring : Nat) :
    w.disconnectAll.senders.find? channel ≠ some ring := by
  intro h
  cases h

theorem Serves.disconnectAll (h : w.Serves b) : w.disconnectAll.Serves b.disconnectAll where
  nextTicket := h.nextTicket
  tracks := by
    rw [Bus.disconnectAll, List.forall₂_map_left_iff]
    refine h.tracks.imp fun s r ht => ?_
    obtain ⟨log, hlog, hn, hl, hq⟩ := ht.queue
    exact ⟨ht.ticket, ht.channel, iff_of_false Bool.false_ne_true (w.find?_disconnectAll_ne _ _),
      ⟨log, hlog, hn, hl, hq⟩, ht.ring_lt, fun _ hf => absurd hf (w.find?_disconnectAll_ne _ _)⟩
  holds := h.holds
  sender_lt _ _ hf := absurd hf (w.find?_disconnectAll_ne _ _)
  channel_inj _ _ _ hf := absurd hf (w.find?_disconnectAll_ne _ _)

theorem Serves.update (h : w.Serves b) (ht : w.Tracks s r) : (w.update r).Serves (b.update s) := by
  refine h.of_tracks rfl rfl rfl h.nextTicket ?_
  rw [Bus.update, Switchboard.update, List.forall₂_map_left_iff, List.forall₂_map_right_iff]
  refine h.tracks.imp fun s' r' ht' => ?_
  rw [ht'.ticket, ht.ticket]
  split
  · exact ht
  · exact ht'

theorem Serves.find? (h : w.Serves b) (ticket : Nat) :
    (b.find? ticket = none ∧ (w.receivers.find? fun r => r.ticket = ticket) = none)
    ∨ ∃ s r, b.find? ticket = some s ∧ (w.receivers.find? fun r => r.ticket = ticket) = some r
      ∧ w.Tracks s r := by
  have hrel : List.Forall₂ w.Tracks (b.subscriptions.filter fun s => s.ticket = ticket)
      (w.receivers.filter fun r => r.ticket = ticket) :=
    List.rel_filter (fun _ _ hr => by simp only [hr.ticket]) h.tracks
  rw [Bus.find?, ← List.head?_filter, ← List.head?_filter]
  generalize b.subscriptions.filter _ = ss at hrel ⊢
  generalize w.receivers.filter _ = rs at hrel ⊢
  cases hrel with
  | nil => exact .inl ⟨rfl, rfl⟩
  | cons ht _ => exact .inr ⟨_, _, rfl, rfl, ht⟩

/-- A receiver finds in its ring what its queue has next. -/
theorem Serves.read (h : w.Serves b) (ticket : Nat) :
    (w.read ticket).1 = (b.read ticket).1 ∧ (w.read ticket).2.Serves (b.read ticket).2 := by
  rcases h.find? ticket with ⟨hb, hw⟩ | ⟨s, r, hb, hw, ht⟩
  · rw [Bus.read_of_none hb, Switchboard.read, hw]
    exact ⟨rfl, h⟩
  · obtain ⟨log, hlog, hn, hl, hq⟩ := ht.queue
    rw [Switchboard.read, hw]
    simp only
    rcases hlog.look_eq hn with ⟨hfar, hlook⟩ | ⟨hnear, ⟨text, htext, hlook⟩ | ⟨hend, hlook⟩⟩
    · rw [hlook, Bus.read_of_lost hb (by omega), hl, ht.channel]
      exact ⟨rfl, h.drop ticket⟩
    · have hzero : log.length - Ring.size - r.next = 0 := by omega
      obtain ⟨hlt, hget⟩ := List.getElem?_eq_some_iff.1 htext
      have hwaiting : s.waiting = text :: log.drop (r.next + 1) := by
        rw [hq, Nat.max_eq_left (by omega), List.drop_eq_getElem_cons hlt, hget]
      rw [hlook, Bus.read_of_waiting hb (hl.trans hzero) hwaiting]
      have hrest : Remains log (r.next + 1) { s with waiting := log.drop (r.next + 1) } := by
        have hzero' : log.length - Ring.size - (r.next + 1) = 0 := by omega
        refine ⟨hlt, ?_, ?_⟩
        · rw [hzero', ← hzero, ← hl]
        · rw [Nat.max_eq_left (by omega)]
      exact ⟨rfl, h.update
        ⟨ht.ticket, ht.channel, ht.isConnected, ⟨log, hlog, hrest⟩, ht.ring_lt, ht.channel_eq⟩⟩
    · have hzero : log.length - Ring.size - r.next = 0 := by omega
      have hwaiting : s.waiting = [] := by
        rw [hq, Nat.max_eq_left (by omega), hend, List.drop_length]
      rw [hlook, Bus.read_of_idle hb (hl.trans hzero) hwaiting]
      simp only [← ht.isConnected_iff]
      split
      · exact ⟨rfl, h⟩
      · exact ⟨rfl, h.drop ticket⟩

theorem Serves.perform (h : w.Serves b) (act : Act) :
    (w.perform act).1 = (b.perform act).1 ∧ (w.perform act).2.Serves (b.perform act).2 := by
  cases act with
  | publish channel payload =>
    obtain ⟨hreached, hs⟩ := h.publish channel payload
    exact ⟨congrArg _ hreached, hs⟩
  | subscribe channel =>
    obtain ⟨hticket, hs⟩ := h.subscribe channel
    exact ⟨congrArg _ hticket, hs⟩
  | read ticket =>
    obtain ⟨hreading, hs⟩ := h.read ticket
    exact ⟨congrArg _ hreading, hs⟩
  | drop ticket => exact ⟨rfl, h.drop ticket⟩
  | disconnectAll => exact ⟨rfl, h.disconnectAll⟩

theorem serves_history (acts : List Act) :
    (Bus.history perform {} acts).1 = Bus.events acts
      ∧ (Bus.history perform {} acts).2.Serves (Bus.after acts) := by
  induction acts with
  | nil => exact ⟨rfl, serves_empty⟩
  | cons act earlier ih =>
    obtain ⟨hevents, hs⟩ := ih
    obtain ⟨hevent, hs⟩ := hs.perform act
    exact ⟨congrArg₂ List.cons hevent hevents, hs⟩

end Simulation

/-- Rings and queues answer every call alike. -/
theorem history_eq (acts : List Act) : (Bus.history perform {} acts).1 = Bus.events acts :=
  (serves_history acts).1

end Switchboard

namespace Bus

/-- No gap is hidden. Whatever calls are made, on shared rings as on queues, a subscription receives what
was published for it, in order and from the start; it reads the next payload, unless payloads were
overwritten, which it reads in their place; and one that is over receives nothing more, one that was cut
off is offered nothing more. -/
theorem gap_reported (acts : List Act) (ticket : Nat) :
    (history Switchboard.perform {} acts).1 = events acts
      ∧ received ticket (events acts) <+: offered ticket (events acts)
      ∧ ((after acts).read ticket).1 = next ticket (events acts)
      ∧ ∀ channel, channel? ticket (events acts) = some channel → ∀ later,
        (isCut ticket (events acts) = true →
          offered ticket (events (later ++ acts)) = offered ticket (events acts))
        ∧ (isOver ticket (events acts) = true →
          received ticket (events (later ++ acts)) = received ticket (events acts)) := by
  refine ⟨Switchboard.history_eq acts, (reflects_history acts).isPrefix ticket,
    read_eq_next acts ticket, fun channel hc later => ?_⟩
  obtain ⟨-, hcut, hover⟩ := lasting_history hc later
  exact ⟨fun h => (hcut h).2, fun h => (hover h).2⟩

/-- What was waiting when the connections were lost is read before the end; what is published then is for
the second subscription. -/
theorem gap_reported_across_disconnect :
    let acts := [.read 0, .publish "a" "three", .subscribe "a", .read 0, .disconnectAll,
      .publish "a" "two", .read 0, .publish "a" "one", .subscribe "a"]
    let later := [.read 1, .read 0, .publish "a" "four"]
    (isCut 0 (events acts) = true ∧ isOver 0 (events acts) = true)
      ∧ (offered 0 (events acts) = ["one", "two"] ∧ received 0 (events acts) = ["one", "two"])
      ∧ received 0 (events (later ++ acts)) = ["one", "two"]
      ∧ received 1 (events (later ++ acts)) = ["three"] := by
  intro acts later
  obtain ⟨-, -, -, hlasting⟩ := gap_reported acts 0
  exact ⟨by decide, by decide, (hlasting "a" rfl later).2 rfl, by decide⟩

end Bus

end TopicMesh
