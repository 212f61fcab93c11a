import TopicMesh.Proofs.Node.Delivery

/-!
# TopicMesh.Proofs.Client

The account of one attached client: what becomes of each message that is handed to it, whichever way the
message comes and whenever the connection takes messages out.

* `Client.Act`, `Client.after`   — the calls that concern one client, and what they make of it.
* `Client.account`               — one call: a message that is handed over is queued last or counted as
  dropped, and those that are taken out were the oldest.
* `Session.perform`              — the same calls by way of the client's proxy.
* `Session.Balanced`             — the account after a run of calls, kept by one more
  (`Balanced.perform`).
* `Session.deliveries_accounted` — what it says of all runs.
-/

namespace TopicMesh

namespace Client

/-- Takes out the oldest messages, at most `limit` if there is a limit, also after the receiver was
closed. -/
def drain (c : Client) (limit : Option Nat) : List Message × Client :=
  let n := limit.getD c.queue.length
  (c.queue.take n, { c with queue := c.queue.drop n })

inductive Act where
  /-- A message is sent through the proxy. -/
  | send (m : Message)
  /-- A message that another instance relayed is handed over. -/
  | relay (m : Message)
  | receive (limit : Option Nat)
  | drain (limit : Option Nat)
  /-- The receiver is closed. -/
  | close
  | discard
deriving DecidableEq

def Act.message? : Act → Option Message
  | .send m | .relay m => some m
  | .receive _ | .drain _ | .close | .discard => none

/-- The client after a call. -/
def after (c : Client) : Act → Client
  | .send m | .relay m => c.deliver m
  | .receive limit => (c.receive limit).2
  | .drain limit => (c.drain limit).2
  | .close => c.close
  | .discard => c.discard

/-- The messages that a call takes out. -/
def taken (c : Client) : Act → List Message
  | .receive limit => (c.receive limit).1
  | .drain limit => (c.drain limit).1
  | .send _ | .relay _ | .close | .discard => []

/-- The message that a call hands over. -/
def handed? (c : Client) (act : Act) : Option Message :=
  if c.isDiscarded then none else act.message?

/-! ## One call -/

section Calls

variable {c : Client}

theorem receive_of_isOpen (h : c.isOpen = true) (limit : Option Nat) :
    c.receive limit = c.drain limit := by
  rw [receive, if_pos h, drain]

theorem receive_of_closed (h : c.isOpen = false) (limit : Option Nat) : c.receive limit = ([], c) := by
  rw [receive, if_neg (by simp [h])]

theorem send_of_accepts (h : c.accepts = true) (m : Message) :
    c.send m = { c with queue := c.queue ++ [m] } := by
  rw [send, if_pos h]

theorem send_of_not_accepts (h : c.accepts = false) (m : Message) :
    c.send m = { c with dropped := c.dropped + 1 } := by
  rw [send, if_neg (by simp [h])]

/-- What becomes of the messages of a client in a call. -/
inductive Account (c : Client) (act : Act) : Prop where
  | kept (hqueue : c.taken act ++ (c.after act).queue = c.queue ++ (c.handed? act).toList)
    (hdropped : (c.after act).dropped = c.dropped)
    (haccepts : c.handed? act ≠ none → c.accepts = true)
  | dropped {m : Message} (hm : c.handed? act = some m) (haccepts : c.accepts = false)
    (htaken : c.taken act = []) (hqueue : (c.after act).queue = c.queue)
    (hdropped : (c.after act).dropped = c.dropped + 1)

/-- Nothing is handed over or taken out. -/
theorem account_idle {act : Act} (hnone : c.handed? act = none) (htaken : c.taken act = [])
    (hqueue : (c.after act).queue = c.queue) (hdropped : (c.after act).dropped = c.dropped) :
    c.Account act := by
  refine .kept ?_ hdropped (absurd hnone)
  rw [htaken, hqueue, hnone]
  simp

theorem account_deliver {act : Act} {m : Message} (hafter : c.after act = c.deliver m)
    (htaken : c.taken act = []) (hm : act.message? = some m) : c.Account act := by
  cases hd : c.isDiscarded with
  | true =>
    rw [deliver_of_discarded hd] at hafter
    exact account_idle (by rw [handed?, if_pos hd]) htaken (by rw [hafter]) (by rw [hafter])
  | false =>
    have hsome : c.handed? act = some m := by rw [handed?, if_neg (by simp [hd]), hm]
    rw [deliver_of_kept hd] at hafter
    cases ha : c.accepts with
    | true =>
      rw [send_of_accepts ha] at hafter
      refine .kept ?_ (by rw [hafter]) fun _ => ha
      rw [htaken, hafter, hsome]
      rfl
    | false =>
      rw [send_of_not_accepts ha] at hafter
      exact .dropped hsome ha htaken (by rw [hafter]) (by rw [hafter])

theorem handed?_eq_none {act : Act} (h : act.message? = none) : c.handed? act = none := by
  rw [handed?, h, ite_self]

theorem account_drain {act : Act} {limit : Option Nat} (hafter : c.after act = (c.drain limit).2)
    (htaken : c.taken act = (c.drain limit).1) (hm : act.message? = none) : c.Account act := by
  have hnone := handed?_eq_none (c := c) hm
  refine .kept ?_ (by rw [hafter, drain]) (absurd hnone)
  rw [htaken, hafter, hnone]
  simp [drain]

theorem account (c : Client) (act : Act) : c.Account act := by
  cases act with
  | send m => exact account_deliver rfl rfl rfl
  | relay m => exact account_deliver rfl rfl rfl
  | receive limit =>
    cases ho : c.isOpen with
    | true =>
      have hreceive := receive_of_isOpen ho limit
      exact account_drain (congrArg Prod.snd hreceive) (congrArg Prod.fst hreceive) rfl
    | false =>
      have hreceive := receive_of_closed ho limit
      refine account_idle (handed?_eq_none rfl) (congrArg Prod.fst hreceive) ?_ ?_
      · rw [after, hreceive]
      · rw [after, hreceive]
  | drain limit => exact account_drain rfl rfl rfl
  | close => exact account_idle (handed?_eq_none rfl) rfl rfl rfl
  | discard => exact account_idle (handed?_eq_none rfl) rfl rfl rfl

/-- Apart from its messages, a call only closes the receiver, for good, or gives up on the client. -/
theorem after_frame (c : Client) (act : Act) :
    c.after act = { c with
      queue := (c.after act).queue
      dropped := (c.after act).dropped
      isOpen := c.isOpen && decide (act ≠ .close)
      isDiscarded := c.isDiscarded || decide (act = .discard) } := by
  have hdeliver (m : Message) : c.deliver m
      = { c with queue := (c.deliver m).queue, dropped := (c.deliver m).dropped } := by
    unfold deliver send
    split
    · rfl
    · split <;> rfl
  have hreceive (limit : Option Nat) : (c.receive limit).2
      = { c with queue := (c.receive limit).2.queue, dropped := (c.receive limit).2.dropped } := by
    unfold receive
    split <;> rfl
  cases act with
  | send m => simpa [after] using hdeliver m
  | relay m => simpa [after] using hdeliver m
  | receive limit => simpa [after] using hreceive limit
  | drain limit => simp [after, drain]
  | close => simp [after, close]
  | discard => simp [after, discard]

/-- A message is only queued if there is room. -/
theorem length_after_le {act : Act} (h : c.queue.length ≤ c.capacity) :
    (c.after act).queue.length ≤ c.capacity := by
  cases c.account act with
  | kept hqueue _ haccepts =>
    have hlength := congrArg List.length hqueue
    simp only [List.length_append] at hlength
    cases hm : c.handed? act with
    | none =>
      rw [hm, Option.toList_none, List.length_nil] at hlength
      omega
    | some m =>
      have hroom := haccepts (by simp [hm])
      rw [accepts, Bool.and_eq_true, decide_eq_true_eq] at hroom
      rw [hm, Option.toList_some, List.length_singleton] at hlength
      omega
  | dropped _ _ _ hqueue =>
    rw [hqueue]
    exact h

end Calls

end Client

open Client (Act)

/-- An instance, as far as one client is concerned, and the messages that were taken out so far. -/
structure Session where
  own : String
  proxy : Proxy
  backend : Backend
  received : List Message

namespace Session

/-- A client that has just been attached. -/
def attach (own id : String) (serial buffer : Nat) (b : Backend) : Session where
  own := own
  proxy := .attach own serial (.connect id buffer)
  backend := b
  received := []

def take (s : Session) (f : Client → List Message × Client) : Session :=
  match s.proxy.client? with
  | none => s
  | some c =>
    { s with proxy := s.proxy.mapClient fun c => (f c).2, received := s.received ++ (f c).1 }

def perform (s : Session) : Act → Session
  | .send m =>
    let sent := s.proxy.send s.own m s.backend
    { s with proxy := sent.subject, backend := sent.backend }
  | .relay m =>
    match s.proxy.deliver s.own m with
    | .error _ => s
    | .ok proxy => { s with proxy }
  | .receive limit => s.take (·.receive limit)
  | .drain limit => s.take (·.drain limit)
  | .close => { s with proxy := s.proxy.mapClient .close }
  | .discard => { s with proxy := s.proxy.mapClient .discard }

/-- What comes of calls that are made one after the other. The latest call is the first of the list. -/
def after (s : Session) : List Act → Session
  | [] => s
  | act :: earlier => (s.after earlier).perform act

/-- The messages that wait for the client. -/
def queue (s : Session) : List Message := (s.proxy.client?.map Client.queue).getD []

def dropped (s : Session) : Nat := (s.proxy.client?.map Client.dropped).getD 0

/-! ## Calls by way of the proxy -/

structure Serves (s : Session) (c : Client) : Prop where
  sound : ∃ id, s.proxy.SoundAt s.own id
  client : s.proxy.client? = some c

section Calls

variable {s : Session} {c : Client}

theorem Serves.queue_eq (h : s.Serves c) : s.queue = c.queue := by
  rw [queue, h.client]
  rfl

theorem Serves.dropped_eq (h : s.Serves c) : s.dropped = c.dropped := by
  rw [dropped, h.client]
  rfl

/-- Whichever call it is, the proxy makes it on its client. -/
theorem Serves.perform_eq (h : s.Serves c) (act : Act) :
    s.perform act = { s with
      proxy := s.proxy.mapClient (·.after act), received := s.received ++ c.taken act } := by
  obtain ⟨id, hs⟩ := h.sound
  have ha := Proxy.isAttached_of_client? h.client
  cases act with
  | send m =>
    have ho := hs.attached_iff.1 ha
    simp [perform, Proxy.send_of_attached ha ho, Client.after, Client.taken]
  | relay m => simp [perform, hs.deliver_of_client? h.client, Client.after, Client.taken]
  | receive limit => simp [perform, take, h.client, Client.after, Client.taken]
  | drain limit => simp [perform, take, h.client, Client.after, Client.taken]
  | close => simp [perform, Client.after, Client.taken]
  | discard => simp [perform, Client.after, Client.taken]

theorem Serves.perform (h : s.Serves c) (act : Act) : (s.perform act).Serves (c.after act) := by
  obtain ⟨id, hs⟩ := h.sound
  rw [h.perform_eq]
  refine ⟨⟨id, (Proxy.alike_mapClient s.proxy _).soundAt hs⟩, ?_⟩
  rw [Proxy.client?_mapClient, h.client, Option.map_some]

end Calls

/-! ## Runs -/

/-- The message that a call hands over after other calls: none if the connection had given up on the
client. -/
def handing? (earlier : List Act) (act : Act) : Option Message :=
  if .discard ∈ earlier then none else act.message?

/-- The messages that were handed over, the latest one last. -/
def handed : List Act → List Message
  | [] => []
  | act :: earlier => handed earlier ++ (handing? earlier act).toList

/-- Those of them that found the receiver open and less than `room` messages in the queue. -/
def accepted (s : Session) (room : Nat) : List Act → List Message
  | [] => []
  | act :: earlier =>
    if .close ∉ earlier ∧ (s.after earlier).queue.length < room then
      s.accepted room earlier ++ (handing? earlier act).toList
    else s.accepted room earlier

/-- The account of a client with room for `room` messages, after these calls. -/
structure Balanced (s : Session) (room : Nat) (acts : List Act) (c : Client) : Prop where
  serves : (s.after acts).Serves c
  capacity : c.capacity = room
  isOpen_iff : c.isOpen = true ↔ .close ∉ acts
  isDiscarded_iff : c.isDiscarded = true ↔ .discard ∈ acts
  length_le : c.queue.length ≤ c.capacity
  queued : (s.after acts).received ++ c.queue = s.accepted room acts
  sublist : (s.accepted room acts).Sublist (handed acts)
  counted : c.dropped + (s.accepted room acts).length = (handed acts).length

section Runs

variable {s : Session} {room : Nat} {acts : List Act} {c : Client}

theorem balanced_attach (own id : String) (serial buffer : Nat) (b : Backend) :
    (attach own id serial buffer b).Balanced (max 1 buffer) [] (.connect id buffer) where
  serves := ⟨⟨id, Proxy.soundAt_attach own serial (.connect id buffer)⟩, rfl⟩
  capacity := Nat.max_comm buffer 1
  isOpen_iff := by simp [Client.connect]
  isDiscarded_iff := by simp [Client.connect]
  length_le := Nat.zero_le _
  queued := rfl
  sublist := .refl []
  counted := rfl

theorem Balanced.handing?_eq (h : s.Balanced room acts c) (act : Act) :
    handing? acts act = c.handed? act := by
  simp [handing?, Client.handed?, h.isDiscarded_iff]

theorem Balanced.accepts_iff (h : s.Balanced room acts c) :
    c.accepts = true ↔ .close ∉ acts ∧ (s.after acts).queue.length < room := by
  rw [Client.accepts, Bool.and_eq_true, h.isOpen_iff, decide_eq_true_iff, h.capacity, h.serves.queue_eq]

theorem Balanced.accepted_cons (h : s.Balanced room acts c) (act : Act) :
    s.accepted room (act :: acts)
      = if c.accepts = true then s.accepted room acts ++ (c.handed? act).toList
        else s.accepted room acts := by
  simp only [accepted, h.handing?_eq, h.accepts_iff]

theorem Balanced.accepted_of_kept (h : s.Balanced room acts c) {act : Act}
    (haccepts : c.handed? act ≠ none → c.accepts = true) :
    s.accepted room (act :: acts) = s.accepted room acts ++ (c.handed? act).toList := by
  rw [h.accepted_cons]
  split
  · rfl
  · rename_i hrefuses
    have hnone : c.handed? act = none := Decidable.not_not.1 fun hne => hrefuses (haccepts hne)
    rw [hnone, Option.toList_none, List.append_nil]

theorem Balanced.accepted_of_refused (h : s.Balanced room acts c) {act : Act}
    (haccepts : c.accepts = false) :
    s.accepted room (act :: acts) = s.accepted room acts := by
  rw [h.accepted_cons, if_neg (by simp [haccepts])]

theorem Balanced.perform (h : s.Balanced room acts c) (act : Act) :
    s.Balanced room (act :: acts) (c.after act) := by
  have hserves := h.serves.perform act
  have hcapacity : (c.after act).capacity = c.capacity := by rw [c.after_frame act]
  have hopen : (c.after act).isOpen = (c.isOpen && decide (act ≠ .close)) := by rw [c.after_frame act]
  have hdiscarded : (c.after act).isDiscarded = (c.isDiscarded || decide (act = .discard)) := by
    rw [c.after_frame act]
  have hreceived : (s.after (act :: acts)).received = (s.after acts).received ++ c.taken act := by
    rw [after, h.serves.perform_eq]
  have hhanded : handed (act :: acts) = handed acts ++ (c.handed? act).toList := by
    rw [handed, h.handing?_eq]
  refine ⟨hserves, hcapacity.trans h.capacity, ?_, ?_, ?_, ?_, ?_, ?_⟩
  · rw [hopen, Bool.and_eq_true, h.isOpen_iff, decide_eq_true_iff, List.mem_cons, not_or, and_comm,
      ne_comm]
  · rw [hdiscarded, Bool.or_eq_true, h.isDiscarded_iff, decide_eq_true_iff, List.mem_cons, or_comm,
      eq_comm]
  · rw [hcapacity]
    exact Client.length_after_le h.length_le
  · cases c.account act with
    | kept hqueue _ haccepts =>
      rw [hreceived, h.accepted_of_kept haccepts, List.append_assoc, hqueue, ← List.append_assoc,
        h.queued]
    | dropped _ haccepts htaken hqueue _ =>
      rw [hreceived, h.accepted_of_refused haccepts, htaken, hqueue, List.append_nil, h.queued]
  · rw [hhanded, h.accepted_cons]
    split
    · exact h.sublist.append (.refl _)
    · exact h.sublist.trans (List.sublist_append_left _ _)
  · have hcounted := h.counted
    cases c.account act with
    | kept _ hdropped haccepts =>
      rw [hhanded, h.accepted_of_kept haccepts, List.length_append, List.length_append]
      omega
    | dropped hm haccepts _ _ hdropped =>
      rw [hhanded, h.accepted_of_refused haccepts, hm, List.length_append, Option.toList_some,
        List.length_singleton]
      omega

theorem exists_balanced (h : s.Balanced room [] c) (acts : List Act) :
    ∃ d, s.Balanced room acts d := by
  induction acts with
  | nil => exact ⟨c, h⟩
  | cons act acts ih =>
    obtain ⟨d, hd⟩ := ih
    exact ⟨d.after act, hd.perform act⟩

/-- A message is counted as dropped if it is handed over to a client that accepts none. -/
theorem Balanced.dropped_lt_iff (h : s.Balanced room acts c) (act : Act) :
    (s.after acts).dropped < ((s.after acts).perform act).dropped
      ↔ (handing? acts act).isSome = true ∧ (.close ∈ acts ∨ (s.after acts).queue.length = room) := by
  have hle := h.length_le
  have hrefuses : c.accepts = false ↔ .close ∈ acts ∨ (s.after acts).queue.length = room := by
    rw [← Bool.not_eq_true, h.accepts_iff, Decidable.not_and_iff_not_or_not, Decidable.not_not,
      h.serves.queue_eq, ← h.capacity]
    refine or_congr_right ?_
    omega
  rw [(h.serves.perform act).dropped_eq, h.serves.dropped_eq, h.handing?_eq, ← hrefuses]
  cases c.account act with
  | kept _ hdropped haccepts =>
    refine iff_of_false (by omega) ?_
    intro hrefused
    have htrue := haccepts (Option.isSome_iff_ne_none.1 hrefused.1)
    rw [hrefused.2] at htrue
    cases htrue
  | dropped hm haccepts _ _ hdropped =>
    refine iff_of_true (by omega) ⟨?_, haccepts⟩
    rw [hm, Option.isSome_some]

theorem handed_of_discarded (s : Session) (room : Nat) (h : .discard ∈ acts) (later : List Act) :
    handed (later ++ acts) = handed acts ∧ s.accepted room (later ++ acts) = s.accepted room acts := by
  induction later with
  | nil => exact ⟨rfl, rfl⟩
  | cons act later ih =>
    have hnone : handing? (later ++ acts) act = none := if_pos (List.mem_append_right later h)
    obtain ⟨hhanded, haccepted⟩ := ih
    rw [List.cons_append, handed, accepted, hnone, Option.toList_none, List.append_nil,
      List.append_nil, ite_self]
    exact ⟨hhanded, haccepted⟩

end Runs

/-- Whatever is sent to a client through its proxy or relayed to it, and whenever its connection takes
messages out, closes the receiver or gives up on the client: what was received and what is still queued
are the accepted messages, in the order in which they were handed over; no more are queued than there is
room for; each of the others was counted as dropped when it came, because the receiver was closed or the
queue full. Once the connection has given up on the client, nothing more is queued or counted. -/
theorem deliveries_accounted (own id : String) (serial buffer : Nat) (b : Backend) (acts : List Act)
    {start s : Session} (hstart : start = attach own id serial buffer b) (hs : s = start.after acts) :
    s.received ++ s.queue = start.accepted (max 1 buffer) acts
    ∧ (start.accepted (max 1 buffer) acts).Sublist (handed acts)
    ∧ s.queue.length ≤ max 1 buffer
    ∧ s.dropped + (start.accepted (max 1 buffer) acts).length = (handed acts).length
    ∧ (∀ act, s.dropped < (s.perform act).dropped
        ↔ (handing? acts act).isSome = true ∧ (.close ∈ acts ∨ s.queue.length = max 1 buffer))
    ∧ (.discard ∈ acts → ∀ later,
        (start.after (later ++ acts)).received ++ (start.after (later ++ acts)).queue
          = s.received ++ s.queue
        ∧ (start.after (later ++ acts)).dropped = s.dropped) := by
  have hbalanced (acts : List Act) : ∃ c, start.Balanced (max 1 buffer) acts c := by
    rw [hstart]
    exact exists_balanced (balanced_attach own id serial buffer b) acts
  obtain ⟨c, hc⟩ := hbalanced acts
  have hlength := hc.length_le
  have hqueued := hc.queued
  have hcounted := hc.counted
  rw [hc.capacity] at hlength
  rw [← hc.serves.queue_eq, ← hs] at hlength hqueued
  rw [← hc.serves.dropped_eq, ← hs] at hcounted
  refine ⟨hqueued, hc.sublist, hlength, hcounted, ?_, ?_⟩
  · rw [hs]
    exact hc.dropped_lt_iff
  · intro hdiscard later
    obtain ⟨d, hd⟩ := hbalanced (later ++ acts)
    have hqueued' := hd.queued
    have hcounted' := hd.counted
    obtain ⟨hhanded, haccepted⟩ := handed_of_discarded start (max 1 buffer) hdiscard later
    rw [← hd.serves.queue_eq, haccepted, ← hqueued] at hqueued'
    rw [← hd.serves.dropped_eq, haccepted, hhanded] at hcounted'
    exact ⟨hqueued', by omega⟩

/-- Two messages for one place, a third after one was taken out, a fourth for a closed receiver, and one
for a client that was given up on. -/
def hurried : List Act :=
  [.send ⟨"t", "5"⟩, .discard, .drain none, .relay ⟨"t", "4"⟩, .close, .relay ⟨"t", "3"⟩,
    .receive (some 1), .send ⟨"t", "2"⟩, .send ⟨"t", "1"⟩]

def connected : Session := attach "here" "c" 0 0 Node.claiming

theorem deliveries_accounted_hurried :
    handed hurried = [⟨"t", "1"⟩, ⟨"t", "2"⟩, ⟨"t", "3"⟩, ⟨"t", "4"⟩]
    ∧ (connected.after hurried).received = [⟨"t", "1"⟩, ⟨"t", "3"⟩]
    ∧ (connected.after hurried).queue = []
    ∧ connected.accepted 1 hurried = [⟨"t", "1"⟩, ⟨"t", "3"⟩]
    ∧ (connected.after hurried).dropped = 2
    ∧ ∀ later, (connected.after (later ++ hurried)).dropped = 2 := by
  obtain ⟨hqueued, -, -, -, -, hdiscarded⟩ :=
    deliveries_accounted "here" "c" 0 0 Node.claiming hurried (rfl : connected = _) rfl
  refine ⟨rfl, by decide, by decide, hqueued.symm, by decide, ?_⟩
  intro later
  exact (hdiscarded (by decide) later).2

end Session

end TopicMesh
