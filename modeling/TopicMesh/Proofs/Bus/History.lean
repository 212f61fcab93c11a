import TopicMesh.Proofs.Bus

/-!
# TopicMesh.Proofs.Bus.History

The bus as a function of what has happened on it. A history lists the calls and their answers, the
latest first; what was published for a subscription, what it has received and whether it is over are
read off the history, without the bus.

* `Bus.offered`, `Bus.received`  — the payloads of one subscription, in the order of the calls.
* `Bus.next`                     — what its next read gives.
* `Bus.reflects_history`         — the bus keeps what the history says, after any calls.
* `Bus.read_eq_next`             — and gives that to read.
* `Bus.lasting_history`          — a subscription that is over stays so, and one that is cut off too.
-/

namespace TopicMesh

/-- Nothing more can be read after this. -/
def Reading.isLast : Reading → Bool
  | .lagged _ | .ended => true
  | .payload _ | .pending => false

namespace Bus

inductive Act where
  | publish (channel payload : String)
  | subscribe (channel : String)
  | read (ticket : Nat)
  /-- A subscription is given up. -/
  | drop (ticket : Nat)
  | disconnectAll
deriving DecidableEq, Repr

/-- A call that was made, and its answer. -/
inductive Event where
  | published (channel payload : String) (reached : Nat)
  | subscribed (channel : String) (ticket : Nat)
  | read (ticket : Nat) (reading : Reading)
  | dropped (ticket : Nat)
  | disconnected
deriving DecidableEq, Repr

def perform (b : Bus) : Act → Event × Bus
  | .publish channel payload =>
    (.published channel payload (b.subscriberCount channel), b.publish channel payload)
  | .subscribe channel => (.subscribed channel (b.subscribe channel).1, (b.subscribe channel).2)
  | .read ticket => (.read ticket (b.read ticket).1, (b.read ticket).2)
  | .drop ticket => (.dropped ticket, b.unsubscribe ticket)
  | .disconnectAll => (.disconnected, b.disconnectAll)

/-- What comes of calls that are made one after the other. The latest call is the first of the list, and
so is the latest event. -/
def history {σ : Type} (perform : σ → Act → Event × σ) (start : σ) : List Act → List Event × σ
  | [] => ([], start)
  | act :: earlier =>
    let (events, s) := history perform start earlier
    let (event, s) := perform s act
    (event :: events, s)

/-- What has happened on the bus after these calls. -/
def events (acts : List Act) : List Event := (history perform {} acts).1

/-- The bus after these calls. -/
def after (acts : List Act) : Bus := (history perform {} acts).2

/-! ## One subscription in a history -/

/-- The channel of a subscription. -/
def channel? (ticket : Nat) : List Event → Option String
  | [] => none
  | .subscribed channel t :: earlier =>
    if t = ticket then some channel else channel? ticket earlier
  | _ :: earlier => channel? ticket earlier

/-- Whether the connections were lost since a subscription was opened. -/
def isCut (ticket : Nat) : List Event → Bool
  | [] => false
  | .subscribed _ t :: earlier => if t = ticket then false else isCut ticket earlier
  | .disconnected :: _ => true
  | _ :: earlier => isCut ticket earlier

/-- Whether a subscription has come to its end, or was given up. -/
def isOver (ticket : Nat) : List Event → Bool
  | [] => false
  | .subscribed _ t :: earlier => if t = ticket then false else isOver ticket earlier
  | .read t reading :: earlier => (decide (t = ticket) && reading.isLast) || isOver ticket earlier
  | .dropped t :: earlier => decide (t = ticket) || isOver ticket earlier
  | _ :: earlier => isOver ticket earlier

/-- What was published on the channel of a subscription from its opening until the connections were
lost. -/
def offered (ticket : Nat) : List Event → List String
  | [] => []
  | .published channel payload _ :: earlier =>
    if channel? ticket earlier = some channel ∧ isCut ticket earlier = false then
      offered ticket earlier ++ [payload]
    else offered ticket earlier
  | _ :: earlier => offered ticket earlier

/-- The payloads that were read from a subscription. -/
def received (ticket : Nat) : List Event → List String
  | [] => []
  | .read t (.payload text) :: earlier =>
    if t = ticket then received ticket earlier ++ [text] else received ticket earlier
  | _ :: earlier => received ticket earlier

def unread (ticket : Nat) (events : List Event) : List String :=
  (offered ticket events).drop (received ticket events).length

/-- A subscription with so many payloads to read that the oldest may have been lost. -/
def account (ticket : Nat) (channel : String) (unread : List String) (isConnected : Bool) :
    Subscription where
  ticket := ticket
  channel := channel
  waiting := unread.drop (unread.length - Subscription.backlog)
  lost := unread.length - Subscription.backlog
  isConnected := isConnected

/-- What is left of a subscription, unless it is over. -/
def account? (ticket : Nat) (events : List Event) : Option Subscription :=
  match channel? ticket events with
  | none => none
  | some channel =>
    if isOver ticket events then none
    else some (account ticket channel (unread ticket events) (!isCut ticket events))

theorem account?_eq_some {ticket : Nat} (events : List Event) {channel : String}
    (hc : channel? ticket events = some channel) (ho : isOver ticket events = false) :
    account? ticket events
      = some (account ticket channel (unread ticket events) (!isCut ticket events)) := by
  rw [account?, hc]
  simp only [ho, if_neg Bool.false_ne_true]

theorem account?_eq_none {ticket : Nat} (events : List Event)
    (h : channel? ticket events = none ∨ isOver ticket events = true) :
    account? ticket events = none := by
  rw [account?]
  split
  · rfl
  · rename_i hc
    rw [hc] at h
    rw [if_pos (h.resolve_left nofun)]

theorem account?_cases (ticket : Nat) (events : List Event) :
    ((channel? ticket events = none ∨ isOver ticket events = true)
      ∧ account? ticket events = none)
    ∨ ∃ channel, channel? ticket events = some channel ∧ isOver ticket events = false
      ∧ account? ticket events
        = some (account ticket channel (unread ticket events) (!isCut ticket events)) := by
  cases hc : channel? ticket events with
  | none => exact .inl ⟨.inl rfl, account?_eq_none events (.inl hc)⟩
  | some channel =>
    cases ho : isOver ticket events with
    | true => exact .inl ⟨.inr rfl, account?_eq_none events (.inr ho)⟩
    | false => exact .inr ⟨channel, rfl, rfl, account?_eq_some events hc ho⟩

/-- What a subscription gives to read next. A gap is reported before any payload after it, and nothing
comes after the report. -/
def next (ticket : Nat) (events : List Event) : Reading :=
  match channel? ticket events, isOver ticket events with
  | none, _ | some _, true => .ended
  | some channel, false =>
    if Subscription.backlog < (unread ticket events).length then
      .lagged (.lagged channel ((unread ticket events).length - Subscription.backlog))
    else
      match unread ticket events with
      | text :: _ => .payload text
      | [] => if isCut ticket events then .ended else .pending

/-! ## One call -/

section Calls

variable {b : Bus} {events : List Event} {ticket : Nat} {channel payload : String}

/-- The bus keeps what the history says of each subscription; tickets to come have no history. -/
structure Reflects (b : Bus) (events : List Event) : Prop where
  find? : ∀ ticket, b.find? ticket = account? ticket events
  isPrefix : ∀ ticket, received ticket events <+: offered ticket events
  fresh : ∀ ticket, b.nextTicket ≤ ticket →
    channel? ticket events = none ∧ offered ticket events = [] ∧ received ticket events = []

theorem receive_account (unread : List String) (isConnected : Bool) :
    (account ticket channel unread isConnected).receive payload
      = account ticket channel (unread ++ [payload]) isConnected := by
  by_cases hroom : unread.length < Subscription.backlog
  · have hlost : unread.length - Subscription.backlog = 0 := by omega
    have hlost' : unread.length + 1 - Subscription.backlog = 0 := by omega
    simp [Subscription.receive, account, hlost, hlost', hroom]
  · have hfull : ¬(unread.length - (unread.length - Subscription.backlog)
        < Subscription.backlog) := by omega
    have hlost : unread.length + 1 - Subscription.backlog
        = unread.length - Subscription.backlog + 1 := by omega
    have hle : unread.length - Subscription.backlog + 1 ≤ unread.length := by
      have hpos : 0 < Subscription.backlog := by decide
      omega
    simp only [Subscription.receive, account, List.length_drop, if_neg hfull, List.length_append,
      List.length_singleton, hlost, List.drop_drop, List.drop_append_of_le_length hle]

theorem hears_account (unread : List String) (isCut : Bool) (other : String) :
    (account ticket channel unread (!isCut)).hears other
      = decide (some channel = some other ∧ isCut = false) := by
  cases isCut <;> by_cases h : channel = other <;> simp [account, Subscription.hears, h]

theorem unread_published (h : b.Reflects events) (reached : Nat) :
    unread ticket (.published channel payload reached :: events)
      = if channel? ticket events = some channel ∧ isCut ticket events = false then
          unread ticket events ++ [payload]
        else unread ticket events := by
  have hr : received ticket (.published channel payload reached :: events)
      = received ticket events := rfl
  rw [unread, hr, offered]
  split
  · rw [unread, List.drop_append_of_le_length (h.isPrefix ticket).length_le]
  · rfl

theorem Reflects.publish (h : b.Reflects events) (channel payload : String) (reached : Nat) :
    (b.publish channel payload).Reflects (.published channel payload reached :: events) where
  find? ticket := by
    rw [find?_publish, h.find?]
    rcases account?_cases ticket events with ⟨hnone, ha⟩ | ⟨own, hc, ho, ha⟩
    · rw [ha, account?_eq_none (.published channel payload reached :: events) hnone]
      rfl
    · have ha' := account?_eq_some (.published channel payload reached :: events) hc ho
      rw [ha, ha', unread_published h, Option.map_some, hears_account, hc]
      simp only [decide_eq_true_eq, isCut]
      split
      · rw [receive_account]
      · rfl
  isPrefix ticket := by
    rw [offered]
    split
    · exact (h.isPrefix ticket).trans (List.prefix_append _ _)
    · exact h.isPrefix ticket
  fresh ticket ht := by
    obtain ⟨hc, ho, hr⟩ := h.fresh ticket ht
    refine ⟨hc, ?_, hr⟩
    rw [offered, hc, if_neg (fun h => nomatch h.1), ho]

theorem Reflects.subscribe (h : b.Reflects events) (channel : String) :
    (b.subscribe channel).2.Reflects (.subscribed channel b.nextTicket :: events) where
  find? ticket := by
    rw [find?_subscribe, h.find?]
    by_cases ht : b.nextTicket = ticket
    · obtain ⟨hc, ho, hr⟩ := h.fresh ticket (Nat.le_of_eq ht)
      have hu : unread ticket (.subscribed channel b.nextTicket :: events) = [] := by
        rw [unread, offered, ho, List.drop_nil]
        exact nofun
      have hc' : channel? ticket (.subscribed channel b.nextTicket :: events) = some channel := by
        rw [channel?, if_pos ht]
      have ho' : isOver ticket (.subscribed channel b.nextTicket :: events) = false := by
        rw [isOver, if_pos ht]
      rw [account?_eq_none events (.inl hc), account?_eq_some _ hc' ho', hu, isCut, if_pos ht,
        if_pos ht, ht]
      rfl
    · rw [if_neg ht, Option.or_none, account?, account?, channel?, if_neg ht, isOver, if_neg ht,
        isCut, if_neg ht]
      rfl
  isPrefix ticket := h.isPrefix ticket
  fresh ticket ht := by
    have hlt : b.nextTicket < ticket := ht
    obtain ⟨hc, ho, hr⟩ := h.fresh ticket (Nat.le_of_lt hlt)
    refine ⟨?_, ho, hr⟩
    rw [channel?, if_neg (Nat.ne_of_lt hlt), hc]

theorem Reflects.drop (h : b.Reflects events) (ticket : Nat) :
    (b.unsubscribe ticket).Reflects (.dropped ticket :: events) where
  find? other := by
    rw [find?_unsubscribe, h.find?]
    split
    · rename_i ht
      refine (account?_eq_none _ (.inr ?_)).symm
      rw [isOver, decide_eq_true ht, Bool.true_or]
    · rename_i ht
      rw [account?, account?, isOver, decide_eq_false ht, Bool.false_or]
      rfl
  isPrefix := h.isPrefix
  fresh := h.fresh

theorem Reflects.disconnectAll (h : b.Reflects events) :
    b.disconnectAll.Reflects (.disconnected :: events) where
  find? ticket := by
    rw [find?_disconnectAll, h.find?]
    rcases account?_cases ticket events with ⟨hnone, ha⟩ | ⟨own, hc, ho, ha⟩
    · rw [ha, account?_eq_none (.disconnected :: events) hnone]
      rfl
    · have hu : unread ticket (.disconnected :: events) = unread ticket events := rfl
      rw [ha, account?_eq_some (.disconnected :: events) hc ho, hu, Option.map_some, isCut,
        Bool.not_true, account, account]
  isPrefix := h.isPrefix
  fresh := h.fresh

theorem account?_read_of_ne {other : Nat} (h : other ≠ ticket) (reading : Reading)
    (events : List Event) :
    account? ticket (.read other reading :: events) = account? ticket events
      ∧ received ticket (.read other reading :: events) = received ticket events := by
  have hr : received ticket (.read other reading :: events) = received ticket events := by
    cases reading with
    | payload text => rw [received, if_neg h]
    | _ => rfl
  refine ⟨?_, hr⟩
  rw [account?, account?, isOver, decide_eq_false h, Bool.false_and, Bool.false_or, unread, hr]
  rfl

/-- What a read gives, by what the history says of the subscription. -/
theorem Reflects.read_cases (h : b.Reflects events) (ticket : Nat) :
    ((channel? ticket events = none ∨ isOver ticket events = true)
      ∧ b.read ticket = (.ended, b))
    ∨ ∃ channel, channel? ticket events = some channel ∧ isOver ticket events = false ∧
      ((Subscription.backlog < (unread ticket events).length
          ∧ b.read ticket = (.lagged (.lagged channel
              ((unread ticket events).length - Subscription.backlog)), b.unsubscribe ticket))
      ∨ (∃ text rest, unread ticket events = text :: rest ∧ rest.length < Subscription.backlog
          ∧ b.read ticket = (.payload text,
              b.update (account ticket channel rest (!isCut ticket events))))
      ∨ (unread ticket events = [] ∧ isCut ticket events = false
          ∧ b.read ticket = (.pending, b))
      ∨ (unread ticket events = [] ∧ isCut ticket events = true
          ∧ b.read ticket = (.ended, b.unsubscribe ticket))) := by
  rcases account?_cases ticket events with ⟨hnone, ha⟩ | ⟨channel, hc, ho, ha⟩
  · exact .inl ⟨hnone, read_of_none ((h.find? ticket).trans ha)⟩
  · have hs := (h.find? ticket).trans ha
    refine .inr ⟨channel, hc, ho, ?_⟩
    by_cases hlost : Subscription.backlog < (unread ticket events).length
    · exact .inl ⟨hlost, read_of_lost hs (Nat.sub_ne_zero_of_lt hlost)⟩
    · have hzero : (unread ticket events).length - Subscription.backlog = 0 :=
        Nat.sub_eq_zero_of_le (Nat.le_of_not_lt hlost)
      have hall : (account ticket channel (unread ticket events) (!isCut ticket events)).waiting
          = unread ticket events := by
        rw [account, hzero, List.drop_zero]
      refine .inr ?_
      cases hu : unread ticket events with
      | nil =>
        have hr := read_of_idle hs hzero (hall.trans hu)
        cases hcut : isCut ticket events with
        | false =>
          rw [hcut] at hr
          exact .inr (.inl ⟨rfl, rfl, hr⟩)
        | true =>
          rw [hcut] at hr
          exact .inr (.inr ⟨rfl, rfl, hr⟩)
      | cons text rest =>
        have hlt : rest.length < Subscription.backlog := by
          rw [hu, List.length_cons] at hlost
          omega
        have hnone : rest.length - Subscription.backlog = 0 :=
          Nat.sub_eq_zero_of_le (Nat.le_of_lt hlt)
        refine .inl ⟨text, rest, rfl, hlt, ?_⟩
        rw [read_of_waiting hs hzero (hall.trans hu)]
        simp only [account, hzero, hnone, List.drop_zero]

theorem account?_read_last {reading : Reading} (h : reading.isLast = true) (events : List Event) :
    account? ticket (.read ticket reading :: events) = none := by
  refine account?_eq_none _ (.inr ?_)
  rw [isOver, decide_eq_true rfl, h]
  rfl

theorem received_read_payload (text : String) (events : List Event) :
    received ticket (.read ticket (.payload text) :: events) = received ticket events ++ [text] := by
  rw [received, if_pos rfl]

/-- A payload that is read is the first one that was offered and not received. -/
theorem offered_eq {text : String} {rest : List String}
    (h : received ticket events <+: offered ticket events)
    (hu : unread ticket events = text :: rest) :
    offered ticket events = (received ticket events ++ [text]) ++ rest := by
  obtain ⟨later, hl⟩ := h
  rw [unread, ← hl, List.drop_left] at hu
  rw [← hl, hu, List.append_assoc, List.singleton_append]

theorem unread_read_payload {text : String} {rest : List String}
    (h : received ticket events <+: offered ticket events)
    (hu : unread ticket events = text :: rest) :
    unread ticket (.read ticket (.payload text) :: events) = rest := by
  have ho : offered ticket (.read ticket (.payload text) :: events) = offered ticket events := rfl
  rw [unread, received_read_payload, ho, offered_eq h hu, List.drop_left]

/-- A read shows in the history of its own subscription only. -/
theorem Reflects.of_read (h : b.Reflects events) {reading : Reading} {b' : Bus}
    (hn : b'.nextTicket = b.nextTicket) (hf : ∀ other, ticket ≠ other → b'.find? other = b.find? other)
    (hself : b'.find? ticket = account? ticket (.read ticket reading :: events))
    (hp : received ticket (.read ticket reading :: events) <+: offered ticket events) :
    b'.Reflects (.read ticket reading :: events) := by
  have hprefix : ∀ other, received other (.read ticket reading :: events) <+: offered other events := by
    intro other
    by_cases hne : ticket = other
    · rw [← hne]
      exact hp
    · rw [(account?_read_of_ne hne reading events).2]
      exact h.isPrefix other
  refine ⟨?_, hprefix, ?_⟩
  · intro other
    by_cases hne : ticket = other
    · rw [← hne]
      exact hself
    · rw [hf other hne, h.find?, (account?_read_of_ne hne reading events).1]
  · intro other ht
    obtain ⟨hc, ho, -⟩ := h.fresh other (hn ▸ ht)
    have hp := hprefix other
    rw [ho] at hp
    exact ⟨hc, ho, List.prefix_nil.1 hp⟩

theorem Reflects.read (h : b.Reflects events) (ticket : Nat) :
    (b.read ticket).2.Reflects (.read ticket (b.read ticket).1 :: events) := by
  refine h.of_read (nextTicket_read b ticket) (fun _ hne => find?_read hne) ?_ ?_
  · rcases h.read_cases ticket with ⟨hnone, hr⟩ | ⟨channel, hc, ho, ⟨-, hr⟩ | ⟨text, rest, hu, -, hr⟩
      | ⟨-, -, hr⟩ | ⟨-, -, hr⟩⟩
    · rw [hr, account?_read_last rfl, h.find?, account?_eq_none events hnone]
    · rw [hr, account?_read_last rfl, find?_unsubscribe, if_pos rfl]
    · have ho' : isOver ticket (.read ticket (.payload text) :: events) = false := by
        rw [isOver, ho, Reading.isLast, Bool.and_false, Bool.or_false]
      have hticket : (account ticket channel rest (!isCut ticket events)).ticket = ticket := rfl
      rw [hr, account?_eq_some (.read ticket (.payload text) :: events) hc ho',
        unread_read_payload (h.isPrefix ticket) hu, find?_update, if_pos hticket, h.find?,
        account?_eq_some events hc ho, Option.map_some]
      rfl
    · have ho' : isOver ticket (.read ticket .pending :: events) = false := by
        rw [isOver, ho, Reading.isLast, Bool.and_false, Bool.or_false]
      rw [hr, account?_eq_some (.read ticket .pending :: events) hc ho', h.find?,
        account?_eq_some events hc ho]
      rfl
    · rw [hr, account?_read_last rfl, find?_unsubscribe, if_pos rfl]
  · cases hr : (b.read ticket).1 with
    | payload text =>
      rcases h.read_cases ticket with ⟨-, he⟩ | ⟨channel, -, -, ⟨-, he⟩ | ⟨text', rest, hu, -, he⟩
        | ⟨-, -, he⟩ | ⟨-, -, he⟩⟩
      all_goals rw [he] at hr; cases hr
      rw [received_read_payload, offered_eq (h.isPrefix ticket) hu]
      exact List.prefix_append _ _
    | _ => exact h.isPrefix ticket

theorem Reflects.perform (h : b.Reflects events) (act : Act) :
    (b.perform act).2.Reflects ((b.perform act).1 :: events) := by
  cases act with
  | publish channel payload => exact h.publish channel payload _
  | subscribe channel => exact h.subscribe channel
  | read ticket => exact h.read ticket
  | drop ticket => exact h.drop ticket
  | disconnectAll => exact h.disconnectAll

theorem Reflects.read_eq_next (h : b.Reflects events) (ticket : Nat) :
    (b.read ticket).1 = next ticket events := by
  rw [next]
  rcases h.read_cases ticket with ⟨hnone, hr⟩ | ⟨channel, hc, ho, ⟨hl, hr⟩ | ⟨text, rest, hu, hl, hr⟩
    | ⟨hu, hcut, hr⟩ | ⟨hu, hcut, hr⟩⟩
  · rw [hr]
    rcases hnone with hc | ho
    · rw [hc]
    · rw [ho]
      cases channel? ticket events <;> rfl
  · rw [hr, hc, ho]
    simp only [if_pos hl]
  · have hle : ¬Subscription.backlog < (text :: rest).length := Nat.not_lt_of_le hl
    rw [hr, hc, ho]
    simp only [hu, if_neg hle]
  all_goals
    rw [hr, hc, ho]
    simp only [hu, hcut]
    rfl

/-- No call opens a subscription again, reconnects one, or gives a payload to one that is over. -/
theorem Reflects.lasting (h : b.Reflects events) (hc : channel? ticket events = some channel)
    (act : Act) :
    channel? ticket ((b.perform act).1 :: events) = some channel
      ∧ (isCut ticket events = true → isCut ticket ((b.perform act).1 :: events) = true
        ∧ offered ticket ((b.perform act).1 :: events) = offered ticket events)
      ∧ (isOver ticket events = true → isOver ticket ((b.perform act).1 :: events) = true
        ∧ received ticket ((b.perform act).1 :: events) = received ticket events) := by
  cases act with
  | publish other payload =>
    refine ⟨hc, fun hcut => ⟨hcut, ?_⟩, fun hover => ⟨hover, rfl⟩⟩
    rw [Bus.perform, offered, if_neg]
    rintro ⟨-, hopen⟩
    rw [hcut] at hopen
    exact Bool.noConfusion hopen
  | subscribe other =>
    have hne : b.nextTicket ≠ ticket := by
      rintro rfl
      rw [(h.fresh _ (Nat.le_refl _)).1] at hc
      cases hc
    have hcall : (b.perform (.subscribe other)).1 = .subscribed other b.nextTicket := rfl
    rw [hcall, channel?, if_neg hne, isCut, if_neg hne, isOver, if_neg hne]
    exact ⟨hc, fun hcut => ⟨hcut, rfl⟩, fun hover => ⟨hover, rfl⟩⟩
  | read other =>
    refine ⟨hc, fun hcut => ⟨hcut, rfl⟩, fun hover => ⟨?_, ?_⟩⟩
    · rw [Bus.perform, isOver, hover, Bool.or_true]
    · by_cases hne : other = ticket
      · subst hne
        have hended : (b.read other).1 = .ended := by
          rw [h.read_eq_next, next, hc, hover]
        rw [Bus.perform, hended]
        rfl
      · exact (account?_read_of_ne hne _ events).2
  | drop other =>
    refine ⟨hc, fun hcut => ⟨hcut, rfl⟩, fun hover => ⟨?_, rfl⟩⟩
    rw [Bus.perform, isOver, hover, Bool.or_true]
  | disconnectAll => exact ⟨hc, fun _ => ⟨rfl, rfl⟩, fun hover => ⟨hover, rfl⟩⟩

end Calls

theorem reflects_nil : Reflects {} [] where
  find? _ := rfl
  isPrefix _ := List.nil_prefix
  fresh _ _ := ⟨rfl, rfl, rfl⟩

/-- After any calls the bus keeps what the history says, and nothing else. -/
theorem reflects_history (acts : List Act) : (after acts).Reflects (events acts) := by
  induction acts with
  | nil => exact reflects_nil
  | cons act earlier ih => exact ih.perform act

theorem read_eq_next (acts : List Act) (ticket : Nat) :
    ((after acts).read ticket).1 = next ticket (events acts) :=
  (reflects_history acts).read_eq_next ticket

/-- Later calls change nothing of a subscription that is over, and offer nothing to one that was cut
off. -/
theorem lasting_history {acts : List Act} {ticket : Nat} {channel : String}
    (hc : channel? ticket (events acts) = some channel) (later : List Act) :
    channel? ticket (events (later ++ acts)) = some channel
      ∧ (isCut ticket (events acts) = true → isCut ticket (events (later ++ acts)) = true
        ∧ offered ticket (events (later ++ acts)) = offered ticket (events acts))
      ∧ (isOver ticket (events acts) = true → isOver ticket (events (later ++ acts)) = true
        ∧ received ticket (events (later ++ acts)) = received ticket (events acts)) := by
  induction later with
  | nil => exact ⟨hc, fun hcut => ⟨hcut, rfl⟩, fun hover => ⟨hover, rfl⟩⟩
  | cons act later ih =>
    obtain ⟨hc', hcut', hover'⟩ := ih
    obtain ⟨hc'', hcut'', hover''⟩ := (reflects_history (later ++ acts)).lasting hc' act
    refine ⟨hc'', fun hcut => ?_, fun hover => ?_⟩
    · obtain ⟨hcut, ho⟩ := hcut' hcut
      obtain ⟨hcut, ho'⟩ := hcut'' hcut
      exact ⟨hcut, ho'.trans ho⟩
    · obtain ⟨hover, hr⟩ := hover' hover
      obtain ⟨hover, hr'⟩ := hover'' hover
      exact ⟨hover, hr'.trans hr⟩

end Bus

end TopicMesh
