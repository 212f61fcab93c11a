import TopicMesh.Rehearsal.Listening

/-!
# TopicMesh.Proofs.Rehearsal.Listening

The discipline of a listening loop, over every script and whatever comes first at every moment.

* `undisturbed` — the calls of a loop that nothing ends: whatever fails, it rests and subscribes again.
* `Phase.ahead` — those of them that a loop has still to make.
* `Advance`     — all that a loop can do when it gets what it waits for.
* `Standing`    — a loop has made calls of an undisturbed one, in their order, and no call but the last
  returned a fatal error.

Every step of a loop keeps `Standing`, so every run does (`standing_run`). What holds between a call and
the calls before it then needs to be shown for `undisturbed` only (`splits_undisturbed`).
-/

namespace TopicMesh.Rehearsal

/-- How often a loop has tried to subscribe. -/
def attempts (calls : List Call) : Nat := (calls.map Call.act).count .subscribe

/-- What a subscription delivers before it fails or ends: the payloads, with what handling them
returns. -/
def payloads : List Item → List (String × Except MeshError Unit)
  | [] => []
  | item :: rest =>
    match item.yield with
    | .payload text result => (text, result) :: payloads rest
    | .fault _ => []

namespace Stream

/-- The calls for what the subscription delivers. -/
def calls (s : Stream) : List Call := (payloads s.items).map fun p => .payload p.1 p.2

/-- Whether the subscription ever fails or ends. -/
def isLost (s : Stream) : Bool :=
  !s.staysOpen || s.items.any fun item => item.yield matches .fault _

end Stream

namespace Connection

/-- The calls for one attempt to subscribe. -/
def calls : Connection → List Call
  | .refused _ => [.subscribe]
  | .opened (.ok ()) stream => .subscribe :: .connect (.ok ()) :: stream.calls
  | .opened (.error e) _ => [.subscribe, .connect (.error e)]

/-- Whether a loop that nothing ends is ever through with the attempt. -/
def isLost : Connection → Bool
  | .opened (.ok ()) stream => stream.isLost
  | _ => true

end Connection

/-- The calls of a loop that neither an error nor a shutdown ends. -/
def undisturbed : List Connection → List Call
  | [] => [.subscribe]
  | c :: rest => c.calls ++ if c.isLost then undisturbed rest else []

/-! ### Each call after its subscription -/

section Order

variable {script : List Connection} {c : Connection}
  {before after : List Call} {call : Call}

theorem attempts_append (calls calls' : List Call) :
    attempts (calls ++ calls') = attempts calls + attempts calls' := by
  rw [attempts, List.map_append, List.count_append]
  rfl

theorem attempts_stream (s : Stream) : attempts s.calls = 0 := by
  rw [attempts, Stream.calls, List.map_map, List.count_eq_zero, List.mem_map]
  rintro ⟨p, -, hp⟩
  cases hp

theorem attempts_calls (c : Connection) : attempts c.calls = 1 := by
  match c with
  | .refused _ | .opened (.error _) _ => rfl
  | .opened (.ok ()) stream =>
    have happend : (Connection.opened (.ok ()) stream).calls
        = [.subscribe, .connect (.ok ())] ++ stream.calls := rfl
    rw [happend, attempts_append, attempts_stream]
    rfl

theorem split_append {α : Type} {front back before after : List α} {x : α}
    (h : front ++ back = before ++ x :: after) :
    (∃ before', before = front ++ before' ∧ back = before' ++ x :: after)
      ∨ ∃ later, front = before ++ x :: later := by
  obtain ⟨before', hbefore, hback⟩ | ⟨within, hfront, hafter⟩ := List.append_eq_append_iff.1 h
  · exact .inl ⟨before', hbefore, hback⟩
  · cases within with
    | nil => exact .inl ⟨[], by rw [hfront, List.append_nil, List.append_nil], hafter.symm⟩
    | cons y later => exact .inr ⟨later, by rw [hfront, (List.cons.inj hafter).1]⟩

/-- Where a call other than an attempt to subscribe stands: among the calls for the last attempt before
it. -/
theorem splits_undisturbed (hcall : call ≠ .subscribe)
    (h : undisturbed script = before ++ call :: after) :
    ∃ earlier within later c, before = earlier ++ within
      ∧ script[attempts earlier]? = some c ∧ c.calls = within ++ call :: later := by
  induction script generalizing before with
  | nil =>
    obtain ⟨-, h⟩ | ⟨-, h⟩ := List.singleton_eq_append_iff.1 h
    · exact absurd (List.cons.inj h).1 hcall
    · cases h
  | cons c rest ih =>
    rw [undisturbed] at h
    obtain ⟨before', hbefore, hrest⟩ | ⟨later, hcalls⟩ := split_append h
    · split at hrest
      · obtain ⟨earlier, within, later, d, rfl, hd, hsplit⟩ := ih hrest
        refine ⟨c.calls ++ earlier, within, later, d, ?_, ?_, hsplit⟩
        · rw [hbefore, List.append_assoc]
        · rw [attempts_append, attempts_calls, Nat.add_comm, List.getElem?_cons_succ]
          exact hd
      · cases before' <;> cases hrest
    · exact ⟨[], before, later, c, rfl, rfl, hcalls⟩

theorem calls_connect {result : Except MeshError Unit}
    (h : c.calls = before ++ .connect result :: after) :
    before = [.subscribe] ∧ ∃ stream, c = .opened result stream := by
  match c, before with
  | .refused _, [] | .opened (.ok ()) _, [] | .opened (.error _) _, [] => cases h
  | .refused _, _ :: before => cases before <;> cases h
  | .opened (.ok ()) stream, [_] | .opened (.error _) stream, [_] =>
    cases h
    exact ⟨rfl, stream, rfl⟩
  | .opened (.error _) _, _ :: _ :: before => cases before <;> cases h
  | .opened (.ok ()) stream, _ :: _ :: before =>
    have htail : stream.calls = before ++ .connect result :: after :=
      (List.cons.inj (List.cons.inj h).2).2
    obtain ⟨_, _, -, -, hrest⟩ := List.map_eq_append_iff.1 htail
    obtain ⟨p, _, -, hp, -⟩ := List.map_eq_cons_iff.1 hrest
    cases hp

theorem calls_payload {text : String} {result : Except MeshError Unit}
    (h : c.calls = before ++ .payload text result :: after) :
    ∃ handled stream, c = .opened (.ok ()) stream
      ∧ before = .subscribe :: .connect (.ok ()) :: handled.map (fun p => .payload p.1 p.2)
      ∧ handled ++ [(text, result)] <+: payloads stream.items := by
  match c, before with
  | .refused _, [] | .opened (.ok ()) _, [] | .opened (.error _) _, [] => cases h
  | .refused _, _ :: before => cases before <;> cases h
  | .opened (.ok ()) _, [_] | .opened (.error _) _, [_] => cases h
  | .opened (.error _) _, _ :: _ :: before => cases before <;> cases h
  | .opened (.ok ()) stream, _ :: _ :: before =>
    simp only [Connection.calls, List.cons_append, List.cons.injEq] at h
    obtain ⟨rfl, rfl, htail⟩ := h
    obtain ⟨handled, rest, hitems, rfl, hrest⟩ := List.map_eq_append_iff.1 htail
    obtain ⟨p, later, rfl, hp, -⟩ := List.map_eq_cons_iff.1 hrest
    cases hp
    refine ⟨handled, stream, rfl, rfl, later, ?_⟩
    rw [List.append_assoc]
    exact hitems.symm

theorem split_of_prefix {calls offered : List Call} (hp : calls <+: offered)
    (h : calls = before ++ call :: after) : ∃ after, offered = before ++ call :: after := by
  obtain ⟨rest, rfl⟩ := hp
  exact ⟨after ++ rest, by rw [h, List.append_assoc, List.cons_append]⟩

theorem connect_of_prefix {calls : List Call} (hp : calls <+: undisturbed script)
    {result : Except MeshError Unit} (h : calls = before ++ .connect result :: after) :
    ∃ earlier stream, before = earlier ++ [.subscribe]
      ∧ script[attempts earlier]? = some (.opened result stream) := by
  obtain ⟨_, h⟩ := split_of_prefix hp h
  obtain ⟨earlier, within, later, c, rfl, hc, hsplit⟩ := splits_undisturbed (by nofun) h
  obtain ⟨rfl, stream, rfl⟩ := calls_connect hsplit
  exact ⟨earlier, stream, rfl, hc⟩

theorem payload_of_prefix {calls : List Call} (hp : calls <+: undisturbed script)
    {text : String} {result : Except MeshError Unit}
    (h : calls = before ++ .payload text result :: after) :
    ∃ earlier handled stream,
      before = earlier ++ .subscribe :: .connect (.ok ()) :: handled.map (fun p => .payload p.1 p.2)
      ∧ script[attempts earlier]? = some (.opened (.ok ()) stream)
      ∧ handled ++ [(text, result)] <+: payloads stream.items := by
  obtain ⟨_, h⟩ := split_of_prefix hp h
  obtain ⟨earlier, within, later, c, rfl, hc, hsplit⟩ := splits_undisturbed (by nofun) h
  obtain ⟨handled, stream, rfl, rfl, hitems⟩ := calls_payload hsplit
  exact ⟨earlier, handled, stream, rfl, hc, hitems⟩

end Order

/-! ### What a loop can do -/

/-- The calls that a loop has still to make, if nothing ends it. -/
def Phase.ahead (script : List Connection) : Phase → List Call
  | .ready | .resting | .connecting (.error _) _ => undisturbed script
  | .subscribing => (undisturbed script).tail
  | .connecting (.ok ()) stream | .listening stream | .handling _ _ stream =>
    stream.calls ++ if stream.isLost then undisturbed script else []
  | .stopped _ => []

/-- No call returns a fatal error. -/
def Unharmed (calls : List Call) : Prop := ∀ call ∈ calls, call.fatal? = none

theorem unharmed_nil : Unharmed [] := fun _ hmem => nomatch hmem

theorem unharmed_singleton {call : Call} (hc : call.fatal? = none) : Unharmed [call] := by
  intro _ hmem
  rw [List.mem_singleton.1 hmem, hc]

theorem Unharmed.append {calls calls' : List Call} (hc : Unharmed calls) (hc' : Unharmed calls') :
    Unharmed (calls ++ calls') := fun call hmem =>
  (List.mem_append.1 hmem).elim (hc call) (hc' call)

theorem Unharmed.findSome?_eq_none {calls : List Call} (hc : Unharmed calls) :
    calls.findSome? Call.fatal? = none := List.findSome?_eq_none_iff.2 hc

namespace Loop

/-- The calls that have returned. -/
def returned (l : Loop) : List Call :=
  match l.phase.current? with
  | none => l.calls
  | some _ => l.calls.dropLast

/-- What a loop does when it gets what it waits for. -/
inductive Advance (l l' : Loop) : Prop where
  /-- It finds the signal given. -/
  | cancelled : l.shutdown.isGiven = true → l'.result? = some (.ok ()) → l'.calls = l.calls →
      l.phase.current? = none → Advance l l'
  /-- A call returns a fatal error. -/
  | failed {call : Call} {e : MeshError} : l.phase.current? = some call → call.fatal? = some e →
      l'.result? = some (.error e) → l'.calls = l.calls → Advance l l'
  /-- It goes on, maybe with the next call. -/
  | moved : Unharmed l.phase.current?.toList → l'.result? = none →
      l'.calls = l.calls ++ l'.phase.current?.toList →
      l.phase.ahead l.script = l'.phase.current?.toList ++ l'.phase.ahead l'.script → Advance l l'

theorem head_undisturbed (script : List Connection) :
    undisturbed script = .subscribe :: (undisturbed script).tail := by
  match script with
  | [] | .refused _ :: _ | .opened (.ok ()) _ :: _ | .opened (.error _) _ :: _ => rfl

variable {l l' : Loop} {script : List Connection}

/-- A call returns an error: only a fatal one ends the loop. -/
theorem advance_of_error {call : Call} {e : MeshError} {otherwise : Listener} {stream : Stream}
    (hcall : l.phase.current? = some call) (hfatal : call.fatal? = if e.isFatal then some e else none)
    (hgoes : (Phase.of stream otherwise).result? = none)
    (hahead : l.phase.ahead l.script = (Phase.of stream otherwise).ahead l.script) :
    l.Advance { l with phase := .of stream (Listener.afterError e otherwise) } := by
  rw [Listener.afterError]
  cases he : e.isFatal with
  | true =>
    rw [he, if_pos rfl] at hfatal
    exact .failed hcall hfatal rfl rfl
  | false =>
    rw [he, if_neg Bool.false_ne_true] at hfatal
    have hidle : (Phase.of stream otherwise).current? = none := by cases otherwise <;> rfl
    refine .moved ?_ hgoes ?_ ?_
    · rw [hcall]
      exact unharmed_singleton hfatal
    · rw [if_neg Bool.false_ne_true, hidle]
      exact (List.append_nil _).symm
    · rw [if_neg Bool.false_ne_true, hidle]
      exact hahead

theorem advance_of_next? (h : l.next? = some l') : l.Advance l' := by
  obtain ⟨phase, shutdown, script, calls⟩ := l
  cases phase with
  | ready =>
    cases h
    dsimp only
    split
    · rename_i hg
      exact .cancelled hg rfl rfl rfl
    · exact .moved unharmed_nil rfl rfl (head_undisturbed script)
  | subscribing =>
    have hcall : Unharmed [.subscribe] := unharmed_singleton rfl
    match script with
    | .refused _ :: _ =>
      cases h
      exact .moved hcall rfl (List.append_nil _).symm rfl
    | .opened (.ok ()) _ :: _ | .opened (.error _) _ :: _ =>
      cases h
      exact .moved hcall rfl rfl rfl
  | connecting hook stream =>
    cases h
    cases hook with
    | ok => exact .moved (unharmed_singleton rfl) rfl (List.append_nil _).symm rfl
    | error => exact advance_of_error rfl rfl rfl rfl
  | listening stream =>
    obtain ⟨items, staysOpen⟩ := stream
    match items, staysOpen with
    | [], false =>
      cases h
      exact .moved unharmed_nil rfl (List.append_nil _).symm rfl
    | ⟨_, .payload _ _⟩ :: _, _ =>
      cases h
      exact .moved unharmed_nil rfl rfl rfl
    | ⟨_, .fault _⟩ :: _, _ =>
      cases h
      refine .moved unharmed_nil rfl (List.append_nil _).symm ?_
      rw [Phase.ahead, Stream.isLost, List.any_cons, Bool.true_or, Bool.or_true]
      rfl
  | handling text result stream =>
    cases h
    cases result with
    | ok => exact .moved (unharmed_singleton rfl) rfl (List.append_nil _).symm rfl
    | error => exact advance_of_error rfl rfl rfl rfl
  | resting =>
    cases h
    exact .moved unharmed_nil rfl (List.append_nil _).symm rfl
  | stopped => cases h

/-- A loop that gets nothing any more has no call to make. -/
theorem ahead_of_next?_eq_none (h : l.next? = none) : l.phase.ahead l.script = [] := by
  obtain ⟨phase, shutdown, script, calls⟩ := l
  cases phase with
  | ready | connecting | handling | resting => cases h
  | stopped => rfl
  | subscribing =>
    match script with
    | [] => rfl
    | .refused _ :: _ | .opened _ _ :: _ => cases h
  | listening stream =>
    obtain ⟨items, staysOpen⟩ := stream
    match items, staysOpen with
    | [], true => rfl
    | [], false | ⟨_, .payload _ _⟩ :: _, _ | ⟨_, .fault _⟩ :: _, _ => cases h

/-! ### What every run keeps -/

/-- Where a loop stands that runs against a script. -/
inductive Standing (script : List Connection) (l : Loop) : Prop where
  /-- It goes on, and only the call that is going on may fail for good. -/
  | running {settled : List Call} : l.result? = none → l.calls = settled ++ l.phase.current?.toList →
      Unharmed settled → undisturbed script = l.calls ++ l.phase.ahead l.script → Standing script l
  /-- A shutdown ended it. -/
  | ended : l.result? = some (.ok ()) → Unharmed l.calls → l.calls <+: undisturbed script →
      Standing script l
  /-- Its last call failed for good. -/
  | failed {settled : List Call} {call : Call} {e : MeshError} : l.result? = some (.error e) →
      l.calls = settled ++ [call] → Unharmed settled → call.fatal? = some e →
      l.calls <+: undisturbed script → Standing script l

theorem phase_of_result? {result : Except MeshError Unit} (h : l.result? = some result) :
    l.phase = .stopped result := by
  obtain ⟨phase, shutdown, script, calls⟩ := l
  cases phase <;> cases h
  rfl

theorem next?_of_result? {result : Except MeshError Unit} (h : l.result? = some result) :
    l.next? = none := by
  rw [next?, phase_of_result? h]

theorem standing_start (script : List Connection) : (start script).Standing script :=
  .running rfl (List.nil_append []).symm unharmed_nil rfl

/-- Whatever happens first, a loop that gets what it waits for still stands. -/
theorem Standing.next (h : l.Standing script) (hnext : l.next? = some l') : l'.Standing script := by
  cases h with
  | ended hresult =>
    rw [next?_of_result? hresult] at hnext
    cases hnext
  | failed hresult =>
    rw [next?_of_result? hresult] at hnext
    cases hnext
  | @running settled _ hcalls hsettled hoffered =>
    cases advance_of_next? hnext with
    | cancelled _ hresult hsame hcurrent =>
      rw [hcurrent, Option.toList_none, List.append_nil] at hcalls
      rw [← hsame] at hcalls hoffered
      exact .ended hresult (hcalls ▸ hsettled) ⟨_, hoffered.symm⟩
    | failed hcurrent hfatal hresult hsame =>
      rw [hcurrent] at hcalls
      rw [← hsame] at hcalls hoffered
      exact .failed hresult hcalls hsettled hfatal ⟨_, hoffered.symm⟩
    | moved hcurrent hresult hmade hahead =>
      have hall : Unharmed l.calls := by
        rw [hcalls]
        exact hsettled.append hcurrent
      refine .running hresult hmade hall ?_
      rw [hmade, List.append_assoc, ← hahead]
      exact hoffered

theorem quit_of_result? {result : Except MeshError Unit} (h : l.result? = some result) :
    l.step .quit = l := by
  obtain ⟨phase, shutdown, script, calls⟩ := l
  obtain rfl : phase = .stopped result := phase_of_result? h
  rw [step]
  exact ite_self _

/-- A shutdown ends a loop between its calls, or while it subscribes. -/
theorem quit_cases (h : l.result? = none) :
    l.step .quit = l ∨ (l.step .quit).result? = some (.ok ()) ∧ (l.step .quit).calls = l.calls
      ∧ Unharmed l.phase.current?.toList := by
  obtain ⟨phase, shutdown, script, calls⟩ := l
  rw [step]
  split
  · rename_i hquit
    have hheeds := (Bool.and_eq_true_iff.1 hquit).1
    refine .inr ?_
    cases phase with
    | connecting | handling => cases hheeds
    | stopped => cases h
    | ready | listening | resting => exact ⟨rfl, rfl, unharmed_nil⟩
    | subscribing => exact ⟨rfl, rfl, unharmed_singleton rfl⟩
  · exact .inl rfl

theorem Standing.quit (h : l.Standing script) : (l.step .quit).Standing script := by
  cases h with
  | running hresult hcalls hsettled hoffered =>
    obtain hsame | ⟨hended, hsame, hcurrent⟩ := quit_cases hresult
    · rw [hsame]
      exact .running hresult hcalls hsettled hoffered
    · refine .ended hended ?_ ⟨_, hsame ▸ hoffered.symm⟩
      rw [hsame, hcalls]
      exact hsettled.append hcurrent
  | ended hresult hcalls hoffered =>
    rw [quit_of_result? hresult]
    exact .ended hresult hcalls hoffered
  | failed hresult hcalls hsettled hfatal hoffered =>
    rw [quit_of_result? hresult]
    exact .failed hresult hcalls hsettled hfatal hoffered

theorem Standing.step (h : l.Standing script) (c : Choice) : (l.step c).Standing script := by
  cases c with
  | go =>
    cases hnext : l.next? with
    | none =>
      rw [Loop.step, hnext]
      exact h
    | some l' =>
      rw [Loop.step, hnext]
      exact h.next hnext
  | quit => exact h.quit
  | trigger | drop =>
    cases h with
    | running hresult hcalls hsettled hoffered => exact .running hresult hcalls hsettled hoffered
    | ended hresult hcalls hoffered => exact .ended hresult hcalls hoffered
    | failed hresult hcalls hsettled hfatal hoffered =>
      exact .failed hresult hcalls hsettled hfatal hoffered

theorem Standing.run (h : l.Standing script) (choices : List Choice) :
    (l.run choices).Standing script := by
  induction choices generalizing l with
  | nil => exact h
  | cons c choices ih => exact ih (h.step c)

/-- What every run of a loop against a script keeps. -/
theorem standing_run (script : List Connection) (choices : List Choice) :
    ((start script).run choices).Standing script := (standing_start script).run choices

/-! ### Without a shutdown -/

theorem shutdown_of_next? (h : l.next? = some l') : l'.shutdown = l.shutdown := by
  rw [next?] at h
  repeat' split at h
  all_goals cases h
  all_goals rfl

theorem step_of_awaited {c : Choice} (hs : l.shutdown = {}) (hr : l.result? ≠ some (.ok ()))
    (ht : c ≠ .trigger) (hd : c ≠ .drop) :
    (l.step c).shutdown = {} ∧ (l.step c).result? ≠ some (.ok ()) := by
  cases c with
  | trigger => exact absurd rfl ht
  | drop => exact absurd rfl hd
  | quit =>
    have hquit : (l.phase.heedsShutdown && l.shutdown.isReleased) = false := by
      rw [hs]
      exact Bool.and_false _
    rw [step, hquit, if_neg Bool.false_ne_true]
    exact ⟨hs, hr⟩
  | go =>
    rw [step]
    cases hnext : l.next? with
    | none => exact ⟨hs, hr⟩
    | some l' =>
      refine ⟨(shutdown_of_next? hnext).trans hs, ?_⟩
      cases advance_of_next? hnext with
      | cancelled hgiven =>
        rw [hs] at hgiven
        cases hgiven
      | failed _ _ hresult =>
        rw [Option.getD_some, hresult]
        nofun
      | moved _ hresult =>
        rw [Option.getD_some, hresult]
        nofun

/-- As long as nobody shuts a loop down, it does not end well. -/
theorem run_of_awaited {choices : List Choice} (hs : l.shutdown = {})
    (hr : l.result? ≠ some (.ok ())) (ht : .trigger ∉ choices) (hd : .drop ∉ choices) :
    (l.run choices).shutdown = {} ∧ (l.run choices).result? ≠ some (.ok ()) := by
  induction choices generalizing l with
  | nil => exact ⟨hs, hr⟩
  | cons c choices ih =>
    rw [List.mem_cons, not_or] at ht hd
    obtain ⟨hs', hr'⟩ := step_of_awaited hs hr (Ne.symm ht.1) (Ne.symm hd.1)
    exact ih hs' hr' ht.2 hd.2

/-- A loop that nothing ends makes the next call. -/
theorem exists_next_call {next : Call} {later : List Call} (hs : l.shutdown = {})
    (hcurrent : Unharmed l.phase.current?.toList)
    (hahead : l.phase.ahead l.script = next :: later) :
    ∃ n, (l.run (List.replicate n .go)).calls = l.calls ++ [next] := by
  induction hleft : l.left using Nat.strongRecOn generalizing l with
  | ind left ih =>
    cases hnext : l.next? with
    | none =>
      rw [ahead_of_next?_eq_none hnext] at hahead
      cases hahead
    | some l' =>
      cases advance_of_next? hnext with
      | cancelled hgiven =>
        rw [hs] at hgiven
        cases hgiven
      | failed hcall hfatal =>
        rw [hcurrent _ (Option.mem_toList.2 hcall)] at hfatal
        cases hfatal
      | moved _ _ hmade hrest =>
        rw [hahead] at hrest
        have hgo : l.step .go = l' := by rw [step, hnext, Option.getD_some]
        cases hcall : l'.phase.current? with
        | none =>
          rw [hcall, Option.toList_none, List.append_nil] at hmade
          rw [hcall, Option.toList_none, List.nil_append] at hrest
          obtain ⟨n, hn⟩ := ih l'.left (hleft ▸ left_lt_of_next? hnext)
            ((shutdown_of_next? hnext).trans hs) (by rw [hcall]; exact unharmed_nil) hrest.symm rfl
          refine ⟨n + 1, ?_⟩
          rw [List.replicate_succ, run, List.foldl_cons, hgo, ← hmade]
          exact hn
        | some call =>
          rw [hcall] at hmade hrest
          refine ⟨1, ?_⟩
          rw [(List.cons.inj hrest).1]
          exact (congrArg calls hgo).trans hmade

/-! ### After the signal is given -/

theorem attempts_of_next? (hg : l.shutdown.isGiven = true) (h : l.next? = some l') :
    attempts l'.calls = attempts l.calls := by
  obtain ⟨phase, shutdown, script, calls⟩ := l
  have hmade (call : Call) (hcall : call.act ≠ .subscribe) :
      attempts (calls ++ [call]) = attempts calls := by
    have hzero : attempts [call] = 0 := List.count_cons_of_ne hcall
    rw [attempts_append, hzero, Nat.add_zero]
  match phase, script with
  | .ready, _ =>
    rw [next?, hg, if_pos rfl] at h
    cases h
    rfl
  | .subscribing, .opened _ _ :: _ | .listening ⟨⟨_, .payload _ _⟩ :: _, _⟩, _ =>
    cases h
    exact hmade _ nofun
  | .subscribing, .refused _ :: _ | .connecting .., _ | .listening ⟨[], false⟩, _
  | .listening ⟨⟨_, .fault _⟩ :: _, _⟩, _ | .handling .., _ | .resting, _ =>
    cases h
    rfl

theorem step_of_isGiven {c : Choice} (hg : l.shutdown.isGiven = true) :
    (l.step c).shutdown.isGiven = true ∧ attempts (l.step c).calls = attempts l.calls := by
  cases c with
  | trigger =>
    refine ⟨?_, rfl⟩
    rw [step, Shutdown.fire]
    split
    · rfl
    · exact hg
  | drop =>
    refine ⟨?_, rfl⟩
    rw [step, Shutdown.dropTrigger]
    split
    · exact hg
    · exact hg
  | quit =>
    rw [step]
    split <;> exact ⟨hg, rfl⟩
  | go =>
    rw [step]
    cases hnext : l.next? with
    | none => exact ⟨hg, rfl⟩
    | some l' =>
      refine ⟨?_, attempts_of_next? hg hnext⟩
      rw [Option.getD_some, shutdown_of_next? hnext]
      exact hg

/-- A loop does not subscribe any more once the signal is given. -/
theorem attempts_run_of_isGiven (hg : l.shutdown.isGiven = true) (choices : List Choice) :
    attempts (l.run choices).calls = attempts l.calls := by
  induction choices generalizing l with
  | nil => rfl
  | cons c choices ih =>
    obtain ⟨hg', hc⟩ := step_of_isGiven hg
    exact (ih hg').trans hc

/-! ### The discipline -/

/-- What a loop keeps to that ran against a script, when these things came first. -/
structure Disciplined (script : List Connection) (choices : List Choice) (l : Loop) : Prop where
  /-- The connect hook is called right after the attempt to subscribe that succeeded, and no second
  time. -/
  connect {before after : List Call} {result : Except MeshError Unit} :
    l.calls = before ++ .connect result :: after →
      ∃ earlier stream, before = earlier ++ [.subscribe]
        ∧ script[attempts earlier]? = some (.opened result stream)
  /-- A payload is handled after the connect hook of its subscription returned well and after all the
  payloads before it, without anything in between. -/
  payload {before after : List Call} {text : String} {result : Except MeshError Unit} :
    l.calls = before ++ .payload text result :: after →
      ∃ earlier handled stream,
        before = earlier ++ .subscribe :: .connect (.ok ()) :: handled.map (fun p => .payload p.1 p.2)
        ∧ script[attempts earlier]? = some (.opened (.ok ()) stream)
        ∧ handled ++ [(text, result)] <+: payloads stream.items
  /-- The loop fails once a call returned a fatal error, with the first of these. -/
  error_iff (e : MeshError) :
    l.result? = some (.error e) ↔ l.returned.findSome? Call.fatal? = some e
  /-- That was its last call. -/
  last {before after : List Call} {call : Call} {e : MeshError} :
    l.calls = before ++ call :: after → call.fatal? = some e → after = []
  /-- It ends well only at a shutdown. -/
  ends : l.result? = some (.ok ()) → .trigger ∈ choices ∨ .drop ∈ choices
  /-- As long as there is none, whatever else goes wrong, it goes on with the calls of a loop that
  nothing ends. -/
  goes_on : .trigger ∉ choices → .drop ∉ choices → Unharmed l.calls →
    l.result? = none ∧ l.calls <+: undisturbed script
      ∧ ∀ next later, undisturbed script = l.calls ++ next :: later →
          ∃ n, (l.run (List.replicate n .go)).calls = l.calls ++ [next]

theorem Standing.calls_prefix (h : l.Standing script) : l.calls <+: undisturbed script := by
  cases h with
  | running _ _ _ hoffered => exact ⟨_, hoffered.symm⟩
  | ended _ _ hoffered => exact hoffered
  | failed _ _ _ _ hoffered => exact hoffered

theorem returned_of_result? {result : Except MeshError Unit} (h : l.result? = some result) :
    l.returned = l.calls := by
  rw [returned, phase_of_result? h]
  rfl

theorem returned_of_calls {settled : List Call} (h : l.calls = settled ++ l.phase.current?.toList) :
    l.returned = settled := by
  rw [returned, h]
  cases l.phase.current? with
  | none => exact List.append_nil _
  | some call => exact List.dropLast_concat

theorem Standing.error_iff (h : l.Standing script) (e : MeshError) :
    l.result? = some (.error e) ↔ l.returned.findSome? Call.fatal? = some e := by
  cases h with
  | running hresult hcalls hsettled =>
    rw [hresult, returned_of_calls hcalls, hsettled.findSome?_eq_none]
    exact ⟨nofun, nofun⟩
  | ended hresult hcalls =>
    rw [returned_of_result? hresult, hresult, hcalls.findSome?_eq_none]
    exact ⟨nofun, nofun⟩
  | failed hresult hcalls hsettled hfatal =>
    rw [returned_of_result? hresult, hresult, hcalls, List.findSome?_append,
      hsettled.findSome?_eq_none, Option.none_or, List.findSome?_singleton, hfatal,
      Option.some.injEq, Except.error.injEq, Option.some.injEq]

/-- Only the last call may have failed for good. -/
theorem Standing.unharmed_dropLast (h : l.Standing script) : Unharmed l.calls.dropLast := by
  have hsub {calls : List Call} (hc : Unharmed calls) : Unharmed calls.dropLast :=
    fun call hmem => hc call (List.dropLast_subset calls hmem)
  cases h with
  | ended _ hcalls => exact hsub hcalls
  | failed _ hcalls hsettled =>
    rw [hcalls, List.dropLast_concat]
    exact hsettled
  | running _ hcalls hsettled =>
    rw [hcalls]
    cases l.phase.current? with
    | none =>
      rw [Option.toList_none, List.append_nil]
      exact hsub hsettled
    | some call =>
      rw [Option.toList_some, List.dropLast_concat]
      exact hsettled

theorem Standing.last (h : l.Standing script) {before after : List Call} {call : Call}
    {e : MeshError} (hcalls : l.calls = before ++ call :: after) (hfatal : call.fatal? = some e) :
    after = [] := by
  cases after with
  | nil => rfl
  | cons next later =>
    have hmem : call ∈ l.calls.dropLast := by
      rw [hcalls, List.dropLast_append_cons, List.dropLast_cons_cons]
      exact List.mem_append_right _ List.mem_cons_self
    rw [h.unharmed_dropLast call hmem] at hfatal
    cases hfatal

theorem Standing.goes_on (h : l.Standing script) (hs : l.shutdown = {})
    (hr : l.result? ≠ some (.ok ())) (hall : Unharmed l.calls) :
    l.result? = none ∧ ∀ next later, undisturbed script = l.calls ++ next :: later →
      ∃ n, (l.run (List.replicate n .go)).calls = l.calls ++ [next] := by
  cases h with
  | ended hresult => exact absurd hresult hr
  | failed _ hcalls _ hfatal =>
    rw [hall _ (hcalls ▸ List.mem_append_right _ List.mem_cons_self)] at hfatal
    cases hfatal
  | running hresult hcalls _ hoffered =>
    refine ⟨hresult, fun next later hnext => ?_⟩
    refine exists_next_call hs (fun call hmem => hall call ?_)
      (List.append_cancel_left (hoffered.symm.trans hnext))
    rw [hcalls]
    exact List.mem_append_right _ hmem

/-- A listening loop keeps its discipline, whatever the script and whatever comes first. -/
theorem run_disciplined (script : List Connection) (choices : List Choice) :
    Disciplined script choices ((start script).run choices) := by
  have h := standing_run script choices
  have hawaited (ht : .trigger ∉ choices) (hd : .drop ∉ choices) :=
    @run_of_awaited (start script) choices rfl nofun ht hd
  refine ⟨ connect_of_prefix h.calls_prefix, payload_of_prefix h.calls_prefix, h.error_iff, h.last,
    fun hresult => ?_, fun ht hd hall => ?_⟩
  · refine Decidable.byContradiction fun hnone => ?_
    rw [not_or] at hnone
    exact (hawaited hnone.1 hnone.2).2 hresult
  · obtain ⟨hs, hr⟩ := hawaited ht hd
    obtain ⟨hresult, hnext⟩ := h.goes_on hs hr hall
    exact ⟨hresult, h.calls_prefix, hnext⟩

example :
    ((start [.refused (.selfRelay "c" "a"),
        .opened (.error (.store "down")) ⟨[⟨0, .payload "skipped" (.ok ())⟩], true⟩,
        .opened (.ok ()) ⟨[⟨5, .payload "bad" (.error (.store "down"))⟩, ⟨5, .payload "good" (.ok ())⟩,
          ⟨0, .fault (.store "lost")⟩, ⟨0, .payload "late" (.ok ())⟩], true⟩,
        .opened (.ok ()) ⟨[⟨3, .payload "fatal" (.error (.wrongChannel "c"))⟩,
          ⟨0, .payload "next" (.ok ())⟩], true⟩]).run (.replicate 30 .go)).calls.map Call.act
      = [.subscribe, .subscribe, .connect, .subscribe, .connect, .payload "bad", .payload "good",
        .subscribe, .connect, .payload "fatal"] := rfl

/-- A shutdown that comes while the hook runs does not hide what that returns; one that came before
leaves nothing to call. -/
example :
    let l := start [.opened (.error (.wrongChannel "c")) {}]
    (l.run [.go, .go, .trigger, .quit, .go]).result? = some (.error (.wrongChannel "c"))
      ∧ (l.run [.trigger, .go, .go]).calls.map Call.act = [] := ⟨rfl, rfl⟩

/-! ### On a clock -/

theorem calls_of_next? (h : l.next? = some l') : l'.calls = l.calls ++ l'.phase.current?.toList := by
  have hended {result : Except MeshError Unit} (hresult : l'.result? = some result)
      (hsame : l'.calls = l.calls) : l'.calls = l.calls ++ l'.phase.current?.toList := by
    rw [phase_of_result? hresult]
    exact hsame.trans (List.append_nil _).symm
  cases advance_of_next? h with
  | cancelled _ hresult hsame => exact hended hresult hsame
  | failed _ _ hresult hsame => exact hended hresult hsame
  | moved _ _ hmade => exact hmade

theorem calls_run_choices (h : Horizon) (l : Loop) : (l.run h.choices).calls = l.calls := by
  rw [Horizon.choices]
  split
  · rw [run, List.foldl_cons, List.foldl_cons, List.foldl_nil, step]
    split <;> rfl
  · rfl

/-- The course of a loop on a clock is that of a run. -/
theorem exists_run_of_play (h : Horizon) (retryDelay : Duration) (l : Loop) (now : Nat) :
    ∃ n, (l.run (List.replicate n .go ++ h.choices)).calls.map Call.act
          = l.calls.map Call.act ++ (l.play h retryDelay now).log.map Prod.snd
        ∧ (l.run (List.replicate n .go ++ h.choices)).result?
          = (l.play h retryDelay now).result := by
  have hhalt (l : Loop) (now : Nat) :
      (l.run h.choices).calls.map Call.act = l.calls.map Call.act ++ (l.halt h now).log.map Prod.snd
        ∧ (l.run h.choices).result? = (l.halt h now).result :=
    ⟨by rw [calls_run_choices]; exact (List.append_nil _).symm, rfl⟩
  fun_induction play h retryDelay l now with
  | case1 l now next hnext time htime ih =>
    obtain ⟨n, hcalls, hresult⟩ := ih
    have hgo (choices : List Choice) : l.run (.go :: choices) = next.run choices := by
      rw [run, List.foldl_cons, step, hnext]
      rfl
    refine ⟨n + 1, ?_, ?_⟩
    · rw [List.replicate_succ, List.cons_append, hgo, hcalls, calls_of_next? hnext, Course.after,
        List.map_append, List.map_append, List.map_map, List.append_assoc]
      rfl
    · rw [List.replicate_succ, List.cons_append, hgo, hresult]
      rfl
  | case2 l now => exact ⟨0, hhalt l now⟩
  | case3 l now => exact ⟨0, hhalt l now⟩

/-- The course of a listening loop is that of a run, so that it keeps the discipline of runs. -/
theorem exists_run_of_listen (h : Horizon) (retryDelay : Duration) (script : List Connection) :
    ∃ n, ((start script).run (List.replicate n .go ++ h.choices)).calls.map Call.act
          = (listen h retryDelay script).log.map Prod.snd
        ∧ ((start script).run (List.replicate n .go ++ h.choices)).result?
          = (listen h retryDelay script).result :=
  exists_run_of_play h retryDelay (start script) 0

end Loop

end TopicMesh.Rehearsal
