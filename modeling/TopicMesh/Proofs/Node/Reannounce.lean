import TopicMesh.Proofs.Node.Announce
import TopicMesh.Proofs.Proxy.Broadcast
import TopicMesh.Proofs.Proxy.Written

/-!
# TopicMesh.Proofs.Node.Reannounce

What a beat leaves in the store when the instance was reaped and announces its clients again.

* `Node.openClient?`    — a client that is attached and has not gone offline.
* `Node.beatIn`         — a beat whose snapshot of the registry is listed in any order. Proxies that
  have left the registry since it was taken, or are closed, have no turn.
* `beat_eq_beatIn`      — a beat takes the registry in the order of the clients.
* `reannounceIn_spares` and `reannounceIn_split` — a client that has no turn keeps its record; any
  other one is found by its turn just as the beat found it.

No client's turn depends on another's, so that what one of them fails at is lost for that client
alone, and the order makes no difference (`beat_restores`).
-/

namespace TopicMesh.Node

/-- Whether some beat has made the lease, after beats with these results. -/
def joinedAfter (past : List (Except MeshError Pulse)) : Bool := past.foldl hasJoinedAfter false

def openClient? (n : Node) (id : String) : Option Client :=
  (n.registry.find? id).bind fun p => if p.isClosed then none else p.client?

/-- The proxy of a snapshot is still the one that is registered, and open. -/
def IsDue (n : Node) (e : String × Proxy) : Prop :=
  ∃ p c, n.registry.find? e.1 = some p ∧ p.serial? = e.2.serial? ∧ p.isClosed = false
    ∧ p.client? = some c

/-- The turn of one proxy of a snapshot. -/
def reannounceTurn (acc : Node × Backend) (e : String × Proxy) : Node × Backend :=
  match acc.1.registry.find? e.1 with
  | none => acc
  | some p =>
    if p.isAttached && p.serial? = e.2.serial? && !p.isClosed then
      (acc.1.putBack e.1 (p.broadcast acc.1.channel acc.2).subject,
        (p.broadcast acc.1.channel acc.2).backend)
    else acc

def reannounceIn (n : Node) (snapshot : List (String × Proxy)) (b : Backend) : Node × Backend :=
  snapshot.foldl reannounceTurn (n, b)

def beatIn (n : Node) (snapshot : List (String × Proxy)) (hasJoined : Bool) (b : Backend) :
    Outcome Node Pulse :=
  match b.heartbeat n.channel n.settings.channelTtl with
  | { result := .error e, backend } => { result := .error e, subject := n, backend }
  | { result := .ok pulse, backend } =>
    if wasReaped hasJoined pulse then
      { result := .ok pulse
        subject := (n.reannounceIn snapshot backend).1
        backend := (n.reannounceIn snapshot backend).2 }
    else { result := .ok pulse, subject := n, backend }

/-- The services as the instance finds them once its lease is renewed. -/
def renewal (n : Node) (b : Backend) : Backend :=
  (b.heartbeat n.channel n.settings.channelTtl).backend

variable {own id : String} {n : Node} {b : Backend} {acc : Node × Backend}
  {past : List (Except MeshError Pulse)}

theorem hasJoined_foldl (joined : Bool) (past : List (Except MeshError Pulse)) :
    past.foldl hasJoinedAfter joined = true ↔
      joined = true ∨ ∃ pulse, .ok pulse ∈ past ∧ pulse.inserted = true := by
  induction past generalizing joined with
  | nil => simp
  | cons r past ih =>
    rw [List.foldl_cons, ih]
    cases r with
    | error e => simp [hasJoinedAfter]
    | ok pulse => simp [hasJoinedAfter, or_assoc]

/-- The flag tells whether an earlier beat made the lease, and not whether there was one. -/
theorem joinedAfter_iff (past : List (Except MeshError Pulse)) :
    joinedAfter past = true ↔ ∃ pulse, .ok pulse ∈ past ∧ pulse.inserted = true := by
  rw [joinedAfter, hasJoined_foldl]
  simp

theorem openClient?_eq_some_iff {c : Client} :
    n.openClient? id = some c ↔
      ∃ p, n.registry.find? id = some p ∧ p.isClosed = false ∧ p.client? = some c := by
  rw [openClient?, Option.bind_eq_some_iff]
  constructor
  · rintro ⟨p, hp, hc⟩
    split at hc
    · cases hc
    · rename_i ho
      rw [Bool.not_eq_true] at ho
      exact ⟨p, hp, ho, hc⟩
  · rintro ⟨p, hp, ho, hc⟩
    refine ⟨p, hp, ?_⟩
    rw [ho, if_neg Bool.false_ne_true, hc]

/-! ## One turn -/

theorem IsDue.openClient? {e : String × Proxy} (h : n.IsDue e) :
    ∃ c, n.openClient? e.1 = some c := by
  obtain ⟨p, c, hp, -, ho, hc⟩ := h
  exact ⟨c, openClient?_eq_some_iff.2 ⟨p, hp, ho, hc⟩⟩

/-- A turn is missed, or the registered proxy broadcasts. -/
theorem turn_cases (acc : Node × Backend) (e : String × Proxy) :
    reannounceTurn acc e = acc
    ∨ ∃ p, acc.1.registry.find? e.1 = some p ∧ acc.1.IsDue e
      ∧ reannounceTurn acc e = (acc.1.putBack e.1 (p.broadcast acc.1.channel acc.2).subject,
          (p.broadcast acc.1.channel acc.2).backend) := by
  rw [reannounceTurn]
  split
  · exact .inl rfl
  · rename_i p hp
    split
    · rename_i hdue
      simp only [Bool.and_eq_true, decide_eq_true_eq, Bool.not_eq_true'] at hdue
      obtain ⟨⟨ha, hserial⟩, ho⟩ := hdue
      obtain ⟨serial, c, hattach⟩ := Proxy.isAttached_eq_true_iff.1 ha
      have hc : p.client? = some c := Proxy.client?_eq_some_iff.2 ⟨serial, hattach⟩
      exact .inr ⟨p, hp, ⟨p, c, hp, hserial, ho, hc⟩, rfl⟩
    · exact .inl rfl

theorem turn_of_registered {p : Proxy} {c : Client} (hp : acc.1.registry.find? id = some p)
    (ho : p.isClosed = false) (hc : p.client? = some c) :
    reannounceTurn acc (id, p) = (acc.1.putBack id (p.broadcast acc.1.channel acc.2).subject,
      (p.broadcast acc.1.channel acc.2).backend) := by
  have ha := Proxy.isAttached_of_client? hc
  simp [reannounceTurn, hp, ha, ho]

/-- What one turn leaves alone. -/
structure Spared (id : String) (acc acc' : Node × Backend) : Prop where
  registry : acc'.1.registry.find? id = acc.1.registry.find? id
  record : acc'.2.store.records.find? id = acc.2.store.records.find? id

theorem SoundAs.turn (h : acc.1.SoundAs own) (e : String × Proxy) :
    (reannounceTurn acc e).1.SoundAs own := by
  rcases turn_cases acc e with he | ⟨p, hp, -, he⟩
  · rw [he]
    exact h
  · rw [he, h.channel]
    exact h.putBack ((Proxy.alike_broadcast own p acc.2).soundAt (h.proxies e.1 p hp))

theorem turn_services (h : acc.1.SoundAs own) (e : String × Proxy) :
    acc.2.Touches e.1 (reannounceTurn acc e).2 := by
  rcases turn_cases acc e with he | ⟨p, hp, -, he⟩
  · rw [he]
    exact .refl e.1 acc.2
  · rw [he, h.channel]
    exact (h.proxies e.1 p hp).touches_broadcast acc.2

/-- The turn of another client, and one that is missed, changes nothing for a client. -/
theorem turn_spares (h : acc.1.SoundAs own) {e : String × Proxy}
    (hid : e.1 = id → ¬acc.1.IsDue e) : Spared id acc (reannounceTurn acc e) := by
  by_cases heq : e.1 = id
  · rcases turn_cases acc e with he | ⟨p, -, hdue, -⟩
    · rw [he]
      exact ⟨rfl, rfl⟩
    · exact absurd hdue (hid heq)
  · refine ⟨?_, (turn_services h e).records id heq⟩
    rcases turn_cases acc e with he | ⟨p, -, -, he⟩
    · rw [he]
    · rw [he]
      exact Table.find?_insert_other heq _ _

/-! ## Turns one after the other -/

section Turns

variable {order : List (String × Proxy)}

theorem soundAs_turns (acc : Node × Backend) (h : acc.1.SoundAs own)
    (order : List (String × Proxy)) : (order.foldl reannounceTurn acc).1.SoundAs own := by
  induction order generalizing acc with
  | nil => exact h
  | cons e order ih => exact ih _ (h.turn e)

/-- No turn touches the leases, and none makes a call fail that would not have failed. -/
theorem turns_services (acc : Node × Backend) (h : acc.1.SoundAs own)
    (order : List (String × Proxy)) :
    (order.foldl reannounceTurn acc).2.store.deadlines = acc.2.store.deadlines
      ∧ (acc.2.outages = [] → (order.foldl reannounceTurn acc).2.outages = []) := by
  induction order generalizing acc with
  | nil => exact ⟨rfl, fun hb => hb⟩
  | cons e order ih =>
    have ht := turn_services h e
    obtain ⟨hd, ho⟩ := ih _ (h.turn e)
    exact ⟨hd.trans ht.deadlines, fun hb => ho (ht.outages hb)⟩

/-- The instance is the same but for its registry. -/
theorem turns_node (acc : Node × Backend) (order : List (String × Proxy)) :
    (order.foldl reannounceTurn acc).1
      = { acc.1 with registry := (order.foldl reannounceTurn acc).1.registry } := by
  induction order generalizing acc with
  | nil => rfl
  | cons e order ih =>
    rw [List.foldl_cons, ih]
    rcases turn_cases acc e with he | ⟨p, -, -, he⟩
    · rw [he]
    · rw [he]
      rfl

/-- The attached clients stay as they are, only their records are written. -/
theorem openClient?_turns (acc : Node × Backend) (order : List (String × Proxy)) (id : String) :
    (order.foldl reannounceTurn acc).1.openClient? id = acc.1.openClient? id := by
  induction order generalizing acc with
  | nil => rfl
  | cons e order ih =>
    rw [List.foldl_cons, ih]
    rcases turn_cases acc e with he | ⟨p, hp, -, he⟩
    · rw [he]
    · rw [he, openClient?, openClient?, putBack_registry, Table.find?_insert]
      split
      · rename_i heq
        obtain ⟨hclient, hclosed⟩ := Proxy.broadcast_subject acc.1.channel p acc.2
        rw [← heq, hp, Option.bind_some, Option.bind_some, hclient, hclosed]
      · rfl

theorem turns_spare (acc : Node × Backend) (h : acc.1.SoundAs own)
    (hid : ∀ e ∈ order, e.1 = id → ¬acc.1.IsDue e) :
    Spared id acc (order.foldl reannounceTurn acc) := by
  induction order generalizing acc with
  | nil => exact ⟨rfl, rfl⟩
  | cons e order ih =>
    have hturn : Spared id acc (reannounceTurn acc e) := turn_spares h (hid e List.mem_cons_self)
    have hrest : Spared id (reannounceTurn acc e)
        (order.foldl reannounceTurn (reannounceTurn acc e)) := by
      refine ih _ (h.turn e) ?_
      intro e' hm heq
      rw [IsDue, heq, hturn.registry, ← heq]
      exact hid e' (List.mem_cons_of_mem e hm) heq
    exact ⟨hrest.registry.trans hturn.registry, hrest.record.trans hturn.record⟩

/-- A client that is not open, or none of whose proxies in the snapshot is still the registered one,
keeps its record. -/
theorem reannounceIn_spares (h : n.SoundAs own) (b : Backend)
    (hid : n.openClient? id = none ∨ ∀ e ∈ order, e.1 = id → ¬n.IsDue e) :
    Spared id (n, b) (n.reannounceIn order b) := by
  refine turns_spare (n, b) h ?_
  intro e hm heq hdue
  rcases hid with hnone | hmissed
  · obtain ⟨c, hc⟩ := hdue.openClient?
    rw [heq, hnone] at hc
    cases hc
  · exact hmissed e hm heq hdue

/-- What became of a client that has a turn: the turn finds the client's proxy and record as they were
at first, and what it leaves of them stays. -/
theorem reannounceIn_split (h : n.SoundAs own) {before after : List (String × Proxy)} {p : Proxy}
    {c : Client} (hnodup : ((before ++ (id, p) :: after).map (·.1)).Nodup)
    (hp : n.registry.find? id = some p) (ho : p.isClosed = false) (hc : p.client? = some c)
    (b : Backend) :
    (n.reannounceIn before b).2.store.records.find? id = b.store.records.find? id
      ∧ (n.reannounceIn (before ++ (id, p) :: after) b).1.registry.find? id
        = some (p.broadcast own (n.reannounceIn before b).2).subject
      ∧ (n.reannounceIn (before ++ (id, p) :: after) b).2.store.records.find? id
        = (p.broadcast own (n.reannounceIn before b).2).backend.store.records.find? id := by
  rw [List.map_append, List.nodup_append] at hnodup
  obtain ⟨-, hafter, hdisjoint⟩ := hnodup
  have hbefore : id ∉ before.map (·.1) := by
    intro hm
    exact hdisjoint id hm id List.mem_cons_self rfl
  have hsound : (n.reannounceIn before b).1.SoundAs own := soundAs_turns (n, b) h before
  have hfirst : Spared id (n, b) (n.reannounceIn before b) :=
    turns_spare (n, b) h fun e hm heq => absurd (List.mem_map.2 ⟨e, hm, heq⟩) hbefore
  have hturn : reannounceTurn (n.reannounceIn before b) (id, p)
      = ((n.reannounceIn before b).1.putBack id (p.broadcast own (n.reannounceIn before b).2).subject,
        (p.broadcast own (n.reannounceIn before b).2).backend) := by
    rw [turn_of_registered (hfirst.registry.trans hp) ho hc, hsound.channel]
  have hlast : Spared id (reannounceTurn (n.reannounceIn before b) (id, p))
      (after.foldl reannounceTurn (reannounceTurn (n.reannounceIn before b) (id, p))) :=
    turns_spare _ (hsound.turn (id, p)) fun e hm heq =>
      absurd (List.mem_map.2 ⟨e, hm, heq⟩) (List.nodup_cons.1 hafter).1
  rw [hturn] at hlast
  have hfold : n.reannounceIn (before ++ (id, p) :: after) b
      = after.foldl reannounceTurn (reannounceTurn (n.reannounceIn before b) (id, p)) := by
    rw [reannounceIn, List.foldl_append, List.foldl_cons]
    rfl
  rw [hfold, hturn]
  refine ⟨hfirst.record, ?_, hlast.record⟩
  exact hlast.registry.trans (Table.find?_insert_self _ _ _)

end Turns

/-! ## The registry in any order -/

section Orders

variable {order : List (String × Proxy)}

theorem nodup_order (h : order.Perm n.registry.entries) : (order.map (·.1)).Nodup :=
  (h.map _).nodup_iff.2 n.registry.nodup_keys

/-- An open client has its turn at some place of the order. -/
theorem exists_split (h : order.Perm n.registry.entries) {c : Client}
    (hopen : n.openClient? id = some c) :
    ∃ before after p, order = before ++ (id, p) :: after ∧ n.registry.find? id = some p
      ∧ p.isClosed = false ∧ p.client? = some c := by
  obtain ⟨p, hp, ho, hc⟩ := openClient?_eq_some_iff.1 hopen
  have hm : (id, p) ∈ order := h.mem_iff.2 ((Table.mem_entries_iff _ _ _).2 hp)
  obtain ⟨before, after, hsplit⟩ := List.append_of_mem hm
  exact ⟨before, after, p, hsplit, hp, ho, hc⟩

/-- The broadcasts of the others may fail or not. -/
theorem record_of_turn (hs : n.SoundAs own) (h : order.Perm n.registry.entries)
    {before after : List (String × Proxy)} {p : Proxy} {c : Client}
    (hsplit : order = before ++ (id, p) :: after) (hopen : n.openClient? id = some c) (b : Backend)
    (hok : (p.broadcast own (n.reannounceIn before b).2).result = .ok ()
      ∨ (n.reannounceIn before b).2.outages = []) :
    (n.reannounceIn order b).2.store.records.find? id
      = c.recordAt own id (b.store.records.find? id) := by
  have hnodup := nodup_order h
  have hm : (id, p) ∈ order := by
    rw [hsplit]
    exact List.mem_append_right before List.mem_cons_self
  have hp : n.registry.find? id = some p := (Table.mem_entries_iff _ _ _).1 (h.mem_iff.1 hm)
  obtain ⟨q, hq, ho, hc⟩ := openClient?_eq_some_iff.1 hopen
  rw [hp] at hq
  cases hq
  subst hsplit
  obtain ⟨hfirst, -, hlast⟩ := reannounceIn_split hs hnodup hp ho hc b
  rw [hlast, (hs.proxies id p hp).record_broadcast hc ho hok, hfirst]

theorem outages_reannounceIn (h : n.SoundAs own) (order : List (String × Proxy))
    (hb : b.outages = []) : (n.reannounceIn order b).2.outages = [] :=
  (turns_services (n, b) h order).2 hb

theorem record_of_open (hs : n.SoundAs own) (h : order.Perm n.registry.entries) {c : Client}
    (hopen : n.openClient? id = some c) (hb : b.outages = []) :
    (n.reannounceIn order b).2.store.records.find? id
      = c.recordAt own id (b.store.records.find? id) := by
  obtain ⟨before, after, p, hsplit, -⟩ := exists_split h hopen
  exact record_of_turn hs h hsplit hopen b (.inr (outages_reannounceIn hs before hb))

theorem registry_of_open (hs : n.SoundAs own) (h : order.Perm n.registry.entries) {c : Client}
    (hopen : n.openClient? id = some c) (hb : b.outages = []) :
    (n.reannounceIn order b).1.registry.find? id
      = (n.registry.find? id).map fun p => (p.broadcast own b).subject := by
  obtain ⟨before, after, p, rfl, hp, ho, hc⟩ := exists_split h hopen
  obtain ⟨hfirst, hregistry, -⟩ := reannounceIn_split hs (nodup_order h) hp ho hc b
  rw [hregistry, hp, Option.map_some,
    (hs.proxies id p hp).broadcast_congr (outages_reannounceIn hs before hb) hb hfirst]

/-- Without outages the order makes no difference to the instance and the store. -/
theorem reannounceIn_perm {order' : List (String × Proxy)} (hs : n.SoundAs own)
    (h : order.Perm n.registry.entries) (h' : order'.Perm n.registry.entries)
    (hb : b.outages = []) :
    (n.reannounceIn order b).1 = (n.reannounceIn order' b).1
      ∧ (n.reannounceIn order b).2.store = (n.reannounceIn order' b).2.store := by
  have hregistry : (n.reannounceIn order b).1.registry = (n.reannounceIn order' b).1.registry := by
    apply Table.ext
    intro id
    cases hopen : n.openClient? id with
    | none =>
      exact (reannounceIn_spares hs b (.inl hopen)).registry.trans
        (reannounceIn_spares hs b (.inl hopen)).registry.symm
    | some c => rw [registry_of_open hs h hopen hb, registry_of_open hs h' hopen hb]
  constructor
  · have hnode := turns_node (n, b) order
    have hnode' := turns_node (n, b) order'
    rw [reannounceIn, reannounceIn] at hregistry ⊢
    rw [hnode, hnode', hregistry]
  · apply Store.eq_of_tables
    · exact (turns_services (n, b) hs order).1.trans
        (turns_services (n, b) hs order').1.symm
    · apply Table.ext
      intro id
      cases hopen : n.openClient? id with
      | none =>
        exact (reannounceIn_spares hs b (.inl hopen)).record.trans
          (reannounceIn_spares hs b (.inl hopen)).record.symm
      | some c => rw [record_of_open hs h hopen hb, record_of_open hs h' hopen hb]

end Orders

/-! ## The beat -/

/-- A registered proxy has its turn, and one of a closed client writes nothing anyway. -/
theorem reannounceOne_eq_turn {e : String × Proxy} (he : acc.1.registry.find? e.1 = some e.2) :
    reannounceOne acc e = reannounceTurn acc e := by
  rw [reannounceOne]
  cases ha : e.2.isAttached with
  | false =>
    rw [if_neg Bool.false_ne_true]
    simp [reannounceTurn, he, ha]
  | true =>
    obtain ⟨serial, c, hattach⟩ := Proxy.isAttached_eq_true_iff.1 ha
    have hc : e.2.client? = some c := Proxy.client?_eq_some_iff.2 ⟨serial, hattach⟩
    cases ho : e.2.isClosed with
    | false => exact (turn_of_registered he ho hc).symm
    | true =>
      rw [if_pos rfl, Proxy.broadcast_of_closed _ hc ho]
      simp only [putBack_self he]
      simp [reannounceTurn, he, ho]

theorem reannounceEntries_eq_turns {entries : List (String × Proxy)} (acc : Node × Backend)
    (h : acc.1.SoundAs own) (he : ∀ e ∈ entries, acc.1.registry.find? e.1 = some e.2)
    (hnodup : (entries.map (·.1)).Nodup) :
    entries.foldl reannounceOne acc = entries.foldl reannounceTurn acc := by
  induction entries generalizing acc with
  | nil => rfl
  | cons e entries ih =>
    obtain ⟨hnot, hnodup⟩ := List.nodup_cons.1 hnodup
    rw [List.foldl_cons, List.foldl_cons, reannounceOne_eq_turn (he e List.mem_cons_self)]
    refine ih _ (h.turn e) ?_ hnodup
    intro e' hm
    have hother : e.1 ≠ e'.1 := fun heq => hnot (List.mem_map.2 ⟨e', hm, heq.symm⟩)
    have hspared : Spared e'.1 acc (reannounceTurn acc e) :=
      turn_spares h fun heq => absurd heq hother
    rw [hspared.registry]
    exact he e' (List.mem_cons_of_mem e hm)

theorem SoundAs.beat_eq_beatIn (h : n.SoundAs own) (hasJoined : Bool) (b : Backend) :
    n.beat hasJoined b = n.beatIn n.registry.entries hasJoined b := by
  have hre : ∀ b, n.reannounce b = n.reannounceIn n.registry.entries b := by
    intro b
    refine reannounceEntries_eq_turns (n, b) h ?_ n.registry.nodup_keys
    intro e he
    exact (Table.mem_entries_iff _ _ _).1 he
  rw [beat, beatIn]
  cases b.heartbeat n.channel n.settings.channelTtl with
  | mk result backend =>
    cases result with
    | error e => rfl
    | ok pulse => simp only [hre]

/-- Announcing clients again is no part of the result. -/
theorem result_beatIn (n : Node) (order : List (String × Proxy)) (hasJoined : Bool) (b : Backend) :
    (n.beatIn order hasJoined b).result = (b.heartbeat n.channel n.settings.channelTtl).result := by
  rw [beatIn]
  cases b.heartbeat n.channel n.settings.channelTtl with
  | mk result backend =>
    cases result with
    | error e => rfl
    | ok pulse =>
      simp only
      split <;> rfl

theorem beatIn_of_rejoin {order : List (String × Proxy)} {pulse : Pulse}
    (hjoined : ∃ earlier, .ok earlier ∈ past ∧ earlier.inserted = true)
    (hok : (n.beatIn order (joinedAfter past) b).result = .ok pulse)
    (hins : pulse.inserted = true) :
    n.beatIn order (joinedAfter past) b
      = { result := .ok pulse
          subject := (n.reannounceIn order (n.renewal b)).1
          backend := (n.reannounceIn order (n.renewal b)).2 } := by
  have hreaped : wasReaped (joinedAfter past) pulse = true := by
    rw [wasReaped, hins, (joinedAfter_iff past).2 hjoined]
    rfl
  rw [result_beatIn] at hok
  rw [beatIn, renewal]
  cases hbeat : b.heartbeat n.channel n.settings.channelTtl with
  | mk result backend =>
    rw [hbeat] at hok
    cases hok
    simp only [hreaped, if_true]

theorem outages_renewal (n : Node) (hb : b.outages = []) : (n.renewal b).outages = [] := by
  rw [renewal, Backend.heartbeat, Backend.attempt_of_no_outages hb]
  exact hb

/-- A beat that finds its instance reaped restores the records of the clients that are attached and
open, and of nobody else: with their topics and principals of now, under the owner that the record had
right after the lease was renewed or else under the instance itself; clients without topics have none.
A client whose own broadcast succeeds is restored whatever the broadcasts of the others came to. As
long as the services answer, all are, and the order of the registry makes no difference. -/
theorem beat_restores {own : String} {n : Node} (h : n.SoundAs own)
    {past : List (Except MeshError Pulse)}
    (hjoined : ∃ earlier, .ok earlier ∈ past ∧ earlier.inserted = true)
    {order : List (String × Proxy)} {b : Backend} {pulse : Pulse}
    (hok : (n.beatIn order (joinedAfter past) b).result = .ok pulse)
    (hins : pulse.inserted = true) :
    n.beat (joinedAfter past) b = n.beatIn n.registry.entries (joinedAfter past) b
    ∧ (∀ id, (n.openClient? id = none ∨ ∀ e ∈ order, e.1 = id → ¬n.IsDue e) →
        (n.beatIn order (joinedAfter past) b).backend.store.records.find? id
          = (n.renewal b).store.records.find? id)
    ∧ (order.Perm n.registry.entries →
        (∀ before id p after c, order = before ++ (id, p) :: after → n.openClient? id = some c →
          (p.broadcast own (n.reannounceIn before (n.renewal b)).2).result = .ok () →
          (n.beatIn order (joinedAfter past) b).backend.store.records.find? id
            = c.recordAt own id ((n.renewal b).store.records.find? id))
        ∧ (b.outages = [] →
          (∀ id c, n.openClient? id = some c →
            (n.beatIn order (joinedAfter past) b).backend.store.records.find? id
              = c.recordAt own id ((n.renewal b).store.records.find? id))
          ∧ (n.beat (joinedAfter past) b).result = .ok pulse
          ∧ (n.beatIn order (joinedAfter past) b).subject = (n.beat (joinedAfter past) b).subject
          ∧ (n.beatIn order (joinedAfter past) b).backend.store
            = (n.beat (joinedAfter past) b).backend.store)) := by
  have heq := h.beat_eq_beatIn (joinedAfter past) b
  have hbeat := beatIn_of_rejoin hjoined hok hins
  rw [hbeat]
  refine ⟨heq, ?_, ?_⟩
  · intro id hmissed
    exact (reannounceIn_spares h (n.renewal b) hmissed).record
  · intro hperm
    refine ⟨?_, ?_⟩
    · intro before id p after c hsplit hopen hdone
      exact record_of_turn h hperm hsplit hopen (n.renewal b) (.inl hdone)
    · intro hb
      have hrenewal : (n.renewal b).outages = [] := outages_renewal n hb
      have hsame : (n.beatIn n.registry.entries (joinedAfter past) b).result = .ok pulse := by
        rw [result_beatIn] at hok ⊢
        exact hok
      rw [heq]
      rw [beatIn_of_rejoin hjoined hsame hins]
      obtain ⟨hnode, hstore⟩ := reannounceIn_perm h hperm (.refl _) hrenewal
      exact ⟨fun id c hopen => record_of_open h hperm hopen hrenewal, rfl, hnode, hstore⟩

/-- An instance with a client that has topics and one that has none and an id that no announcement can
carry. -/
def crowded : Node :=
  ((({ channel := "a" } : Node).registerLocal (Client.connect "a|b" 2)).2.registerLocal
    ((Client.connect "mine" 2).subscribe ["news"])).2

/-- Services without a lease of the instance, but with a record of one of its clients. -/
def forgetful : Backend :=
  { store := Store.empty.insertRecord ⟨"a|b", "b", .empty, "", "b"⟩, clock := ⟨0, 0⟩ }

theorem soundAs_crowded : crowded.SoundAs "a" := by
  have hstart : ({ channel := "a" } : Node).SoundAs "a" := ⟨rfl, fun id p hp => by simp at hp⟩
  exact (hstart.registerLocal (Client.connect "a|b" 2)).registerLocal _

/-- The broadcast of the first client fails after its record was deleted, and the other one is
restored, whichever of them comes first. -/
theorem beat_restores_crowded :
    crowded.SoundAs "a"
    ∧ ((Proxy.attach "a" 0 (Client.connect "a|b" 2)).broadcast "a"
        (crowded.renewal forgetful)).result.isOk = false
    ∧ (crowded.beat true forgetful).backend.store.records.find? "a|b" = none
    ∧ (crowded.beat true forgetful).backend.store.records.find? "mine"
        = some ⟨"mine", "a", TopicSet.empty.insert "news", "", "a"⟩
    ∧ (crowded.beatIn crowded.registry.entries.reverse true forgetful).backend.store
        = (crowded.beat true forgetful).backend.store := by
  have hjoined : ∃ earlier : Pulse,
      .ok earlier ∈ [(.ok { inserted := true } : Except MeshError Pulse)]
        ∧ earlier.inserted = true := ⟨_, List.mem_cons_self, rfl⟩
  have hok : (crowded.beatIn crowded.registry.entries.reverse
      (joinedAfter [.ok { inserted := true }]) forgetful).result = .ok ⟨true, []⟩ := rfl
  obtain ⟨-, -, hall⟩ := beat_restores soundAs_crowded hjoined hok rfl
  obtain ⟨-, hanswered⟩ := hall (List.reverse_perm _)
  obtain ⟨hrecords, -, -, hstore⟩ := hanswered rfl
  rw [hstore] at hrecords
  exact ⟨soundAs_crowded, rfl, hrecords "a|b" _ rfl, hrecords "mine" _ rfl, hstore⟩

end TopicMesh.Node
