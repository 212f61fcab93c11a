import TopicMesh.Proofs.Node.Reannounce

/-!
# TopicMesh.Proofs.Node.Rejoin

When an instance that was reaped announces its clients again.

* `Node.Beating`       — a heartbeat that has beaten some times, while peers and clients came and
  went.
* `rejoin_reannounces` — a beat that makes the lease anew restores the records of the instance's
  clients if an earlier beat had made it, and none if not.

A heartbeat remembers of its past beats only whether one of them made the lease (`joinedAfter_iff`).
If the first of them renewed a lease that was still there from before, and the instance is reaped
after that, then the beat that notices counts as the one that joins, and the records stay lost.
-/

namespace TopicMesh.Node

/-- A heartbeat with the results of its beats so far. Between the beats the services may become
anything as long as they answer: peers beat, are reaped and reap this instance. -/
inductive Beating (own : String) : List (Except MeshError Pulse) → Node → Backend → Prop where
  | start {n : Node} {b : Backend} (hn : n.SoundAs own) (hb : b.outages = []) :
      Beating own [] n b
  | beat {past : List (Except MeshError Pulse)} {n : Node} {b : Backend} (h : Beating own past n b) :
      Beating own (past ++ [(n.beat (joinedAfter past) b).result])
        (n.beat (joinedAfter past) b).subject (n.beat (joinedAfter past) b).backend
  | others {past : List (Except MeshError Pulse)} {n : Node} {b b' : Backend}
      (h : Beating own past n b) (hb : b'.outages = []) : Beating own past n b'
  /-- Clients come, go and change what they are subscribed to. -/
  | host {past : List (Except MeshError Pulse)} {n n' : Node} {b : Backend}
      (h : Beating own past n b) (hs : Step n n') : Beating own past n' b

variable {own : String} {n : Node} {b : Backend} {past : List (Except MeshError Pulse)}

theorem outages_beat (h : n.SoundAs own) (hasJoined : Bool) (hb : b.outages = []) :
    (n.beat hasJoined b).backend.outages = [] := by
  have hrenewal : (b.heartbeat n.channel n.settings.channelTtl).backend.outages = [] :=
    outages_renewal n hb
  rw [h.beat_eq_beatIn, beatIn]
  cases hbeat : b.heartbeat n.channel n.settings.channelTtl with
  | mk result backend =>
    rw [hbeat] at hrenewal
    cases result with
    | error e => exact hrenewal
    | ok pulse =>
      simp only
      split
      · exact outages_reannounceIn h _ hrenewal
      · exact hrenewal

/-- The instance stays sound over any run, and the services answer. -/
theorem Beating.invariant (h : Beating own past n b) : n.SoundAs own ∧ b.outages = [] := by
  induction h with
  | start hn hb => exact ⟨hn, hb⟩
  | beat _ ih => exact ⟨ih.1.beat _ _, outages_beat ih.1 _ ih.2⟩
  | others _ hb ih => exact ⟨ih.1, hb⟩
  | host _ hs ih => exact ⟨ih.1.step hs, ih.2⟩

/-- A beat without a rejoin does not go on after the lease is renewed. -/
theorem beat_of_first (h : n.SoundAs own) {pulse : Pulse}
    (hfirst : ¬∃ earlier, .ok earlier ∈ past ∧ earlier.inserted = true)
    (hok : (n.beat (joinedAfter past) b).result = .ok pulse) :
    n.beat (joinedAfter past) b
      = { result := .ok pulse, subject := n, backend := n.renewal b } := by
  have hjoined : joinedAfter past = false := by
    rw [← Bool.not_eq_true, joinedAfter_iff]
    exact hfirst
  have hreaped : wasReaped (joinedAfter past) pulse = false := by
    rw [wasReaped, hjoined, Bool.and_false]
  have hresult := result_beatIn n n.registry.entries (joinedAfter past) b
  rw [← h.beat_eq_beatIn, hok, h.channel] at hresult
  have hbeat := beat_of_ok h.channel hresult.symm (joinedAfter past)
  rw [hreaped, if_neg Bool.false_ne_true] at hbeat
  rw [hbeat, renewal, h.channel]

/-- A beat that makes the lease although an earlier one had made it, because the instance was reaped
in between, leaves every open client with topics with a record of them. If no earlier beat had made
the lease, be it that they failed or that they found one, then the beat stops once the lease is
made. -/
theorem rejoin_reannounces {own : String} {n : Node} {b : Backend}
    {past : List (Except MeshError Pulse)} (h : Beating own past n b) {pulse : Pulse}
    (hok : (n.beat (joinedAfter past) b).result = .ok pulse) (hins : pulse.inserted = true) :
    ((∃ earlier, .ok earlier ∈ past ∧ earlier.inserted = true) →
      ∀ id c, (n.beat (joinedAfter past) b).subject.openClient? id = some c →
        c.topics.isEmpty = false →
        ∃ r, (n.beat (joinedAfter past) b).backend.store.records.find? id = some r
          ∧ r.topics = c.topics)
    ∧ ((¬∃ earlier, .ok earlier ∈ past ∧ earlier.inserted = true) →
      n.beat (joinedAfter past) b
        = { result := .ok pulse, subject := n, backend := n.renewal b }) := by
  obtain ⟨hs, hb⟩ := h.invariant
  refine ⟨?_, fun hfirst => beat_of_first hs hfirst hok⟩
  intro hjoined id c hopen ht
  rw [hs.beat_eq_beatIn] at hok hopen ⊢
  rw [beatIn_of_rejoin hjoined hok hins] at hopen ⊢
  have hopen : n.openClient? id = some c := by
    rw [← hopen]
    exact (openClient?_turns (n, n.renewal b) n.registry.entries id).symm
  have hrecord := record_of_open hs (.refl _) hopen (outages_renewal n hb)
  rw [Client.recordAt, ht, if_neg Bool.false_ne_true] at hrecord
  exact ⟨_, hrecord, rfl⟩

/-- The services after a peer found the instance's lease expired. -/
def reaped (b : Backend) : Backend := ((b.expire "a").storeHeartbeat "b" (.ofSeconds 40)).backend

theorem rejoin_reannounces_crowded :
    Beating "a" [.ok ⟨true, []⟩] crowded (reaped (crowded.beat false forgetful).backend)
    ∧ ∃ r, (crowded.beat true
          (reaped (crowded.beat false forgetful).backend)).backend.store.records.find? "mine" = some r
        ∧ r.topics = TopicSet.empty.insert "news" := by
  have hrun :
      Beating "a" [.ok ⟨true, []⟩] crowded (reaped (crowded.beat false forgetful).backend) :=
    .others (Beating.start (b := forgetful) soundAs_crowded rfl).beat rfl
  have hok : (crowded.beat (joinedAfter [.ok ⟨true, []⟩])
      (reaped (crowded.beat false forgetful).backend)).result = .ok ⟨true, []⟩ := rfl
  obtain ⟨hjoined, -⟩ := rejoin_reannounces hrun hok rfl
  exact ⟨hrun, hjoined ⟨_, List.mem_cons_self, rfl⟩ "mine" _ rfl rfl⟩

/-- Services with a lease of the instance from before it was started. -/
def inherited : Backend :=
  { store := { Store.empty with deadlines := Table.empty.insert "a" ⟨30, 0⟩ }, clock := ⟨0, 0⟩ }

/-- The first beat of a heartbeat finds the lease that the instance had from before, a peer reaps the
instance, and the second beat makes the lease anew: the client has no record after it. -/
theorem rejoin_forgets_inherited :
    (crowded.beat false inherited).result = .ok ⟨false, []⟩
    ∧ Beating "a" [.ok ⟨false, []⟩] crowded (reaped (crowded.beat false inherited).backend)
    ∧ (crowded.beat (joinedAfter [.ok ⟨false, []⟩])
        (reaped (crowded.beat false inherited).backend)).result = .ok ⟨true, []⟩
    ∧ (crowded.beat (joinedAfter [.ok ⟨false, []⟩])
        (reaped (crowded.beat false inherited).backend)).subject.openClient? "mine"
        = some ((Client.connect "mine" 2).subscribe ["news"])
    ∧ (crowded.beat (joinedAfter [.ok ⟨false, []⟩])
        (reaped (crowded.beat false inherited).backend)).backend.store.records.find? "mine"
        = none := by
  have hrun :
      Beating "a" [.ok ⟨false, []⟩] crowded (reaped (crowded.beat false inherited).backend) :=
    .others (Beating.start (b := inherited) soundAs_crowded rfl).beat rfl
  exact ⟨rfl, hrun, rfl, rfl, rfl⟩

end TopicMesh.Node
