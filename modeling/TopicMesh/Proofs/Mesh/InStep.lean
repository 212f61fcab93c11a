import TopicMesh.Proofs.Node.Announce
import TopicMesh.Proofs.Node.Follow

/-!
# TopicMesh.Proofs.Mesh.InStep

What an instance that has not handled everything yet must still agree with. For every client
elsewhere, the announcements that wait lead from what the instance follows (or, before it has caught
up, from the table itself) to what the table says; for an attached client they lead to nothing that
the client's departure would not set right.

Announcing, registering, leaving, catching up and handling all keep an instance in step.
-/

namespace TopicMesh

open Announcement (heard Follows Shadows)

/-- How an instance stands to the control channel. -/
inductive Link where
  | down
  /-- It has subscribed but not caught up yet. -/
  | subscribed (ticket : Nat)
  /-- It has caught up after it subscribed, and handles payloads. -/
  | caughtUp (ticket : Nat)
deriving DecidableEq

def Link.ticket? : Link → Option Nat
  | .down => none
  | .subscribed ticket | .caughtUp ticket => some ticket

/-- What the announcements that wait are applied to: what the instance follows or, before it has
caught up, what it would follow if it did so now. -/
def Link.base (own : String) (n : Node) (t : Table Record) (id : String) : Link → Option Record
  | .caughtUp _ => n.followed id
  | .down | .subscribed _ => visibleTo own t id

namespace Node

/-- As long as a connected instance has missed nothing, what waits for it leads to the table. -/
def InStep (own : String) (n : Node) (link : Link) (b : Backend) : Prop :=
  ∀ ticket s, link.ticket? = some ticket → b.bus.find? ticket = some s →
    s.hears b.controlChannel = true → s.lost = 0 → ∀ id,
      (n.isLocal id = true → Shadows own id (heard s.waiting) b.store.records)
      ∧ (n.isLocal id = false →
        Follows own id (link.base own n b.store.records id) (heard s.waiting) b.store.records)

variable {own : String} {n n' : Node} {link : Link} {b b' : Backend}

/-! ## What the instance or its peers announce -/

theorem InStep.announced {w : String} {n₀ : Node} {isLocal isGone : String → Prop}
    (h : n.InStep own link b) (ha : n₀.Announces w isLocal isGone b b')
    (hplain : n₀.Holds w Proxy.PlainAt) (hw : w = own → ∀ id, isLocal id → n.isLocal id = true) :
    n.InStep own link b' := by
  obtain ⟨as, ht, hlaw, -, htravel⟩ := ha
  obtain ⟨payloads, hbus, hheard⟩ := ht.bus
  intro ticket s' hticket hs' hh hl id
  rw [hbus] at hs'
  rw [ht.controlChannel] at hh
  obtain ⟨s, hs, hh, hl, hwait⟩ := Bus.find?_publishAll_inv hs' hh hl
  obtain ⟨hlocal, hother⟩ := h ticket s hticket hs hh hl id
  rw [hwait, Announcement.heard_append, hheard (htravel hplain), ht.records]
  constructor
  · intro hid
    exact (hlocal hid).steps hlaw
  · intro hid
    have hnot : w = own → ¬isLocal id := by
      intro he hc
      rw [hw he id hc] at hid
      cases hid
    cases link with
    | down => cases hticket
    | subscribed t => exact (hother hid).fresh_steps hlaw hnot
    | caughtUp t => exact (hother hid).steps hlaw hnot

theorem InStep.of_sameView (h : n.InStep own link b) (hv : n.SameView n') :
    n'.InStep own link b := by
  intro ticket s hticket hs hh hl id
  have hbase : link.base own n' b.store.records id = link.base own n b.store.records id := by
    cases link with
    | down => rfl
    | subscribed t => rfl
    | caughtUp t => exact hv.followed id
  rw [hv.isLocal id, hbase]
  exact h ticket s hticket hs hh hl id

/-- Only the bus and the record table count. -/
theorem InStep.of_services (h : n.InStep own link b) (hc : b'.controlChannel = b.controlChannel)
    (hr : b'.store.records = b.store.records)
    (hb : ∀ ticket s, link.ticket? = some ticket → b'.bus.find? ticket = some s →
      s.hears b.controlChannel = true → b.bus.find? ticket = some s) : n.InStep own link b' := by
  intro ticket s hticket hs hh hl id
  rw [hc] at hh
  rw [hr]
  exact h ticket s hticket (hb ticket s hticket hs hh) hh hl id

/-! ## Clients that come and go -/

theorem InStep.registerLocal (h : n.InStep own link b) (client : Client) :
    (n.registerLocal client).2.InStep own link b := by
  have hself : (n.registerLocal client).2.isLocal client.id = true := by
    rw [isLocal_eq_true_iff, registerLocal_registry, Table.find?_insert_self]
    exact ⟨_, rfl, rfl⟩
  have hother : ∀ id, client.id ≠ id →
      (n.registerLocal client).2.registry.find? id = n.registry.find? id := by
    intro id hid
    rw [registerLocal_registry, Table.find?_insert_other hid]
  intro ticket s hticket hs hh hl id
  obtain ⟨hlocal, helse⟩ := h ticket s hticket hs hh hl id
  by_cases hid : client.id = id
  · rw [← hid]
    rw [← hid] at hlocal helse
    refine ⟨fun _ => ?_, fun hn => absurd (hself.symm.trans hn) (by simp)⟩
    cases hn : n.isLocal client.id with
    | true => exact hlocal hn
    -- what waited led to the table, so it leads to nothing that disagrees with it
    | false => exact (helse hn).shadows
  · have hbase : link.base own (n.registerLocal client).2 b.store.records id
        = link.base own n b.store.records id := by
      cases link with
      | down => rfl
      | subscribed t => rfl
      | caughtUp t => exact followed_congr (hother id hid)
    rw [isLocal_congr (hother id hid), hbase]
    exact ⟨hlocal, helse⟩

/-- When an attached client leaves together with its record, nothing that waits brings it back. -/
theorem InStep.erase {id : String} (h : n.InStep own link b) (hl : n.isLocal id = true)
    (hr : b.store.records.find? id = none) (hn : n'.registry = n.registry.erase id) :
    n'.InStep own link b := by
  have hself : n'.registry.find? id = none := by
    rw [hn, Table.find?_erase_self]
  have hother : ∀ c, id ≠ c → n'.registry.find? c = n.registry.find? c := by
    intro c hc
    rw [hn, Table.find?_erase_other hc]
  have hv : visibleTo own b.store.records id = none := by
    rw [visibleTo, hr]
    rfl
  intro ticket s hticket hs hh hlost c
  obtain ⟨hlocal, helse⟩ := h ticket s hticket hs hh hlost c
  by_cases hc : id = c
  · rw [← hc]
    rw [← hc] at hlocal
    have hgone : n'.isLocal id = false := by
      rw [isLocal, hself]
      rfl
    have hbase : link.base own n' b.store.records id = none := by
      cases link with
      | down => exact hv
      | subscribed t => exact hv
      | caughtUp t =>
        rw [Link.base, followed, hself]
        rfl
    refine ⟨fun ht => absurd (hgone.symm.trans ht) (by simp), fun _ => ?_⟩
    rw [hbase]
    exact (hlocal hl).follows_none hv
  · have hbase : link.base own n' b.store.records c = link.base own n b.store.records c := by
      cases link with
      | down => rfl
      | subscribed t => rfl
      | caughtUp t => exact followed_congr (hother c hc)
    rw [isLocal_congr (hother c hc), hbase]
    exact ⟨hlocal, helse⟩

/-! ## Catching up and handling payloads -/

theorem inStep_down (own : String) (n : Node) (b : Backend) : n.InStep own .down b := by
  intro ticket s hticket
  cases hticket

/-- A subscription that has just been opened has nothing to hand over. -/
theorem inStep_subscribed {ticket : Nat} {s : Subscription} (hs : b.bus.find? ticket = some s)
    (hw : s.waiting = []) : n.InStep own (.subscribed ticket) b := by
  intro t s' ht hs' _ _ id
  cases ht
  rw [hs] at hs'
  cases hs'
  rw [hw]
  refine ⟨?_, fun _ => rfl⟩
  intro _ r hr
  cases hr

theorem InStep.catchUp {ticket : Nat} (h : n.InStep own (.subscribed ticket) b) (hs : n.SoundAs own)
    (hb : b.outages = []) :
    (n.catchUp b).subject.InStep own (.caughtUp ticket) (n.catchUp b).backend := by
  obtain ⟨-, hback, hlocal, hfollowed⟩ := catchUp_view hs hb
  rw [hback]
  intro t s ht hfind hh hl id
  obtain ⟨hshadow, hfollow⟩ := h t s ht hfind hh hl id
  rw [hlocal id]
  refine ⟨hshadow, ?_⟩
  intro hid
  rw [Link.base, hfollowed id hid]
  exact hfollow hid

/-- What has been handled need not be handled any more. -/
theorem InStep.handle {ticket : Nat} {s : Subscription} {text : String} {rest : List String}
    (h : n.InStep own (.caughtUp ticket) b) (hn : n.SoundAs own) (hb : b.outages = [])
    (hs : b.bus.find? ticket = some s) (hw : s.waiting = text :: rest)
    {bus : Bus} (hbus : bus = b.bus.update { s with waiting := rest }) :
    (n.handleControl text { b with bus }).subject.InStep own (.caughtUp ticket)
      (n.handleControl text { b with bus }).backend := by
  have hb' : ({ b with bus } : Backend).outages = [] := hb
  obtain ⟨hback, hlocal, hfollowed⟩ := handleControl_view hn hb' text
  rw [hback]
  intro t s' ht hs' hh hl id
  cases ht
  have hs' : bus.find? ticket = some s' := hs'
  rw [hbus, Bus.find?_update, if_pos (Bus.ticket_of_find? hs), hs, Option.map_some] at hs'
  cases hs'
  have hh : s.hears b.controlChannel = true := hh
  obtain ⟨hshadow, hfollow⟩ := h ticket s rfl hs hh hl id
  have hheard : heard s.waiting = heard [text] ++ heard rest := by
    rw [hw, ← Announcement.heard_append]
    rfl
  rw [hlocal id]
  constructor
  · intro hid
    have hsh := hshadow hid
    rw [hheard] at hsh
    exact hsh.of_append
  · intro hid
    have hf := hfollow hid
    rw [hheard, Follows, Announcement.replay_append] at hf
    rw [Link.base, hfollowed id hid]
    exact hf

end Node

end TopicMesh
