import TopicMesh.Proofs.Announcement.Domain
import TopicMesh.Proofs.Reaping

/-!
# TopicMesh.Proofs.Announcement.Rebuild

The payloads on the control channel as the full log of the record table: read one after the other and
applied to the table as it was, they give the table as it is (`rebuild_published`).

* `Announcement.rebuild` — reads payloads and applies them to a table, up to the first fault.
* `Store.Write`          — a write of the store, with what it is given.
* `Backend.performAll`   — makes writes, and publishes what each of them announces.

Each write announces what it did to the table and not what it was asked for (`rebuild_perform`); since
what is announced is published in the same step, this carries over to any number of writes.
-/

namespace TopicMesh

namespace Announcement

/-- The record table that some payloads lead to, or the first fault in them. -/
def rebuild (t : Table Record) : List String → Except ProtocolError (Table Record)
  | [] => .ok t
  | payload :: rest =>
    match decode payload with
    | .error e => .error e
    | .ok a => rebuild (a.applyTo t) rest

variable {t t' : Table Record} {a : Announcement} {payload : String} {ps : List String}

theorem rebuild_cons (h : decode payload = .ok a) (t : Table Record) (ps : List String) :
    rebuild t (payload :: ps) = rebuild (a.applyTo t) ps := by
  rw [rebuild, h]

theorem rebuild_append (h : rebuild t ps = .ok t') (qs : List String) :
    rebuild t (ps ++ qs) = rebuild t' qs := by
  induction ps generalizing t with
  | nil =>
    cases h
    rfl
  | cons payload ps ih =>
    rw [rebuild] at h
    split at h
    · cases h
    · rename_i a ha
      rw [List.cons_append, rebuild_cons ha, ih h]

/-- An id that can end a payload. -/
def IsPlainId (id : String) : Prop := id ≠ "" ∧ delimiter ∉ id.toList

instance (id : String) : Decidable (IsPlainId id) := inferInstanceAs (Decidable (_ ∧ _))

theorem IsFloatFree.travels (ha : a.IsFloatFree) (hs : ¬a.HasSplitId) (hr : a.IsReadable) :
    a.Travels := by
  obtain ⟨payload, he⟩ := exists_encode_eq hs
  exact ⟨payload, he, decode_of_encode (ha.isPlain hr) he⟩

theorem IsPlainId.travels_offline {channel : String} (h : IsPlainId channel) :
    (offline channel).Travels := by
  have hfree : (offline channel).IsFloatFree := trivial
  exact hfree.travels h.2 h.1

end Announcement

open Announcement (rebuild rebuild_cons rebuild_append IsPlainId IsPlainSnapshot)

namespace Store

/-- A write, with what it is given. -/
inductive Write where
  | heartbeat (now : Instant) (channel : String) (ttl : Duration)
  | upsert (record : Record) (snapshot : Option Json)
  | delete (clientId : String)

/-- What the write announces can be read back: ids that end a payload are plain, and so is the
snapshot. A record may have anything in its fields. -/
def Write.IsPlain : Write → Prop
  | .heartbeat _ channel _ => IsPlainId channel
  | .upsert _ snapshot => ∀ j ∈ snapshot, IsPlainSnapshot j
  | .delete clientId => IsPlainId clientId

/-- The tables after a write, and the payloads that it announced. -/
def perform (s : Store) : Write → Store × List String
  | .heartbeat now channel ttl =>
    ((s.heartbeat now channel ttl).store, (s.heartbeat now channel ttl).announced)
  | .upsert record snapshot => ((s.upsert record snapshot).store, (s.upsert record snapshot).announced)
  | .delete clientId => ((s.delete clientId).store, (s.delete clientId).announced)

def performAll (s : Store) : List Write → Store × List String
  | [] => (s, [])
  | w :: ws =>
    (((s.perform w).1.performAll ws).1, (s.perform w).2 ++ ((s.perform w).1.performAll ws).2)

/-- Every lease is of a channel whose name can end a payload. -/
def HasPlainLeases (s : Store) : Prop :=
  ∀ channel, s.deadlines.contains channel = true → IsPlainId channel

variable {s : Store} {w : Write}

/-! ## One write -/

/-- What the announcements of a write lead to is the table after it. -/
def Tracks (s : Store) (p : Store × List String) : Prop :=
  rebuild s.records p.2 = .ok p.1.records

theorem tracks_reap {channels : List String} (h : ∀ c ∈ channels, IsPlainId c) :
    s.Tracks ((s.reap channels).store, (s.reap channels).announced) := by
  induction channels generalizing s with
  | nil => rfl
  | cons c channels ih =>
    obtain ⟨payload, he, hd⟩ := (h c List.mem_cons_self).travels_offline
    have hrest := @ih (s.withoutChannel c) fun c' hc => h c' (List.mem_cons_of_mem c hc)
    rw [s.reap_cons he, Tracks, rebuild_cons hd]
    exact hrest

theorem contains_deadlines_reap {channels : List String} {c : String}
    (h : (s.reap channels).store.deadlines.contains c = true) : s.deadlines.contains c = true := by
  induction channels generalizing s with
  | nil => exact h
  | cons channel channels ih =>
    have hwithout : (s.withoutChannel channel).deadlines.contains c = true →
        s.deadlines.contains c = true := by
      rw [withoutChannel, Table.contains, Table.find?_erase]
      split
      · intro hn
        cases hn
      · exact id
    rw [reap] at h
    split at h
    · exact hwithout h
    · exact hwithout (ih h)

theorem HasPlainLeases.renewed (h : s.HasPlainLeases) {channel : String} (hc : IsPlainId channel)
    (t : Instant) : (s.renewed channel t).HasPlainLeases := by
  intro c hm
  rw [Store.renewed, Table.contains, Table.find?_insert] at hm
  split at hm
  · rename_i he
    rw [← he]
    exact hc
  · exact h c hm

theorem HasPlainLeases.perform (h : s.HasPlainLeases) (hw : w.IsPlain) :
    (s.perform w).1.HasPlainLeases := by
  cases w with
  | heartbeat now channel ttl =>
    rw [Store.perform]
    rcases s.heartbeat_cases now channel ttl with ⟨e, he⟩ | ⟨t, w, rfl, hstore, -, -⟩
    · rw [he]
      exact h
    · rw [hstore]
      intro c hm
      exact h.renewed hw t c (contains_deadlines_reap hm)
  | upsert record snapshot =>
    rw [Store.perform, Store.upsert]
    split <;> exact h
  | delete id =>
    rw [Store.perform, HasPlainLeases, deadlines_delete]
    exact h

theorem tracks_perform (h : s.HasPlainLeases) (hw : w.IsPlain) : s.Tracks (s.perform w) := by
  cases w with
  | heartbeat now channel ttl =>
    rw [perform]
    rcases s.heartbeat_cases now channel ttl with ⟨e, he⟩ | ⟨t, w, rfl, hstore, hannounced, -⟩
    · rw [he]
      rfl
    · have hgone : ∀ c ∈ (s.renewed channel t).expired channel now, IsPlainId c := by
        intro c hm
        obtain ⟨-, d, hf, -⟩ := mem_expired_iff.1 hm
        apply h.renewed hw t c
        rw [Table.contains, hf]
        rfl
      have htracks := tracks_reap (s := s.renewed channel t) hgone
      rw [hstore, hannounced]
      exact htracks
  | upsert record snapshot =>
    -- the row is announced, which differs from the record in its owner if there was a row
    obtain ⟨payload, he, hd⟩ := Announcement.travels_upsert (s.rowFor record) hw
    rw [Tracks, perform, upsert, he]
    exact rebuild_cons hd _ _
  | delete id =>
    rw [Tracks, perform, delete]
    split
    · obtain ⟨payload, he, hd⟩ := Announcement.travels_delete hw.1 hw.2
      rw [he]
      exact rebuild_cons hd _ _
    · rfl

/-! ## Any number of writes -/

theorem tracks_performAll {ws : List Write} (h : s.HasPlainLeases) (hw : ∀ w ∈ ws, w.IsPlain) :
    s.Tracks (s.performAll ws) := by
  induction ws generalizing s with
  | nil => rfl
  | cons w ws ih =>
    have hone := hw w List.mem_cons_self
    have hrest := ih (h.perform hone) fun w' hm => hw w' (List.mem_cons_of_mem w hm)
    rw [Tracks, performAll, rebuild_append (tracks_perform h hone)]
    exact hrest

end Store

namespace Backend

/-- Makes a write and publishes what it announces. -/
def perform (b : Backend) : Store.Write → Backend
  | .heartbeat now channel ttl => (b.commit (b.store.heartbeat now channel ttl)).backend
  | .upsert record snapshot => (b.storeUpsert record snapshot).backend
  | .delete clientId => (b.storeDelete clientId).backend

def performAll (b : Backend) (ws : List Store.Write) : Backend := ws.foldl perform b

theorem perform_eq (b : Backend) (w : Store.Write) :
    b.perform w = { b with
      store := (b.store.perform w).1
      bus := b.bus.publishAll b.controlChannel (b.store.perform w).2 } := by
  cases w <;> rfl

theorem performAll_eq (b : Backend) (ws : List Store.Write) :
    b.performAll ws = { b with
      store := (b.store.performAll ws).1
      bus := b.bus.publishAll b.controlChannel (b.store.performAll ws).2 } := by
  induction ws generalizing b with
  | nil => rfl
  | cons w ws ih =>
    have hcons : b.performAll (w :: ws) = (b.perform w).performAll ws := rfl
    rw [hcons, ih, perform_eq, Store.performAll, Bus.publishAll_append]

/-- The announcements are the log of the record table: whatever writes are made, on whatever tables,
the payloads that were published meanwhile can all be read, and lead from the record table at the
start to that at the end. -/
theorem rebuild_published (b : Backend) (ws : List Store.Write) (hb : b.store.HasPlainLeases)
    (hw : ∀ w ∈ ws, w.IsPlain) :
    (b.performAll ws).bus = b.bus.publishAll b.controlChannel (b.store.performAll ws).2
    ∧ rebuild b.store.records (b.store.performAll ws).2 = .ok (b.performAll ws).store.records := by
  rw [performAll_eq]
  exact ⟨rfl, Store.tracks_performAll hb hw⟩

/-- A client of "b", whose lease runs out early. -/
def inherited : Backend :=
  { store := { Store.empty.insertRecord ⟨"c|", "b", .empty, "", "b"⟩ with
      deadlines := .ofList [("b", ⟨50, 0⟩)] }
    clock := ⟨0, 0⟩ }

/-- The channel "a" takes over the client of "b", announces one of its own and takes it back, deletes
one that nobody has, and reaps "b". -/
def takeover : List Store.Write :=
  [.upsert ⟨"c|", "a", .empty, "|", "a"⟩ (some .null), .upsert ⟨"x", "a", .empty, "", "a"⟩ none,
    .delete "x", .delete "y", .heartbeat ⟨100, 0⟩ "a" (.ofSeconds 40)]

theorem rebuild_published_takeover :
    (inherited.store.performAll takeover).2.length = 4
    ∧ rebuild inherited.store.records (inherited.store.performAll takeover).2 = .ok .empty := by
  have hb : inherited.store.HasPlainLeases := by
    intro c hc
    obtain ⟨d, hd⟩ := Option.isSome_iff_exists.1 hc
    have hall : ∀ e ∈ inherited.store.deadlines.entries, IsPlainId e.1 := by decide
    exact hall (c, d) ((Table.mem_entries_iff _ _ _).2 hd)
  have hw : ∀ w ∈ takeover, w.IsPlain := by
    simp only [takeover, List.forall_mem_cons]
    refine ⟨?_, ?_, ?_, ?_, ?_, ?_⟩
    · intro j hj
      cases hj
      exact ⟨trivial, trivial, Nat.zero_le _⟩
    · intro j hj
      cases hj
    · exact (by decide : IsPlainId "x")
    · exact (by decide : IsPlainId "y")
    · exact (by decide : IsPlainId "a")
    · intro w hm
      cases hm
  have hgone : (inherited.performAll takeover).store.records = .empty := by decide +kernel
  obtain ⟨-, hrebuilt⟩ := rebuild_published inherited takeover hb hw
  rw [hgone] at hrebuilt
  exact ⟨rfl, hrebuilt⟩

end Backend

end TopicMesh
