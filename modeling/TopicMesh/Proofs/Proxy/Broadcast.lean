import TopicMesh.Proofs.Announcement.Domain
import TopicMesh.Proofs.Log
import TopicMesh.Proofs.Proxy

/-!
# TopicMesh.Proofs.Proxy.Broadcast

The record of an attached client over the whole life of its proxy.

* `Proxy.Request` — what is asked of a proxy. All handles of a proxy stand for the same one, so that it
  does not matter through which of them.
* `Proxy.Served`  — a proxy and the services after some requests, while others use the services too.
* `Proxy.Story`   — what the requests have come to: the client as it is, as it was at the last
  broadcast, and whether it went offline for good.

The store holds what the story tells (`Story.record`), and each request announces the difference that it
makes (`Story.tells`). That is one invariant, `Story.Fits`, and every request keeps it up.
-/

namespace TopicMesh

namespace Backend

variable {b : Backend} {id : String}

/-- The services after the payloads of some announcements were published, apart from the store. -/
def Publishes (b : Backend) (as : List Announcement) (b' : Backend) : Prop :=
  b'.outages = b.outages ∧ ∃ payloads, as.map Announcement.encode = payloads.map .ok
    ∧ b'.bus = b.bus.publishAll b.controlChannel payloads

theorem publishes_nil (b : Backend) : b.Publishes [] b := ⟨rfl, [], rfl, rfl⟩

/-- A record that does not change its owner is stored as it is. -/
theorem upsert_of_kept_owner (hb : b.outages = []) {r : Record} (snapshot : Option Json)
    (ho : ∀ row, b.store.records.find? r.clientId = some row → row.owner = r.owner) :
    (b.upsert r snapshot).result = .ok ()
      ∧ b.Publishes [.upsert r snapshot] (b.upsert r snapshot).backend
      ∧ (b.upsert r snapshot).backend.store.records.find? r.clientId = some r := by
  have hrow : b.store.rowFor r = r := by
    rw [Store.rowFor_eq]
    cases hf : b.store.records.find? r.clientId with
    | none => rfl
    | some row => rw [Option.map_some, Option.getD_some, ho row hf]
  obtain ⟨payload, he⟩ := Announcement.encode_upsert r snapshot
  rw [upsert, attempt_of_no_outages hb, storeUpsert, Store.upsert, hrow, he]
  refine ⟨rfl, ⟨rfl, [payload], ?_, rfl⟩, ?_⟩
  · rw [List.map_singleton, List.map_singleton, he]
  · exact Table.find?_insert_self _ _ _

theorem delete_publishes (hb : b.outages = []) (hid : delimiter ∉ id.toList) :
    (b.delete id).result = .ok (b.store.records.find? id).isSome
      ∧ b.Publishes (if (b.store.records.find? id).isSome then [.delete id] else [])
        (b.delete id).backend
      ∧ (b.delete id).backend.store.records.find? id = none := by
  rw [delete, attempt_of_no_outages hb, storeDelete, Store.delete, Table.contains]
  cases hf : b.store.records.find? id with
  | none => exact ⟨rfl, ⟨rfl, [], rfl, rfl⟩, hf⟩
  | some row =>
    have hs : ¬(Announcement.delete id).HasSplitId := hid
    obtain ⟨payload, he⟩ := Announcement.exists_encode_eq hs
    simp only [Option.isSome_some, if_true, he]
    refine ⟨rfl, ⟨rfl, [payload], ?_, rfl⟩, ?_⟩
    · rw [List.map_singleton, List.map_singleton, he]
    · exact Table.find?_erase_self _ _

theorem delete_of_absent (hb : b.outages = []) (hn : b.store.records.find? id = none) :
    (b.delete id).backend = b := by
  rw [delete, attempt_of_no_outages hb, storeDelete, Store.delete, Table.contains, hn]
  rfl

end Backend

namespace Proxy

inductive Request where
  /-- The client changes its topics, its principal or its queue. -/
  | edit (f : Client → Client)
  | broadcast
  | goOffline

def request (p : Proxy) (own : String) (r : Request) (b : Backend) : Proxy × Backend :=
  match r with
  | .edit f => (p.mapClient f, b)
  | .broadcast => ((p.broadcast own b).subject, (p.broadcast own b).backend)
  | .goOffline => ((p.goOffline b).subject, (p.goOffline b).backend)

theorem step_request (p : Proxy) (own : String) (r : Request) (b : Backend) :
    Step own p (p.request own r b).1 := by
  cases r with
  | edit f => exact .edit p f
  | broadcast => exact .broadcast p b
  | goOffline => exact .goOffline p b

variable {own id : String} {p : Proxy} {c : Client} {b : Backend}

theorem broadcast_of_closed (own : String) (hc : p.client? = some c) (ho : p.isClosed = true)
    (b : Backend) :
    p.broadcast own b = { result := .ok (), subject := p, backend := b } := by
  obtain ⟨serial, ha⟩ := client?_eq_some_iff.1 hc
  have hchange : p.pendingChange own = .ok none := by simp [pendingChange, ha, ho]
  rw [broadcast, hchange]

theorem broadcast_of_empty (own : String) (hc : p.client? = some c) (ho : p.isClosed = false)
    (ht : c.topics.isEmpty = true) {found : Bool} (hd : (b.delete p.clientId).result = .ok found) :
    p.broadcast own b = { result := .ok (), subject := p.written (.delete p.clientId),
                          backend := (b.delete p.clientId).backend } := by
  have hchange := pendingChange_of_empty own hc ho ht
  have hwrite : b.write (.delete p.clientId)
      = { result := .ok (), backend := (b.delete p.clientId).backend } := by
    rw [Backend.write]
    split <;> rename_i h <;> rw [h] at hd <;> cases hd
    rw [h]
  rw [broadcast, hchange]
  simp only [hwrite]

theorem broadcast_of_topics (hc : p.client? = some c) (ho : p.isClosed = false)
    (ht : c.topics.isEmpty = false) {r : Record} {snapshot : Option Json}
    (hr : r = p.currentRecord own c) (hs : snapshot = c.principal.map Principal.snapshot)
    (hu : (b.upsert r snapshot).result = .ok ()) :
    p.broadcast own b = { result := .ok (), subject := p.written (.upsert r snapshot),
                          backend := (b.upsert r snapshot).backend } := by
  have hchange : p.pendingChange own = .ok (some (.upsert r snapshot)) := by
    rw [hr, hs]
    exact pendingChange_of_topics own hc ho ht
  have hwrite : b.write (.upsert r snapshot) = b.upsert r snapshot := rfl
  rw [broadcast, hchange]
  simp only [hwrite]
  split <;> rename_i h <;> rw [h] at hu <;> cases hu
  rw [h]

theorem goOffline_of_attached (hc : p.client? = some c) {found : Bool}
    (hd : (b.delete p.clientId).result = .ok found) :
    p.goOffline b = { result := .ok found,
                      subject := { p.written (.delete p.clientId) with isClosed := true },
                      backend := (b.delete p.clientId).backend } := by
  rw [goOffline_eq (isAttached_of_client? hc), hd]
  rfl

/-- The proxy `p₀` and the services after some requests. Others leave the client's record alone. -/
inductive Served (own : String) (p₀ : Proxy) (b₀ : Backend) :
    List Request → Proxy → Backend → Prop where
  | start : Served own p₀ b₀ [] p₀ b₀
  | request {rs : List Request} {p : Proxy} {b : Backend} (h : Served own p₀ b₀ rs p b)
      (r : Request) : Served own p₀ b₀ (rs ++ [r]) (p.request own r b).1 (p.request own r b).2
  | others {rs : List Request} {p : Proxy} {b b' : Backend} (h : Served own p₀ b₀ rs p b)
      (ho : b'.outages = [])
      (hr : b'.store.records.find? p.clientId = b.store.records.find? p.clientId) :
      Served own p₀ b₀ rs p b'

structure Story where
  client : Client
  /-- The client as it was at the last broadcast. -/
  announced : Option Client := none
  isClosed : Bool := false

namespace Story

/-- A proxy that is closed does not broadcast any more. -/
def after (s : Story) : Request → Story
  | .edit f => { s with client := f s.client }
  | .broadcast => if s.isClosed then s else { s with announced := some s.client }
  | .goOffline => { s with isClosed := true }

def ofRequests (c : Client) (rs : List Request) : Story := rs.foldl after { client := c }

/-- The record of an open client that had topics at its last broadcast. -/
def record (s : Story) (own id : String) : Option Record :=
  match s.isClosed, s.announced with
  | false, some c =>
    if c.topics.isEmpty then none
    else
      some
        { clientId := id
          owner := own
          topics := c.topics
          authRef := (c.principal.map Principal.authRef).getD ""
          updatedBy := own }
  | _, _ => none

/-- What a request announces: a broadcast the record that there is after it, and whatever takes the
record away, that it is gone. -/
def tells (s : Story) (own id : String) (r : Request) : List Announcement :=
  match (s.after r).record own id with
  | none => if (s.record own id).isSome then [.delete id] else []
  | some record =>
    match r with
    | .broadcast => [.upsert record (s.client.principal.map Principal.snapshot)]
    | .edit _ | .goOffline => []

theorem ofRequests_concat (c : Client) (rs : List Request) (r : Request) :
    ofRequests c (rs ++ [r]) = (ofRequests c rs).after r := by
  rw [ofRequests, List.foldl_append]
  rfl

/-- The proxy is that of the story, and the store holds the record that it should. -/
structure Fits (own id : String) (s : Story) (p : Proxy) (b : Backend) : Prop where
  clientId : p.clientId = id
  recordId : p.record.clientId = id
  owner : p.record.owner = own
  client : p.client? = some s.client
  isClosed : p.isClosed = s.isClosed
  outages : b.outages = []
  stored : b.store.records.find? id = s.record own id

namespace Fits

variable {own id : String} {s : Story} {p : Proxy} {b : Backend}

/-- What a request leads to: the next chapter of the story, announced. -/
def Continues (own id : String) (s : Story) (r : Request) (p : Proxy) (b : Backend) : Prop :=
  Fits own id (s.after r) (p.request own r b).1 (p.request own r b).2
    ∧ b.Publishes (s.tells own id r) (p.request own r b).2

theorem edit (h : Fits own id s p b) (f : Client → Client) : Continues own id s (.edit f) p b := by
  have htells : s.tells own id (.edit f) = [] := by
    have hrecord : (s.after (.edit f)).record own id = s.record own id := rfl
    unfold tells
    rw [hrecord]
    cases s.record own id <;> rfl
  have ha := alike_mapClient p f
  refine ⟨?_, ?_⟩
  · exact
      { clientId := ha.clientId.trans h.clientId
        recordId := ha.recordId.trans h.recordId
        owner := ha.owner.trans h.owner
        client := by
          rw [request, client?_mapClient, h.client]
          rfl
        isClosed := (isClosed_mapClient p f).trans h.isClosed
        outages := h.outages
        stored := h.stored }
  · rw [htells]
    exact b.publishes_nil

theorem tells_of_gone {r : Request} (h : (s.after r).record own id = none) :
    s.tells own id r = if (s.record own id).isSome then [.delete id] else [] := by
  unfold tells
  rw [h]

/-- Without a record, the mirror knows only who owns the client. -/
theorem deleted (h : Fits own id s p b) (hid : delimiter ∉ id.toList) {s' : Story}
    (hgone : s'.record own id = none) (hclient : s'.client = s.client) :
    Fits own id s' { p.written (.delete p.clientId) with isClosed := s'.isClosed }
      (b.delete id).backend := by
  obtain ⟨-, ⟨houtages, -⟩, hnone⟩ := b.delete_publishes h.outages hid
  exact
    { clientId := h.clientId
      recordId := h.recordId
      owner := h.owner
      client := h.client.trans (congrArg some hclient.symm)
      isClosed := rfl
      outages := houtages.trans h.outages
      stored := hnone.trans hgone.symm }

theorem broadcast_closed (h : Fits own id s p b) (ho : s.isClosed = true) :
    Continues own id s .broadcast p b := by
  have heq := broadcast_of_closed own h.client (h.isClosed.trans ho) b
  have hafter : s.after .broadcast = s := if_pos ho
  have hrecord : s.record own id = none := by simp [record, ho]
  refine ⟨?_, ?_⟩
  · rw [hafter, request, heq]
    exact h
  · have hgone : (s.after .broadcast).record own id = none := by rw [hafter, hrecord]
    rw [tells_of_gone hgone, hrecord, request, heq]
    exact b.publishes_nil

theorem broadcast_empty (h : Fits own id s p b) (hid : delimiter ∉ id.toList)
    (ho : s.isClosed = false) (ht : s.client.topics.isEmpty = true) :
    Continues own id s .broadcast p b := by
  obtain ⟨hresult, hpublishes, -⟩ := b.delete_publishes h.outages hid
  have heq := broadcast_of_empty own h.client (h.isClosed.trans ho) ht
    (h.clientId.symm ▸ hresult)
  have hafter : s.after .broadcast = { s with announced := some s.client } := by
    simp [after, ho]
  have hgone : (s.after .broadcast).record own id = none := by
    simp [hafter, record, ho, ht]
  refine ⟨?_, ?_⟩
  · have hclosed : (s.after .broadcast).isClosed = p.isClosed := by
      rw [hafter, h.isClosed]
    have hfits := h.deleted hid hgone (by rw [hafter])
    rw [hclosed] at hfits
    rw [request, heq, h.clientId]
    rw [h.clientId] at hfits
    exact hfits
  · rw [tells_of_gone hgone, request, heq, h.clientId, ← h.stored]
    exact hpublishes

/-- The row that is there already is this client's own, so that it keeps the owner it should have. -/
theorem broadcast_topics (h : Fits own id s p b) (ho : s.isClosed = false)
    (ht : s.client.topics.isEmpty = false) : Continues own id s .broadcast p b := by
  have hafter : s.after .broadcast = { s with announced := some s.client } := by
    simp [after, ho]
  obtain ⟨r, hr⟩ : ∃ r, r = p.currentRecord own s.client := ⟨_, rfl⟩
  have hclient : r.clientId = id := by
    rw [hr]
    exact h.recordId
  have howner : r.owner = own := by
    rw [hr]
    exact h.owner
  have hrecord : (s.after .broadcast).record own id = some r := by
    simp only [hafter, record, ho, ht, Bool.false_eq_true, if_false]
    rw [hr, currentRecord, h.recordId, h.owner]
  have hkept : ∀ row, b.store.records.find? r.clientId = some row → row.owner = r.owner := by
    intro row hrow
    rw [hclient, h.stored, record] at hrow
    split at hrow
    · split at hrow
      · cases hrow
      · cases hrow
        exact howner.symm
    · cases hrow
  obtain ⟨hresult, hpublishes, hstored⟩ := b.upsert_of_kept_owner h.outages
    (s.client.principal.map Principal.snapshot) hkept
  have heq := broadcast_of_topics h.client (h.isClosed.trans ho) ht hr rfl hresult
  have htells : s.tells own id .broadcast
      = [.upsert r (s.client.principal.map Principal.snapshot)] := by
    unfold tells
    rw [hrecord]
  rw [hclient] at hstored
  refine ⟨?_, ?_⟩
  · rw [request, heq]
    exact
      { clientId := h.clientId
        recordId := hclient
        owner := howner
        client := by
          rw [hafter]
          exact h.client
        isClosed := by
          rw [hafter]
          exact h.isClosed
        outages := hpublishes.1.trans h.outages
        stored := hstored.trans hrecord.symm }
  · rw [htells, request, heq]
    exact hpublishes

theorem goOffline (h : Fits own id s p b) (hid : delimiter ∉ id.toList) :
    Continues own id s .goOffline p b := by
  obtain ⟨hresult, hpublishes, -⟩ := b.delete_publishes h.outages hid
  have heq := goOffline_of_attached h.client (h.clientId.symm ▸ hresult)
  have hgone : (s.after .goOffline).record own id = none := rfl
  refine ⟨?_, ?_⟩
  · rw [request, heq, h.clientId]
    have hfits := h.deleted hid hgone rfl
    rw [h.clientId] at hfits
    exact hfits
  · rw [tells_of_gone hgone, request, heq, h.clientId, ← h.stored]
    exact hpublishes

theorem request (h : Fits own id s p b) (hid : delimiter ∉ id.toList) (r : Request) :
    Continues own id s r p b := by
  cases r with
  | edit f => exact h.edit f
  | broadcast =>
    cases ho : s.isClosed with
    | true => exact h.broadcast_closed ho
    | false =>
      cases ht : s.client.topics.isEmpty with
      | true => exact h.broadcast_empty hid ho ht
      | false => exact h.broadcast_topics ho ht
  | goOffline => exact h.goOffline hid

/-- Without topics there is nothing to tell a broadcast from going offline, but for the proxy. -/
theorem broadcast_backend (h : Fits own id s p b) (hid : delimiter ∉ id.toList)
    (ht : s.client.topics.isEmpty = true) :
    (p.broadcast own b).backend = (p.goOffline b).backend := by
  obtain ⟨hresult, -, -⟩ := b.delete_publishes h.outages hid
  rw [goOffline_of_attached h.client (h.clientId.symm ▸ hresult)]
  cases ho : s.isClosed with
  | true =>
    have hnone : b.store.records.find? id = none := by
      rw [h.stored]
      simp [record, ho]
    rw [broadcast_of_closed own h.client (h.isClosed.trans ho), h.clientId]
    exact (b.delete_of_absent h.outages hnone).symm
  | false =>
    rw [broadcast_of_empty own h.client (h.isClosed.trans ho) ht (h.clientId.symm ▸ hresult)]

end Fits

theorem isClosed_foldl (s : Story) (rs : List Request) :
    (rs.foldl after s).isClosed = true ↔ s.isClosed = true ∨ .goOffline ∈ rs := by
  induction rs generalizing s with
  | nil => simp
  | cons r rs ih =>
    have hone : (s.after r).isClosed = true ↔ s.isClosed = true ∨ .goOffline = r := by
      cases r with
      | edit f => simp [after]
      | broadcast =>
        rw [after]
        split <;> simp_all
      | goOffline => simp [after]
    rw [List.foldl_cons, ih, hone, List.mem_cons, or_assoc]

end Story

/-! ## The whole life of a proxy -/

variable {serial : Nat} {b₀ : Backend} {rs : List Request}

theorem Served.fits (hid : delimiter ∉ c.id.toList) (hb : b₀.outages = [])
    (hr : b₀.store.records.find? c.id = none)
    (h : Served own (.attach own serial c) b₀ rs p b) :
    (Story.ofRequests c rs).Fits own c.id p b := by
  induction h with
  | start => exact ⟨rfl, rfl, rfl, rfl, rfl, hb, hr⟩
  | request _ r ih =>
    rw [Story.ofRequests_concat]
    exact (ih.request hid r).1
  | others _ ho hsame ih =>
    rw [ih.clientId] at hsame
    exact { ih with outages := ho, stored := hsame.trans ih.stored }

/-- The stored record of an attached client is what it had at its last broadcast: none if it had no
topics then, and none from the time it goes offline on, which is for good. Exactly the differences are
announced, one by one. -/
theorem record_tracks_broadcast (hid : delimiter ∉ c.id.toList) (hb : b₀.outages = [])
    (hr : b₀.store.records.find? c.id = none)
    (h : Served own (.attach own serial c) b₀ rs p b) {s : Story} (hs : s = .ofRequests c rs) :
    p.client? = some s.client
    ∧ (p.isClosed = true ↔ .goOffline ∈ rs)
    ∧ b.store.records.find? c.id = s.record own c.id
    ∧ (∀ r, b.Publishes (s.tells own c.id r) (p.request own r b).2)
    ∧ (p.goOffline b).result = .ok (b.store.records.find? c.id).isSome
    ∧ (s.client.topics.isEmpty = true → (p.broadcast own b).backend = (p.goOffline b).backend) := by
  have hfits := h.fits hid hb hr
  rw [← hs] at hfits
  obtain ⟨hresult, -, -⟩ := b.delete_publishes hfits.outages hid
  refine ⟨hfits.client, ?_, hfits.stored, fun r => (hfits.request hid r).2, ?_,
    hfits.broadcast_backend hid⟩
  · rw [hfits.isClosed, hs, Story.ofRequests, Story.isClosed_foldl]
    simp
  · rw [goOffline_of_attached hfits.client (hfits.clientId.symm ▸ hresult), hfits.clientId]

def newcomer : Client := (Client.connect "c" 8).subscribe ["t"]

/-- The client loses its topics after the first broadcast and gets another one before the last. -/
def changes : List Request :=
  [.broadcast, .edit Client.unsubscribeAll, .broadcast, .edit (·.subscribe ["u"]), .broadcast]

theorem record_tracks_broadcast_resubscribed :
    ∃ p b, Served "a" (.attach "a" 0 newcomer) { clock := ⟨0, 0⟩ } changes p b
      ∧ b.store.records.find? "c" = some ⟨"c", "a", .ofList ["u"], "", "a"⟩
      ∧ (p.goOffline b).result = .ok true
      ∧ b.Publishes [.delete "c"] (p.goOffline b).backend
      ∧ ((p.goOffline b).subject.broadcast "a" (p.goOffline b).backend).backend.store.records.find? "c"
        = none := by
  have hid : delimiter ∉ newcomer.id.toList := by decide
  -- somebody else has a record by then
  have hstart : Served "a" (.attach "a" 0 newcomer) { clock := ⟨0, 0⟩ } [] (.attach "a" 0 newcomer)
      (Backend.insertRecord { clock := ⟨0, 0⟩ } ⟨"d", "b", .empty, "", "b"⟩) :=
    .others .start rfl rfl
  obtain ⟨p, b, hp⟩ : ∃ p b,
      Served "a" (.attach "a" 0 newcomer) { clock := ⟨0, 0⟩ } changes p b :=
    ⟨_, _, ((((hstart.request .broadcast).request (.edit Client.unsubscribeAll)).request
      .broadcast).request (.edit (·.subscribe ["u"]))).request .broadcast⟩
  obtain ⟨-, -, hstored, hpublishes, hfound, -⟩ := record_tracks_broadcast hid rfl rfl hp rfl
  obtain ⟨-, -, hgone, -⟩ :=
    record_tracks_broadcast hid rfl rfl ((hp.request .goOffline).request .broadcast) rfl
  rw [hstored] at hfound
  exact ⟨p, b, hp, hstored, hfound, hpublishes .goOffline, hgone⟩

end Proxy

end TopicMesh
