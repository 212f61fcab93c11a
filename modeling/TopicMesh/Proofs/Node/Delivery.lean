import TopicMesh.Cluster.Loops
import TopicMesh.Proofs.Node.Publishing
import TopicMesh.Proofs.Node.Heard

/-!
# TopicMesh.Proofs.Node.Delivery

What an instance makes of a payload on its own channel, whatever the payload is.

* `Node.RelayHandled`     — one constructor for each of the five ways in which it ends.
* `Node.relay_delivered`  — when it ends with an error and which, and the one client that may be handed
  a message.
-/

namespace TopicMesh

namespace Client

variable {c : Client}

theorem deliver_of_discarded (h : c.isDiscarded = true) (m : Message) : c.deliver m = c := by
  rw [deliver, if_pos h]

theorem deliver_of_kept (h : c.isDiscarded = false) (m : Message) : c.deliver m = c.send m := by
  rw [deliver, if_neg (by simp [h])]

end Client

namespace Proxy

variable {p : Proxy} {c : Client}

theorem mapClient_congr {f g : Client → Client} (hc : p.client? = some c) (h : f c = g c) :
    p.mapClient f = p.mapClient g := by
  obtain ⟨serial, ha⟩ := client?_eq_some_iff.1 hc
  simp only [mapClient, ha, h]

theorem mapClient_self (p : Proxy) : p.mapClient (fun c => c) = p := by
  unfold mapClient
  split
  · rename_i h
    rw [← h]
  · rfl

/-- The proxy without the messages that wait for its client or that were dropped. -/
def withoutMessages (p : Proxy) : Proxy := p.mapClient fun c => { c with queue := [], dropped := 0 }

theorem withoutMessages_send (p : Proxy) (m : Message) :
    (p.mapClient (·.send m)).withoutMessages = p.withoutMessages := by
  unfold withoutMessages
  cases hp : p.attachment with
  | elsewhere => simp only [mapClient, hp]
  | attached serial c =>
    simp only [mapClient, hp, Client.send]
    split <;> rfl

end Proxy

namespace Node

variable {own payload : String} {n : Node}

/-- What comes of a payload on the instance's own channel. -/
inductive RelayHandled (n : Node) (payload : String) : Except MeshError Unit × Node → Prop where
  | incomplete (h : Relay.IsIncomplete payload) :
      RelayHandled n payload (.error (.protocol (.malformed (.incompleteRelay payload))), n)
  /-- The client is not known any more. -/
  | unknown {r : Relay} (h : Relay.Reads payload r) (hp : n.registry.find? r.clientId = none) :
      RelayHandled n payload (.ok (), n)
  /-- The client is connected to another instance. -/
  | misrouted {r : Relay} {p : Proxy} (h : Relay.Reads payload r)
      (hp : n.registry.find? r.clientId = some p) (ha : p.isAttached = false) :
      RelayHandled n payload
        (if n.settings.strictRouting then .error (.wrongChannel r.clientId) else .ok (), n)
  | discarded {r : Relay} {p : Proxy} {c : Client} (h : Relay.Reads payload r)
      (hp : n.registry.find? r.clientId = some p) (hc : p.client? = some c)
      (hd : c.isDiscarded = true) : RelayHandled n payload (.ok (), n)
  | handedOver {r : Relay} {p : Proxy} {c : Client} (h : Relay.Reads payload r)
      (hp : n.registry.find? r.clientId = some p) (hc : p.client? = some c)
      (hd : c.isDiscarded = false) :
      RelayHandled n payload (.ok (), n.putBack r.clientId (p.mapClient (·.send r.message)))

theorem SoundAs.relayHandled (h : n.SoundAs own) (payload : String) :
    n.RelayHandled payload (n.handleRelay payload) := by
  rcases Relay.decode_cases payload with ⟨r, hr, hreads, -⟩ | ⟨he, hincomplete⟩
  · rw [handleRelay, hr, h.channel]
    simp only
    cases hp : n.registry.find? r.clientId with
    | none => exact .unknown hreads hp
    | some p =>
      have hs := h.proxies r.clientId p hp
      cases hc : p.client? with
      | none =>
        have ha : p.isAttached = false := by
          rw [← Bool.not_eq_true, Proxy.isAttached_eq_true_iff]
          rintro ⟨serial, c, ha⟩
          rw [Proxy.client?_eq_some_iff.2 ⟨serial, ha⟩] at hc
          cases hc
        simp only [Proxy.deliver_of_elsewhere ha, hs.clientId]
        exact .misrouted hreads hp ha
      | some c =>
        simp only [hs.deliver_of_client? hc]
        cases hd : c.isDiscarded with
        | true =>
          have hsame : p.mapClient (·.deliver r.message) = p :=
            (Proxy.mapClient_congr hc (c.deliver_of_discarded hd r.message)).trans p.mapClient_self
          rw [hsame, putBack_self hp]
          exact .discarded hreads hp hc hd
        | false =>
          have hsend : p.mapClient (·.deliver r.message) = p.mapClient (·.send r.message) :=
            Proxy.mapClient_congr hc (c.deliver_of_kept hd r.message)
          rw [hsend]
          exact .handedOver hreads hp hc hd
  · rw [handleRelay, he]
    exact .incomplete hincomplete

theorem withoutMessages_putBack {id : String} {p : Proxy} (hp : n.registry.find? id = some p)
    (m : Message) :
    (n.putBack id (p.mapClient (·.send m))).registry.map Proxy.withoutMessages
      = n.registry.map Proxy.withoutMessages := by
  apply Table.ext
  intro other
  rw [Table.find?_map, Table.find?_map, putBack_registry, Table.find?_insert]
  split
  · rename_i h
    rw [← h, hp, Option.map_some, Option.map_some, Proxy.withoutMessages_send]
  · rfl

/-- The payload is a relay for the client `id`, whom the instance knows to be connected elsewhere. -/
def Misroutes (n : Node) (payload id : String) : Prop :=
  ∃ r p, Relay.Reads payload r ∧ r.clientId = id ∧ n.registry.find? id = some p
    ∧ p.isAttached = false

theorem not_misroutes {r : Relay} (hr : Relay.Reads payload r)
    (h : ∀ p, n.registry.find? r.clientId = some p → p.isAttached = true) (id : String) :
    ¬n.Misroutes payload id := by
  rintro ⟨r', p, hr', rfl, hp, ha⟩
  rw [hr'.unique hr] at hp
  rw [h p hp] at ha
  cases ha

theorem isAttached_of_find? {id : String} {p q : Proxy} {c : Client}
    (hp : n.registry.find? id = some p) (hc : p.client? = some c)
    (hq : n.registry.find? id = some q) : q.isAttached = true := by
  cases hp.symm.trans hq
  exact Proxy.isAttached_of_client? hc

/-- The attached client after a payload: one that is kept has the message if it is the one named. -/
def Hands (payload id : String) (c d : Client) : Prop :=
  (∃ r, Relay.Reads payload r ∧ r.clientId = id ∧ c.isDiscarded = false ∧ d = c.send r.message)
  ∨ ((∀ r, Relay.Reads payload r → r.clientId = id → c.isDiscarded = true) ∧ d = c)

namespace RelayHandled

variable {result : Except MeshError Unit} {n' : Node}

theorem frame (h : n.RelayHandled payload (result, n')) :
    n' = { n with registry := n'.registry }
      ∧ n'.registry.map Proxy.withoutMessages = n.registry.map Proxy.withoutMessages := by
  cases h with
  | handedOver _ hp _ _ => exact ⟨rfl, withoutMessages_putBack hp _⟩
  | _ => exact ⟨rfl, rfl⟩

theorem hands (h : n.RelayHandled payload (result, n')) {id : String} {p : Proxy} {c : Client}
    (hp : n.registry.find? id = some p) (hc : p.client? = some c) :
    ∃ q d, n'.registry.find? id = some q ∧ q.client? = some d ∧ Hands payload id c d := by
  cases h with
  | incomplete h =>
    exact ⟨p, c, hp, hc, .inr ⟨fun r hr _ => absurd h hr.not_isIncomplete, rfl⟩⟩
  | unknown h hnone =>
    refine ⟨p, c, hp, hc, .inr ⟨?_, rfl⟩⟩
    rintro r hr rfl
    rw [h.unique hr, hp] at hnone
    cases hnone
  | misrouted h hp' ha =>
    refine ⟨p, c, hp, hc, .inr ⟨?_, rfl⟩⟩
    rintro r hr rfl
    rw [h.unique hr, hp] at hp'
    cases hp'
    rw [Proxy.isAttached_of_client? hc] at ha
    cases ha
  | discarded h hp' hc' hd =>
    refine ⟨p, c, hp, hc, .inr ⟨?_, rfl⟩⟩
    rintro r hr rfl
    rw [h.unique hr, hp] at hp'
    cases hp'
    cases hc.symm.trans hc'
    exact hd
  | @handedOver r p' c' h hp' hc' hd =>
    by_cases hid : r.clientId = id
    · rw [hid, hp] at hp'
      cases hp'
      cases hc.symm.trans hc'
      refine ⟨p.mapClient (·.send r.message), c.send r.message, ?_, ?_, .inl ⟨r, h, hid, hd, rfl⟩⟩
      · rw [putBack_registry, hid, Table.find?_insert_self]
      · rw [Proxy.client?_mapClient, hc]
        rfl
    · refine ⟨p, c, ?_, hc, .inr ⟨?_, rfl⟩⟩
      · rw [putBack_registry, Table.find?_insert_other hid, hp]
      · intro r' hr' hid'
        exact absurd (h.unique hr' ▸ hid') hid

theorem incomplete_iff (h : n.RelayHandled payload (result, n')) :
    result = .error (.protocol (.malformed (.incompleteRelay payload)))
      ↔ Relay.IsIncomplete payload := by
  cases h with
  | incomplete h => exact iff_of_true rfl h
  | misrouted h _ _ =>
    refine iff_of_false ?_ h.not_isIncomplete
    split <;> exact nofun
  | unknown h _ => exact iff_of_false nofun h.not_isIncomplete
  | discarded h _ _ _ => exact iff_of_false nofun h.not_isIncomplete
  | handedOver h _ _ _ => exact iff_of_false nofun h.not_isIncomplete

theorem wrongChannel_iff (h : n.RelayHandled payload (result, n')) (id : String) :
    result = .error (.wrongChannel id)
      ↔ n.settings.strictRouting = true ∧ n.Misroutes payload id := by
  cases h with
  | incomplete h =>
    refine iff_of_false nofun ?_
    rintro ⟨-, r, p, hr, -⟩
    exact hr.not_isIncomplete h
  | @misrouted r p h hp ha =>
    constructor
    · intro he
      split at he
      · rename_i hs
        cases he
        exact ⟨hs, r, p, h, rfl, hp, ha⟩
      · cases he
    · rintro ⟨hs, r', p', hr', rfl, -, -⟩
      rw [if_pos hs, h.unique hr']
  | @unknown r h hnone =>
    have hall : ∀ p, n.registry.find? r.clientId = some p → p.isAttached = true := by
      intro p hp
      cases hnone.symm.trans hp
    exact iff_of_false nofun fun hm => not_misroutes h hall id hm.2
  | discarded h hp hc _ =>
    have hall := fun p => isAttached_of_find? (q := p) hp hc
    exact iff_of_false nofun fun hm => not_misroutes h hall id hm.2
  | handedOver h hp hc _ =>
    have hall := fun p => isAttached_of_find? (q := p) hp hc
    exact iff_of_false nofun fun hm => not_misroutes h hall id hm.2

theorem result_cases (h : n.RelayHandled payload (result, n')) :
    result = .ok () ∨ result = .error (.protocol (.malformed (.incompleteRelay payload)))
      ∨ ∃ id, result = .error (.wrongChannel id) := by
  cases h with
  | incomplete _ => exact .inr (.inl rfl)
  | @misrouted r _ _ _ _ =>
    split
    · exact .inr (.inr ⟨r.clientId, rfl⟩)
    · exact .inl rfl
  | _ => exact .inl rfl

end RelayHandled

/-- Whatever stands in a payload on its own channel, an instance passes nothing on, and its registry and
the services stay as they are but for the messages of one client: the one that the first field names, if
that client is attached and its connection has not given up on it. The payload is refused exactly if it
has not got three fields, the first of them not empty; the error is fatal exactly if routing is strict and
the client is connected elsewhere. -/
theorem relay_delivered {n : Node} (hn : n.Reachable) {payload : String} {b : Backend}
    {result : Except MeshError Unit} {s : Site}
    (h : Line.relays.handle payload ⟨n, b⟩ = (result, s)) :
    s.backend = b
    ∧ s.node = { n with registry := s.node.registry }
    ∧ s.node.registry.map Proxy.withoutMessages = n.registry.map Proxy.withoutMessages
    ∧ (∀ id p c, n.registry.find? id = some p → p.client? = some c →
        ∃ q d, s.node.registry.find? id = some q ∧ q.client? = some d ∧ Hands payload id c d)
    ∧ (result = .error (.protocol (.malformed (.incompleteRelay payload)))
        ↔ Relay.IsIncomplete payload)
    ∧ (∀ id, result = .error (.wrongChannel id)
        ↔ n.settings.strictRouting = true ∧ n.Misroutes payload id)
    ∧ (result = .ok () ∨ result = .error (.protocol (.malformed (.incompleteRelay payload)))
      ∨ ∃ id, result = .error (.wrongChannel id))
    ∧ ∀ e, result = .error e → (e.isFatal = true ↔ ∃ id, e = .wrongChannel id) := by
  have hhandled := hn.soundAs.relayHandled payload
  cases h
  obtain ⟨hnode, hregistry⟩ := hhandled.frame
  refine ⟨rfl, hnode, hregistry, fun id p c hp hc => hhandled.hands hp hc, hhandled.incomplete_iff,
    hhandled.wrongChannel_iff, hhandled.result_cases, ?_⟩
  intro e he
  rcases hhandled.result_cases with hok | hmalformed | ⟨id, hwrong⟩
  · cases hok.symm.trans he
  · cases hmalformed.symm.trans he
    exact iff_of_false nofun nofun
  · cases hwrong.symm.trans he
    exact iff_of_true rfl ⟨id, rfl⟩

theorem relay_delivered_besieged :
    besieged.Reachable
    ∧ (Line.relays.handle "mine|n|a|b" ⟨besieged, claiming⟩).1 = .ok ()
    ∧ ∃ q d, (Line.relays.handle "mine|n|a|b" ⟨besieged, claiming⟩).2.node.registry.find? "mine"
          = some q
      ∧ q.client? = some d ∧ d.queue = [⟨"n", "a|b"⟩] := by
  have hn := reachable_besieged
  have hreads : Relay.Reads "mine|n|a|b" ⟨"mine", ⟨"n", "a|b"⟩⟩ :=
    ⟨rfl, by decide, by decide, by decide⟩
  have hhandle : Line.relays.handle "mine|n|a|b" ⟨besieged, claiming⟩
      = (.ok (), (Line.relays.handle "mine|n|a|b" ⟨besieged, claiming⟩).2) := rfl
  obtain ⟨-, -, -, hclients, -⟩ := relay_delivered hn hhandle
  obtain ⟨q, d, hq, hd, hhands⟩ := hclients "mine" _ _ rfl rfl
  refine ⟨hn, rfl, q, d, hq, hd, ?_⟩
  rcases hhands with ⟨r, hr, -, -, rfl⟩ | ⟨hdiscarded, -⟩
  · rw [hr.unique hreads]
    rfl
  · cases hdiscarded _ hreads rfl

end Node

end TopicMesh
