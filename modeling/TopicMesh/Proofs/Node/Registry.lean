import TopicMesh.Proofs.Node.Follow

/-!
# TopicMesh.Proofs.Node.Registry

What holds of an instance's registry at all times, and the errors that it rules out.

* `Proxy.SoundAt.send_error` — a send fails with a name that cannot be relayed or a refusal of the
  bus; the instance never takes a client for its own that is not attached.
* `Node.publishResults`      — what the sends of one fan-out come to, which counts only those that
  succeed.
-/

namespace TopicMesh

/-! ## Refusals of the services -/

/-- There is an outage that makes calls of this kind fail with this error. -/
def Backend.Reports (b : Backend) (call : Call) (e : MeshError) : Prop :=
  ∃ o ∈ b.outages, o.call = call ∧ o.error = e

namespace Outage

theorem consume_error {call : Call} {e : MeshError} {outages : List Outage}
    (h : (consume call outages).1 = some e) : ∃ o ∈ outages, o.call = call ∧ o.error = e := by
  induction outages with
  | nil => cases h
  | cons o outages ih =>
    rw [consume] at h
    split at h
    · rename_i ho
      cases h
      exact ⟨o, List.mem_cons_self, ho.1, rfl⟩
    · obtain ⟨o', hm, ho'⟩ := ih h
      exact ⟨o', List.mem_cons_of_mem o hm, ho'⟩

/-- Counting an outage down changes neither the calls that it hits nor its error. -/
theorem mem_consume {call : Call} {o : Outage} {outages : List Outage}
    (h : o ∈ (consume call outages).2) : ∃ o' ∈ outages, o'.call = o.call ∧ o'.error = o.error := by
  induction outages with
  | nil => cases h
  | cons o₁ outages ih =>
    rw [consume] at h
    split at h
    · rcases List.mem_cons.1 h with rfl | h
      · exact ⟨o₁, List.mem_cons_self, rfl, rfl⟩
      · exact ⟨o, List.mem_cons_of_mem o₁ h, rfl, rfl⟩
    · rcases List.mem_cons.1 h with rfl | h
      · exact ⟨o, List.mem_cons_self, rfl, rfl⟩
      · obtain ⟨o', hm, ho'⟩ := ih h
        exact ⟨o', List.mem_cons_of_mem o₁ hm, ho'⟩

end Outage

namespace Backend

variable {b : Backend} {channel payload : String} {call : Call} {e : MeshError}

theorem publish_error (h : (b.publish channel payload).result = .error e) :
    b.Reports .publish e := by
  rw [publish, attempt] at h
  split at h
  · rename_i e' outages hc
    cases h
    exact Outage.consume_error (congrArg Prod.fst hc)
  · cases h

theorem reports_of_publish (h : (b.publish channel payload).backend.Reports call e) :
    b.Reports call e := by
  rw [publish, attempt] at h
  split at h
  · rename_i e' outages hc
    obtain ⟨o, hm, rfl, rfl⟩ := h
    have hm : o ∈ (Outage.consume .publish b.outages).2 := by
      rw [hc]
      exact hm
    exact Outage.mem_consume hm
  · exact h

end Backend

/-! ## One send -/

namespace Proxy

variable {own id : String} {p : Proxy} {m : Message} {b : Backend} {call : Call} {e : MeshError}

theorem SoundAt.send_error (h : p.SoundAt own id) (he : (p.send own m b).result = .error e) :
    (∃ fault, e = .protocol fault) ∨ b.Reports .publish e := by
  rw [send, h.isRemote_eq] at he
  cases ha : p.isAttached with
  | true =>
    rw [ha] at he
    cases he
  | false =>
    rw [ha, if_pos (show (!false) = true from rfl)] at he
    split at he
    · rename_i fault _
      cases he
      exact .inl ⟨fault, rfl⟩
    · exact .inr (Backend.publish_error he)

theorem reports_of_send (h : (p.send own m b).backend.Reports call e) : b.Reports call e := by
  unfold send at h
  split at h
  · split at h
    · exact h
    · exact Backend.reports_of_publish h
  · split at h
    · exact h
    · exact h

end Proxy

/-! ## Fan-outs -/

namespace Node

/-- What the sends of a fan-out to these proxies come to, in order. -/
def FanOut.results (topic : String) (m : Message) :
    FanOut → List (String × Proxy) → List (Except MeshError Unit)
  | _, [] => []
  | f, entry :: rest =>
    let later := FanOut.results topic m (f.step topic m entry) rest
    if entry.2.isSubscribed topic then
      (entry.2.send f.node.channel m f.backend).result :: later
    else later

def publishResults (n : Node) (topic : String) (m : Message) (b : Backend) :
    List (Except MeshError Unit) :=
  FanOut.results topic m { node := n, backend := b } n.registry.entries

variable {own topic : String} {n : Node} {m : Message} {b : Backend} {call : Call} {e : MeshError}

theorem FanOut.sent_foldl (f : FanOut) (entries : List (String × Proxy)) :
    (entries.foldl (FanOut.step topic m) f).sent
      = f.sent + (FanOut.results topic m f entries).countP fun r => r.isOk := by
  induction entries generalizing f with
  | nil => rfl
  | cons entry entries ih =>
    rw [List.foldl_cons, ih, FanOut.results]
    cases hs : entry.2.isSubscribed topic with
    | false =>
      have hstep : (f.step topic m entry).sent = f.sent := by simp [FanOut.step, hs]
      rw [hstep, if_neg Bool.false_ne_true]
    | true =>
      have hstep : (f.step topic m entry).sent = f.sent
          + if (entry.2.send f.node.channel m f.backend).result.isOk then 1 else 0 := by
        rw [FanOut.step, if_pos hs]
        simp only
        split <;> rfl
      rw [hstep, if_pos rfl, List.countP_cons]
      omega

theorem FanOut.channel_step (f : FanOut) (entry : String × Proxy) :
    (f.step topic m entry).node.channel = f.node.channel := by
  rw [FanOut.step]
  split <;> rfl

theorem FanOut.reports_of_step {f : FanOut} {entry : String × Proxy}
    (h : (f.step topic m entry).backend.Reports call e) : f.backend.Reports call e := by
  rw [FanOut.step] at h
  split at h
  · exact Proxy.reports_of_send h
  · exact h

theorem FanOut.error_of_mem_results {f : FanOut} {entries : List (String × Proxy)}
    (hc : f.node.channel = own) (he : ∀ entry ∈ entries, entry.2.SoundAt own entry.1)
    (h : .error e ∈ FanOut.results topic m f entries) :
    (∃ fault, e = .protocol fault) ∨ f.backend.Reports .publish e := by
  induction entries generalizing f with
  | nil => cases h
  | cons entry entries ih =>
    have hlater : .error e ∈ FanOut.results topic m (f.step topic m entry) entries →
        (∃ fault, e = .protocol fault) ∨ f.backend.Reports .publish e := by
      intro h
      have he' : ∀ entry' ∈ entries, entry'.2.SoundAt own entry'.1 :=
        fun entry' hm => he entry' (List.mem_cons_of_mem entry hm)
      rcases ih ((f.channel_step entry).trans hc) he' h with hp | hr
      · exact .inl hp
      · exact .inr (FanOut.reports_of_step hr)
    rw [FanOut.results] at h
    split at h
    · rcases List.mem_cons.1 h with hs | h
      · rw [hc] at hs
        exact (he entry List.mem_cons_self).send_error hs.symm
      · exact hlater h
    · exact hlater h

theorem SoundAs.sendTo_error (h : n.SoundAs own) {id : String}
    (he : (n.sendTo id m b).result = .error e) :
    (∃ fault, e = .protocol fault) ∨ b.Reports .publish e := by
  unfold sendTo at he
  split at he
  · cases he
  · rename_i p hp
    rw [h.channel] at he
    simp only at he
    split at he
    · rename_i e' hs
      cases he
      exact (h.proxies id p hp).send_error hs
    · cases he

theorem SoundAs.publish_error (h : n.SoundAs own) (he : .error e ∈ n.publishResults topic m b) :
    (∃ fault, e = .protocol fault) ∨ b.Reports .publish e :=
  FanOut.error_of_mem_results h.channel (fun _ hm => h.mem_entries hm) he

/-- At all times an instance has one proxy for each client that it knows, under the id of the client
and of its record, and takes exactly the attached clients for its own. So no message for a client can
turn out to go to the instance itself, unless the bus itself says so, and a record of any client, under
any owner, can be taken over. -/
theorem registry_consistent {n : Node} (hn : n.Reachable) :
    (n.proxies.map (·.clientId)).Nodup
    ∧ (∀ id p, n.registry.find? id = some p →
        p.clientId = id ∧ p.record.clientId = id
        ∧ (p.isAttached = true ↔ p.record.owner = n.channel)
        ∧ p.isRemote n.channel = !p.isAttached)
    ∧ (∀ id m b clientId channel,
        (n.sendTo id m b).result = .error (.selfRelay clientId channel) →
          b.Reports .publish (.selfRelay clientId channel))
    ∧ (∀ topic m b,
        (n.publish topic m b).sent = (n.publishResults topic m b).countP (fun r => r.isOk)
        ∧ ∀ clientId channel, .error (.selfRelay clientId channel) ∈ n.publishResults topic m b →
            b.Reports .publish (.selfRelay clientId channel))
    ∧ ∀ r snapshot, ∃ applied n', n.applyRecord r snapshot = .ok (applied, n') := by
  have hs := hn.soundAs
  refine ⟨?_, ?_, ?_, ?_, ?_⟩
  · rw [hs.map_clientId_proxies]
    exact n.registry.nodup_keys
  · intro id p hp
    have h := hs.proxies id p hp
    exact ⟨h.clientId, h.recordId, h.attached_iff, h.isRemote_eq⟩
  · intro id m b clientId channel he
    rcases hs.sendTo_error he with ⟨_, hp⟩ | hr
    · cases hp
    · exact hr
  · intro topic m b
    refine ⟨?_, ?_⟩
    · rw [publish, FanOut.sent_foldl, Nat.zero_add, publishResults]
    · intro clientId channel he
      rcases hs.publish_error he with ⟨_, hp⟩ | hr
      · cases hp
      · exact hr
  · intro r snapshot
    obtain ⟨applied, n', h, -⟩ := applyRecord_view hs r snapshot
    exact ⟨applied, n', h⟩

theorem registry_consistent_mixed :
    resyncedThenJoined.Reachable
    ∧ (resyncedThenJoined.proxies.map (·.clientId)).Nodup
    ∧ (∃ p, resyncedThenJoined.registry.find? "mine" = some p ∧ p.isRemote "a" = false)
    ∧ (∃ p, resyncedThenJoined.registry.find? "stayed" = some p ∧ p.isRemote "a" = true)
    ∧ ∃ applied n', resyncedThenJoined.applyRecord ⟨"mine", "b", .empty, "", "b"⟩ none
        = .ok (applied, n') := by
  have hc : create "a" {} {} = .ok { channel := "a" } := rfl
  have hn : resyncedThenJoined.Reachable :=
    .step (.step (.created hc) (.resync _ _)) (.registerLocal _ _)
  obtain ⟨hnodup, hproxies, -, -, happly⟩ := registry_consistent hn
  obtain ⟨-, -, -, hmine⟩ := hproxies "mine" _ rfl
  obtain ⟨-, -, -, hstayed⟩ := hproxies "stayed" _ rfl
  exact ⟨hn, hnodup, ⟨_, rfl, hmine⟩, ⟨_, rfl, hstayed⟩, happly _ none⟩

end Node

end TopicMesh
