import TopicMesh.Proofs.Principal
import TopicMesh.Proofs.Proxy.Broadcast

/-!
# TopicMesh.Proofs.Proxy.Identity

Whom a proxy takes a client elsewhere for: the principal that a schema makes of the record it follows
and of a snapshot that came with it, or nobody.

* `Record.IsResolvable`     — what it takes that there is a principal (`resolvePrincipal_eq_none_iff`).
* `Proxy.IdentifiedIn`      — the principal of a client elsewhere goes with its present record.
* `Proxy.request_of_elsewhere` and the lemmas before it — what is asked of a proxy on behalf of an attached
  client does nothing to a client elsewhere.
-/

namespace TopicMesh

/-! ## Resolving a principal -/

/-- The record refers to something in a collection of the schema, and the snapshot holds its fields. -/
def Record.IsResolvable (schema : Schema) (r : Record) (snapshot : Option Json) : Prop :=
  ∃ name key c members, Principal.IsRef r.authRef name key ∧ schema.Resolves name c
    ∧ snapshot = some (.obj members)

namespace Proxy

variable {own id : String} {schema schema' : Schema} {p q : Proxy}

theorem resolvePrincipal_eq_some_iff (hd : schema.HasDistinctIds) {r : Record}
    {snapshot : Option Json} {who : Principal} :
    resolvePrincipal schema r snapshot = some who
      ↔ ∃ name key c members, Principal.IsRef r.authRef name key ∧ schema.Resolves name c
          ∧ snapshot = some (.obj members)
          ∧ who = { collection := c.name, id := key, data := Principal.project c.fields members } := by
  constructor
  · intro h
    unfold resolvePrincipal at h
    split at h
    · rename_i j _
      split at h
      · rename_i who' hwho
        cases h
        obtain ⟨name, key, c, members, href, hc, rfl, rfl⟩ := (Principal.ofSnapshot_eq_ok_iff hd).1 hwho
        exact ⟨name, key, c, members, href, hc, rfl, rfl⟩
      · cases h
    · cases h
  · rintro ⟨name, key, c, members, href, hc, rfl, rfl⟩
    have hauth : r.hasAuth = true := by
      refine decide_eq_true ?_
      intro hempty
      obtain ⟨hname, -, -, heq⟩ := href
      rw [hempty, authRefOf, eq_comm, String.append_eq_empty_iff, String.append_eq_empty_iff] at heq
      exact hname heq.1.1
    have hread := (Principal.ofSnapshot_eq_ok_iff hd).2 ⟨name, key, c, members, href, hc, rfl, rfl⟩
    simp only [resolvePrincipal, hauth, hread]

theorem resolvePrincipal_eq_none_iff (hd : schema.HasDistinctIds) {r : Record}
    {snapshot : Option Json} :
    resolvePrincipal schema r snapshot = none ↔ ¬r.IsResolvable schema snapshot := by
  rw [Option.eq_none_iff_forall_ne_some, Record.IsResolvable]
  constructor
  · rintro h ⟨name, key, c, members, href, hc, hs⟩
    exact h _ ((resolvePrincipal_eq_some_iff hd).2 ⟨name, key, c, members, href, hc, hs, rfl⟩)
  · intro h who hwho
    obtain ⟨name, key, c, members, href, hc, hs, -⟩ := (resolvePrincipal_eq_some_iff hd).1 hwho
    exact h ⟨name, key, c, members, href, hc, hs⟩

/-! ## Proxies of clients elsewhere -/

/-- The principal of a client elsewhere is what a schema makes of its present record and a snapshot. -/
def IdentifiedIn (schema : Schema) (_ : String) (p : Proxy) : Prop :=
  p.isAttached = false → ∃ snapshot, p.lastPrincipal = resolvePrincipal schema p.record snapshot

theorem principal_of_elsewhere (ha : p.isAttached = false) : p.principal = p.lastPrincipal := by
  unfold principal
  split
  · rename_i serial c hc
    rw [isAttached_eq_true_iff.2 ⟨serial, c, hc⟩] at ha
    cases ha
  · rfl

theorem broadcast_of_elsewhere (ha : p.isAttached = false) (own : String) (b : Backend) :
    (p.broadcast own b).subject = p := by
  cases hp : p.pendingChange own with
  | error e => rw [broadcast, hp]
  | ok change? =>
    cases change? with
    | none => rw [broadcast, hp]
    | some change =>
      obtain ⟨c, hc, -⟩ := pendingChange_cases hp
      rw [isAttached_of_client? hc] at ha
      cases ha

theorem send_subject_of_elsewhere (ha : p.isAttached = false) (own : String) (m : Message)
    (b : Backend) : (p.send own m b).subject = p := by
  rcases send_subject own p m b with hs | hs
  · exact hs
  · rw [hs, mapClient_of_elsewhere ha]

theorem goOffline_of_elsewhere (ha : p.isAttached = false) (b : Backend) :
    (p.goOffline b).subject = p := by
  unfold goOffline
  split
  · rfl
  · rename_i serial c hc
    rw [isAttached_eq_true_iff.2 ⟨serial, c, hc⟩] at ha
    cases ha

theorem request_of_elsewhere (ha : p.isAttached = false) (own : String) (r : Request) (b : Backend) :
    (p.request own r b).1 = p := by
  cases r with
  | edit f => exact mapClient_of_elsewhere ha f
  | broadcast => exact broadcast_of_elsewhere ha own b
  | goOffline => exact goOffline_of_elsewhere ha b

/-- Whatever spares the proxies of clients elsewhere leaves them identified. -/
theorem IdentifiedIn.of_alike (h : p.IdentifiedIn schema id) (hpq : p.Alike q)
    (hq : p.isAttached = false → q = p) : q.IdentifiedIn schema id := by
  intro ha
  rw [hpq.isAttached] at ha
  rw [hq ha]
  exact h ha

end Proxy

end TopicMesh
