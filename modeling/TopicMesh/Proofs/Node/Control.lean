import TopicMesh.Proofs.Announcement.Acceptance
import TopicMesh.Proofs.Node.Follow

/-!
# TopicMesh.Proofs.Node.Control

What an instance makes of a payload of the control channel, whatever the payload is. Following an
announcement never fails (`SoundAs.follow_ok`), so that a failure is always one of reading, before
anything has been touched (`control_exact`).
-/

namespace TopicMesh.Node

open Announcement (HasParts IsSpelling kinds)

variable {own : String} {n : Node} {b : Backend} {payload : String}

/-- Following an announcement does not fail: a record is only refused by the proxy of an attached
client, and an instance does not show it to one. -/
theorem SoundAs.follow_ok (h : n.SoundAs own) (a : Announcement) (b : Backend) :
    (n.follow a b).result = .ok () := by
  unfold follow
  split
  · rfl
  · cases a with
    | upsert record snapshot =>
      obtain ⟨applied, n', happly, -⟩ := applyRecord_view h record snapshot
      simp only [happly]
    | delete id => rfl
    | offline channel => rfl
    | collectionsUpdated => rfl
    | settingsUpdated => rfl

theorem handleControl_of_error {e : ProtocolError} (h : Announcement.decode payload = .error e) :
    n.handleControl payload b = { result := .error (.protocol e), subject := n, backend := b } := by
  rw [handleControl, h]

theorem SoundAs.handleControl_of_ok (h : n.SoundAs own) {a : Announcement}
    (ha : Announcement.decode payload = .ok a) : (n.handleControl payload b).result = .ok () := by
  rw [handleControl, ha]
  exact h.follow_ok a b

theorem SoundAs.handleControl_eq_error_iff (h : n.SoundAs own) {e : MeshError} :
    (n.handleControl payload b).result = .error e
      ↔ ∃ e', Announcement.decode payload = .error e' ∧ e = .protocol e' := by
  rcases hd : Announcement.decode payload with e' | a
  · rw [handleControl_of_error hd]
    constructor
    · rintro ⟨⟩
      exact ⟨e', rfl, rfl⟩
    · rintro ⟨_, ⟨⟩, rfl⟩
      rfl
  · rw [h.handleControl_of_ok hd]
    refine iff_of_false (by simp) ?_
    rintro ⟨_, ⟨⟩, _⟩

theorem isFatal_protocol_iff {e : ProtocolError} :
    (MeshError.protocol e).isFatal = true ↔ ∃ kind, e = .unknownEventType kind := by
  cases e <;> simp [MeshError.isFatal]

/-- What becomes of a payload of the control channel. It is read as an announcement exactly if it is a
spelling of it, it is of an unknown kind exactly if the kind it begins with is none of the five that
there are, and in all other cases it is malformed. An instance fails on it exactly if it cannot be
read, that is fatal exactly for an unknown kind, and then nothing has changed, in the instance or the
services. -/
theorem control_exact (payload : String) :
    (∀ kind, Announcement.decode payload = .error (.unknownEventType kind)
      ↔ kind ∉ kinds ∧ ∃ body, HasParts payload kind body)
    ∧ (∀ a, Announcement.decode payload = .ok a ↔ IsSpelling payload a)
    ∧ (∀ e, Announcement.decode payload = .error e →
        (∃ kind, e = .unknownEventType kind) ∨ ∃ reason, e = .malformed reason)
    ∧ ∀ (n : Node) (b : Backend), n.Reachable →
        (∀ e, (n.handleControl payload b).result = .error e
          ↔ ∃ e', Announcement.decode payload = .error e' ∧ e = .protocol e')
        ∧ ∀ e, (n.handleControl payload b).result = .error e →
            (e.isFatal = true
              ↔ ∃ kind, Announcement.decode payload = .error (.unknownEventType kind))
            ∧ (n.handleControl payload b).subject = n
            ∧ (n.handleControl payload b).backend = b := by
  refine ⟨fun _ => Announcement.decode_eq_unknown_iff, fun _ => Announcement.decode_eq_ok_iff, ?_, ?_⟩
  · intro e he
    rcases Announcement.decode_error he with ⟨kind, _, _, _, he⟩ | he
    · exact .inl ⟨kind, he⟩
    · exact .inr he
  · intro n b hn
    refine ⟨fun _ => hn.soundAs.handleControl_eq_error_iff, ?_⟩
    intro e he
    obtain ⟨e', hd, rfl⟩ := hn.soundAs.handleControl_eq_error_iff.1 he
    rw [handleControl_of_error hd, isFatal_protocol_iff, hd]
    refine ⟨exists_congr fun kind => ?_, rfl, rfl⟩
    rw [Except.error.injEq]

/-- A peer of another version, one that is understood and one that sends an empty id. -/
theorem control_exact_skewed :
    besieged.Reachable
    ∧ (besieged.handleControl "client_teleported|mine" claiming).result
        = .error (.protocol (.unknownEventType "client_teleported"))
    ∧ (MeshError.protocol (.unknownEventType "client_teleported")).isFatal = true
    ∧ (besieged.handleControl "client_teleported|mine" claiming).subject = besieged
    ∧ Announcement.decode "subscription_delete|mine" = .ok (.delete "mine")
    ∧ (besieged.handleControl "subscription_delete|" claiming).result
        = .error (.protocol (.malformed (.invalidField "client_id" "")))
    ∧ (besieged.handleControl "subscription_delete|" claiming).subject = besieged := by
  have hn := reachable_besieged
  obtain ⟨hunknown, -, -, hskewed⟩ := control_exact "client_teleported|mine"
  have hkind := (hunknown "client_teleported").2 ⟨by decide, "mine".toList, by decide, by decide⟩
  obtain ⟨hfails, hfailed⟩ := hskewed besieged claiming hn
  have hresult := (hfails _).2 ⟨_, hkind, rfl⟩
  obtain ⟨hfatal, hsubject, -⟩ := hfailed _ hresult
  have hdelete := ((control_exact "subscription_delete|mine").2.1 (.delete "mine")).2
    ⟨"mine".toList, ⟨by decide, by decide⟩, rfl, by decide, by decide⟩
  have hempty : Announcement.decode "subscription_delete|"
      = .error (.malformed (.invalidField "client_id" "")) := rfl
  obtain ⟨hfails, hfailed⟩ := (control_exact "subscription_delete|").2.2.2 besieged claiming hn
  have hrefused := (hfails _).2 ⟨_, hempty, rfl⟩
  exact ⟨hn, hresult, hfatal.2 ⟨_, hkind⟩, hsubject, hdelete, hrefused, (hfailed _ hrefused).2.1⟩

end TopicMesh.Node
