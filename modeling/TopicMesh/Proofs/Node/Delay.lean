import Mathlib.Algebra.Group.Nat.Defs
import TopicMesh.Node.Heartbeat
import TopicMesh.Proofs.Reaping

/-!
# TopicMesh.Proofs.Node.Delay

The delay between two beats, in machine words and in relation to the lease. A duration is a number of
seconds in 64 bits and of nanoseconds in 32 bits; the jitter goes through milliseconds in 128 bits and
in 64. `Settings.heartbeatDelay?` takes these steps one by one and gives up where a number does not fit.

* `Settings.heartbeatDelay?_eq` — it never does, and its result is the delay.
* `Instant.add_of_le`           — a deadline has not passed before the time until it has.
* `heartbeatDelay_keeps_alive`  — an instance that beats again after a delay still has its lease.
-/

namespace TopicMesh

namespace Duration

/-! ## Durations in words -/

/-- A duration of at most `2 ^ 64 - 1` seconds and 999999999 nanoseconds. -/
def IsRepresentable (d : Duration) : Prop := d.seconds < 2 ^ 64

/-- The number, if it fits into so many bits. -/
def word (bits n : Nat) : Option Nat := if n < 2 ^ bits then some n else none

def ofParts? (seconds nanoseconds : Nat) : Option Duration :=
  (word 64 seconds).bind fun seconds =>
    (word 32 nanoseconds).bind fun nanoseconds =>
      if nanoseconds < perSecond then some (ofParts seconds nanoseconds) else none

def milliseconds? (d : Duration) : Option Nat :=
  (word 128 (d.seconds * 1000)).bind fun whole => word 128 (whole + d.subsecond / 1000000)

def ofMilliseconds? (n : Nat) : Option Duration :=
  (word 32 (n % 1000 * 1000000)).bind fun rest => ofParts? (n / 1000) rest

/-- The difference, or zero where it would be negative; a second is borrowed if the nanoseconds do not
suffice. -/
def sub? (a b : Duration) : Option Duration :=
  if a.seconds < b.seconds then some ⟨0⟩
  else if b.subsecond ≤ a.subsecond then
    ofParts? (a.seconds - b.seconds) (a.subsecond - b.subsecond)
  else if a.seconds = b.seconds then some ⟨0⟩
  else
    (word 32 (a.subsecond + perSecond)).bind fun nanoseconds =>
      ofParts? (a.seconds - b.seconds - 1) (nanoseconds - b.subsecond)

theorem word_eq {bits n : Nat} (h : n < 2 ^ bits) : word bits n = some n := by
  rw [word, if_pos h]

theorem ofParts?_eq {seconds nanoseconds : Nat} (hs : seconds < 2 ^ 64)
    (hn : nanoseconds < perSecond) :
    ofParts? seconds nanoseconds = some (ofParts seconds nanoseconds) := by
  have hword : nanoseconds < 2 ^ 32 := Nat.lt_trans hn (by decide)
  simp [ofParts?, word_eq hs, word_eq hword, hn]

theorem subsecond_lt (d : Duration) : d.subsecond < perSecond := Nat.mod_lt _ (by decide)

theorem milliseconds?_eq {d : Duration} (h : d.IsRepresentable) :
    d.milliseconds? = some d.milliseconds := by
  have hlt := d.subsecond_lt
  have hsum : d.seconds * 1000 + d.subsecond / 1000000 = d.milliseconds := by
    simp only [seconds, subsecond, milliseconds, perSecond]
    omega
  simp only [IsRepresentable, perSecond] at h hlt
  rw [milliseconds?, word_eq (by omega), Option.bind_some, word_eq (by omega), hsum]

theorem ofMilliseconds?_eq {n : Nat} (h : n < 2 ^ 64) :
    ofMilliseconds? n = some (ofMilliseconds n) := by
  have hrest : n % 1000 * 1000000 < perSecond := by
    simp only [perSecond]
    omega
  have hword : n % 1000 * 1000000 < 2 ^ 32 := Nat.lt_trans hrest (by decide)
  have hparts : ofParts (n / 1000) (n % 1000 * 1000000) = ofMilliseconds n := by
    simp only [ofParts, ofMilliseconds, perSecond, Duration.mk.injEq]
    omega
  rw [ofMilliseconds?, word_eq hword, Option.bind_some, ofParts?_eq (by omega) hrest, hparts]

theorem sub?_eq {a : Duration} (b : Duration) (h : a.IsRepresentable) : a.sub? b = some (a.sub b) := by
  have ha := a.subsecond_lt
  have hb := b.subsecond_lt
  have hsub : ∀ s n, s * perSecond + n = a.nanoseconds - b.nanoseconds → ofParts s n = a.sub b := by
    intro s n hsn
    rw [ofParts, hsn, sub]
  simp only [IsRepresentable] at h
  unfold sub?
  split
  · rename_i hlt
    have hzero : a.nanoseconds - b.nanoseconds = 0 := by
      simp only [seconds, perSecond] at hlt
      omega
    rw [sub, hzero]
  · split
    · rw [ofParts?_eq (by omega) (by omega), hsub]
      simp only [seconds, subsecond, perSecond] at *
      omega
    · split
      · rename_i heq
        have hzero : a.nanoseconds - b.nanoseconds = 0 := by
          simp only [seconds, subsecond, perSecond] at *
          omega
        rw [sub, hzero]
      · have hword : a.subsecond + perSecond < 2 ^ 32 := by
          simp only [perSecond] at *
          omega
        rw [word_eq hword, Option.bind_some, ofParts?_eq (by omega) (by omega), hsub]
        simp only [seconds, subsecond, perSecond] at *
        omega

end Duration

namespace Settings

variable {s : Settings} {draw : Nat}

/-! ## The delay -/

/-- The largest jitter in words; it is cut down to 64 bits. -/
def maxJitter? (s : Settings) : Option Nat :=
  s.heartbeatJitter.milliseconds?.map fun n => if n < 2 ^ 64 then n else 2 ^ 64 - 1

/-- The delay in words, for a jitter of so many milliseconds. -/
def heartbeatDelay? (s : Settings) (draw : Nat) : Option Duration :=
  (Duration.word 64 draw).bind fun draw =>
    (Duration.ofMilliseconds? draw).bind fun jitter => s.heartbeatInterval.sub? jitter

theorem maxJitter_lt (s : Settings) : s.maxJitter < 2 ^ 64 := by
  have hle : s.maxJitter ≤ Nat.pow 2 64 - 1 := Nat.min_le_right _ _
  exact Nat.lt_of_le_of_lt hle (by decide)

theorem maxJitter?_eq (h : s.heartbeatJitter.IsRepresentable) :
    s.maxJitter? = some s.maxJitter := by
  have hmin : (if s.heartbeatJitter.milliseconds < 2 ^ 64 then s.heartbeatJitter.milliseconds
      else 2 ^ 64 - 1) = s.maxJitter := by
    have hpow : Nat.pow 2 64 = 2 ^ 64 := rfl
    rw [maxJitter, hpow]
    split <;> omega
  rw [maxJitter?, Duration.milliseconds?_eq h, Option.map_some, hmin]

theorem heartbeatDelay?_eq (h : s.heartbeatInterval.IsRepresentable) (hd : draw ≤ s.maxJitter) :
    s.heartbeatDelay? draw = some (s.heartbeatDelay draw) := by
  have hdraw : draw < 2 ^ 64 := Nat.lt_of_le_of_lt hd s.maxJitter_lt
  rw [heartbeatDelay?, Duration.word_eq hdraw, Option.bind_some, Duration.ofMilliseconds?_eq hdraw,
    Option.bind_some, Duration.sub?_eq _ h, heartbeatDelay]

theorem heartbeatDelay_le (s : Settings) (draw : Nat) :
    s.heartbeatDelay draw ≤ s.heartbeatInterval := by
  simp only [heartbeatDelay, Duration.sub, Duration.le_def]
  omega

/-- A jitter in whole milliseconds is not longer than the one of the settings. -/
theorem sub_le_heartbeatDelay (hd : draw ≤ s.maxJitter) :
    s.heartbeatInterval.sub s.heartbeatJitter ≤ s.heartbeatDelay draw := by
  have hms : draw ≤ s.heartbeatJitter.milliseconds := Nat.le_trans hd (Nat.min_le_left _ _)
  simp only [heartbeatDelay, Duration.sub, Duration.ofMilliseconds, Duration.milliseconds,
    Duration.le_def] at *
  omega

theorem validate_eq_ok_iff : s.validate = .ok () ↔
    s.heartbeatInterval.nanoseconds ≠ 0 ∧ s.heartbeatJitter ≤ s.heartbeatInterval
      ∧ s.heartbeatInterval < s.channelTtl ∧ s.controlChannel ≠ "" := by
  simp only [validate, Duration.le_def, Duration.lt_def]
  split
  · rename_i hzero
    simp [hzero]
  split
  · rename_i hjitter
    simp [Nat.not_le.2 hjitter]
  split
  · rename_i httl
    simp [Nat.not_lt.2 httl]
  split
  · rename_i hempty
    simp [hempty]
  · rename_i hzero hjitter httl hempty
    simp [hzero, Nat.not_lt.1 hjitter, Nat.not_le.1 httl, hempty]

theorem heartbeatDelay_lt_channelTtl (h : s.validate = .ok ()) (draw : Nat) :
    s.heartbeatDelay draw < s.channelTtl := by
  obtain ⟨-, -, httl, -⟩ := validate_eq_ok_iff.1 h
  have hle := s.heartbeatDelay_le draw
  simp only [Duration.le_def, Duration.lt_def] at *
  omega

end Settings

/-! ## The lease -/

/-- The time after less than the time to live can be told too, and the deadline has not passed then. -/
theorem Instant.add_of_le {now deadline : Instant} {ttl d : Duration} (ht : now.add ttl = some deadline)
    (hd : d ≤ ttl) : ∃ later, now.add d = some later ∧ ¬deadline < later := by
  simp only [Instant.add] at ht ⊢
  split at ht
  · rename_i hmax
    cases ht
    simp only [Duration.perSecond, Duration.le_def] at *
    refine ⟨_, if_pos (by omega), ?_⟩
    rw [Instant.lt_def]
    dsimp only
    omega
  · cases ht

namespace Store

variable {s : Store} {now : Instant} {channel : String} {ttl : Duration}

theorem find?_deadlines_reap_of_not_mem {channels : List String} {c : String} (h : c ∉ channels) :
    (s.reap channels).store.deadlines.find? c = s.deadlines.find? c := by
  induction channels generalizing s with
  | nil => rfl
  | cons first channels ih =>
    rw [List.mem_cons, not_or] at h
    have hfirst : (s.withoutChannel first).deadlines.find? c = s.deadlines.find? c :=
      Table.find?_erase_other (Ne.symm h.1) _
    rw [reap]
    split
    · exact hfirst
    · exact (ih h.2).trans hfirst

theorem add_of_deadline {t : Instant} (h : deadline now ttl = .ok t) : now.add ttl = some t := by
  unfold deadline at h
  split at h
  · cases h
  · split at h
    · cases h
    · cases h
      assumption

/-- A heartbeat that goes through has renewed the lease of its channel. -/
theorem renewed_of_heartbeat {pulse : Pulse} (h : (s.heartbeat now channel ttl).result = .ok pulse) :
    ∃ t, now.add ttl = some t
      ∧ (s.heartbeat now channel ttl).store.deadlines.find? channel = some t := by
  cases ht : deadline now ttl with
  | error e =>
    rw [heartbeat, ht] at h
    cases h
  | ok t =>
    have hown : channel ∉ (s.renewed channel t).expired channel now := by
      intro hm
      exact (mem_expired_iff.1 hm).1 rfl
    have hstore : (s.heartbeat now channel ttl).store
        = ((s.renewed channel t).reap ((s.renewed channel t).expired channel now)).store := by
      rw [heartbeat, ht]
      dsimp only
      split <;> rfl
    refine ⟨t, add_of_deadline ht, ?_⟩
    rw [hstore, find?_deadlines_reap_of_not_mem hown]
    exact Table.find?_insert_self _ _ _

end Store

/-- The delay is worked out without overflow, and it is never longer than the interval. With settings
that are accepted it is also not shorter than the interval less the jitter, and shorter than the time
to live; so a lease that is renewed before the delay has not run out at any time until the delay is
over. -/
theorem heartbeatDelay_keeps_alive {s : Settings} (hi : s.heartbeatInterval.IsRepresentable)
    (hj : s.heartbeatJitter.IsRepresentable) {draw : Nat} (hd : draw ≤ s.maxJitter) :
    s.maxJitter? = some s.maxJitter
      ∧ s.heartbeatDelay? draw = some (s.heartbeatDelay draw)
      ∧ s.heartbeatDelay draw ≤ s.heartbeatInterval
      ∧ (s.validate = .ok () →
          s.heartbeatInterval.sub s.heartbeatJitter ≤ s.heartbeatDelay draw
          ∧ s.heartbeatDelay draw < s.channelTtl
          ∧ ∀ (store : Store) (now : Instant) (channel : String) (pulse : Pulse),
              (store.heartbeat now channel s.channelTtl).result = .ok pulse →
              ∃ deadline,
                (store.heartbeat now channel s.channelTtl).store.deadlines.find? channel
                  = some deadline
                ∧ ∀ slept ≤ s.heartbeatDelay draw, ∃ later, now.add slept = some later
                  ∧ (Lease.mk channel deadline).isExpiredAt later = false) := by
  refine ⟨s.maxJitter?_eq hj, Settings.heartbeatDelay?_eq hi hd, s.heartbeatDelay_le draw, ?_⟩
  intro hv
  have httl := Settings.heartbeatDelay_lt_channelTtl hv draw
  refine ⟨Settings.sub_le_heartbeatDelay hd, httl, ?_⟩
  intro store now channel pulse hok
  obtain ⟨deadline, hadd, hfind⟩ := Store.renewed_of_heartbeat hok
  refine ⟨deadline, hfind, ?_⟩
  intro slept hslept
  have hle : slept ≤ s.channelTtl := Nat.le_trans hslept (Nat.le_of_lt httl)
  obtain ⟨later, hlater, hnot⟩ := Instant.add_of_le hadd hle
  exact ⟨later, hlater, decide_eq_false hnot⟩

/-- Settings with as much jitter as interval, and a time to live that is a nanosecond longer. -/
def tight : Settings :=
  { heartbeatInterval := .ofParts 30 1, heartbeatJitter := .ofParts 30 1, channelTtl := .ofParts 30 2 }

/-- With the largest jitter the delay is a nanosecond; with none it is as long as it can be, and the
lease, renewed just before a full second, lasts until then. -/
theorem heartbeatDelay_keeps_alive_tight :
    tight.heartbeatDelay? 30000 = some ⟨1⟩
      ∧ tight.heartbeatDelay? 0 = some (.ofParts 30 1)
      ∧ ∃ deadline,
        (Store.empty.heartbeat ⟨100, 999999999⟩ "a" tight.channelTtl).store.deadlines.find? "a"
          = some deadline
        ∧ ∃ later, Instant.add ⟨100, 999999999⟩ (.ofParts 30 1) = some later
          ∧ (Lease.mk "a" deadline).isExpiredAt later = false := by
  have hi : tight.heartbeatInterval.IsRepresentable := by
    rw [Duration.IsRepresentable]
    decide
  have hlast : 30000 ≤ tight.maxJitter := by decide
  obtain ⟨-, hlong, -, -⟩ := heartbeatDelay_keeps_alive hi hi hlast
  obtain ⟨-, hshort, -, hkeeps⟩ := heartbeatDelay_keeps_alive hi hi (Nat.zero_le tight.maxJitter)
  have hv : tight.validate = .ok () := rfl
  obtain ⟨-, -, hlease⟩ := hkeeps hv
  obtain ⟨deadline, hfind, hsleep⟩ := hlease Store.empty ⟨100, 999999999⟩ "a" ⟨true, []⟩ rfl
  have hall : tight.heartbeatDelay 30000 = ⟨1⟩ := by decide
  have hnone : tight.heartbeatDelay 0 = .ofParts 30 1 := by decide
  rw [hall] at hlong
  rw [hnone] at hshort hsleep
  exact ⟨hlong, hshort, deadline, hfind, hsleep _ (Nat.le_refl _)⟩

end TopicMesh
