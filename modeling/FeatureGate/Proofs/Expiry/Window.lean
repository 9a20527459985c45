import Mathlib.Data.List.Basic
import FeatureGate.Proofs.Registry

/-!
# The window in which an expiry is soon

An expiry is soon if it lies between now and some days from now. The length of the
window may be no duration that can be represented, and its end no instant. Neither
shows: in each of the three cases the answer is the one that exact integers give
(`Expiration.InWindow`), since no instant lies beyond an end that cannot be
represented.

Instants are compared by their nanoseconds in unbounded arithmetic. Inside a leap
second these run ahead of the next second, so instants are taken outside of leap
seconds where they are compared in this way. A window that begins inside a leap
second and has a length ends outside of it (`Expiration.endNanos`).
-/

namespace FeatureGate

namespace Instant

/-- **The nanoseconds of an instant** since the start of 1970, in unbounded
arithmetic. -/
def nanoseconds (instant : Instant) : Int := instant.seconds * 1000000000 + instant.nanos

/-- **An instant outside of leap seconds.** -/
def IsRegular (instant : Instant) : Prop := instant.nanos < 1000000000

instance (instant : Instant) : Decidable instant.IsRegular :=
  inferInstanceAs (Decidable (instant.nanos < 1000000000))

/-- The nanoseconds of a length of time. -/
def Duration.nanoseconds (duration : Duration) : Int :=
  duration.seconds * 1000000000 + duration.nanos

/-- The nanoseconds of a day. -/
def dayNanoseconds : Int := daySeconds * 1000000000

variable {a b : Instant}

theorem before_eq_true_iff :
    a.before b = true ↔ a.seconds < b.seconds ∨ a.seconds = b.seconds ∧ a.nanos < b.nanos := by
  simp [before]

theorem before_iff (ha : a.IsRegular) (hb : b.IsRegular) :
    a.before b = true ↔ a.nanoseconds < b.nanoseconds := by
  unfold IsRegular at ha hb
  unfold nanoseconds
  rw [before_eq_true_iff]
  omega

theorem before_eq_false_iff (ha : a.IsRegular) (hb : b.IsRegular) :
    a.before b = false ↔ b.nanoseconds ≤ a.nanoseconds := by
  rw [← Bool.not_eq_true, before_iff ha hb, Int.not_lt]

theorem IsRegular.isLeap_eq_false (h : a.IsRegular) : a.isLeap = false :=
  decide_eq_false (Nat.not_le_of_lt h)

/-- **The time between instants** is exact, in whole seconds and a rest below a
second. -/
theorem nanoseconds_since (ha : a.IsRegular) (hb : b.IsRegular) :
    (a.since b).nanoseconds = a.nanoseconds - b.nanoseconds
      ∧ (a.since b).nanos < 1000000000 := by
  have hleap : a.leapSecondsSince b = 0 := by
    simp [leapSecondsSince, ha.isLeap_eq_false, hb.isLeap_eq_false]
  unfold Duration.nanoseconds nanoseconds since
  dsimp only
  omega

/-- **No two instants are further apart** than a duration reaches. -/
theorem nanoseconds_sub_le (later earlier : Instant) :
    later.nanoseconds - earlier.nanoseconds ≤ maxDays * dayNanoseconds := by
  obtain ⟨_, hlater, hnanos⟩ := later.inRange
  obtain ⟨hearlier, _, _⟩ := earlier.inRange
  unfold nanoseconds maxDays dayNanoseconds daySeconds
  omega

end Instant

namespace Expiration

/-! ## The end of the window -/

section WindowEnd

variable {now last : Instant} {days : Int}

/-- **The nanoseconds at the end of a window**: those at its begin, but for a leap second
that is left. -/
def endNanos (now : Instant) (days : Int) : Nat :=
  if now.isLeap && days ≠ 0 then now.nanos - 1000000000 else now.nanos

/-- The window ends so many seconds after now. -/
theorem windowEnd?_eq (hdays : 0 ≤ days) :
    windowEnd? now days = if Instant.isDuration days then
      Instant.ofSeconds? (now.seconds + days * Instant.daySeconds) (endNanos now days)
    else none := by
  have hzero : days * Instant.daySeconds = 0 ↔ days = 0 := by
    unfold Instant.daySeconds
    omega
  have hsign : ¬ days * Instant.daySeconds < 0 := by
    unfold Instant.daySeconds
    omega
  unfold windowEnd? Instant.addSeconds? endNanos
  simp only [ne_eq, hzero, if_neg hsign]
  split
  · split <;> rfl
  · rfl

/-- A window of a day that begins in the middle of a leap second, which is the last second of its
day, ends in the middle of the last second of the next day. -/
example : windowEnd? ⟨-1, 1500000000, by decide⟩ 1 = some ⟨86399, 500000000, by decide⟩ := by
  decide

/-- An end that can be represented is where it should be. -/
theorem eq_of_windowEnd? (h : windowEnd? now days = some last) (hdays : 0 ≤ days) :
    last.seconds = now.seconds + days * Instant.daySeconds
      ∧ last.nanos = endNanos now days := by
  rw [windowEnd?_eq hdays] at h
  unfold Instant.ofSeconds? at h
  split at h
  · split at h
    · obtain rfl := Option.some.inj h
      exact ⟨rfl, rfl⟩
    · cases h
  · cases h

/-- **No instant lies beyond an end that cannot be represented**, be it because the
window is no duration, or because it ends after the last instant. -/
theorem seconds_lt_of_windowEnd?_eq_none (h : windowEnd? now days = none) (hdays : 0 ≤ days)
    (instant : Instant) : instant.seconds < now.seconds + days * Instant.daySeconds := by
  obtain ⟨hfirst, _, hnanos⟩ := now.inRange
  obtain ⟨_, hlast, _⟩ := instant.inRange
  have hend : endNanos now days < 2000000000 := by
    unfold endNanos
    split <;> omega
  rw [windowEnd?_eq hdays] at h
  unfold Instant.ofSeconds? at h
  split at h
  · split at h
    · cases h
    · rename_i hbeyond
      unfold Instant.daySeconds at hbeyond ⊢
      omega
  · rename_i hduration
    unfold Instant.isDuration Instant.maxDays at hduration
    unfold Instant.daySeconds
    simp only [Bool.and_eq_true, decide_eq_true_eq] at hduration
    omega

end WindowEnd

/-! ## The window -/

variable {expiration : Expiration} {now : Instant} {days longer : Int}

/-- **The expiry lies in the window** of some days from now, in unbounded
arithmetic. -/
structure InWindow (expiration : Expiration) (now : Instant) (days : Int) : Prop where
  /-- The window does not end before it begins. -/
  days_nonneg : 0 ≤ days
  /-- The expiry is not before its begin. -/
  now_le : now.nanoseconds ≤ expiration.expiresAt.nanoseconds
  /-- The expiry is not after its end. -/
  le_end : expiration.expiresAt.nanoseconds ≤ now.nanoseconds + days * Instant.dayNanoseconds

/-- **An expiry is soon** if it is not over, and not later than some days from now:
in seconds, and in nanoseconds within the same second. -/
theorem isExpiringSoonAt_eq_true_iff :
    expiration.isExpiringSoonAt now days = true
      ↔ 0 ≤ days ∧ expiration.expiresAt.before now = false
        ∧ (expiration.expiresAt.seconds < now.seconds + days * Instant.daySeconds
          ∨ expiration.expiresAt.seconds = now.seconds + days * Instant.daySeconds
            ∧ expiration.expiresAt.nanos ≤ endNanos now days) := by
  unfold isExpiringSoonAt
  split
  · rename_i hout
    simp only [Bool.or_eq_true, decide_eq_true_eq] at hout
    refine ⟨nofun, fun ⟨hdays, hover, _⟩ => ?_⟩
    rcases hout with hdays' | hover'
    · omega
    · exact nomatch hover'.symm.trans hover
  · rename_i hin
    simp only [Bool.or_eq_true, decide_eq_true_eq, not_or, Bool.not_eq_true, Int.not_lt] at hin
    rw [and_iff_right hin.1, and_iff_right hin.2]
    cases hlast : windowEnd? now days with
    | some last =>
      obtain ⟨hseconds, hnanos⟩ := eq_of_windowEnd? hlast hin.1
      dsimp only
      rw [Bool.not_eq_true', ← Bool.not_eq_true, Instant.before_eq_true_iff, hseconds, hnanos]
      omega
    | none =>
      exact iff_of_true rfl (.inl (seconds_lt_of_windowEnd?_eq_none hlast hin.1 _))

/-- **A longer window** loses no expiry. -/
theorem isExpiringSoonAt_of_le (hle : days ≤ longer)
    (h : expiration.isExpiringSoonAt now days = true) :
    expiration.isExpiringSoonAt now longer = true := by
  rcases Int.lt_or_eq_of_le hle with hlt | rfl
  · rw [isExpiringSoonAt_eq_true_iff] at h ⊢
    obtain ⟨hdays, hover, hend⟩ := h
    -- the longer window ends on a later day, whatever the nanoseconds are
    refine ⟨by omega, hover, .inl ?_⟩
    unfold Instant.daySeconds at hend ⊢
    omega
  · exact h

/-- What has expired does not expire soon. -/
theorem not_isExpiredAt_of_isExpiringSoonAt (h : expiration.isExpiringSoonAt now days = true) :
    expiration.isExpiredAt now = false :=
  (isExpiringSoonAt_eq_true_iff.mp h).2.1

section Regular

variable (hnow : now.IsRegular) (hexpiry : expiration.expiresAt.IsRegular)
include hnow hexpiry

/-- **The window is exact**, whether or not its length and its end can be
represented. -/
theorem isExpiringSoonAt_iff_inWindow :
    expiration.isExpiringSoonAt now days = true ↔ expiration.InWindow now days := by
  have hbefore := Instant.before_eq_false_iff hexpiry hnow
  have hend : endNanos now days = now.nanos := by simp [endNanos, hnow.isLeap_eq_false]
  unfold Instant.IsRegular at hnow hexpiry
  rw [isExpiringSoonAt_eq_true_iff, hbefore, hend]
  constructor
  · rintro ⟨hdays, hle, hend⟩
    refine ⟨hdays, hle, ?_⟩
    unfold Instant.nanoseconds Instant.dayNanoseconds Instant.daySeconds at *
    omega
  · rintro ⟨hdays, hle, hend⟩
    refine ⟨hdays, hle, ?_⟩
    unfold Instant.nanoseconds Instant.dayNanoseconds Instant.daySeconds at *
    omega

/-- There is time left exactly if the expiry is yet to come. -/
theorem isSome_remainingAt_iff :
    (expiration.remainingAt now).isSome
      ↔ now.nanoseconds < expiration.expiresAt.nanoseconds := by
  unfold remainingAt
  rw [← Instant.before_iff hnow hexpiry]
  split <;> simp_all

/-- **The time left** is the exact difference, and a duration. -/
theorem nanoseconds_of_remainingAt {remaining : Instant.Duration}
    (h : expiration.remainingAt now = some remaining) :
    remaining.nanoseconds = expiration.expiresAt.nanoseconds - now.nanoseconds
      ∧ remaining.nanos < 1000000000
      ∧ remaining.nanoseconds ≤ Instant.maxDays * Instant.dayNanoseconds := by
  unfold remainingAt at h
  rw [Option.ite_none_right_eq_some] at h
  obtain rfl := Option.some.inj h.2
  obtain ⟨hexact, hrest⟩ := Instant.nanoseconds_since hexpiry hnow
  exact ⟨hexact, hrest, hexact ▸ Instant.nanoseconds_sub_le _ _⟩

end Regular

end Expiration

/-! ## The definitions in the window -/

namespace Registry

variable {registry : Registry} {now : Instant} {definition : Definition} {days longer : Int}

/-- **A longer window** drops no definition. -/
theorem sublist_expiringWithin (hle : days ≤ longer) :
    (registry.expiringWithin now days).Sublist (registry.expiringWithin now longer) := by
  refine List.monotone_filter_right _ fun definition hsoon => ?_
  unfold Definition.isExpiringSoonAt at hsoon ⊢
  rw [Option.any_eq_true] at hsoon ⊢
  obtain ⟨expiration, hexpiration, hsoon⟩ := hsoon
  exact ⟨expiration, hexpiration, Expiration.isExpiringSoonAt_of_le hle hsoon⟩

/-- **The definitions listed** are those registered under their names that have an
expiry in the window. -/
theorem Arises.mem_expiringWithin_iff_inWindow (h : registry.Arises) (hnow : now.IsRegular)
    (hexpiry : ∀ expiration ∈ definition.expiration, expiration.expiresAt.IsRegular) :
    definition ∈ registry.expiringWithin now days
      ↔ registry.get? definition.name = some definition
        ∧ ∃ expiration ∈ definition.expiration, expiration.InWindow now days := by
  have hsoon : definition.isExpiringSoonAt now days = true
      ↔ ∃ expiration ∈ definition.expiration, expiration.InWindow now days := by
    unfold Definition.isExpiringSoonAt
    rw [Option.any_eq_true]
    refine exists_congr fun expiration => and_congr_right fun hmem => ?_
    exact Expiration.isExpiringSoonAt_iff_inWindow hnow (hexpiry expiration hmem)
  rw [mem_expiringWithin, hsoon]
  refine and_congr_left' ⟨fun ⟨name, hget⟩ => ?_, fun hget => ⟨_, hget⟩⟩
  rwa [h.name_eq hget]

end Registry

/-- **The window in which an expiry is soon is exact** for every number of days, whether
or not its length and its end can be represented.

* An expiry is soon exactly if it lies in the window, both ends included, and never
  once it is over.
* The time left is there exactly before the expiry, and then it is the difference.
* A registry lists the definitions in the window, once each and in increasing order of
  name, and all of them in every longer window too. -/
theorem expiring_window_exact (now : Instant) (hnow : now.IsRegular) (days : Int) :
    (∀ expiration : Expiration, expiration.expiresAt.IsRegular →
      (expiration.isExpiringSoonAt now days = true ↔ expiration.InWindow now days)
        ∧ ¬ (expiration.isExpiringSoonAt now days = true ∧ expiration.isExpiredAt now = true)
        ∧ ((expiration.remainingAt now).isSome
            ↔ now.nanoseconds < expiration.expiresAt.nanoseconds)
        ∧ ∀ remaining, expiration.remainingAt now = some remaining →
            remaining.nanoseconds = expiration.expiresAt.nanoseconds - now.nanoseconds
              ∧ remaining.nanos < 1000000000
              ∧ remaining.nanoseconds ≤ Instant.maxDays * Instant.dayNanoseconds)
      ∧ ∀ registry : Registry, registry.Arises →
        (registry.expiringWithin now days).Pairwise (·.name < ·.name)
          ∧ (∀ definition : Definition,
              (∀ expiration ∈ definition.expiration, expiration.expiresAt.IsRegular) →
              (definition ∈ registry.expiringWithin now days
                ↔ registry.get? definition.name = some definition
                  ∧ ∃ expiration ∈ definition.expiration, expiration.InWindow now days))
          ∧ ∀ longer, days ≤ longer →
            (registry.expiringWithin now days).Sublist (registry.expiringWithin now longer) := by
  refine ⟨fun expiration hexpiry => ?_, fun registry h => ?_⟩
  · refine ⟨Expiration.isExpiringSoonAt_iff_inWindow hnow hexpiry, ?_,
      Expiration.isSome_remainingAt_iff hnow hexpiry,
      fun _ => Expiration.nanoseconds_of_remainingAt hnow hexpiry⟩
    rintro ⟨hsoon, hexpired⟩
    exact nomatch (Expiration.not_isExpiredAt_of_isExpiringSoonAt hsoon).symm.trans hexpired
  · exact ⟨h.pairwise_expiringWithin now days,
      fun _ => h.mem_expiringWithin_iff_inWindow hnow,
      fun _ => Registry.sublist_expiringWithin⟩

/-- An expiry at the very end of a window of seven days, of the one feature that is
registered: it is soon then, and also within more days than a duration can have. -/
theorem expiring_window_exact_of_last_day :
    let week : Instant := ⟨604800, 0, by decide⟩
    Instant.epoch.IsRegular ∧ week.IsRegular
      ∧ Expiration.isExpiringSoonAt ⟨week⟩ .epoch 7 = true
      ∧ Expiration.isExpiringSoonAt ⟨week⟩ .epoch 6 = false
      ∧ ∃ relic registry, relic.expiration = some ⟨week⟩
        ∧ Registry.empty.define relic = .ok registry
        ∧ relic ∈ registry.expiringWithin .epoch 7
        ∧ relic ∈ registry.expiringWithin .epoch 9223372036854775807 := by
  intro week
  have hepoch : Instant.epoch.IsRegular := by decide
  have hweek : week.IsRegular := by decide
  obtain ⟨hexpiry, hregistry⟩ := expiring_window_exact .epoch hepoch 7
  have hin : Expiration.InWindow ⟨week⟩ .epoch 7 := ⟨by decide, by decide, by decide⟩
  obtain ⟨relic, registry, hexpiration, hdefine⟩ : ∃ relic registry,
      relic.expiration = some ⟨week⟩ ∧ Registry.empty.define relic = .ok registry :=
    ⟨⟨"relic", none, .constant (.bool true), some ⟨⟨604800, 0, by decide⟩⟩, []⟩, _, rfl, rfl⟩
  obtain ⟨-, hlisted, hlonger⟩ := hregistry registry (.define .empty hdefine)
  have hrelic := (hlisted relic (by rw [hexpiration]; rintro _ ⟨⟩; exact hweek)).mpr
    ⟨by simp [Registry.get?_define hdefine], ⟨week⟩, hexpiration, hin⟩
  refine ⟨hepoch, hweek, (hexpiry ⟨week⟩ hweek).1.mpr hin, by decide, relic, registry,
    hexpiration, hdefine, hrelic, ?_⟩
  exact (hlonger _ (by decide)).subset hrelic

end FeatureGate
