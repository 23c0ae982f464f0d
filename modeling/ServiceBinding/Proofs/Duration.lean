import Mathlib.Order.Bounds.Basic
import ServiceBinding.Duration

/-!
# Durations in whole milliseconds

Durations are ordered by their length. Main statement: a number of milliseconds is within a
duration just if it is at most the number that the duration is sent as. So the duration that
arrives for one that is sent is the longest of those that can be sent and are no longer.
-/

namespace ServiceBinding.Duration

theorem totalNanos_injective : Function.Injective totalNanos := by
  intro a b h
  have ha := a.nanos_lt
  have hb := b.nanos_lt
  simp only [totalNanos, nanosPerSecond] at h ha hb
  have hs : a.seconds = b.seconds := UInt64.toNat_inj.1 (by omega)
  have hn : a.nanos = b.nanos := by omega
  cases a
  cases b
  cases hs
  cases hn
  rfl

instance : PartialOrder Duration := .lift totalNanos totalNanos_injective

theorem le_iff {a b : Duration} : a ≤ b ↔ a.totalNanos ≤ b.totalNanos := Iff.rfl

theorem totalNanos_ofMillis (ms : UInt64) :
    (ofMillis ms).totalNanos = ms.toNat * nanosPerMilli := by
  simp only [totalNanos, ofMillis, UInt64.toNat_div, nanosPerSecond, nanosPerMilli,
    show (1000 : UInt64).toNat = 1000 from rfl]
  omega

theorem millis_lt (d : Duration) : d.millis < 0x100000000000000000000000000000000 := by
  have hs := d.seconds.toNat_lt
  have hn := d.nanos_lt
  simp only [millis, nanosPerMilli, nanosPerSecond] at hn ⊢
  omega

theorem toNat_toMillis (d : Duration) :
    d.toMillis.toNat = min d.millis 0xFFFFFFFFFFFFFFFF := by
  rw [toMillis, UInt64.toNat_ofNat']
  omega

theorem ofMillis_le_iff {ms : UInt64} {d : Duration} : ofMillis ms ≤ d ↔ ms ≤ d.toMillis := by
  have hms := ms.toNat_lt
  have hd := d.nanos_lt
  rw [le_iff, totalNanos_ofMillis, UInt64.le_iff_toNat_le, toNat_toMillis]
  simp only [millis, totalNanos, nanosPerSecond, nanosPerMilli] at hd ⊢
  omega

theorem toMillis_ofMillis (ms : UInt64) : (ofMillis ms).toMillis = ms := by
  have hlow : ms ≤ (ofMillis ms).toMillis := ofMillis_le_iff.1 le_rfl
  have hhigh : ofMillis (ofMillis ms).toMillis ≤ ofMillis ms :=
    ofMillis_le_iff.2 (UInt64.le_refl _)
  rw [le_iff, totalNanos_ofMillis, totalNanos_ofMillis] at hhigh
  rw [UInt64.le_iff_toNat_le] at hlow
  refine UInt64.toNat_inj.1 (Nat.le_antisymm ?_ hlow)
  exact Nat.le_of_mul_le_mul_right hhigh (by decide)

/-- A whole number of milliseconds that a message can hold. -/
def Sendable (d : Duration) : Prop :=
  nanosPerMilli ∣ d.totalNanos ∧ d.totalNanos ≤ 0xFFFFFFFFFFFFFFFF * nanosPerMilli

def arriving (d : Duration) : Duration := ofMillis d.toMillis

theorem sendable_iff {d : Duration} : d.Sendable ↔ ∃ ms, ofMillis ms = d := by
  constructor
  · intro h
    obtain ⟨⟨n, hn⟩, hle⟩ := h
    have hlt : n < UInt64.size := by
      rw [hn, nanosPerMilli] at hle
      rw [UInt64.size]
      omega
    refine ⟨UInt64.ofNat n, totalNanos_injective ?_⟩
    rw [totalNanos_ofMillis, UInt64.toNat_ofNat_of_lt' hlt, hn, Nat.mul_comm]
  · intro h
    obtain ⟨ms, rfl⟩ := h
    rw [Sendable, totalNanos_ofMillis]
    exact ⟨Nat.dvd_mul_left _ _, Nat.mul_le_mul_right _ (Nat.le_of_lt_succ ms.toNat_lt)⟩

theorem isGreatest_arriving (d : Duration) :
    IsGreatest {t : Duration | t.Sendable ∧ t ≤ d} d.arriving := by
  refine ⟨⟨sendable_iff.2 ⟨_, rfl⟩, ofMillis_le_iff.2 (UInt64.le_refl _)⟩, fun t ht => ?_⟩
  obtain ⟨hs, hle⟩ := ht
  obtain ⟨ms, rfl⟩ := sendable_iff.1 hs
  refine ofMillis_le_iff.2 ?_
  rw [arriving, toMillis_ofMillis]
  exact ofMillis_le_iff.1 hle

theorem arriving_le (d : Duration) : d.arriving ≤ d := d.isGreatest_arriving.1.2

theorem arriving_eq_self_iff {d : Duration} : d.arriving = d ↔ d.Sendable := by
  constructor
  · intro h
    exact h ▸ d.isGreatest_arriving.1.1
  · intro h
    exact le_antisymm d.arriving_le (d.isGreatest_arriving.2 ⟨h, le_rfl⟩)

theorem arriving_mono : Monotone arriving := by
  intro a b hab
  have hself : a.arriving.Sendable ∧ a.arriving ≤ b :=
    ⟨a.isGreatest_arriving.1.1, a.arriving_le.trans hab⟩
  exact b.isGreatest_arriving.2 hself

theorem arriving_arriving (d : Duration) : d.arriving.arriving = d.arriving :=
  arriving_eq_self_iff.2 d.isGreatest_arriving.1.1

end ServiceBinding.Duration
