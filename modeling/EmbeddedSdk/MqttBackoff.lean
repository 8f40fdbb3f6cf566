import EmbeddedSdk.MqttLifecycle
import EmbeddedSdk.ResettableCalls

/-!
# The delays of the MQTT reconnect backoff

The base delay is a 32-bit left shift of the initial delay. `checked_shl` refuses
only a shift by 32 or more, and the shift stops at 31, so the bits that leave the
word are lost and the sequence can fall back below its maximum. The main theorem
says for which policies it never does.
-/
namespace EmbeddedSdk.Mqtt
open MachineInt Runs ResettableCalls

namespace ReconnectPolicy

/-- The jitter that the code adds for the entropy `j`. -/
def jitterOf (p : ReconnectPolicy) (j : UInt32) : ℕ :=
  if p.jitterMs = 0 then 0 else j.toNat % saturatingAdd u32Max p.jitterMs 1

/-- What is left of the initial delay after `n` delays. -/
def shifted (p : ReconnectPolicy) (n : ℕ) : ℕ := p.initialDelayMs * 2 ^ min n 31 % 2 ^ 32

/-- The state of the backoff after some calls. -/
def after (p : ReconnectPolicy) (calls : List (Call UInt32)) : Option ReconnectBackoff :=
  run (call (fun b j => some (b.nextDelayMs j.toNat).2) ReconnectBackoff.reset) p.backoff calls

/-- The delay of a call with entropy `j` after some calls. -/
def delay (p : ReconnectPolicy) (calls : List (Call UInt32)) (j : UInt32) : Option ℕ :=
  (p.after calls).map fun b => (b.nextDelayMs j.toNat).1

/-- The values that a constructed policy can hold. -/
structure Valid (p : ReconnectPolicy) : Prop where
  initial_pos : 0 < p.initialDelayMs
  initial_le : p.initialDelayMs ≤ p.maximumDelayMs
  maximum_le : p.maximumDelayMs ≤ u32Max
  jitter_le : p.jitterMs ≤ u32Max

theorem new_valid {initial maximum jitter : UInt32} {p : ReconnectPolicy}
    (h : ReconnectPolicy.new initial maximum jitter = .ok p) : p.Valid := by
  unfold ReconnectPolicy.new at h
  split at h
  · simp at h
  · rename_i hrange
    rw [Except.ok.injEq] at h
    subst h
    rw [not_or, UInt32.not_lt] at hrange
    obtain ⟨hpos, hle⟩ := hrange
    have hmaximum := maximum.toNat_lt
    have hjitter := jitter.toNat_lt
    constructor
    · exact Nat.pos_of_ne_zero fun h0 => hpos (UInt32.toNat_inj.mp h0)
    · exact UInt32.le_iff_toNat_le.mp hle
    · exact Nat.le_of_lt_succ hmaximum
    · exact Nat.le_of_lt_succ hjitter

theorem jitterOf_le (p : ReconnectPolicy) (j : UInt32) : p.jitterOf j ≤ p.jitterMs := by
  unfold jitterOf
  split
  · omega
  · have hpos : 0 < saturatingAdd u32Max p.jitterMs 1 := by
      simp only [saturatingAdd, u32Max]
      omega
    have hlt := Nat.mod_lt j.toNat hpos
    have hle : saturatingAdd u32Max p.jitterMs 1 ≤ p.jitterMs + 1 := min_le_left _ _
    omega

theorem jitterOf_eq_mod {p : ReconnectPolicy} (h : p.jitterMs < u32Max) (j : UInt32) :
    p.jitterOf j = j.toNat % (p.jitterMs + 1) := by
  unfold jitterOf
  split
  · rename_i hzero
    rw [hzero, Nat.zero_add, Nat.mod_one]
  · rw [saturatingAdd_of_le (by omega)]

theorem jitterOf_zero (p : ReconnectPolicy) : p.jitterOf 0 = 0 := by
  unfold jitterOf
  split
  · rfl
  · exact Nat.zero_mod _

/-- The attempt counter is the saturated number of delays. -/
def Counts (p : ReconnectPolicy) (n : ℕ) (b : ReconnectBackoff) : Prop :=
  b.policy = p ∧ b.attempts = min n 255

theorem after_counts (p : ReconnectPolicy) (calls : List (Call UInt32)) :
    ∃ b, p.after calls = some b ∧ p.Counts (sinceReset calls) b := by
  refine run_call ⟨rfl, rfl⟩ ?_ ?_ calls
  · intro n b j hb
    obtain ⟨hpolicy, hattempts⟩ := hb
    refine ⟨_, rfl, hpolicy, ?_⟩
    show saturatingAdd 255 b.attempts 1 = min (n + 1) 255
    rw [hattempts, saturatingAdd_min]
  · intro n b hb
    exact ⟨hb.1, rfl⟩

/-- The delay as a function of the number of earlier delays. -/
theorem delay_eq {p : ReconnectPolicy} (hp : p.Valid) (calls : List (Call UInt32)) (j : UInt32) :
    p.delay calls j = some (min p.maximumDelayMs
      (min p.maximumDelayMs (p.shifted (sinceReset calls)) + p.jitterOf j)) := by
  obtain ⟨b, hb, hpolicy, hattempts⟩ := p.after_counts calls
  have hmaximum := hp.maximum_le
  have hshift : min b.attempts 31 = min (sinceReset calls) 31 := by omega
  have hlt : min (sinceReset calls) 31 < 32 := by omega
  rw [delay, hb, Option.map_some, Option.some.injEq]
  simp only [ReconnectBackoff.nextDelayMs, ReconnectBackoff.checkedShl, hpolicy, hshift,
    if_pos hlt, Option.getD_some, saturatingAdd, shifted, jitterOf]
  omega

/-- The delays are a capped exponential: there is a jitter that depends only on
the policy and the entropy, such that the delay after `n` earlier ones is the
initial delay doubled `n` times, capped, plus jitter, capped. In particular no
delay is below the initial one, and delays with the same entropy never decrease
between resets. -/
def CappedExponential (p : ReconnectPolicy) : Prop :=
  (∃ r : UInt32 → ℕ,
    (p.jitterMs = 0 → ∀ j, r j = 0) ∧ (∀ j, r j ≤ p.jitterMs) ∧
    (p.jitterMs < u32Max → ∀ j, r j = j.toNat % (p.jitterMs + 1)) ∧
    ∀ calls j, p.delay calls j = some (min p.maximumDelayMs
      (min p.maximumDelayMs (p.initialDelayMs * 2 ^ sinceReset calls) + r j))) ∧
  (∀ calls j, ∃ d, p.delay calls j = some d ∧ p.initialDelayMs ≤ d) ∧
  ∀ calls later j, sinceReset calls ≤ sinceReset later →
    ∃ d d', p.delay calls j = some d ∧ p.delay later j = some d' ∧ d ≤ d'

/-- Whenever a shift pushes bits out of the word, those that remain still reach
the maximum. After 31 delays only the lowest bit of the initial delay remains. -/
def OverflowReachesMaximum (p : ReconnectPolicy) : Prop :=
  p.initialDelayMs % 2 = 1 ∧ p.maximumDelayMs ≤ 2 ^ 31 ∧
    ∀ n < 32, p.initialDelayMs < 2 ^ (32 - n) ∨
      p.maximumDelayMs ≤ p.initialDelayMs % 2 ^ (32 - n) * 2 ^ n

instance (p : ReconnectPolicy) : Decidable p.OverflowReachesMaximum :=
  inferInstanceAs (Decidable (_ ∧ _ ∧ ∀ n < 32, _ ∨ _))

theorem shifted_of_lt (p : ReconnectPolicy) {n : ℕ} (hn : n < 32) :
    p.shifted n = p.initialDelayMs % 2 ^ (32 - n) * 2 ^ n := by
  have hword : 2 ^ 32 = 2 ^ (32 - n) * 2 ^ n := by
    rw [← pow_add]
    congr 1
    omega
  rw [shifted, min_eq_left (by omega), hword, Nat.mul_mod_mul_right]

/-- From 31 delays on only the lowest bit is left. -/
theorem shifted_of_ge (p : ReconnectPolicy) {n : ℕ} (hn : 31 ≤ n) :
    p.shifted n = p.initialDelayMs % 2 * 2 ^ 31 := by
  have hsame : p.shifted n = p.shifted 31 := by
    rw [shifted, shifted, min_eq_right hn, min_self]
  rw [hsame, p.shifted_of_lt (by omega), pow_one]

/-- A delay that no longer fits into the word exceeds every maximum. -/
theorem maximum_lt_of_overflow {p : ReconnectPolicy} (hp : p.Valid) {n : ℕ} (hn : n ≤ 32)
    (h : 2 ^ (32 - n) ≤ p.initialDelayMs) : p.maximumDelayMs < p.initialDelayMs * 2 ^ n := by
  have hmaximum := hp.maximum_le
  rw [u32Max] at hmaximum
  calc p.maximumDelayMs < 2 ^ (32 - n) * 2 ^ n := by
        rw [← pow_add, Nat.sub_add_cancel hn]
        omega
    _ ≤ p.initialDelayMs * 2 ^ n := Nat.mul_le_mul_right _ h

/-- The capped shift is the capped exponential at every point exactly for the
policies whose overflow reaches the maximum. -/
theorem capped_shifted_iff {p : ReconnectPolicy} (hp : p.Valid) :
    (∀ n, min p.maximumDelayMs (p.shifted n) =
      min p.maximumDelayMs (p.initialDelayMs * 2 ^ n)) ↔ p.OverflowReachesMaximum := by
  have hpos := hp.initial_pos
  have hle := hp.initial_le
  constructor
  · intro hall
    have hlast : p.maximumDelayMs ≤ p.initialDelayMs % 2 * 2 ^ 31 := by
      have h32 := hall 32
      have hover := maximum_lt_of_overflow hp (n := 32) le_rfl (by omega)
      rw [p.shifted_of_ge (by omega), min_eq_left hover.le] at h32
      exact min_eq_left_iff.mp h32
    have hodd : p.initialDelayMs % 2 = 1 := by
      by_contra heven
      have hzero : p.initialDelayMs % 2 = 0 := by omega
      rw [hzero, Nat.zero_mul] at hlast
      omega
    refine ⟨hodd, by rwa [hodd, Nat.one_mul] at hlast, ?_⟩
    intro n hn
    by_cases hfits : p.initialDelayMs < 2 ^ (32 - n)
    · exact .inl hfits
    · have hover := maximum_lt_of_overflow hp (by omega) (Nat.le_of_not_lt hfits)
      have hcapped := hall n
      rw [p.shifted_of_lt hn, min_eq_left hover.le] at hcapped
      exact .inr (min_eq_left_iff.mp hcapped)
  · intro h n
    obtain ⟨hodd, hmaximum, hshifts⟩ := h
    by_cases hn : n < 32
    · rw [p.shifted_of_lt hn]
      rcases hshifts n hn with hfits | hreaches
      · rw [Nat.mod_eq_of_lt hfits]
      · have hmod := Nat.mul_le_mul_right (2 ^ n) (Nat.mod_le p.initialDelayMs (2 ^ (32 - n)))
        rw [min_eq_left hreaches, min_eq_left (hreaches.trans hmod)]
    · have hgrows : 2 ^ 32 ≤ p.initialDelayMs * 2 ^ n :=
        calc 2 ^ 32 ≤ 2 ^ n := Nat.pow_le_pow_right (by omega) (by omega)
          _ ≤ p.initialDelayMs * 2 ^ n := Nat.le_mul_of_pos_left _ hpos
      rw [p.shifted_of_ge (by omega), hodd, Nat.one_mul, min_eq_left hmaximum,
        min_eq_left (by omega)]

/-- Delays of the closed form are capped exponential. -/
theorem cappedExponential_of_closed_form {p : ReconnectPolicy} (hp : p.Valid)
    (h : ∀ n, min p.maximumDelayMs (p.shifted n) =
      min p.maximumDelayMs (p.initialDelayMs * 2 ^ n)) : p.CappedExponential := by
  have hclosed : ∀ calls j, p.delay calls j = some (min p.maximumDelayMs
      (min p.maximumDelayMs (p.initialDelayMs * 2 ^ sinceReset calls) + p.jitterOf j)) := by
    intro calls j
    rw [delay_eq hp, h]
  refine ⟨⟨p.jitterOf, ?_, p.jitterOf_le, fun hlt j => jitterOf_eq_mod hlt j, hclosed⟩, ?_, ?_⟩
  · intro hzero j
    have hle := p.jitterOf_le j
    omega
  · intro calls j
    have hle := hp.initial_le
    have hgrows := Nat.le_mul_of_pos_right p.initialDelayMs (Nat.two_pow_pos (sinceReset calls))
    exact ⟨_, hclosed calls j, by omega⟩
  · intro calls later j hn
    have hpow := Nat.mul_le_mul_left p.initialDelayMs
      (Nat.pow_le_pow_right (n := 2) (by omega) hn)
    exact ⟨_, _, hclosed calls j, hclosed later j, by omega⟩

/-- The delays of an accepted policy are a capped exponential exactly when the
bits that stay in the word reach the maximum. -/
theorem cappedExponential_iff_overflowReachesMaximum {initial maximum jitter : UInt32}
    {p : ReconnectPolicy} (h : ReconnectPolicy.new initial maximum jitter = .ok p) :
    p.CappedExponential ↔ p.OverflowReachesMaximum := by
  have hp := new_valid h
  rw [← capped_shifted_iff hp]
  constructor
  · intro hcapped n
    obtain ⟨⟨r, -, -, -, hclosed⟩, -⟩ := hcapped
    -- without entropy the code adds no jitter, whatever `r` says
    have hdelay : ∀ n, min p.maximumDelayMs (p.shifted n) =
        min p.maximumDelayMs (min p.maximumDelayMs (p.initialDelayMs * 2 ^ n) + r 0) := by
      intro n
      have hn := hclosed (List.replicate n (.next 0)) 0
      rw [delay_eq hp, sinceReset_replicate, jitterOf_zero, Option.some.injEq] at hn
      omega
    have hfirst := hdelay 0
    have hstart := hp.initial_le
    have hword := hp.maximum_le
    rw [u32Max] at hword
    rw [shifted, Nat.zero_min, pow_zero, Nat.mul_one, Nat.mod_eq_of_lt (by omega)] at hfirst
    have hgrows := Nat.le_mul_of_pos_right p.initialDelayMs (Nat.two_pow_pos n)
    have hn := hdelay n
    omega
  · exact cappedExponential_of_closed_form hp

/-- A policy with an odd initial delay. -/
theorem oddPolicy_cappedExponential :
    ∃ p, ReconnectPolicy.new 1001 60000 250 = .ok p ∧ p.CappedExponential := by
  have hnew : ReconnectPolicy.new 1001 60000 250 = .ok ⟨1001, 60000, 250⟩ := by decide
  exact ⟨_, hnew, (cappedExponential_iff_overflowReachesMaximum hnew).mpr (by decide)⟩

/-- The policy of the firmware waits for no time at all after 29 failures in a
row. -/
theorem default_delay_collapses :
    ReconnectPolicy.new 1000 60000 250 = .ok .default ∧
      ReconnectPolicy.default.delay (List.replicate 29 (.next 0)) 0 = some 0 ∧
      ¬ ReconnectPolicy.default.CappedExponential := by
  have hnew : ReconnectPolicy.new 1000 60000 250 = .ok .default := by decide
  have hdelay : ReconnectPolicy.default.delay (List.replicate 29 (.next 0)) 0 = some 0 := by
    decide +kernel
  refine ⟨hnew, hdelay, ?_⟩
  intro hcapped
  obtain ⟨d, hd, hle⟩ := hcapped.2.1 (List.replicate 29 (.next 0)) 0
  rw [hdelay, Option.some.injEq] at hd
  rw [← hd] at hle
  exact absurd hle (by decide)

end ReconnectPolicy

end EmbeddedSdk.Mqtt
