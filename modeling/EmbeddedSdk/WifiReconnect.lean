import EmbeddedSdk.MachineInt
import EmbeddedSdk.ResettableCalls
import EmbeddedSdk.WifiConfig

/-!
# Reconnection delays of the Wi-Fi station

The backoff keeps its next base delay and doubles it at every call, cut at the
maximum less the jitter. The firmware is compiled with overflow checks, so a plain
addition or remainder may panic; a call that panics has no result.
-/
namespace EmbeddedSdk.Wifi
open MachineInt Runs ResettableCalls

/-- Bounds for exponential station-reconnection delay and random jitter. -/
structure ReconnectPolicy where
  initialDelayMs : ℕ
  maximumDelayMs : ℕ
  maximumJitterMs : ℕ
  initial_pos : 0 < initialDelayMs
  initial_le : initialDelayMs ≤ maximumDelayMs
  jitter_lt : maximumJitterMs < maximumDelayMs
  maximum_le : maximumDelayMs ≤ u32Max
  deriving DecidableEq

namespace ReconnectPolicy

/-- Validates a reconnection policy. -/
def new (initialDelayMs maximumDelayMs maximumJitterMs : UInt32) :
    Except ConfigError ReconnectPolicy :=
  if h : initialDelayMs = 0 ∨ initialDelayMs > maximumDelayMs ∨
      maximumJitterMs ≥ maximumDelayMs then
    .error .invalidReconnectPolicy
  else
    .ok {
      initialDelayMs := initialDelayMs.toNat
      maximumDelayMs := maximumDelayMs.toNat
      maximumJitterMs := maximumJitterMs.toNat
      initial_pos := Nat.pos_of_ne_zero fun h0 => h (.inl (UInt32.toNat_inj.mp h0))
      initial_le := UInt32.le_iff_toNat_le.mp (UInt32.not_lt.mp fun hlt => h (.inr (.inl hlt)))
      jitter_lt := UInt32.lt_iff_toNat_lt.mp (UInt32.not_le.mp fun hle => h (.inr (.inr hle)))
      maximum_le := Nat.le_of_lt_succ maximumDelayMs.toNat_lt }

/-- The policy that the firmware uses. -/
def default : ReconnectPolicy where
  initialDelayMs := 1000
  maximumDelayMs := 60000
  maximumJitterMs := 500
  initial_pos := by decide
  initial_le := by decide
  jitter_lt := by decide
  maximum_le := by decide

example : new 1000 60000 500 = .ok default := rfl

theorem new_eq_ok {initial maximum jitter : UInt32} {p : ReconnectPolicy}
    (h : new initial maximum jitter = .ok p) :
    p.initialDelayMs = initial.toNat ∧ p.maximumDelayMs = maximum.toNat ∧
      p.maximumJitterMs = jitter.toNat := by
  unfold new at h
  split at h
  · simp at h
  · rw [Except.ok.injEq] at h
    subst h
    exact ⟨rfl, rfl, rfl⟩

end ReconnectPolicy

/-- Stateful exponential-backoff calculator for station reconnection. -/
structure ReconnectBackoff where
  policy : ReconnectPolicy
  nextBaseDelayMs : ℕ
  attempts : ℕ
  deriving DecidableEq

namespace ReconnectBackoff

/-- Creates a backoff calculator at its first-attempt state. -/
def new (policy : ReconnectPolicy) : ReconnectBackoff := ⟨policy, policy.initialDelayMs, 0⟩

/-- The largest delay that leaves room for the jitter. -/
def maximumBase (b : ReconnectBackoff) : ℕ := b.policy.maximumDelayMs - b.policy.maximumJitterMs

def base (b : ReconnectBackoff) : ℕ := min b.nextBaseDelayMs b.maximumBase

def jitter (b : ReconnectBackoff) (entropy : ℕ) : Option ℕ :=
  if b.policy.maximumJitterMs = 0 then some 0
  else (checkedAdd u32Max b.policy.maximumJitterMs 1).bind (checkedRem entropy)

/-- The state after one more delay. -/
def advance (b : ReconnectBackoff) : ReconnectBackoff :=
  { b with
    nextBaseDelayMs := min (saturatingMul u32Max b.base 2) b.maximumBase
    attempts := saturatingAdd u32Max b.attempts 1 }

/-- The next delay with its jitter, unless the call panics. -/
def nextDelayMs (b : ReconnectBackoff) (entropy : ℕ) : Option (ℕ × ReconnectBackoff) :=
  (b.jitter entropy).map fun jitter =>
    (min (saturatingAdd u32Max b.base jitter) b.policy.maximumDelayMs, b.advance)

/-- Resets the sequence after a successful association. -/
def reset (b : ReconnectBackoff) : ReconnectBackoff :=
  { b with nextBaseDelayMs := b.policy.initialDelayMs, attempts := 0 }

theorem jitter_eq (b : ReconnectBackoff) (entropy : ℕ) :
    b.jitter entropy = some (entropy % (b.policy.maximumJitterMs + 1)) := by
  have hjitter := b.policy.jitter_lt
  have hmaximum := b.policy.maximum_le
  unfold jitter
  split
  · rename_i hzero
    rw [hzero, Nat.zero_add, Nat.mod_one]
  · rw [checkedAdd_of_le (by omega), Option.bind_some, checkedRem_of_pos _ (Nat.succ_pos _)]

/-- Neither the saturating addition nor the cut at the maximum changes a delay. -/
theorem base_add_jitter_le (b : ReconnectBackoff) (entropy : ℕ) :
    b.base + entropy % (b.policy.maximumJitterMs + 1) ≤ b.policy.maximumDelayMs := by
  have hjitter := b.policy.jitter_lt
  have hmod : entropy % (b.policy.maximumJitterMs + 1) < b.policy.maximumJitterMs + 1 :=
    Nat.mod_lt entropy (Nat.succ_pos _)
  have hbase : b.base ≤ b.maximumBase := min_le_right _ _
  rw [maximumBase] at hbase
  omega

/-- After `n` delays the base is the initial delay doubled `n` times, as far as
there is room. -/
def Doubles (p : ReconnectPolicy) (n : ℕ) (b : ReconnectBackoff) : Prop :=
  b.policy = p ∧ b.attempts = min n u32Max ∧
    b.base = min (p.initialDelayMs * 2 ^ n) (p.maximumDelayMs - p.maximumJitterMs)

theorem new_doubles (p : ReconnectPolicy) : Doubles p 0 (new p) := by
  refine ⟨rfl, rfl, ?_⟩
  rw [pow_zero, Nat.mul_one]
  rfl

theorem reset_doubles {p : ReconnectPolicy} {n : ℕ} {b : ReconnectBackoff} (h : Doubles p n b) :
    Doubles p 0 b.reset := by
  obtain ⟨rfl, -, -⟩ := h
  refine ⟨rfl, rfl, ?_⟩
  rw [pow_zero, Nat.mul_one]
  rfl

/-- A call succeeds, returns the base with its jitter and doubles the base. -/
theorem nextDelayMs_doubles {p : ReconnectPolicy} {n : ℕ} {b : ReconnectBackoff}
    (h : Doubles p n b) (entropy : ℕ) :
    ∃ t, b.nextDelayMs entropy = some (b.base + entropy % (p.maximumJitterMs + 1), t) ∧
      Doubles p (n + 1) t := by
  obtain ⟨rfl, hattempts, hbase⟩ := h
  have hle := b.base_add_jitter_le entropy
  have hmaximum := b.policy.maximum_le
  have hsum : min (saturatingAdd u32Max b.base (entropy % (b.policy.maximumJitterMs + 1)))
      b.policy.maximumDelayMs = b.base + entropy % (b.policy.maximumJitterMs + 1) := by
    rw [saturatingAdd_of_le (by omega), min_eq_left hle]
  refine ⟨b.advance, ?_, rfl, ?_, ?_⟩
  · rw [nextDelayMs, jitter_eq, Option.map_some, hsum]
  · show saturatingAdd u32Max b.attempts 1 = min (n + 1) u32Max
    rw [hattempts, saturatingAdd_min]
  · -- saturation happens only above the cut
    show min (min (saturatingMul u32Max b.base 2) b.maximumBase) b.maximumBase =
      min (b.policy.initialDelayMs * 2 ^ (n + 1))
        (b.policy.maximumDelayMs - b.policy.maximumJitterMs)
    rw [pow_succ, ← Nat.mul_assoc, saturatingMul, hbase, maximumBase]
    omega

end ReconnectBackoff

namespace ReconnectPolicy

/-- The state of the backoff after some calls, unless one of them panicked. -/
def after (p : ReconnectPolicy) (calls : List (Call UInt32)) : Option ReconnectBackoff :=
  run (call (fun b entropy => (b.nextDelayMs entropy.toNat).map Prod.snd)
    ReconnectBackoff.reset) (.new p) calls

theorem after_doubles (p : ReconnectPolicy) (calls : List (Call UInt32)) :
    ∃ b, p.after calls = some b ∧ ReconnectBackoff.Doubles p (sinceReset calls) b := by
  refine run_call (ReconnectBackoff.new_doubles p) ?_ ?_ calls
  · intro n b entropy hb
    obtain ⟨t, ht, hdoubles⟩ := ReconnectBackoff.nextDelayMs_doubles hb entropy.toNat
    exact ⟨t, by rw [ht, Option.map_some], hdoubles⟩
  · intro n b hb
    exact ReconnectBackoff.reset_doubles hb

/-- No call of any sequence panics. A delay is the initial delay doubled once for
each delay since the last reset, cut where the jitter needs the room, plus the
jitter. It never exceeds the maximum, so the last cut of the code does nothing. -/
theorem nextDelayMs_closed_form {initial maximum jitterMax : UInt32} {p : ReconnectPolicy}
    (h : ReconnectPolicy.new initial maximum jitterMax = .ok p) (calls : List (Call UInt32))
    (e : UInt32) :
    ∃ b t, p.after calls = some b ∧
      b.nextDelayMs e.toNat = some
        (min (initial.toNat * 2 ^ sinceReset calls) (maximum.toNat - jitterMax.toNat) +
          e.toNat % (jitterMax.toNat + 1), t) ∧
      min (initial.toNat * 2 ^ sinceReset calls) (maximum.toNat - jitterMax.toNat) +
        e.toNat % (jitterMax.toNat + 1) ≤ maximum.toNat ∧
      jitterMax.toNat ≤ maximum.toNat ∧
      b.jitter e.toNat = some (e.toNat % (jitterMax.toNat + 1)) ∧
      b.base + e.toNat % (jitterMax.toNat + 1) ≤ maximum.toNat := by
  obtain ⟨b, hb, hdoubles⟩ := p.after_doubles calls
  obtain ⟨t, ht, -⟩ := ReconnectBackoff.nextDelayMs_doubles hdoubles e.toNat
  obtain ⟨hpolicy, -, hbase⟩ := hdoubles
  have hle := b.base_add_jitter_le e.toNat
  have hjitter := b.jitter_eq e.toNat
  have hlt := p.jitter_lt
  obtain ⟨hinitial, hmaximum, hjitterMax⟩ := new_eq_ok h
  rw [hpolicy] at hle hjitter
  rw [hinitial, hmaximum, hjitterMax] at hbase
  rw [hjitterMax] at ht hjitter hle hlt
  rw [hmaximum] at hle hlt
  rw [hbase] at ht
  exact ⟨b, t, hb, ht, by rwa [hbase] at hle, hlt.le, hjitter, hle⟩

/-- A policy whose initial delay leaves no room for its jitter. -/
theorem crampedPolicy_closed_form :
    ∃ p b t, ReconnectPolicy.new 900 1000 500 = .ok p ∧
      p.after [.next 7, .reset, .next 0] = some b ∧ b.nextDelayMs 1001 = some (1000, t) := by
  have hnew : ∃ p, ReconnectPolicy.new 900 1000 500 = .ok p := ⟨_, rfl⟩
  obtain ⟨p, hp⟩ := hnew
  obtain ⟨b, t, hb, ht, -⟩ := nextDelayMs_closed_form hp [.next 7, .reset, .next 0] 1001
  exact ⟨p, b, t, hp, hb, ht⟩

end ReconnectPolicy

end EmbeddedSdk.Wifi
