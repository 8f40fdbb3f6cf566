import EmbeddedSdk.BackoffHealth
import EmbeddedSdk.MqttBackoff

/-!
# Lifecycle and pacing of the MQTT task

The task announces a lifecycle state before each of its awaits, and draws one
delay for each failure. So the await at which it stands decides the state that
the snapshot shows, and the failures since the latest session decide how long
it sleeps. The only sleeps that show something else are those after an error
that the adapter does not record.
-/
namespace EmbeddedSdk.MqttTask
open Mqtt MqttMinimq MachineInt Runs ResettableCalls

variable {B : Backend}

/-- The lifecycle state that belongs to an await, except for a backoff. -/
def Point.lifecycle : Point → Option ConnectionState
  | .waitIpReady | .networkStateRetry | .waitIpDown => some .waitingForNetwork
  | .resolve => some .resolvingBroker
  | .connectTransport _ => some .connectingTransport
  | .connectSession => some .connectingSession
  | .subscribe event | .select event | .publish event _ => some (liveState event)
  | .backoff _ => none

/-- Outside a session the snapshot shows what the task announced last. -/
def WaitingStateShown (s : State) : Prop :=
  s.point.session = none → ∀ state, s.point.lifecycle = some state →
    s.client.snapshot.state = state

/-- What comes after an operation on the connection is a session or a backoff. -/
theorem afterOperation_lifecycle {α : Type} (random : ℕ → ℕ) (event : Minimq.ConnectEvent)
    (s : State) (result : Connection × Except (Error B) α)
    (h : (s.afterOperation random event result).point.session = none) :
    (s.afterOperation random event result).point.lifecycle = none := by
  obtain ⟨connection, error | value⟩ := result
  · rfl
  · cases h

theorem runMqttConnection_session (event : Minimq.ConnectEvent) (s : State) :
    (s.runMqttConnection event).point.session = some event := by
  unfold State.runMqttConnection
  split <;> rfl

theorem waitingStateShown_step {config : MqttDevelopmentConfig} {random : ℕ → ℕ} {s t : State}
    {e : Event B} (h : WaitingStateShown s) (hstep : step config random s e = some t) :
    WaitingStateShown t := by
  intro hsession state hstate
  unfold step at hstep
  split at hstep
  case h_1 =>
    cases hstep
    obtain ⟨hclient, -, hpoint⟩ := produce_fields s
    rw [hpoint] at hsession hstate
    rw [hclient]
    exact h hsession state hstate
  all_goals rename_i hp
  case h_2 =>
    cases hstep
    exact h (by rw [hp]; rfl) state (by rw [hp]; exact hstate)
  case h_3 =>
    split at hstep
    · cases hstep
      exact Option.some.inj hstate
    · cases hstep
      exact h (by rw [hp]; rfl) state (by rw [hp]; exact hstate)
  case h_4 | h_5 | h_10 | h_17 | h_18 | h_19 | h_20 =>
    cases hstep
    exact Option.some.inj hstate
  case h_6 | h_8 | h_9 | h_11 =>
    cases hstep
    cases hstate
  case h_7 =>
    split at hstep
    · cases hstep
    · cases hstep
      cases hstate
    · cases hstep
      exact Option.some.inj hstate
  case h_12 =>
    split at hstep
    · cases hstep
      cases hstate
    · cases hstep
      rw [runMqttConnection_session] at hsession
      cases hsession
  case h_13 | h_14 | h_16 =>
    cases hstep
    rw [afterOperation_lifecycle _ _ _ _ hsession] at hstate
    cases hstate
  case h_15 =>
    split at hstep
    · cases hstep
    · cases hstep
      cases hsession
  case h_21 => cases hstep

/-- A live connection has no error to report. -/
def LiveWithoutError (s : State) : Prop :=
  s.point.session.isSome = true → s.client.snapshot.lastError = none

theorem liveWithoutError_step {random : ℕ → ℕ} {s t : State} {e : Event B}
    (h : LiveWithoutError s) (hm : Move random s e t) : LiveWithoutError t := by
  intro ht
  cases hm with
  | produced _ ht' =>
      obtain ⟨hclient, -, hpoint⟩ := produce_fields s
      rw [ht', hpoint] at ht
      rw [ht', hclient]
      exact h ht
  | waited client point _ _ _ hpoint ht' =>
      rw [ht', hpoint.1] at ht
      cases ht
  | stopped _ _ ht' | external _ _ _ ht' | refused _ _ _ ht' | failed _ _ _ _ _ ht' =>
      subst ht'
      cases ht
  | fresh _ _ ht' | resumed _ _ ht' =>
      subst ht'
      rfl
  | subscribed event hs _ ht' =>
      subst ht'
      exact h (by rw [hs]; rfl)
  | received event _ hs _ _ ht' =>
      subst ht'
      exact h (by rw [hs]; rfl)
  | dequeued event _ _ hs _ _ ht' =>
      subst ht'
      exact h (by rw [hs]; rfl)
  | published event _ hs _ ht' =>
      subst ht'
      exact h (by rw [hs]; rfl)

/-- A sleep shows a recorded failure, or still the connection that was dropped. -/
def SleepShown (s : State) : Prop :=
  s.point.isBackoff = true →
    (s.client.snapshot.state = .backingOff ∧ s.client.snapshot.lastError.isSome = true) ∨
      ∃ event, s.client.snapshot.state = liveState event ∧ s.client.snapshot.lastError = none

theorem sleepShown_step {random : ℕ → ℕ} {s t : State} {e : Event B} (h : SleepShown s)
    (hlive : LiveStateShown s) (hclean : LiveWithoutError s) (hm : Move random s e t) :
    SleepShown t := by
  intro ht
  cases hm with
  | produced _ ht' =>
      obtain ⟨hclient, -, hpoint⟩ := produce_fields s
      rw [ht', hpoint] at ht
      rw [ht', hclient]
      exact h ht
  | waited client point _ _ _ hpoint ht' =>
      rw [ht', hpoint.2] at ht
      cases ht
  | external _ _ _ ht' | refused _ _ _ ht' =>
      subst ht'
      exact .inl ⟨rfl, rfl⟩
  | stopped _ _ ht' | fresh _ _ ht' | resumed _ _ ht' | subscribed _ _ _ ht'
  | received _ _ _ _ _ ht' | dequeued _ _ _ _ _ _ ht' | published _ _ _ _ ht' =>
      subst ht'
      cases ht
  | failed event error hs _ _ ht' =>
      rw [ht', mqttBackoff_client, observeError]
      split
      · exact .inl ⟨rfl, rfl⟩
      · exact .inr ⟨event, hlive event hs, hclean (by rw [hs]; rfl)⟩

/-- Everything that the snapshot says about where the task stands. -/
structure LifecycleShown (s : State) : Prop where
  waiting : WaitingStateShown s
  live : LiveStateShown s
  clean : LiveWithoutError s
  asleep : SleepShown s

theorem start_lifecycleShown : LifecycleShown start where
  waiting := fun _ _ h => Option.some.inj h
  live := start_liveStateShown
  clean := fun h => by cases h
  asleep := fun h => by cases h

theorem lifecycleShown_step {config : MqttDevelopmentConfig} {random : ℕ → ℕ} {s t : State}
    {e : Event B} (h : LifecycleShown s) (hstep : step config random s e = some t) :
    LifecycleShown t where
  waiting := waitingStateShown_step h.waiting hstep
  live := liveStateShown_step h.live (step_move hstep)
  clean := liveWithoutError_step h.clean (step_move hstep)
  asleep := sleepShown_step h.asleep h.live h.clean (step_move hstep)

/-- In every run the await at which the task stands decides the lifecycle state
in the snapshot, and no error is shown during a session. A sleep shows a recorded
failure, or still shows the connection that it dropped. -/
theorem snapshot_follows_awaits (config : MqttDevelopmentConfig) (random : ℕ → ℕ)
    (es : List (Event B)) (s : State) (h : run (step config random) start es = some s) :
    (∀ state, s.point.lifecycle = some state → s.client.snapshot.state = state) ∧
      (s.point.session.isSome = true → s.client.snapshot.lastError = none) ∧
      (s.point.isBackoff = true →
        (s.client.snapshot.state = .backingOff ∧ s.client.snapshot.lastError.isSome = true) ∨
        ∃ event, s.client.snapshot.state = liveState event ∧
          s.client.snapshot.lastError = none) := by
  have hshown : LifecycleShown s := run_invariant start_lifecycleShown
    (fun _ _ _ hi hstep => lifecycleShown_step hi hstep) h
  refine ⟨?_, hshown.clean, hshown.asleep⟩
  intro state hstate
  cases hsession : s.point.session with
  | none => exact hshown.waiting hsession state hstate
  | some event =>
      rw [hshown.live event hsession]
      cases hp : s.point with
      | subscribe | select | publish =>
          rw [hp] at hsession hstate
          cases hsession
          exact Option.some.inj hstate
      | waitIpReady | networkStateRetry | waitIpDown | resolve | connectTransport | connectSession
      | backoff =>
          rw [hp] at hsession
          cases hsession

theorem closedSession_follows_awaits :
    ∃ t, run (step fixtureConfig fun _ => 0) start closedSession = some t ∧
      t.client.snapshot.state = .backingOff := by
  refine ⟨_, rfl, ?_⟩
  have hshown := snapshot_follows_awaits fixtureConfig (fun _ => 0) closedSession _ rfl
  obtain ⟨hstate, -⟩ | ⟨event, -, hnone⟩ := hshown.2.2 rfl
  · exact hstate
  · cases hnone

section Pacing

/-- What an event makes of the number of failures in a row: a session ends the
row, every failure of an await makes it longer. -/
def failuresAfter (n : ℕ) (e : Event B) : ℕ :=
  match e with
  | .connectSession (some (.ok _)) => 0
  | e => if e.failureKind.isSome then n + 1 else n

/-- The failures since the latest session, or since the start. -/
def failuresInRow (past : List (Event B)) : ℕ := past.foldl failuresAfter 0

@[simp] theorem failuresInRow_concat (past : List (Event B)) (e : Event B) :
    failuresInRow (past ++ [e]) = failuresAfter (failuresInRow past) e := by
  simp [failuresInRow]

theorem failuresAfter_of_failure {e : Event B} {kind : ErrorKind}
    (h : e.failureKind = some kind) (n : ℕ) : failuresAfter n e = n + 1 := by
  unfold failuresAfter
  split
  · cases h
  · rw [h]
    rfl

theorem failuresAfter_of_none {e : Event B} (h : e.failureKind = none)
    (hsession : ∀ event, e ≠ .connectSession (some (.ok event))) (n : ℕ) :
    failuresAfter n e = n := by
  unfold failuresAfter
  split
  · rename_i event
    exact absurd rfl (hsession event)
  · rw [h]
    rfl

/-- The backoff is where the calls of the past left it, and a sleep lasts as
long as the latest of them said. -/
structure Paced (random : ℕ → UInt32) (past : List (Event B)) (s : State) : Prop where
  counted : ∃ calls, ReconnectPolicy.default.after calls = some s.backoff ∧
    sinceReset calls = failuresInRow past
  asleep : ∀ d, s.point = .backoff d → 0 < s.draws ∧ ∃ calls,
    ReconnectPolicy.default.delay calls (random (s.draws - 1)) = some d ∧
      sinceReset calls + 1 = failuresInRow past

theorem start_paced (random : ℕ → UInt32) : Paced (B := B) random [] start := by
  constructor
  · exact ⟨[], rfl, rfl⟩
  · intro d h
    cases h

/-- A call of `mqtt_backoff` is one more delay of the sequence. -/
theorem mqttBackoff_paced {random : ℕ → UInt32} {past : List (Event B)} {s : State} {e : Event B}
    {kind : ErrorKind} (client : Client) (h : Paced random past s)
    (he : e.failureKind = some kind) :
    Paced random (past ++ [e])
      (State.mqttBackoff (fun i => (random i).toNat) { s with client := client }) := by
  obtain ⟨calls, hafter, hcount⟩ := h.counted
  have hrow : failuresInRow (past ++ [e]) = sinceReset calls + 1 := by
    rw [failuresInRow_concat, failuresAfter_of_failure he, hcount]
  constructor
  · refine ⟨calls ++ [.next (random s.draws)], ?_, ?_⟩
    · rw [ReconnectPolicy.after] at hafter ⊢
      rw [run_concat, hafter]
      rfl
    · rw [hrow, sinceReset_concat_next]
  · intro d hd
    refine ⟨Nat.succ_pos _, calls, ?_, hrow.symm⟩
    rw [ReconnectPolicy.delay, hafter]
    exact congrArg some (Point.backoff.inj hd)

/-- A session starts the sequence again. -/
theorem session_paced {random : ℕ → UInt32} {past : List (Event B)} {s t : State}
    {event : Minimq.ConnectEvent} (h : Paced random past s) (hbackoff : t.backoff = s.backoff.reset)
    (hpoint : t.point.isBackoff = false) :
    Paced random (past ++ [.connectSession (some (.ok event))]) t := by
  obtain ⟨calls, hafter, -⟩ := h.counted
  constructor
  · refine ⟨calls ++ [.reset], ?_, ?_⟩
    · rw [ReconnectPolicy.after] at hafter ⊢
      rw [run_concat, hafter, hbackoff]
      rfl
    · rw [sinceReset_concat_reset, failuresInRow_concat]
      rfl
  · intro d hd
    rw [hd] at hpoint
    cases hpoint

/-- Any other move leaves the backoff alone. -/
theorem Paced.frame {random : ℕ → UInt32} {past : List (Event B)} {s t : State} {e : Event B}
    (h : Paced random past s) (he : e.failureKind = none)
    (hsession : ∀ event, e ≠ .connectSession (some (.ok event))) (hbackoff : t.backoff = s.backoff)
    (hpoint : t.point.isBackoff = false) : Paced random (past ++ [e]) t := by
  constructor
  · rw [failuresInRow_concat, failuresAfter_of_none he hsession, hbackoff]
    exact h.counted
  · intro d hd
    rw [hd] at hpoint
    cases hpoint

theorem produce_paced {random : ℕ → UInt32} {past : List (Event B)} {s : State}
    (h : Paced random past s) : Paced random (past ++ [.produce]) s.produce := by
  have hbackoff : s.produce.backoff = s.backoff := by
    unfold State.produce
    split <;> rfl
  obtain ⟨-, hdraws, hpoint⟩ := produce_fields s
  have hrow : failuresInRow (past ++ [Event.produce]) = failuresInRow past := by
    rw [failuresInRow_concat]
    rfl
  constructor
  · rw [hrow, hbackoff]
    exact h.counted
  · rw [hrow, hdraws, hpoint]
    exact h.asleep

theorem paced_step {random : ℕ → UInt32} {past : List (Event B)} {s t : State} {e : Event B}
    (h : Paced random past s) (hm : Move (fun i => (random i).toNat) s e t) :
    Paced random (past ++ [e]) t := by
  cases hm with
  | produced he ht =>
      subst he ht
      exact produce_paced h
  | waited client point _ he _ hpoint ht =>
      subst ht
      refine h.frame he.2 ?_ rfl hpoint.2
      rintro event rfl
      cases he.1
  | stopped _ he ht =>
      subst he ht
      exact h.frame rfl (by simp) rfl rfl
  | external _ he _ ht =>
      subst ht
      exact mqttBackoff_paced _ h he
  | refused error _ he ht =>
      subst he ht
      exact mqttBackoff_paced _ h rfl
  | fresh _ he ht | resumed _ he ht =>
      subst he ht
      exact session_paced h rfl rfl
  | subscribed _ _ he ht | dequeued _ _ _ _ he _ ht | published _ _ _ he ht =>
      subst he ht
      exact h.frame rfl (by simp) rfl rfl
  | received event message _ he herror ht =>
      subst he ht
      refine h.frame ?_ (by simp) rfl rfl
      show (Event.receive (.ok message)).sessionError.map Error.kind = none
      rw [herror]
      rfl
  | failed event error _ _ he ht =>
      subst ht
      exact mqttBackoff_paced _ h (sessionError_failureKind he).1

/-- The base delay of the firmware's policy reaches its initial value for the
first 29 delays and is gone from then on. -/
theorem default_shifted (n : ℕ) :
    (n < 29 → 1000 ≤ ReconnectPolicy.default.shifted n) ∧
      (29 ≤ n → ReconnectPolicy.default.shifted n = 0) := by
  have hsmall : ∀ n < 29, 1000 ≤ ReconnectPolicy.default.shifted n := by decide
  refine ⟨hsmall n, ?_⟩
  intro hn
  by_cases hlast : 31 ≤ n
  · rw [ReconnectPolicy.shifted_of_ge _ hlast]
    rfl
  · obtain rfl | rfl : n = 29 ∨ n = 30 := by omega
    · rfl
    · rfl

theorem default_valid : ReconnectPolicy.default.Valid := by
  constructor <;> decide

/-- In every run, a sleep that follows `n` other failures of the same row lasts
for the delay of the policy after `n` delays, and the reported attempt is
`n + 1`. The task waits at least a second before each of the first 29 attempts of
a row, and at most a quarter of a second before every later one. -/
theorem retries_paced (config : MqttDevelopmentConfig) (random : ℕ → UInt32)
    (es : List (Event B)) (s : State) (d : ℕ)
    (h : run (step config fun i => (random i).toNat) start es = some s)
    (hsleep : s.point = .backoff d) :
    ∃ n, failuresInRow es = n + 1 ∧ s.backoff.attempts = min (n + 1) 255 ∧
      d = min 60000 (min 60000 (1000 * 2 ^ min n 31 % 2 ^ 32) +
        (random (s.draws - 1)).toNat % 251) ∧
      (n < 29 → 1000 ≤ d) ∧ (29 ≤ n → d ≤ 250) := by
  have hpaced : Paced random es s := run_history (R := Paced random) (start_paced random)
    (fun _ _ _ _ _ hr hu => paced_step hr (step_move hu)) h
  obtain ⟨calls, hafter, hcount⟩ := hpaced.counted
  obtain ⟨b, hb, -, hattempts⟩ := ReconnectPolicy.default.after_counts calls
  rw [hafter, Option.some.injEq] at hb
  obtain ⟨-, slept, hdelay, hslept⟩ := hpaced.asleep d hsleep
  rw [ReconnectPolicy.delay_eq default_valid, Option.some.injEq,
    ReconnectPolicy.jitterOf_eq_mod (by decide)] at hdelay
  have hd : d = min 60000 (min 60000 (ReconnectPolicy.default.shifted (sinceReset slept)) +
      (random (s.draws - 1)).toNat % 251) := hdelay.symm
  obtain ⟨hfirst, hlater⟩ := default_shifted (sinceReset slept)
  refine ⟨sinceReset slept, hslept.symm, ?_, hd, ?_, ?_⟩
  · rw [hb, hattempts, hcount, hslept]
  · intro hn
    have hbase := hfirst hn
    omega
  · intro hn
    have hbase := hlater hn
    have hjitter := Nat.mod_lt (random (s.draws - 1)).toNat (y := 251) (by decide)
    omega

/-- Two broker lookups in a row run into their timeout. -/
def silentDns : List (Event plainBackend) :=
  [.ipReady (.ok readySnapshot), .resolve none, .timer, .ipReady (.ok readySnapshot),
    .resolve none]

theorem silentDns_paced :
    ∃ t, run (step fixtureConfig fun _ => (7 : UInt32).toNat) start silentDns = some t ∧
      t.point = .backoff 2007 ∧ failuresInRow silentDns = 2 ∧ 1000 ≤ 2007 := by
  refine ⟨_, rfl, rfl, rfl, ?_⟩
  obtain ⟨n, hrow, -, -, hfirst, -⟩ := retries_paced fixtureConfig (fun _ => 7) silentDns _ 2007
    rfl rfl
  have hn : n = 1 := (Nat.succ.inj hrow).symm
  exact hfirst (by omega)

end Pacing

end EmbeddedSdk.MqttTask
