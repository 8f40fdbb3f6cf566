import EmbeddedSdk.MqttTask

/-!
# The health snapshot while the task backs off

Failures are recorded in the task itself, in `connect` and in the two filters
of the adapter. The task backs off after every error, the filters record only
some kinds. The number of random draws counts the calls of `mqtt_backoff`.
-/
namespace EmbeddedSdk.MqttTask
open Mqtt MqttMinimq MachineInt Runs

variable {B : Backend}

/-- The kind of the failure that ended the latest await of `mqtt_task`. -/
def causeOf (past : List (Event B)) : Option ErrorKind :=
  (past.filter fun e => !e.isProduce).getLast?.bind Event.failureKind

theorem causeOf_concat (past : List (Event B)) (e : Event B) :
    causeOf (past ++ [e]) = if e.isProduce then causeOf past else e.failureKind := by
  cases hp : e.isProduce <;> simp [causeOf, hp]

/-- The lifecycle state of a live connection. -/
def liveState : Minimq.ConnectEvent → ConnectionState
  | .connected => .connected
  | .reconnected => .resumed

/-- While a connection is alive, the snapshot says so. -/
def LiveStateShown (s : State) : Prop :=
  ∀ event, s.point.session = some event → s.client.snapshot.state = liveState event

theorem liveStateShown_step {random : ℕ → ℕ} {s t : State} {e : Event B}
    (h : LiveStateShown s) (hm : Move random s e t) : LiveStateShown t := by
  intro event ht
  cases hm with
  | produced _ ht' =>
      obtain ⟨hclient, -, hpoint⟩ := produce_fields s
      rw [ht', hpoint] at ht
      rw [ht', hclient]
      exact h event ht
  | waited client point _ _ _ hpoint ht' =>
      rw [ht', hpoint.1] at ht
      cases ht
  | stopped _ _ ht' | external _ _ _ ht' | refused _ _ _ ht' | failed _ _ _ _ _ ht' =>
      subst ht'
      cases ht
  | fresh _ _ ht' | resumed _ _ ht' =>
      subst ht'
      cases ht
      rfl
  | subscribed event' hs _ ht' =>
      subst ht'
      cases ht
      exact h event (by rw [hs]; rfl)
  | received event' _ hs _ _ ht' =>
      subst ht'
      cases ht
      exact h event (by rw [hs]; rfl)
  | dequeued event' _ _ hs _ _ ht' =>
      subst ht'
      cases ht
      exact h event (by rw [hs]; rfl)
  | published event' _ hs _ ht' =>
      subst ht'
      cases ht
      exact h event (by rw [hs]; rfl)

theorem start_liveStateShown : LiveStateShown start := by
  intro event h
  cases h

/-- What a sleep in `mqtt_backoff` should show: the state, the kind of the
failure that caused it, and one failure more than at the sleep before. -/
structure TruthfulSleep (config : MqttDevelopmentConfig) (random : ℕ → ℕ)
    (past : List (Event B)) (s : State) : Prop where
  state : s.client.snapshot.state = .backingOff
  lastError : ∃ kind, causeOf past = some kind ∧ s.client.snapshot.lastError = some kind
  first : s.draws = 1 → s.client.snapshot.failures = 1
  grown : ∀ earlier s', earlier <+: past → run (step config random) start earlier = some s' →
    s'.point.isBackoff = true → s'.draws + 1 = s.draws →
      s'.client.snapshot.failures < u32Max →
        s.client.snapshot.failures = s'.client.snapshot.failures + 1

/-- Whenever the task sleeps in `mqtt_backoff`, the snapshot is truthful. -/
def HealthTruthful (config : MqttDevelopmentConfig) (random : ℕ → ℕ) (past : List (Event B))
    (s : State) : Prop :=
  s.point.isBackoff = true → TruthfulSleep config random past s

/-- An operation on the live connection fails only with a kind that the filters
of the adapter record. -/
def FailsRecorded (_ : List (Event B)) (_ : State) (e : Event B) : Prop :=
  ∀ error, e.sessionError = some error → isRecorded error.kind = true

/-- One recorded failure for each call of `mqtt_backoff`, and during a sleep
the latest one is the cause of it. -/
structure FailuresCounted (past : List (Event B)) (s : State) : Prop where
  failures : s.client.snapshot.failures = min s.draws u32Max
  asleep : s.point.isBackoff = true → s.client.snapshot.state = .backingOff ∧
    (∃ kind, causeOf past = some kind ∧ s.client.snapshot.lastError = some kind) ∧ 0 < s.draws

theorem start_failuresCounted : FailuresCounted (B := B) [] start := by
  constructor
  · rfl
  · intro h
    cases h

/-- A failure that is recorded before the backoff keeps the count. -/
theorem recordFailure_counted (random : ℕ → ℕ) {past : List (Event B)} {s : State} {e : Event B}
    {kind : ErrorKind} (h : FailuresCounted past s) (hp : e.isProduce = false)
    (he : e.failureKind = some kind) :
    FailuresCounted (past ++ [e])
      (State.mqttBackoff random { s with client := ⟨s.client.snapshot.recordFailure kind⟩ }) := by
  have hcause : causeOf (past ++ [e]) = some kind := by
    rw [causeOf_concat, hp, he]
    rfl
  constructor
  · simp only [mqttBackoff_client, mqttBackoff_draws, Snapshot.recordFailure, h.failures]
    exact saturatingAdd_min u32Max s.draws 1
  · intro _
    exact ⟨rfl, ⟨kind, hcause, rfl⟩, Nat.succ_pos _⟩

/-- Any move that neither records a failure nor sleeps keeps the count. -/
theorem FailuresCounted.frame {past : List (Event B)} {s t : State} {e : Event B}
    (h : FailuresCounted past s) (hpoint : t.point.isBackoff = false)
    (hfailures : t.client.snapshot.failures = s.client.snapshot.failures)
    (hdraws : t.draws = s.draws) : FailuresCounted (past ++ [e]) t := by
  constructor
  · rw [hfailures, hdraws, h.failures]
  · intro ht
    rw [hpoint] at ht
    cases ht

theorem failuresCounted_step {random : ℕ → ℕ} {past : List (Event B)} {s t : State} {e : Event B}
    (h : FailuresCounted past s) (hc : FailsRecorded past s e) (hm : Move random s e t) :
    FailuresCounted (past ++ [e]) t := by
  cases hm with
  | produced he ht =>
      obtain ⟨hclient, hdraws, hpoint⟩ := produce_fields s
      subst he ht
      constructor
      · rw [hclient, hdraws, h.failures]
      · rw [hpoint, hclient, hdraws, causeOf_concat]
        exact h.asleep
  | waited client point _ _ hclient hpoint ht =>
      subst ht
      refine h.frame hpoint.2 ?_ rfl
      obtain rfl | ⟨state, -, rfl⟩ := hclient <;> rfl
  | stopped _ _ ht =>
      subst ht
      exact h.frame rfl rfl rfl
  | external _ he _ ht =>
      subst ht
      refine recordFailure_counted random h ?_ he
      cases e <;> first | rfl | cases he
  | refused error _ he ht =>
      subst he ht
      exact recordFailure_counted random h rfl rfl
  | fresh _ _ ht | resumed _ _ ht | subscribed _ _ _ ht | received _ _ _ _ _ ht
  | dequeued _ _ _ _ _ _ ht | published _ _ _ _ ht =>
      subst ht
      exact h.frame rfl rfl rfl
  | failed event error _ _ he ht =>
      obtain ⟨hkind, hp⟩ := sessionError_failureKind he
      have hobserve : observeError s.client.snapshot error =
          s.client.snapshot.recordFailure error.kind := by
        rw [observeError, if_pos (hc error he)]
      rw [ht, hobserve]
      exact recordFailure_counted random h hp hkind

theorem failuresCounted_run {config : MqttDevelopmentConfig} {random : ℕ → ℕ}
    {past : List (Event B)} {s : State}
    (hc : EachStep (step config random) start past FailsRecorded)
    (hs : run (step config random) start past = some s) : FailuresCounted past s :=
  hc.history (R := FailuresCounted) start_failuresCounted
    (fun _ _ _ _ _ hr hce hu => failuresCounted_step hr hce (step_move hu)) hs

/-- In every run, the snapshot is truthful at every sleep exactly when no
operation on a live connection failed with a kind that the adapter does not
record. -/
theorem healthTruthful_iff_failsRecorded (config : MqttDevelopmentConfig) (random : ℕ → ℕ)
    (es : List (Event B)) (t : State) (h : run (step config random) start es = some t) :
    Always (step config random) start es (HealthTruthful config random) ↔
      EachStep (step config random) start es FailsRecorded := by
  refine always_iff_eachStep h ?_ ?_
  · intro past s _ hc hs hsleep
    have hcount := failuresCounted_run hc hs
    obtain ⟨hstate, herror, hpos⟩ := hcount.asleep hsleep
    refine ⟨hstate, herror, ?_, ?_⟩
    · intro hone
      rw [hcount.failures, hone]
      rfl
    · intro earlier s' hp hs' _ hdraws hlt
      have hcount' := failuresCounted_run (hc.mono hp) hs'
      rw [hcount'.failures] at hlt ⊢
      rw [hcount.failures]
      omega
  · intro past s e u _ hs _ hu hce hbad
    obtain ⟨error, he, hn⟩ :
        ∃ error, e.sessionError = some error ∧ isRecorded error.kind = false := by
      by_contra hne
      refine hce fun error he => ?_
      by_contra hr
      exact hne ⟨error, he, by simpa using hr⟩
    have hlive : LiveStateShown s := run_invariant start_liveStateShown
      (fun _ _ _ hi hstep => liveStateShown_step hi (step_move hstep)) hs
    obtain ⟨event, hsession, hu⟩ := (step_move hu).of_sessionError he
    have hstate := (hbad (by rw [hu]; rfl)).state
    rw [hu, mqttBackoff_client, observeError, hn, if_neg Bool.false_ne_true,
      hlive event hsession] at hstate
    cases event <;> cases hstate

/-- The inbound packet buffer takes a command, then the connection closes. -/
def closedSession : List (Event plainBackend) :=
  reachBroker ++ [.connectSession (some (.ok .connected)), .subscribe (.ok ()),
    .receive (.ok ⟨"commands", [], .atLeastOnce, false⟩), .receive (.error .disconnected)]

theorem closedSession_healthTruthful :
    (∃ t, run (step fixtureConfig fun _ => 0) start closedSession = some t ∧
      t.point.isBackoff = true) ∧
      (Always (step fixtureConfig fun _ => 0) start closedSession
          (HealthTruthful fixtureConfig fun _ => 0) ↔
        EachStep (step fixtureConfig fun _ => 0) start closedSession FailsRecorded) :=
  ⟨⟨_, rfl, rfl⟩, healthTruthful_iff_failsRecorded fixtureConfig (fun _ => 0) closedSession _ rfl⟩

/-- A publish finds the TX arena of `minimq` full. -/
def fullArena : List (Event plainBackend) :=
  reachBroker ++ [.connectSession (some (.ok .connected)), .subscribe (.ok ()), .produce,
    .dequeue, .publish (.error (.session (.resource ())))]

theorem fullArena_sleeps_connected :
    ∃ t, run (step fixtureConfig fun _ => 0) start fullArena = some t ∧
      t.point.isBackoff = true ∧ causeOf fullArena = some .capacity ∧
      t.client.snapshot.state = .connected ∧ t.client.snapshot.lastError = none ∧
      t.client.snapshot.failures = 0 :=
  ⟨_, rfl, rfl, rfl, rfl, rfl, rfl⟩

end EmbeddedSdk.MqttTask
