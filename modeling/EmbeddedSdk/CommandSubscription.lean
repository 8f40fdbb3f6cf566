import EmbeddedSdk.MqttTask

/-!
# The command subscription of a live session

A fresh broker session holds no subscription and a resumed one holds what it
held before, so the events since the latest fresh CONNECT decide whether the
subscribe to the command filter is confirmed. The task subscribes when, and
only when, CONNECT reports a fresh session.
-/
namespace EmbeddedSdk.MqttTask
open Mqtt MqttMinimq Runs

variable {B : Backend}

/-- What one event makes of a confirmed subscription on the broker session. -/
def confirmAfter (confirmed : Bool) : Event B → Bool
  | .connectSession (some (.ok .connected)) => false
  | .subscribe (.ok _) => true
  | _ => confirmed

/-- A subscribe to the command filter has returned `Ok` since the broker
session was last fresh. -/
def subscribeConfirmed (past : List (Event B)) : Bool := past.foldl confirmAfter false

/-- The task is inside the receive/publish loop of `run_mqtt_connection`. -/
def Point.inLoop : Point → Bool
  | .select _ | .publish _ _ => true
  | _ => false

@[simp] theorem subscribeConfirmed_concat (past : List (Event B)) (e : Event B) :
    subscribeConfirmed (past ++ [e]) = confirmAfter (subscribeConfirmed past) e := by
  simp [subscribeConfirmed]

theorem inLoop_session {p : Point} (h : p.inLoop = true) : p.session ≠ none := by
  cases p <;> simp_all [Point.inLoop, Point.session]

/-- The subscription is confirmed wherever the loop runs. -/
def LoopSubscribed (past : List (Event B)) (s : State) : Prop :=
  s.point.inLoop = true → subscribeConfirmed past = true

/-- The broker resumes only a session whose subscribe was confirmed. -/
def ResumesSubscribed (past : List (Event B)) (_ : State) (e : Event B) : Prop :=
  e = .connectSession (some (.ok .reconnected)) → subscribeConfirmed past = true

theorem loopSubscribed_step {random : ℕ → ℕ} {past : List (Event B)} {s t : State} {e : Event B}
    (h : LoopSubscribed past s) (hc : ResumesSubscribed past s e) (hm : Move random s e t) :
    LoopSubscribed (past ++ [e]) t := by
  intro ht
  rw [subscribeConfirmed_concat]
  cases hm with
  | produced he ht' =>
      subst he ht'
      rw [(produce_fields s).2.2] at ht
      exact h ht
  | waited client point _ _ _ hpoint ht' =>
      subst ht'
      exact absurd hpoint.1 (inLoop_session ht)
  | stopped _ _ ht' | external _ _ _ ht' | refused _ _ _ ht' | failed _ _ _ _ _ ht' | fresh _ _ ht' =>
      subst ht'
      cases ht
  | resumed _ he _ =>
      subst he
      exact hc rfl
  | subscribed _ _ he _ =>
      subst he
      rfl
  | received event message hs he _ _ =>
      subst he
      exact h (by rw [hs]; rfl)
  | dequeued event message rest hs he _ _ =>
      subst he
      exact h (by rw [hs]; rfl)
  | published event message hs he _ =>
      subst he
      exact h (by rw [hs]; rfl)

/-- In every run, the loop always has its subscription exactly when no CONNECT
was answered `resumed` for a session whose subscribe failed or was cancelled. -/
theorem loopSubscribed_iff_resumesSubscribed (config : MqttDevelopmentConfig) (random : ℕ → ℕ)
    (es : List (Event B)) (t : State) (h : run (step config random) start es = some t) :
    Always (step config random) start es LoopSubscribed ↔
      EachStep (step config random) start es ResumesSubscribed := by
  refine always_iff_eachStep h ?_ ?_
  · intro past s _ hc hs
    refine hc.history (R := LoopSubscribed) ?_ ?_ hs
    · intro hp
      cases hp
    · intro past s e u _ hr hce hu
      exact loopSubscribed_step hr hce (step_move hu)
  · intro past s e u _ _ _ hu hce hbad
    obtain ⟨rfl, hn⟩ := Classical.not_imp.mp hce
    have hloop : u.point.inLoop = true := by
      cases step_move hu with
      | resumed _ _ ht => rw [ht]; rfl
      | produced he _ => cases he
      | waited _ _ _ he _ _ _ => cases he.1
      | stopped _ he _ => cases he
      | external _ he _ _ => cases he
      | refused _ _ he _ => cases he
      | fresh _ he _ => cases he
      | subscribed _ _ he _ => cases he
      | received _ _ _ he _ _ => cases he
      | dequeued _ _ _ _ he _ _ => cases he
      | published _ _ _ he _ => cases he
      | failed _ _ _ _ he _ => cases he
    have hconfirmed := hbad hloop
    rw [subscribeConfirmed_concat] at hconfirmed
    exact hn hconfirmed

/-- A run in which the subscribe succeeds and a later session is resumed. -/
def resumedSession : List (Event plainBackend) :=
  reachBroker ++ [.connectSession (some (.ok .connected)), .subscribe (.ok ()), .ipDown] ++
    reachBroker ++ [.connectSession (some (.ok .reconnected))]

theorem resumedSession_loopSubscribed :
    (∃ t, run (step fixtureConfig fun _ => 0) start resumedSession = some t) ∧
      (Always (step fixtureConfig fun _ => 0) start resumedSession LoopSubscribed ↔
        EachStep (step fixtureConfig fun _ => 0) start resumedSession ResumesSubscribed) :=
  ⟨⟨_, rfl⟩, loopSubscribed_iff_resumesSubscribed fixtureConfig (fun _ => 0) resumedSession _ rfl⟩

/-- The subscribe of a fresh session is cut off by a closed connection, and the
broker still resumes that session on the next CONNECT. -/
def lostSubscription : List (Event plainBackend) :=
  reachBroker ++ [.connectSession (some (.ok .connected)), .subscribe (.error .disconnected),
    .timer] ++ reachBroker ++ [.connectSession (some (.ok .reconnected))]

theorem lostSubscription_runs_unsubscribed :
    ∃ t, run (step fixtureConfig fun _ => 0) start lostSubscription = some t ∧
      t.point.inLoop = true ∧ subscribeConfirmed lostSubscription = false :=
  ⟨_, rfl, rfl, rfl⟩

end EmbeddedSdk.MqttTask
