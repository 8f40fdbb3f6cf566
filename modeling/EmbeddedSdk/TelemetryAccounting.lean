import EmbeddedSdk.MqttTask

/-!
# Where produced telemetry goes

A message leaves the producer into the channel or into the drop counter, and
leaves the channel into a publish. The drop counter is swapped to zero and added
to the snapshot at every turn of the connection loop, without an await between.
-/
namespace EmbeddedSdk.MqttTask
open Mqtt MqttMinimq MachineInt Runs

variable {B : Backend}

/-- Messages that the producer has made so far. -/
def produced (past : List (Event B)) : ℕ := past.countP Event.isProduce

/-- One while a dequeued message is being published. -/
def inProgress (s : State) : ℕ :=
  match s.point with
  | .publish _ _ => 1
  | _ => 0

/-- Every produced message is queued, published, dropped or in progress. -/
def Accounted (past : List (Event B)) (s : State) : Prop :=
  produced past = s.outbound.length + s.client.snapshot.publishes +
    s.client.snapshot.queueDrops + s.queueDrops + inProgress s

/-- A publish in progress neither fails nor is cancelled by IPv4 loss. -/
def PublishCompletes (_ : List (Event B)) (s : State) (e : Event B) : Prop :=
  inProgress s = 1 → e ≠ .ipDown ∧ ∀ error, e ≠ .publish (.error error)

theorem produced_concat (past : List (Event B)) (e : Event B) :
    produced (past ++ [e]) = produced past + if e.isProduce then 1 else 0 := by
  simp [produced, List.countP_append, List.countP_singleton]

theorem inProgress_of_session {s : State} (h : s.point.session = none) : inProgress s = 0 := by
  unfold inProgress
  split
  · rename_i event message hp
    rw [hp] at h
    cases h
  · rfl

theorem inProgress_le_one (s : State) : inProgress s ≤ 1 := by
  unfold inProgress
  split <;> omega

/-- What ends a message loses it only while a publish is in progress. -/
theorem inProgress_of_completes {past : List (Event B)} {s : State} {e : Event B}
    (hc : PublishCompletes past s e) (he : e = .ipDown ∨ ∃ error, e = .publish (.error error)) :
    inProgress s = 0 := by
  have hle := inProgress_le_one s
  by_contra hne
  obtain ⟨hdown, hpub⟩ := hc (by omega)
  rcases he with he | ⟨error, he⟩
  · exact hdown he
  · exact hpub error he

theorem observeError_counters (s : Snapshot) (error : Error B) :
    (observeError s error).publishes = s.publishes ∧
      (observeError s error).queueDrops = s.queueDrops := by
  unfold observeError
  split <;> exact ⟨rfl, rfl⟩

/-- A turn of the connection loop only moves pending drops into the snapshot. -/
theorem connectionLoop_total (s : State) (event : Minimq.ConnectEvent)
    (h : s.client.snapshot.queueDrops + s.queueDrops ≤ u32Max) :
    (s.connectionLoop event).client.snapshot.queueDrops + (s.connectionLoop event).queueDrops =
      s.client.snapshot.queueDrops + s.queueDrops := by
  simp only [connectionLoop_client, Snapshot.recordQueueDrops, saturatingAdd_of_le h]
  rfl

theorem produce_total {s : State} (h : s.queueDrops < u32Max) :
    s.produce.outbound.length + s.produce.queueDrops = s.outbound.length + s.queueDrops + 1 := by
  unfold State.produce
  split
  · simp only [List.length_append, List.length_singleton]
    omega
  · have hlt : s.queueDrops + 1 < 4294967296 := by
      simp only [u32Max] at h
      omega
    simp only [wrappingAddU32_of_lt hlt]
    omega

/-- A move that produces nothing and keeps the four places of a message keeps
the account. -/
theorem Accounted.frame {past : List (Event B)} {s t : State} {e : Event B}
    (h : Accounted past s) (he : e.isProduce = false)
    (htotal : t.outbound.length + t.client.snapshot.publishes + t.client.snapshot.queueDrops +
      t.queueDrops + inProgress t = s.outbound.length + s.client.snapshot.publishes +
      s.client.snapshot.queueDrops + s.queueDrops + inProgress s) :
    Accounted (past ++ [e]) t := by
  unfold Accounted at h ⊢
  rw [produced_concat, he, h, htotal]
  rfl

/-- An operation that ends in the next turn of the loop keeps the account if
its own effect does. -/
theorem Accounted.loop {past : List (Event B)} {s m : State} {e : Event B}
    (event : Minimq.ConnectEvent) (h : Accounted past s) (he : e.isProduce = false)
    (hbound : produced past ≤ u32Max) (houtbound : m.outbound = s.outbound)
    (hdrops : m.client.snapshot.queueDrops = s.client.snapshot.queueDrops)
    (hpending : m.queueDrops = s.queueDrops)
    (hpublishes : m.client.snapshot.publishes = s.client.snapshot.publishes + inProgress s) :
    Accounted (past ++ [e]) (m.connectionLoop event) := by
  have hsum := h
  unfold Accounted at hsum
  have htotal := connectionLoop_total m event (by rw [hdrops, hpending]; omega)
  have hpub : (m.connectionLoop event).client.snapshot.publishes =
      m.client.snapshot.publishes := rfl
  have hout : (m.connectionLoop event).outbound = s.outbound := houtbound
  have hidle : inProgress (m.connectionLoop event) = 0 := rfl
  refine h.frame he ?_
  rw [hout, hpub, hpublishes, hidle]
  rw [hdrops, hpending] at htotal
  omega

theorem accounted_step {random : ℕ → ℕ} {past : List (Event B)} {s t : State} {e : Event B}
    (h : Accounted past s) (hbound : produced (past ++ [e]) ≤ u32Max)
    (hc : PublishCompletes past s e) (hm : Move random s e t) : Accounted (past ++ [e]) t := by
  have hsum := h
  unfold Accounted at hsum
  have hpast : produced past ≤ u32Max := by
    rw [produced_concat] at hbound
    omega
  cases hm with
  | produced he ht =>
      subst he ht
      rw [produced_concat] at hbound
      obtain ⟨hclient, -, hpoint⟩ := produce_fields s
      have hprogress : inProgress s.produce = inProgress s := by simp only [inProgress, hpoint]
      have hlt : s.queueDrops < u32Max := by
        simp only [Event.isProduce, if_true] at hbound
        omega
      have htotal := produce_total hlt
      unfold Accounted
      rw [produced_concat, hclient, hprogress, hsum]
      simp only [Event.isProduce, if_true]
      omega
  | waited client point hs he hclient hpoint ht =>
      subst ht
      refine h.frame (by cases e <;> first | rfl | cases he.1) ?_
      have hidle := inProgress_of_session hs
      have hidle' : inProgress { s with client := client, point := point } = 0 :=
        inProgress_of_session hpoint.1
      rw [hidle, hidle']
      obtain rfl | ⟨state, -, rfl⟩ := hclient <;> rfl
  | stopped hs he ht =>
      subst he ht
      have hidle := inProgress_of_completes hc (.inl rfl)
      exact h.frame rfl (by rw [hidle]; rfl)
  | external hs he _ ht =>
      subst ht
      refine h.frame (by cases e <;> first | rfl | cases he) ?_
      rw [inProgress_of_session hs]
      rfl
  | refused error hs he ht =>
      subst he ht
      refine h.frame rfl ?_
      rw [inProgress_of_session hs]
      rfl
  | fresh hs he ht =>
      subst he ht
      refine h.frame rfl ?_
      rw [inProgress_of_session hs]
      rfl
  | resumed hs he ht =>
      subst he ht
      exact h.loop .reconnected rfl hpast rfl rfl rfl (by rw [inProgress_of_session hs]; rfl)
  | subscribed event hs he ht =>
      subst he ht
      exact h.loop event rfl hpast rfl rfl rfl (by simp [inProgress, hs])
  | received event message hs he _ ht =>
      subst he ht
      exact h.loop event rfl hpast rfl rfl rfl
        (by simp [inProgress, hs, Snapshot.recordReceive])
  | dequeued event message rest hs he ho ht =>
      subst he ht
      refine h.frame rfl ?_
      simp only [inProgress, hs, ho, List.length_cons]
      omega
  | published event message hs he ht =>
      subst he ht
      have hone : inProgress s = 1 := by simp only [inProgress, hs]
      have hpub : saturatingAdd u32Max s.client.snapshot.publishes 1 =
          s.client.snapshot.publishes + 1 := saturatingAdd_of_le (by omega)
      exact h.loop event rfl hpast rfl rfl rfl (by rw [hone]; exact hpub)
  | failed event error hs hpublish he ht =>
      subst ht
      have hidle : inProgress s = 0 := by
        cases hp : s.point with
        | publish event' message =>
            rw [hp, Point.session, Option.some.injEq] at hs
            exact inProgress_of_completes hc (.inr (hpublish message (by rw [hp, hs])))
        | _ => simp only [inProgress, hp]
      obtain ⟨hpub, hdrops⟩ := observeError_counters s.client.snapshot error
      refine h.frame (sessionError_failureKind he).2 ?_
      rw [hidle, mqttBackoff_client, hpub, hdrops]
      rfl

/-- A publish that fails or is cancelled leaves its message nowhere. -/
theorem lost_message {random : ℕ → ℕ} {past : List (Event B)} {s t : State} {e : Event B}
    (h : Accounted past s) (hprogress : inProgress s = 1)
    (he : e = .ipDown ∨ ∃ error, e = .publish (.error error)) (hm : Move random s e t) :
    ¬ Accounted (past ++ [e]) t := by
  have hquiet : e.isProduce = false := by
    rcases he with rfl | ⟨error, rfl⟩ <;> rfl
  have hsession : s.point.session ≠ none := by
    intro hs
    rw [inProgress_of_session hs] at hprogress
    cases hprogress
  unfold Accounted at h ⊢
  rw [produced_concat, hquiet, h, hprogress]
  cases hm with
  | stopped _ _ ht =>
      subst ht
      intro hbad
      change _ = s.outbound.length + s.client.snapshot.publishes + s.client.snapshot.queueDrops +
        s.queueDrops + 0 at hbad
      simp at hbad
  | failed event error _ _ _ ht =>
      subst ht
      intro hbad
      obtain ⟨hpub, hdrops⟩ := observeError_counters s.client.snapshot error
      rw [mqttBackoff_client, hpub, hdrops] at hbad
      change _ = s.outbound.length + s.client.snapshot.publishes + s.client.snapshot.queueDrops +
        s.queueDrops + 0 at hbad
      simp at hbad
  | waited _ _ hs | external hs | refused _ hs | fresh hs | resumed hs => exact absurd hs hsession
  | produced hp | subscribed _ _ hp | received _ _ _ hp | dequeued _ _ _ _ hp
  | published _ _ _ hp =>
      subst hp
      rcases he with he | ⟨error, he⟩ <;> cases he

theorem produced_mono {past es : List (Event B)} (h : past <+: es) :
    produced past ≤ produced es :=
  h.sublist.countP_le

/-- In every run, no telemetry is ever unaccounted for exactly when no publish
failed and none was cancelled by IPv4 loss. -/
theorem accounted_iff_publishCompletes (config : MqttDevelopmentConfig) (random : ℕ → ℕ)
    (es : List (Event B)) (t : State) (h : run (step config random) start es = some t)
    (hbound : produced es ≤ u32Max) :
    Always (step config random) start es Accounted ↔
      EachStep (step config random) start es PublishCompletes := by
  refine always_iff_eachStep h ?_ ?_
  · intro past s hp hc hs
    refine hc.history (R := fun past s => produced past ≤ u32Max → Accounted past s) ?_ ?_ hs
      ((produced_mono hp).trans hbound)
    · intro _
      rfl
    · intro past s e u _ hr hce hu hle
      have hpast := (produced_mono (List.prefix_append past [e])).trans hle
      exact accounted_step (hr hpast) hle hce (step_move hu)
  · intro past s e u _ _ hacc hu hce
    obtain ⟨hprogress, hn⟩ := Classical.not_imp.mp hce
    refine lost_message hacc hprogress ?_ (step_move hu)
    by_contra hne
    refine hn ⟨fun he => hne (.inl he), fun error he => hne (.inr ⟨error, he⟩)⟩

/-- Five messages against a queue of four, one of them published. -/
def overflowingQueue : List (Event plainBackend) :=
  [.produce, .produce, .produce, .produce, .produce] ++ reachBroker ++
    [.connectSession (some (.ok .connected)), .subscribe (.ok ()), .dequeue, .publish (.ok ())]

theorem overflowingQueue_accounted :
    (∃ t, run (step fixtureConfig fun _ => 0) start overflowingQueue = some t) ∧
      produced overflowingQueue = 5 ∧
      (Always (step fixtureConfig fun _ => 0) start overflowingQueue Accounted ↔
        EachStep (step fixtureConfig fun _ => 0) start overflowingQueue PublishCompletes) :=
  ⟨⟨_, rfl⟩, rfl, accounted_iff_publishCompletes fixtureConfig (fun _ => 0) overflowingQueue _ rfl
    (by decide)⟩

/-- The network goes down while a dequeued message is being published. -/
def cancelledPublish : List (Event plainBackend) :=
  reachBroker ++ [.connectSession (some (.ok .connected)), .subscribe (.ok ()), .produce,
    .dequeue, .ipDown]

theorem cancelledPublish_unaccounted :
    ∃ t, run (step fixtureConfig fun _ => 0) start cancelledPublish = some t ∧
      produced cancelledPublish = 1 ∧ t.outbound.length = 0 ∧
      t.client.snapshot.publishes = 0 ∧ t.client.snapshot.queueDrops = 0 ∧ t.queueDrops = 0 ∧
      inProgress t = 0 ∧ ¬ Accounted cancelledPublish t :=
  ⟨_, rfl, rfl, rfl, rfl, rfl, rfl, rfl, by unfold Accounted; decide⟩

end EmbeddedSdk.MqttTask
