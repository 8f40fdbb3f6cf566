import EmbeddedSdk.WifiAdapter
import EmbeddedSdk.WifiReconnect

/-!
# The station supervisor of the reference firmware

`supervise_station` associates, waits for the loss of the association and sleeps
for a random delay before it starts over. It never returns, so its states are the
three awaits of its loop. The radio driver chooses how the first two end. A delay
that cannot be computed panics, which is a state of its own here.
-/
namespace EmbeddedSdk.StationSupervisor
open Wifi WifiAdapter MachineInt Runs

/-- The awaits of `supervise_station`. -/
inductive Point
  | connect
  | waitForDisconnect
  | sleep (retryDelayMs : ℕ)
  | panicked
  deriving DecidableEq

/-- The state of the controller and of the backoff, and how many random numbers
were drawn. -/
structure State where
  wifi : WifiState
  backoff : ReconnectBackoff
  draws : ℕ
  point : Point

/-- How an await ends. -/
inductive Event (D : Driver)
  | connect (connectAsync : Except D.WifiError (ConnectedInfo D))
  | disconnect (waitAsync : Except D.WifiError Unit)
  | timer

namespace State

/-- `connect` up to its await. -/
def beginConnect (s : State) : State := { s with wifi := .connecting, point := .connect }

/-- The end of the loop, up to its sleep. -/
def retry (random : ℕ → UInt32) (s : State) : State :=
  match s.backoff.nextDelayMs (random s.draws).toNat with
  | some (retryDelayMs, backoff) =>
      { s with backoff := backoff, draws := s.draws + 1, point := .sleep retryDelayMs }
  | none => { s with draws := s.draws + 1, point := .panicked }

end State

/-- `supervise_station` up to its first await, for a controller in any state. -/
def superviseStation (wifi : WifiState) : State :=
  State.beginConnect ⟨wifi, .new .default, 0, .connect⟩

variable {D : Driver} (random : ℕ → UInt32)

/-- One event at the await where the task stands. -/
def step (s : State) (e : Event D) : Option State :=
  match s.point, e with
  | .connect, .connect connectAsync =>
      match WifiAdapter.connect connectAsync with
      | (.ok _, wifi) =>
          some { s with wifi := wifi, backoff := s.backoff.reset, point := .waitForDisconnect }
      | (.error _, wifi) => some (State.retry random { s with wifi := wifi })
  | .waitForDisconnect, .disconnect waitAsync =>
      let (_, wifi) := WifiAdapter.waitForDisconnect waitAsync
      some (State.retry random { s with wifi := wifi })
  | .sleep _, .timer => some s.beginConnect
  | _, _ => none

variable {random}

/-- Everything that one event can do. -/
inductive Move (random : ℕ → UInt32) (s : State) (e : Event D) (t : State) : Prop
  | associated (connectAsync : Except D.WifiError (ConnectedInfo D)) (hs : s.point = .connect)
      (he : e = .connect connectAsync) (hok : (WifiAdapter.connect connectAsync).1.isOk = true)
      (ht : t = { s with
        wifi := .connected
        backoff := s.backoff.reset
        point := .waitForDisconnect })
  | refused (connectAsync : Except D.WifiError (ConnectedInfo D)) (hs : s.point = .connect)
      (he : e = .connect connectAsync) (herror : (WifiAdapter.connect connectAsync).1.isOk = false)
      (ht : t = State.retry random { s with wifi := (WifiAdapter.connect connectAsync).2 })
  | lost (waitAsync : Except D.WifiError Unit) (hs : s.point = .waitForDisconnect)
      (he : e = .disconnect waitAsync)
      (ht : t = State.retry random { s with wifi := .disconnected })
  | awoken (retryDelayMs : ℕ) (hs : s.point = .sleep retryDelayMs) (he : e = .timer)
      (ht : t = s.beginConnect)

/-- An association that the adapter returns leaves it connected. -/
theorem connect_isOk_state {connectAsync : Except D.WifiError (ConnectedInfo D)}
    (h : (WifiAdapter.connect connectAsync).1.isOk = true) :
    (WifiAdapter.connect connectAsync).2 = .connected := by
  cases connectAsync with
  | error e => cases h
  | ok connected => rfl

/-- The inversion of `step`. -/
theorem step_move {s t : State} {e : Event D} (h : step random s e = some t) :
    Move random s e t := by
  unfold step at h
  split at h
  · rename_i connectAsync hp
    split at h
    · rename_i station wifi hconnect
      cases h
      have hok : (WifiAdapter.connect connectAsync).1.isOk = true := by
        rw [hconnect]
        rfl
      have hwifi := connect_isOk_state hok
      rw [hconnect] at hwifi
      exact .associated connectAsync hp rfl hok (by rw [← hwifi])
    · rename_i error wifi hconnect
      cases h
      refine .refused connectAsync hp rfl ?_ ?_
      · rw [hconnect]
        rfl
      · rw [hconnect]
  · rename_i waitAsync hp
    cases h
    refine .lost waitAsync hp rfl ?_
    show State.retry random { s with wifi := (WifiAdapter.waitForDisconnect waitAsync).2 } = _
    rw [waitForDisconnect_truthful]
  · rename_i retryDelayMs hp
    cases h
    exact .awoken retryDelayMs hp rfl rfl
  · cases h

/-- What an event makes of the number of retries since the latest association. -/
def retriesAfter (n : ℕ) : Event D → ℕ
  | .connect connectAsync => if (WifiAdapter.connect connectAsync).1.isOk then 0 else n + 1
  | .disconnect _ => n + 1
  | .timer => n

/-- The retries since the latest association, or since the start. -/
def retriesInRow (past : List (Event D)) : ℕ := past.foldl retriesAfter 0

@[simp] theorem retriesInRow_concat (past : List (Event D)) (e : Event D) :
    retriesInRow (past ++ [e]) = retriesAfter (retriesInRow past) e := by
  simp [retriesInRow]

/-- The backoff has doubled once for each retry, and a sleep lasts as long as the
latest retry said. -/
structure Paced (random : ℕ → UInt32) (past : List (Event D)) (s : State) : Prop where
  doubles : ReconnectBackoff.Doubles .default (retriesInRow past) s.backoff
  running : s.point ≠ .panicked
  asleep : ∀ d, s.point = .sleep d → 0 < s.draws ∧ ∃ n, retriesInRow past = n + 1 ∧
    d = min (1000 * 2 ^ n) 59500 + (random (s.draws - 1)).toNat % 501

/-- A retry never panics, and sleeps for the next delay of the sequence. -/
theorem retry_paced {past past' : List (Event D)} {s : State} (wifi : WifiState)
    (h : Paced random past s) (hrow : retriesInRow past' = retriesInRow past + 1) :
    Paced random past' (State.retry random { s with wifi := wifi }) := by
  obtain ⟨backoff, hnext, hdoubles⟩ :=
    ReconnectBackoff.nextDelayMs_doubles h.doubles (random s.draws).toNat
  have hbase : s.backoff.base = min (1000 * 2 ^ retriesInRow past) 59500 := h.doubles.2.2
  simp only [State.retry, hnext]
  refine ⟨?_, ?_, ?_⟩
  · rw [hrow]
    exact hdoubles
  · simp
  · intro d hd
    refine ⟨Nat.succ_pos _, retriesInRow past, hrow, ?_⟩
    rw [← Point.sleep.inj hd, hbase]
    rfl

theorem paced_step {past : List (Event D)} {s t : State} {e : Event D}
    (h : Paced random past s) (hm : Move random s e t) : Paced random (past ++ [e]) t := by
  cases hm with
  | associated connectAsync hs he hok ht =>
      subst he ht
      have hrow : retriesInRow (past ++ [.connect connectAsync]) = 0 := by
        rw [retriesInRow_concat, retriesAfter, if_pos hok]
      refine ⟨?_, by simp, by simp⟩
      rw [hrow]
      exact ReconnectBackoff.reset_doubles h.doubles
  | refused connectAsync hs he herror ht =>
      subst he ht
      refine retry_paced _ h ?_
      rw [retriesInRow_concat, retriesAfter, herror]
      rfl
  | lost waitAsync hs he ht =>
      subst he ht
      exact retry_paced _ h (retriesInRow_concat _ _)
  | awoken d hs he ht =>
      subst he ht
      have hrow : retriesInRow (past ++ [Event.timer]) = retriesInRow past :=
        retriesInRow_concat _ _
      refine ⟨?_, by simp [State.beginConnect], by simp [State.beginConnect]⟩
      rw [hrow]
      exact h.doubles

theorem superviseStation_paced (random : ℕ → UInt32) (wifi : WifiState) :
    Paced (D := D) random [] (superviseStation wifi) := by
  refine ⟨ReconnectBackoff.new_doubles _, ?_, ?_⟩
  · simp [superviseStation, State.beginConnect]
  · simp [superviseStation, State.beginConnect]

/-- In every run, whatever the driver answers, no delay panics. A sleep that
follows `n` other retries since the latest association lasts for one second doubled
`n` times, cut at 59.5 seconds, plus at most half a second; it is between one
second and one minute, and the reported attempt is `n + 1`. -/
theorem station_retries_paced (random : ℕ → UInt32) (wifi : WifiState) (es : List (Event D)) (s : State)
    (h : run (step random) (superviseStation wifi) es = some s) :
    s.point ≠ .panicked ∧ ∀ d, s.point = .sleep d → ∃ n, retriesInRow es = n + 1 ∧
      s.backoff.attempts = min (n + 1) u32Max ∧
      d = min (1000 * 2 ^ n) 59500 + (random (s.draws - 1)).toNat % 501 ∧
      1000 ≤ d ∧ d ≤ 60000 := by
  have hpaced : Paced random es s := run_history (R := Paced random)
    (superviseStation_paced random wifi) (fun _ _ _ _ _ hr hu => paced_step hr (step_move hu)) h
  refine ⟨hpaced.running, ?_⟩
  intro d hd
  obtain ⟨-, n, hn, hdelay⟩ := hpaced.asleep d hd
  have hjitter := Nat.mod_lt (random (s.draws - 1)).toNat (y := 501) (by decide)
  have hgrows := Nat.le_mul_of_pos_right 1000 (Nat.two_pow_pos n)
  refine ⟨n, hn, ?_, hdelay, by omega, by omega⟩
  rw [hpaced.doubles.2.1, hn]

/-- An association, its loss, and an attempt that the driver refuses. -/
def lostAssociation : List (Event textDriver) :=
  [.connect (.ok (namedAssociation "factory")), .disconnect (.ok ()), .timer, .connect (.error ())]

theorem lostAssociation_paced :
    ∃ t, run (step fun _ => 0) (superviseStation .ready) lostAssociation = some t ∧
      t.point = .sleep 2000 ∧ t.backoff.attempts = 2 := by
  refine ⟨_, rfl, rfl, ?_⟩
  obtain ⟨n, hrow, hattempts, -⟩ :=
    (station_retries_paced (fun _ => 0) .ready lostAssociation _ rfl).2 2000 rfl
  have hn : n = 1 := (Nat.succ.inj hrow).symm
  rw [hattempts, hn]
  rfl

/-- The controller is connecting exactly while it connects, and connected exactly
while the supervisor waits for the loss of the association. -/
structure StateShown (_ : List (Event D)) (s : State) : Prop where
  connecting : s.wifi = .connecting ↔ s.point = .connect
  connected : s.wifi = .connected ↔ s.point = .waitForDisconnect

/-- The driver does not report an association with a network name that is too long. -/
def SsidFits (_ : List (Event D)) (_ : State) : Event D → Prop
  | .connect connectAsync => (Call.connect connectAsync).SsidsFit
  | _ => True

theorem retry_wifi (random : ℕ → UInt32) (s : State) : (s.retry random).wifi = s.wifi := by
  unfold State.retry
  split <;> rfl

/-- A retry leaves the first two awaits. -/
theorem retry_point (random : ℕ → UInt32) (s : State) :
    (s.retry random).point ≠ .connect ∧ (s.retry random).point ≠ .waitForDisconnect := by
  unfold State.retry
  split <;> simp

/-- A retry is truthful when the controller is neither connecting nor connected. -/
theorem retry_shown (random : ℕ → UInt32) (past : List (Event D)) {s : State}
    (hconnecting : s.wifi ≠ .connecting) (hconnected : s.wifi ≠ .connected) :
    StateShown past (s.retry random) := by
  obtain ⟨hconnect, hwait⟩ := retry_point random s
  constructor
  · rw [retry_wifi]
    exact iff_of_false hconnecting hconnect
  · rw [retry_wifi]
    exact iff_of_false hconnected hwait

theorem connect_ne_connecting (connectAsync : Except D.WifiError (ConnectedInfo D)) :
    (WifiAdapter.connect connectAsync).2 ≠ .connecting := by
  cases connectAsync with
  | error e => simp [WifiAdapter.connect]
  | ok connected => simp [WifiAdapter.connect]

theorem stateShown_step {past : List (Event D)} {s t : State} {e : Event D}
    (hc : SsidFits past s e) (hm : Move random s e t) : StateShown (past ++ [e]) t := by
  cases hm with
  | associated connectAsync hs he hok ht =>
      subst ht
      constructor <;> simp
  | refused connectAsync hs he herror ht =>
      subst he ht
      refine retry_shown random _ (connect_ne_connecting connectAsync) ?_
      intro hconnected
      have htruthful := (connect_truthful_iff connectAsync).mpr hc
      rw [htruthful.mp hconnected] at herror
      cases herror
  | lost waitAsync hs he ht =>
      subst ht
      exact retry_shown random _ (by simp) (by simp)
  | awoken d hs he ht =>
      subst ht
      constructor <;> simp [State.beginConnect]

theorem superviseStation_shown (wifi : WifiState) :
    StateShown (D := D) [] (superviseStation wifi) := by
  constructor <;> simp [superviseStation, State.beginConnect]

/-- In every run, the lifecycle state of the controller tells at which await the
supervisor stands exactly when every association that the driver reports has a
name that fits. -/
theorem stateShown_iff_ssidFits (random : ℕ → UInt32) (wifi : WifiState) (es : List (Event D)) (t : State)
    (h : run (step random) (superviseStation wifi) es = some t) :
    Always (step random) (superviseStation wifi) es StateShown ↔
      EachStep (step random) (superviseStation wifi) es SsidFits := by
  refine always_iff_eachStep h ?_ ?_
  · intro past s _ hc hs
    refine hc.history (R := StateShown) (superviseStation_shown wifi) ?_ hs
    intro past s e u _ _ hce hu
    exact stateShown_step hce (step_move hu)
  · intro past s e u _ _ _ hu hce hshown
    cases step_move hu with
    | associated connectAsync hs he hok ht =>
        subst he
        refine hce ((connect_truthful_iff connectAsync).mp ?_)
        exact iff_of_true (connect_isOk_state hok) hok
    | refused connectAsync hs he herror ht =>
        subst he ht
        refine hce ((connect_truthful_iff connectAsync).mp ?_)
        have hconnected := hshown.connected
        rw [retry_wifi] at hconnected
        refine iff_of_false (fun hc => ?_) (by rw [herror]; simp)
        exact (retry_point random _).2 (hconnected.mp hc)
    | lost waitAsync hs he ht =>
        subst he
        exact hce trivial
    | awoken d hs he ht =>
        subst he
        exact hce trivial

theorem lostAssociation_shown :
    (∃ t, run (step fun _ => 0) (superviseStation .ready) lostAssociation = some t) ∧
      (Always (step fun _ => 0) (superviseStation .ready) lostAssociation StateShown ↔
        EachStep (step fun _ => 0) (superviseStation .ready) lostAssociation SsidFits) :=
  ⟨⟨_, rfl⟩, stateShown_iff_ssidFits _ .ready lostAssociation _ rfl⟩

end EmbeddedSdk.StationSupervisor
