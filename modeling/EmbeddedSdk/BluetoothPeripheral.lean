import EmbeddedSdk.BeaconFirmware
import EmbeddedSdk.Runs

/-!
# The Bluetooth peripheral of the reference firmware

`bluetooth_task` joins the runner of the host stack and a loop that advertises, serves
one central at a time and advertises again. A connection has two loops of its own, for
requests of the central and for notifications, and it ends with the first of them that
returns. The loop for requests has its turn first, so a connection may end before it
sends a notification. The status value starts anew with every connection. A run is any
interleaving in which no timer fires early.
-/
namespace EmbeddedSdk.Peripheral
open Beacon Bluetooth PaddedBytes Runs Scanner

def retryMs : ℕ := 1000
def notificationPeriodMs : ℕ := 5000

/-- The awaits of `bluetooth_gatt_events`. -/
inductive GattPoint
  | next
  | send

/-- The awaits of `bluetooth_status_notifications`, which has to be polled first. -/
inductive NotifyPoint
  | start
  | notify
  | sleep (dueMs : ℕ)

/-- A connection with its two loops, and what it has sent at which time. -/
structure Connection where
  gatt : GattPoint
  notify : NotifyPoint
  value : UInt8
  sent : List (ℕ × UInt8)

/-- The awaits of the peripheral loop. -/
inductive Point
  | advertise
  | accept
  | connected (connection : Connection)
  | retry (dueMs : ℕ)
  | panicked

/-- The awaits of `bluetooth_runner`. -/
inductive RunnerPoint
  | run
  | retry (dueMs : ℕ)

/-- What the task prints. -/
inductive Message
  | ready
  | advertising
  | connected
  | statusRead
  | replyFailed
  | disconnected
  | advertisingFailed
  | hostRunnerFailed
  deriving DecidableEq

/-- The data of an advertisement and of the answer to a scan. -/
structure Request where
  advData : List UInt8
  scanData : List UInt8
  deriving DecidableEq

/-- The task with the data that it has asked to advertise, and the notifications of the
connections that have ended. -/
structure State where
  nowMs : ℕ
  point : Point
  runner : RunnerPoint
  console : List Message
  requests : List Request
  sessions : List (List (ℕ × UInt8))

/-- What can happen: the clock advances, the host stack answers or reports an event of
the connection, or a timer fires. -/
inductive Input
  | clock (elapsedMs : ℕ)
  | advertiseReturned (ok : Bool)
  | acceptReturned (ok : Bool)
  | disconnected
  | gattEvent (statusRead accepted : Bool)
  | otherEvent
  | replySent
  | notifyStarted
  | notifyReturned (ok : Bool)
  | notifyTimer
  | retryTimer
  | runnerReturned (ok : Bool)
  | runnerTimer

/-- The structures of the peripheral's advertisement. -/
def advertisedStructures (name : DeviceName) : List Written :=
  [.flags (leGeneralDiscoverable ||| brEdrNotSupported),
    .completeLocalName name.asStr.toUTF8.data.toList]

/-- An error of `advertise_bluetooth`. -/
def State.fail (s : State) : State :=
  { s with point := .retry (s.nowMs + retryMs), console := s.console ++ [.advertisingFailed] }

/-- The front of `advertise_bluetooth`, up to its first await. -/
def State.advertise (codec : AdCodec) (name : DeviceName) (s : State) : State :=
  match codec.encodeSlice (advertisedStructures name) (.replicate _ 0) with
  | none => s.fail
  | some (advertisingData, length) =>
      match front? advertisingData length with
      | none => { s with point := .panicked }
      | some packet =>
          { s with point := .advertise, requests := s.requests ++ [⟨packet.toList, []⟩] }

/-- A new connection. The loop for notifications has not been polled yet. -/
def State.connect (s : State) : State :=
  { s with
    point := .connected ⟨.next, .start, 0, []⟩
    console := s.console ++ [.connected] }

/-- One of the loops of a connection has returned. -/
def State.disconnect (codec : AdCodec) (name : DeviceName) (s : State)
    (connection : Connection) : State :=
  State.advertise codec name { s with
    console := s.console ++ [.disconnected]
    sessions := s.sessions ++ [connection.sent] }

/-- The two loops up to their first awaits, if the host stack accepts the server. -/
def bluetoothTask (codec : AdCodec) (name : DeviceName) (configured : Bool) (nowMs : ℕ) :
    Except String State :=
  if configured then
    .ok (State.advertise codec name ⟨nowMs, .advertise, .run, [.ready], [], []⟩)
  else .error "embedded-sdk bluetooth GATT server configuration failed"

/-- The loop for notifications up to its next `notify`. -/
def Connection.tick (c : Connection) (nowMs : ℕ) : Connection :=
  { c with
    notify := .notify
    value := c.value + 1
    sent := c.sent ++ [(nowMs, c.value + 1)] }

/-- What the requests and timers of a connection do. -/
def stepConnection (codec : AdCodec) (name : DeviceName) (s : State) (c : Connection) :
    Input → Option State
  | .disconnected =>
      match c.gatt with
      | .next => some (s.disconnect codec name c)
      | .send => none
  | .gattEvent statusRead accepted =>
      match c.gatt with
      | .next =>
          some { s with
            point := .connected { c with gatt := if accepted then .send else .next }
            console := s.console ++ (if statusRead then [.statusRead] else []) ++
              (if accepted then [] else [.replyFailed]) }
      | .send => none
  | .otherEvent =>
      match c.gatt with
      | .next => some s
      | .send => none
  | .replySent =>
      match c.gatt with
      | .send => some { s with point := .connected { c with gatt := .next } }
      | .next => none
  | .notifyStarted =>
      match c.notify with
      | .start => some { s with point := .connected (c.tick s.nowMs) }
      | _ => none
  | .notifyReturned ok =>
      match c.notify, ok with
      | .notify, true =>
          some { s with
            point := .connected { c with notify := .sleep (s.nowMs + notificationPeriodMs) } }
      | .notify, false => some (s.disconnect codec name c)
      | _, _ => none
  | .notifyTimer =>
      match c.notify with
      | .sleep dueMs =>
          if dueMs ≤ s.nowMs then some { s with point := .connected (c.tick s.nowMs) } else none
      | _ => none
  | _ => none

/-- What the answers of the host stack do where the peripheral loop stands. -/
def stepPeripheral (codec : AdCodec) (name : DeviceName) (s : State) (input : Input) :
    Option State :=
  match s.point, input with
  | .advertise, .advertiseReturned true =>
      some { s with point := .accept, console := s.console ++ [.advertising] }
  | .advertise, .advertiseReturned false => some s.fail
  | .accept, .acceptReturned true => some s.connect
  | .accept, .acceptReturned false => some s.fail
  | .retry dueMs, .retryTimer => if dueMs ≤ s.nowMs then some (s.advertise codec name) else none
  | .connected c, input => stepConnection codec name s c input
  | _, _ => none

def step (codec : AdCodec) (name : DeviceName) (s : State) : Input → Option State
  | .clock elapsedMs => some { s with nowMs := s.nowMs + elapsedMs }
  | .runnerReturned ok =>
      match s.runner, ok with
      | .run, true => some s
      | .run, false =>
          some { s with
            runner := .retry (s.nowMs + retryMs)
            console := s.console ++ [.hostRunnerFailed] }
      | .retry _, _ => none
  | .runnerTimer =>
      match s.runner with
      | .retry dueMs => if dueMs ≤ s.nowMs then some { s with runner := .run } else none
      | .run => none
  | input => stepPeripheral codec name s input

/-- Everything that one input can do. -/
inductive Move (codec : AdCodec) (name : DeviceName) (s t : State) : Prop
  | later (elapsedMs : ℕ) (h : t = { s with nowMs := s.nowMs + elapsedMs })
  | runner (point : RunnerPoint) (messages : List Message)
      (hmessages : ∀ m ∈ messages, m = .hostRunnerFailed)
      (h : t = { s with runner := point, console := s.console ++ messages })
  | advertised (hpoint : s.point = .advertise)
      (h : t = { s with point := .accept, console := s.console ++ [.advertising] })
  | failed (hpoint : s.point = .advertise ∨ s.point = .accept) (h : t = s.fail)
  | accepted (hpoint : s.point = .accept) (h : t = s.connect)
  | resumed (dueMs : ℕ) (hpoint : s.point = .retry dueMs) (h : t = s.advertise codec name)
  | served (c : Connection) (gatt : GattPoint) (messages : List Message)
      (hpoint : s.point = .connected c)
      (hmessages : ∀ m ∈ messages, m = .statusRead ∨ m = .replyFailed)
      (h : t = { s with
        point := .connected { c with gatt := gatt }
        console := s.console ++ messages })
  | notified (c : Connection) (hpoint : s.point = .connected c)
      (h : t = { s with
        point := .connected { c with notify := .sleep (s.nowMs + notificationPeriodMs) } })
  | ticked (c : Connection) (hpoint : s.point = .connected c)
      (hnotify : c.notify = .start ∨ ∃ dueMs, c.notify = .sleep dueMs ∧ dueMs ≤ s.nowMs)
      (h : t = { s with point := .connected (c.tick s.nowMs) })
  | disconnected (c : Connection) (hpoint : s.point = .connected c)
      (h : t = s.disconnect codec name c)

theorem stepConnection_move {codec : AdCodec} {name : DeviceName} {s t : State} {c : Connection}
    {input : Input} (hpoint : s.point = .connected c)
    (h : stepConnection codec name s c input = some t) : Move codec name s t := by
  have hsame : s = { s with
      point := .connected { c with gatt := c.gatt }, console := s.console ++ [] } := by
    rw [List.append_nil, ← hpoint]
  cases input with
  | disconnected =>
      simp only [stepConnection] at h
      split at h
      · exact .disconnected c hpoint (Option.some.inj h).symm
      · cases h
  | gattEvent statusRead accepted =>
      simp only [stepConnection] at h
      split at h
      · cases h
        refine .served c _ ((if statusRead then [.statusRead] else []) ++
          (if accepted then [] else [.replyFailed])) hpoint ?_ (by rw [List.append_assoc])
        cases statusRead <;> cases accepted <;> simp
      · cases h
  | otherEvent =>
      simp only [stepConnection] at h
      split at h
      · cases h
        exact .served c c.gatt [] hpoint (by simp) hsame
      · cases h
  | replySent =>
      simp only [stepConnection] at h
      split at h
      · cases h
        exact .served c .next [] hpoint (by simp) (by simp)
      · cases h
  | notifyStarted =>
      simp only [stepConnection] at h
      split at h
      next hnotify => exact .ticked c hpoint (.inl hnotify) (Option.some.inj h).symm
      next => cases h
  | notifyReturned ok =>
      simp only [stepConnection] at h
      split at h
      · exact .notified c hpoint (Option.some.inj h).symm
      · exact .disconnected c hpoint (Option.some.inj h).symm
      · cases h
  | notifyTimer =>
      simp only [stepConnection] at h
      split at h
      next dueMs hnotify =>
        split at h
        next hdue =>
          exact .ticked c hpoint (.inr ⟨dueMs, hnotify, hdue⟩) (Option.some.inj h).symm
        next => cases h
      next => cases h
  | clock | advertiseReturned | acceptReturned | retryTimer | runnerReturned | runnerTimer =>
      cases h

theorem stepPeripheral_move {codec : AdCodec} {name : DeviceName} {s t : State} {input : Input}
    (h : stepPeripheral codec name s input = some t) : Move codec name s t := by
  unfold stepPeripheral at h
  split at h
  next hpoint => exact .advertised hpoint (Option.some.inj h).symm
  next hpoint => exact .failed (.inl hpoint) (Option.some.inj h).symm
  next hpoint => exact .accepted hpoint (Option.some.inj h).symm
  next hpoint => exact .failed (.inr hpoint) (Option.some.inj h).symm
  next dueMs hpoint =>
    split at h
    · exact .resumed dueMs hpoint (Option.some.inj h).symm
    · cases h
  next c hpoint => exact stepConnection_move hpoint h
  next => cases h

theorem step_move {codec : AdCodec} {name : DeviceName} {s t : State} {input : Input}
    (h : step codec name s input = some t) : Move codec name s t := by
  unfold step at h
  split at h
  · exact .later _ (Option.some.inj h).symm
  · split at h
    · cases h
      exact .runner s.runner [] (by simp) (by simp)
    · cases h
      exact .runner _ [.hostRunnerFailed] (by simp) rfl
    · cases h
  · split at h
    · split at h
      · cases h
        exact .runner .run [] (by simp) (by simp)
      · cases h
    · cases h
  · exact stepPeripheral_move h

/-- What the console says about the peripheral so far. -/
inductive Phase
  | booting
  | idle
  | advertising
  | connected
  deriving DecidableEq

/-- The order of the messages: one central at a time is served, between an advertisement
and the next one. The host runner may fail at any time. -/
def Phase.next : Phase → Message → Option Phase
  | phase, .hostRunnerFailed => some phase
  | .booting, .ready => some .idle
  | .idle, .advertising => some .advertising
  | .idle, .advertisingFailed => some .idle
  | .advertising, .connected => some .connected
  | .advertising, .advertisingFailed => some .idle
  | .connected, .statusRead => some .connected
  | .connected, .replyFailed => some .connected
  | .connected, .disconnected => some .idle
  | _, _ => none

/-- The phase that an await belongs to. A task that has panicked is in none. -/
def Point.phase : Point → Option Phase
  | .advertise | .retry _ => some .idle
  | .accept => some .advertising
  | .connected _ => some .connected
  | .panicked => none

/-- The values count up from one and wrap, with a period between them. -/
structure Counted (sent : List (ℕ × UInt8)) : Prop where
  values : sent.map Prod.snd = (List.range sent.length).map fun i => UInt8.ofNat (i + 1)
  spaced : sent.Pairwise fun r r' => r.1 + notificationPeriodMs ≤ r'.1

/-- What holds of a connection at a time. -/
structure Counting (nowMs : ℕ) (c : Connection) : Prop where
  counted : Counted c.sent
  value : c.value = .ofNat c.sent.length
  fresh : c.notify = .start → c.sent = []
  past : ∀ r ∈ c.sent, r.1 ≤ nowMs
  due : ∀ dueMs, c.notify = .sleep dueMs → ∀ r ∈ c.sent, r.1 + notificationPeriodMs ≤ dueMs

/-- The connection at which the task stands. -/
def Point.connection? : Point → Option Connection
  | .connected c => some c
  | _ => none

/-- What holds in every state of a run. -/
structure Sound (packet : List UInt8) (s : State) : Prop where
  ordered : run Phase.next .booting s.console = s.point.phase
  serving : s.point.phase ≠ none
  requests : ∀ r ∈ s.requests, r = ⟨packet, []⟩
  sessions : ∀ sent ∈ s.sessions, Counted sent
  current : ∀ c ∈ s.point.connection?, Counting s.nowMs c
  count : s.console.count .connected =
    s.sessions.length + s.point.connection?.toList.length

theorem Counted.concat {sent : List (ℕ × UInt8)} (h : Counted sent) {nowMs : ℕ} {value : UInt8}
    (hvalue : value = .ofNat (sent.length + 1))
    (hpause : ∀ r ∈ sent, r.1 + notificationPeriodMs ≤ nowMs) :
    Counted (sent ++ [(nowMs, value)]) where
  values := by
    rw [List.map_append, h.values, List.length_append, List.length_singleton, List.range_succ,
      List.map_append, hvalue]
    rfl
  spaced := by
    rw [List.pairwise_append]
    refine ⟨h.spaced, List.pairwise_singleton _ _, ?_⟩
    intro r hr r' hr'
    rw [List.mem_singleton.mp hr']
    exact hpause r hr

theorem Counting.served {nowMs : ℕ} {c : Connection} (h : Counting nowMs c) (gatt : GattPoint) :
    Counting nowMs { c with gatt := gatt } :=
  ⟨h.counted, h.value, h.fresh, h.past, h.due⟩

theorem Counting.notified {nowMs : ℕ} {c : Connection} (h : Counting nowMs c) :
    Counting nowMs { c with notify := .sleep (nowMs + notificationPeriodMs) } where
  counted := h.counted
  value := h.value
  fresh hstart := by cases hstart
  past := h.past
  due dueMs hdue r hr := by
    obtain rfl := NotifyPoint.sleep.inj hdue
    exact Nat.add_le_add_right (h.past r hr) _

theorem Counting.ticked {nowMs : ℕ} {c : Connection} (h : Counting nowMs c)
    (hnotify : c.notify = .start ∨ ∃ dueMs, c.notify = .sleep dueMs ∧ dueMs ≤ nowMs) :
    Counting nowMs (c.tick nowMs) := by
  have hvalue : c.value + 1 = .ofNat (c.sent.length + 1) := by
    rw [h.value, UInt8.ofNat_add]
    rfl
  have hpause : ∀ r ∈ c.sent, r.1 + notificationPeriodMs ≤ nowMs := by
    rcases hnotify with hstart | ⟨dueMs, hsleep, hdue⟩
    · simp [h.fresh hstart]
    · exact fun r hr => (h.due dueMs hsleep r hr).trans hdue
  constructor
  · exact h.counted.concat hvalue hpause
  · simp only [Connection.tick, List.length_append, List.length_singleton]
    exact hvalue
  · intro hstart
    cases hstart
  · simp only [Connection.tick, List.forall_mem_append, List.forall_mem_singleton]
    exact ⟨h.past, le_rfl⟩
  · intro dueMs hdue
    cases hdue

/-- Messages that lead from one phase to another. -/
theorem run_next_append {console messages : List Message} {phase : Phase} {next : Option Phase}
    (h : run Phase.next .booting console = some phase)
    (hmessages : run Phase.next phase messages = next) :
    run Phase.next .booting (console ++ messages) = next := by
  rw [run_append, h]
  exact hmessages

theorem run_next_stays {messages : List Message} {phase : Phase}
    (h : ∀ m ∈ messages, phase.next m = some phase) :
    run Phase.next phase messages = some phase := by
  induction messages with
  | nil => rfl
  | cons m messages ih =>
      rw [List.forall_mem_cons] at h
      rw [run_cons, h.1, Option.bind_some, ih h.2]

variable {codec : AdCodec} {name : DeviceName} {packet : List UInt8} {s : State}

/-- Every advertisement of the peripheral has this packet and no answer to a scan. -/
def Encodes (codec : AdCodec) (name : DeviceName) (packet : List UInt8) : Prop :=
  ∀ s, State.advertise codec name s =
    { s with point := .advertise, requests := s.requests ++ [⟨packet, []⟩] }

/-- The messages of a step lead to the phase of the new await. -/
theorem Sound.ordered_append (hs : Sound packet s) {messages : List Message}
    {phase phase' : Phase} (hphase : s.point.phase = some phase)
    (hmessages : run Phase.next phase messages = some phase') :
    run Phase.next .booting (s.console ++ messages) = some phase' :=
  run_next_append (hs.ordered.trans hphase) hmessages

theorem sound_advertise (hpacket : Encodes codec name packet)
    (hordered : run Phase.next .booting s.console = some .idle)
    (hrequests : ∀ r ∈ s.requests, r = ⟨packet, []⟩) (hsessions : ∀ sent ∈ s.sessions, Counted sent)
    (hcount : s.console.count .connected = s.sessions.length) :
    Sound packet (s.advertise codec name) := by
  rw [hpacket]
  constructor
  · exact hordered
  · exact Option.some_ne_none _
  · rw [List.forall_mem_append, List.forall_mem_singleton]
    exact ⟨hrequests, rfl⟩
  · exact hsessions
  · intro c hc
    cases hc
  · exact hcount

theorem Sound.later (hs : Sound packet s) (elapsedMs : ℕ) :
    Sound packet { s with nowMs := s.nowMs + elapsedMs } where
  ordered := hs.ordered
  serving := hs.serving
  requests := hs.requests
  sessions := hs.sessions
  current c hc :=
    have hcounting := hs.current c hc
    ⟨hcounting.counted, hcounting.value, hcounting.fresh,
      fun r hr => (hcounting.past r hr).trans (Nat.le_add_right _ _), hcounting.due⟩
  count := hs.count

theorem Sound.runner (hs : Sound packet s) (point : RunnerPoint) {messages : List Message}
    (hmessages : ∀ m ∈ messages, m = .hostRunnerFailed) :
    Sound packet { s with runner := point, console := s.console ++ messages } where
  ordered := by
    obtain ⟨phase, hphase⟩ := Option.ne_none_iff_exists'.mp hs.serving
    rw [hphase]
    refine hs.ordered_append hphase (run_next_stays ?_)
    intro m hm
    rw [hmessages m hm]
    cases phase <;> rfl
  serving := hs.serving
  requests := hs.requests
  sessions := hs.sessions
  current := hs.current
  count := by
    have hnone : messages.count .connected = 0 := by
      refine List.count_eq_zero.mpr ?_
      intro hmem
      cases hmessages _ hmem
    rw [List.count_append, hnone, Nat.add_zero]
    exact hs.count

theorem Sound.advertised (hs : Sound packet s) (hpoint : s.point = .advertise) :
    Sound packet { s with point := .accept, console := s.console ++ [.advertising] } where
  ordered := hs.ordered_append (show _ = some Phase.idle by rw [hpoint]; rfl) rfl
  serving := Option.some_ne_none _
  requests := hs.requests
  sessions := hs.sessions
  current c hc := by cases hc
  count := by
    have hcount := hs.count
    rw [hpoint] at hcount
    simp only [List.count_append, hcount]
    rfl

theorem Sound.fail (hs : Sound packet s) (hpoint : s.point = .advertise ∨ s.point = .accept) :
    Sound packet s.fail := by
  have hnone : s.point.connection? = none := by
    rcases hpoint with hpoint | hpoint <;> rw [hpoint] <;> rfl
  constructor
  · rcases hpoint with hpoint | hpoint
    · exact hs.ordered_append (show _ = some Phase.idle by rw [hpoint]; rfl) rfl
    · exact hs.ordered_append (show _ = some Phase.advertising by rw [hpoint]; rfl) rfl
  · exact Option.some_ne_none _
  · exact hs.requests
  · exact hs.sessions
  · intro c hc
    cases hc
  · have hcount := hs.count
    rw [hnone] at hcount
    simp only [State.fail, List.count_append, hcount]
    rfl

theorem Sound.connect (hs : Sound packet s) (hpoint : s.point = .accept) :
    Sound packet s.connect where
  ordered := hs.ordered_append (show _ = some Phase.advertising by rw [hpoint]; rfl) rfl
  serving := Option.some_ne_none _
  requests := hs.requests
  sessions := hs.sessions
  current c hc := by
    obtain rfl := Option.some.inj hc
    exact ⟨⟨rfl, .nil⟩, rfl, fun _ => rfl, List.forall_mem_nil _, by simp⟩
  count := by
    have hcount := hs.count
    rw [hpoint] at hcount
    simp only [State.connect, List.count_append, hcount]
    rfl

theorem Sound.disconnect (hpacket : Encodes codec name packet) (hs : Sound packet s)
    {c : Connection} (hpoint : s.point = .connected c) :
    Sound packet (s.disconnect codec name c) := by
  refine sound_advertise hpacket ?_ hs.requests ?_ ?_
  · exact hs.ordered_append (show _ = some Phase.connected by rw [hpoint]; rfl) rfl
  · have hcurrent := hs.current c (by rw [hpoint]; rfl)
    rw [List.forall_mem_append, List.forall_mem_singleton]
    exact ⟨hs.sessions, hcurrent.counted⟩
  · have hcount := hs.count
    rw [hpoint] at hcount
    simp only [List.count_append, hcount, List.length_append]
    rfl

/-- Within a connection only the connection changes. -/
theorem Sound.connection (hs : Sound packet s) {c c' : Connection}
    (hpoint : s.point = .connected c) (hc' : Counting s.nowMs c') {messages : List Message}
    (hmessages : ∀ m ∈ messages, m = .statusRead ∨ m = .replyFailed) :
    Sound packet { s with point := .connected c', console := s.console ++ messages } where
  ordered := by
    refine hs.ordered_append (show _ = some Phase.connected by rw [hpoint]; rfl) (run_next_stays ?_)
    intro m hm
    rcases hmessages m hm with rfl | rfl <;> rfl
  serving := Option.some_ne_none _
  requests := hs.requests
  sessions := hs.sessions
  current d hd := by
    obtain rfl := Option.some.inj hd
    exact hc'
  count := by
    have hnone : messages.count .connected = 0 := by
      refine List.count_eq_zero.mpr ?_
      intro hmem
      rcases hmessages _ hmem with h | h <;> cases h
    have hcount := hs.count
    rw [hpoint] at hcount
    rw [List.count_append, hnone, Nat.add_zero]
    exact hcount

theorem Sound.connected (hs : Sound packet s) {c c' : Connection}
    (hpoint : s.point = .connected c) (hc' : Counting s.nowMs c') :
    Sound packet { s with point := .connected c' } := by
  have hsound := hs.connection hpoint hc' (List.forall_mem_nil _)
  rwa [List.append_nil] at hsound

theorem step_sound (hpacket : Encodes codec name packet) (s : State) (input : Input) (t : State)
    (hs : Sound packet s) (h : step codec name s input = some t) : Sound packet t := by
  cases step_move h with
  | later elapsedMs ht =>
      rw [ht]
      exact hs.later elapsedMs
  | runner point messages hmessages ht =>
      rw [ht]
      exact hs.runner point hmessages
  | advertised hpoint ht =>
      rw [ht]
      exact hs.advertised hpoint
  | failed hpoint ht =>
      rw [ht]
      exact hs.fail hpoint
  | accepted hpoint ht =>
      rw [ht]
      exact hs.connect hpoint
  | resumed dueMs hpoint ht =>
      have hordered := hs.ordered
      have hcount := hs.count
      rw [hpoint] at hordered hcount
      rw [ht]
      exact sound_advertise hpacket hordered hs.requests hs.sessions hcount
  | served c gatt messages hpoint hmessages ht =>
      have hc := hs.current c (by rw [hpoint]; rfl)
      rw [ht]
      exact hs.connection hpoint (hc.served gatt) hmessages
  | notified c hpoint ht =>
      have hc := hs.current c (by rw [hpoint]; rfl)
      rw [ht]
      exact hs.connected hpoint hc.notified
  | ticked c hpoint hnotify ht =>
      have hc := hs.current c (by rw [hpoint]; rfl)
      rw [ht]
      exact hs.connected hpoint (hc.ticked hnotify)
  | disconnected c hpoint ht =>
      rw [ht]
      exact hs.disconnect hpacket hpoint

/-- What the constructor of device names accepts, and what it stores. -/
theorem deviceName_spec {text : String} (h : DeviceName.new text = .ok name) :
    1 ≤ text.utf8ByteSize ∧ text.utf8ByteSize ≤ 22 ∧ name.asStr = text := by
  obtain ⟨hsize, rfl⟩ := DeviceName.eq_of_new h
  have hpositive : 1 ≤ text.utf8ByteSize := by
    unfold DeviceName.new at h
    split at h
    next => cases h
    next hempty =>
      rw [String.isEmpty_iff_utf8ByteSize_eq_zero] at hempty
      omega
  refine ⟨hpositive, hsize, ?_⟩
  have hlength : (UInt8.ofNat text.utf8ByteSize).toNat = text.toUTF8.data.size :=
    Nat.mod_eq_of_lt (Nat.lt_of_le_of_lt hsize (by decide))
  have hbytes : (padded maxDeviceNameLen 0 text.toUTF8.data).toArray.extract 0
      text.toUTF8.data.size = text.toUTF8.data :=
    extract_padded hsize
  have hself : String.fromUTF8? ⟨text.toUTF8.data⟩ = some text := fromUTF8?_self text
  rw [DeviceName.asStr, hlength, hbytes, hself, Option.getD_some]

/-- Every name leaves room for the flags. -/
theorem totalSize_advertised_le {text : String} (hname : DeviceName.new text = .ok name) :
    Written.totalSize (advertisedStructures name) ≤ packetCapacity := by
  obtain ⟨-, hsize, htext⟩ := deviceName_spec hname
  have hlength : text.toUTF8.data.toList.length = text.utf8ByteSize := rfl
  simp only [advertisedStructures, Written.totalSize, List.map_cons, List.map_nil, List.sum_cons,
    List.sum_nil, Written.size, htext, hlength, packetCapacity]
  omega

/-- So every advertisement is encoded. -/
theorem exists_encodes (hcodec : codec.EncodesFitting) {text : String}
    (hname : DeviceName.new text = .ok name) : ∃ packet, Encodes codec name packet := by
  obtain ⟨buffer, packet, hencode, hfront, -⟩ :=
    hcodec.packet (advertisedStructures name) (.replicate _ 0) (totalSize_advertised_le hname)
  refine ⟨packet.toList, ?_⟩
  intro s
  simp only [State.advertise, hencode, hfront]

/-- A receiver finds the name in it. -/
theorem Encodes.decode {packet : List UInt8} (h : Encodes codec name packet)
    (hcodec : codec.Documented) {text : String} (hname : DeviceName.new text = .ok name) :
    codec.decode packet = [.other, .completeLocalName text.toUTF8.data.toList] := by
  obtain ⟨hpositive, -, htext⟩ := deviceName_spec hname
  have hdata : ∀ w ∈ advertisedStructures name, w.HasData := by
    rw [advertisedStructures, List.forall_mem_cons, List.forall_mem_singleton, htext]
    exact ⟨trivial, List.ne_nil_of_length_pos hpositive⟩
  obtain ⟨buffer, packet', hencode, hfront, -, hdecode⟩ :=
    hcodec.packet hdata (.replicate _ 0) (totalSize_advertised_le hname)
  have hsame := h ⟨0, .advertise, .run, [], [], []⟩
  simp only [State.advertise, hencode, hfront, State.mk.injEq, List.nil_append, List.cons.injEq,
    Request.mk.injEq, and_true, true_and] at hsame
  rw [← hsame, hdecode, advertisedStructures, htext]
  rfl

theorem bluetoothTask_sound (hpacket : Encodes codec name packet) {nowMs : ℕ} {start : State}
    (h : bluetoothTask codec name true nowMs = .ok start) : Sound packet start := by
  obtain rfl := Except.ok.inj h
  exact sound_advertise hpacket rfl (by simp) (by simp) rfl

/-- In every run the task serves one central at a time, between an advertisement and the
next one, and it does not panic. The notifications of each connection count up from one
and wrap at 256, at least five seconds apart; every connection starts anew. -/
theorem sessions_in_order (hcodec : codec.EncodesFitting) {text : String}
    (hname : DeviceName.new text = .ok name) {bootMs : ℕ} {start : State}
    (hstart : bluetoothTask codec name true bootMs = .ok start) {events : List Input} {s : State}
    (h : run (step codec name) start events = some s) :
    s.point.phase ≠ none ∧ run Phase.next .booting s.console = s.point.phase ∧
      s.console.count .connected = (s.sessions ++
        (s.point.connection?.map Connection.sent).toList).length ∧
      ∀ sent ∈ s.sessions ++ (s.point.connection?.map Connection.sent).toList, Counted sent := by
  obtain ⟨packet, hpacket⟩ := exists_encodes hcodec hname
  have hs : Sound packet s :=
    run_invariant (bluetoothTask_sound hpacket hstart) (step_sound hpacket) h
  refine ⟨hs.serving, hs.ordered, ?_, ?_⟩
  · rw [hs.count, List.length_append]
    cases s.point.connection? <;> rfl
  · rw [List.forall_mem_append]
    refine ⟨hs.sessions, ?_⟩
    intro sent hsent
    rw [Option.mem_toList, Option.map_eq_some_iff] at hsent
    obtain ⟨c, hc, rfl⟩ := hsent
    exact (hs.current c hc).counted

def sdkName : DeviceName := ⟨padded maxDeviceNameLen 0 "XIAO ESP32C6 SDK".toUTF8.data, 16⟩

/-- A central reads the status and leaves with the second notification. -/
def briefVisit : List Input :=
  [.advertiseReturned false, .clock 1000, .retryTimer, .advertiseReturned true,
    .acceptReturned true, .notifyStarted, .gattEvent true true, .replySent, .notifyReturned true,
    .clock 5200, .runnerReturned false, .notifyTimer, .notifyReturned false]

theorem briefVisit_in_order : ∃ start s, DeviceName.new "XIAO ESP32C6 SDK" = .ok sdkName ∧
    bluetoothTask tlvCodec sdkName true 0 = .ok start ∧
    run (step tlvCodec sdkName) start briefVisit = some s ∧
    s.sessions = [[(1000, 1), (6200, 2)]] ∧
    run Phase.next .booting s.console = some .idle ∧ ∀ sent ∈ s.sessions, Counted sent := by
  have hname : DeviceName.new "XIAO ESP32C6 SDK" = .ok sdkName := by decide +kernel
  obtain ⟨start, hstart⟩ : ∃ start, bluetoothTask tlvCodec sdkName true 0 = .ok start := ⟨_, rfl⟩
  have hrun : (run (step tlvCodec sdkName) start briefVisit).any (fun s =>
      s.sessions == [[(1000, 1), (6200, 2)]] && s.point.phase == some .idle) = true := by
    obtain rfl := Except.ok.inj hstart
    decide +kernel
  obtain ⟨s, hs, hshown⟩ := (Option.any_eq_true _ _).mp hrun
  obtain ⟨-, hordered, -, hcounted⟩ :=
    sessions_in_order tlvCodec_documented.toEncodesFitting hname hstart hs
  rw [Bool.and_eq_true, beq_iff_eq, beq_iff_eq] at hshown
  exact ⟨start, s, hname, hstart, hs, hshown.1, hordered.trans hshown.2,
    fun sent hsent => hcounted sent (List.mem_append_left _ hsent)⟩

end EmbeddedSdk.Peripheral
