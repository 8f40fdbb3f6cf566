import EmbeddedSdk.MinimqAdapter
import EmbeddedSdk.Networking
import EmbeddedSdk.Runs

/-!
# The MQTT tasks of the reference firmware

`mqtt_task` and `mqtt_telemetry_producer_task` run on one cooperative executor,
so they interleave only where a task awaits. A state is everything the two tasks
share and the await at which `mqtt_task` stands. An event says how that await
ends, or that the producer had its turn. The environment chooses every outcome.
-/
namespace EmbeddedSdk.MqttTask
open Mqtt MqttMinimq MachineInt Networking

def mqttRxPacketBufferSize : ℕ := 512
def mqttTxReplayBufferSize : ℕ := 1024
def mqttOutboundChannelDepth : ℕ := 4

structure OutboundMessage where
  payload : List UInt8
  qos : QoS
  deriving DecidableEq

structure MqttDevelopmentConfig where
  session : Config
  telemetryTopic : TopicName
  commandFilter : TopicFilter

/-- The awaits of `mqtt_task` in program order. The three that stand inside
`run_mqtt_connection` carry the event that made the live connection. -/
inductive Point
  | waitIpReady
  | networkStateRetry
  | waitIpDown
  | resolve
  | connectTransport (address : Ipv4Addr)
  | connectSession
  | subscribe (event : Minimq.ConnectEvent)
  | select (event : Minimq.ConnectEvent)
  | publish (event : Minimq.ConnectEvent) (message : OutboundMessage)
  | backoff (delayMs : ℕ)
  deriving DecidableEq

/-- The task with its client and backoff, the channel `MQTT_OUTBOUND`, the
atomic `MQTT_QUEUE_DROPS`, and how many random numbers were drawn. -/
structure State where
  client : Client
  backoff : ReconnectBackoff
  draws : ℕ
  outbound : List OutboundMessage
  queueDrops : ℕ
  point : Point

/-- How an await ends. A missing outcome is the timeout of `with_timeout`; the
other outcomes are those of the operation itself. `dequeue` is the second arm
of the inner select, and `ipDown` completes `wait_ip_down` wherever it runs. -/
inductive Event (B : Backend)
  | produce
  | ipReady (outcome : Except Networking.ConfigError NetworkSnapshot)
  | timer
  | ipDown
  | resolve (outcome : Option (Except Dns.Error (List IpAddress)))
  | connectTransport (outcome : Option (Except Unit Unit))
  | connectSession (outcome : Option (Except (Minimq.Error B) Minimq.ConnectEvent))
  | subscribe (outcome : Except (Minimq.Error B) Unit)
  | receive (outcome : Except (Minimq.Error B) Minimq.InboundPublish)
  | dequeue
  | publish (outcome : Except (Minimq.PubError B) Unit)

/-- The heartbeat payload of the fixture, `{"version":1,"kind":"heartbeat"}`. -/
def heartbeat : OutboundMessage :=
  ⟨"\x7b\"version\":1,\"kind\":\"heartbeat\"\x7d".toUTF8.toList, .atLeastOnce⟩

namespace State

/-- One turn of `mqtt_telemetry_producer_task`. -/
def produce (s : State) : State :=
  if s.outbound.length < mqttOutboundChannelDepth then
    { s with outbound := s.outbound ++ [heartbeat] }
  else { s with queueDrops := wrappingAddU32 s.queueDrops 1 }

/-- The head of the loop of `mqtt_task`. -/
def loopHead (s : State) : State :=
  { s with client := s.client.transition .waitingForNetwork, point := .waitIpReady }

/-- `mqtt_backoff`, up to its sleep. -/
def mqttBackoff (random : ℕ → ℕ) (s : State) : State :=
  let (delayMs, backoff) := s.backoff.nextDelayMs (random s.draws)
  { s with backoff := backoff, draws := s.draws + 1, point := .backoff delayMs }

/-- A DNS or TCP failure, or a timeout. -/
def externalFailure (random : ℕ → ℕ) (s : State) : State :=
  mqttBackoff random { s with client := s.client.recordExternalFailure .transport }

/-- The head of the loop of `run_mqtt_connection`, up to its select. -/
def connectionLoop (event : Minimq.ConnectEvent) (s : State) : State :=
  let connection := (s.client.connection event).recordQueueDrops s.queueDrops
  { s with client := ⟨connection.snapshot⟩, queueDrops := 0, point := .select event }

/-- `run_mqtt_connection`, up to its first await. -/
def runMqttConnection (event : Minimq.ConnectEvent) (s : State) : State :=
  if !(s.client.connection event).resumed then { s with point := .subscribe event }
  else connectionLoop event s

/-- What `run_mqtt_connection` does with the result of an operation on its
connection: the next turn of its loop, or the return that ends in a backoff. -/
def afterOperation {B : Backend} {α : Type} (random : ℕ → ℕ) (event : Minimq.ConnectEvent)
    (s : State) (result : Connection × Except (Error B) α) : State :=
  match result with
  | (connection, .ok _) => connectionLoop event { s with client := ⟨connection.snapshot⟩ }
  | (connection, .error _) => mqttBackoff random { s with client := ⟨connection.snapshot⟩ }

/-- IPv4 loss drops the connection, whatever it was waiting for. -/
def stopAfterIpv4Loss (s : State) : State :=
  loopHead { s with client := s.client.transition .waitingForNetwork }

end State

/-- `mqtt_task` up to its first await. -/
def mqttTask {B : Backend} (config : MqttDevelopmentConfig) (builder : Except B.ConfigError Unit) :
    Except (AdapterConfigError B) State :=
  (Client.new config.session mqttRxPacketBufferSize mqttTxReplayBufferSize .plaintextFixture none
    builder).map fun client =>
      State.loopHead ⟨client, ReconnectPolicy.default.backoff, 0, [], 0, .waitIpReady⟩

/-- The state in which every run of the task begins. -/
def start : State :=
  ⟨⟨{ state := .waitingForNetwork }⟩, ReconnectPolicy.default.backoff, 0, [], 0, .waitIpReady⟩

theorem mqttTask_eq_start {B : Backend} {config : MqttDevelopmentConfig}
    {builder : Except B.ConfigError Unit} {s : State} (h : mqttTask config builder = .ok s) :
    s = start := by
  have hnew : Client.new config.session mqttRxPacketBufferSize mqttTxReplayBufferSize
      .plaintextFixture none builder = .ok {} := by
    unfold mqttTask at h
    cases hc : Client.new config.session mqttRxPacketBufferSize mqttTxReplayBufferSize
        .plaintextFixture none builder with
    | error e =>
        rw [hc] at h
        cases h
    | ok client =>
        unfold Client.new at hc
        split_ifs at hc
        split at hc
        · cases hc
        · exact hc.symm
  rw [mqttTask, hnew] at h
  cases h
  rfl

/-- Zero-padded storage of a text that is known to fit. -/
def storedText (capacity : ℕ) (text : String) : BoundedText capacity :=
  ⟨Vector.ofFn fun i => text.toUTF8.data.getD i 0, .ofNat text.utf8ByteSize⟩

/-- The configuration that the documented fixture build inputs give. -/
def fixtureConfig : MqttDevelopmentConfig where
  session :=
    ⟨storedText _ "broker.test", ⟨1883, by decide⟩, storedText _ "xiao-c6-fixture", 30, 300, 512⟩
  telemetryTopic := storedText _ "embedded-sdk/test/xiao-c6-fixture/telemetry"
  commandFilter := storedText _ "embedded-sdk/test/xiao-c6-fixture/commands"

/-- A network with one address and one DNS server. -/
def readySnapshot : NetworkSnapshot :=
  ⟨.up, some ⟨⟨0xc0a80102⟩, 24, none, ⟨Vector.replicate _ ⟨0xc0a80101⟩, 1⟩⟩⟩

/-- The events from the wait for the network up to CONNECT on the wire. -/
def reachBroker : List (Event plainBackend) :=
  [.ipReady (.ok readySnapshot), .resolve (some (.ok [.ipv4 ⟨0xc0a80103⟩])),
    .connectTransport (some (.ok ()))]

section Step

variable {B : Backend} (config : MqttDevelopmentConfig) (random : ℕ → ℕ)

/-- One event at the await where the task stands. -/
def step (s : State) (e : Event B) : Option State :=
  match s.point, e with
  | _, .produce => some s.produce
  | .waitIpReady, .ipReady (.error _) => some { s with point := .networkStateRetry }
  | .waitIpReady, .ipReady (.ok snapshot) =>
      if snapshot.isDnsReady then
        some { s with client := s.client.transition .resolvingBroker, point := .resolve }
      else some { s with point := .waitIpDown }
  | .networkStateRetry, .timer => some s.loopHead
  | .waitIpDown, .ipDown => some s.loopHead
  | .resolve, .resolve none => some (s.externalFailure random)
  | .resolve, .resolve (some answer) =>
      match resolveIpv4 answer (List.replicate 4 .unspecified) with
      | none => none
      | some (.error _, _) => some (s.externalFailure random)
      | some (.ok _, addresses) =>
          some { s with
            client := s.client.transition .connectingTransport
            point := .connectTransport (addresses.getD 0 .unspecified) }
  | .connectTransport _, .connectTransport none => some (s.externalFailure random)
  | .connectTransport _, .connectTransport (some (.error _)) => some (s.externalFailure random)
  | .connectTransport _, .connectTransport (some (.ok _)) =>
      some { s with client := s.client.beginConnect, point := .connectSession }
  | .connectSession, .connectSession none => some (s.externalFailure random)
  | .connectSession, .connectSession (some answer) =>
      match s.client.finishConnect answer with
      | (client, .error _) => some (State.mqttBackoff random { s with client := client })
      | (client, .ok event) =>
          some (State.runMqttConnection event
            { s with client := client, backoff := s.backoff.reset })
  | .subscribe event, .subscribe answer =>
      some (s.afterOperation random event
        ((s.client.connection event).subscribe config.commandFilter .atLeastOnce fun _ => answer))
  | .select event, .receive answer =>
      some (s.afterOperation random event ((s.client.connection event).receive answer))
  | .select event, .dequeue =>
      match s.outbound with
      | [] => none
      | message :: rest => some { s with outbound := rest, point := .publish event message }
  | .publish event message, .publish answer =>
      some (s.afterOperation random event
        ((s.client.connection event).publish config.telemetryTopic message.payload message.qos
          fun _ => answer))
  | .subscribe _, .ipDown | .select _, .ipDown | .publish _ _, .ipDown =>
      some s.stopAfterIpv4Loss
  | .backoff _, .timer => some s.loopHead
  | _, _ => none

/-- The error with which an operation on the live connection ends. -/
def Event.sessionError : Event B → Option (Error B)
  | .subscribe (.error e) => some (.ofMinimq e)
  | .receive (.error e) => some (.ofMinimq e)
  | .receive (.ok message) =>
      if (fromMinimqPublish message).isNone then some (.peer B.invalidPacket) else none
  | .publish (.error (.session e)) => some (.ofMinimq e)
  | .publish (.error .payload) => some .payloadTooLarge
  | _ => none

/-- The kind of failure that an event is: transport for DNS and TCP failures
and for timeouts, otherwise the kind of the error of the MQTT operation. -/
def Event.failureKind : Event B → Option ErrorKind
  | .resolve none | .connectTransport none | .connectTransport (some (.error _))
  | .connectSession none => some .transport
  | .resolve (some answer) =>
      match resolveIpv4 answer (List.replicate 4 .unspecified) with
      | some (.error _, _) => some .transport
      | _ => none
  | .connectSession (some (.error e)) => some (Error.ofMinimq e).kind
  | e => e.sessionError.map Error.kind

def Event.isProduce : Event B → Bool
  | .produce => true
  | _ => false

/-- Events that only move the task between its waits outside a session. -/
def Event.isQuiet : Event B → Bool
  | .ipReady _ | .timer | .ipDown | .resolve _ | .connectTransport _ => true
  | _ => false

/-- The event of the live connection at the awaits of `run_mqtt_connection`. -/
def Point.session : Point → Option Minimq.ConnectEvent
  | .subscribe event | .select event | .publish event _ => some event
  | _ => none

/-- The task sleeps in `mqtt_backoff`. -/
def Point.isBackoff : Point → Bool
  | .backoff _ => true
  | _ => false

/-- Lifecycle states that the task itself announces while it has no session. -/
def isSessionless : ConnectionState → Bool
  | .waitingForNetwork | .resolvingBroker | .connectingTransport | .connectingSession => true
  | _ => false

/-- Everything that one event can do. -/
inductive Move (s : State) (e : Event B) (t : State) : Prop
  | produced (he : e = .produce) (ht : t = s.produce)
  | waited (client : Client) (point : Point) (hs : s.point.session = none)
      (he : e.isQuiet ∧ e.failureKind = none)
      (hclient : client = s.client ∨ ∃ state, isSessionless state ∧
        client = s.client.transition state)
      (hpoint : point.session = none ∧ point.isBackoff = false)
      (ht : t = { s with client := client, point := point })
  | stopped (hs : s.point.session.isSome) (he : e = .ipDown) (ht : t = s.stopAfterIpv4Loss)
  | external (hs : s.point.session = none) (he : e.failureKind = some .transport)
      (herror : e.sessionError = none) (ht : t = s.externalFailure random)
  | refused (error : Minimq.Error B) (hs : s.point.session = none)
      (he : e = .connectSession (some (.error error)))
      (ht : t = State.mqttBackoff random
        { s with client := ⟨s.client.snapshot.recordFailure (Error.ofMinimq error).kind⟩ })
  | fresh (hs : s.point.session = none) (he : e = .connectSession (some (.ok .connected)))
      (ht : t = { s with
        client := ⟨s.client.snapshot.recordConnected⟩
        backoff := s.backoff.reset
        point := .subscribe .connected })
  | resumed (hs : s.point.session = none) (he : e = .connectSession (some (.ok .reconnected)))
      (ht : t = State.connectionLoop .reconnected
        { s with client := ⟨s.client.snapshot.recordResumed⟩, backoff := s.backoff.reset })
  | subscribed (event : Minimq.ConnectEvent) (hs : s.point = .subscribe event)
      (he : e = .subscribe (.ok ())) (ht : t = s.connectionLoop event)
  | received (event : Minimq.ConnectEvent) (message : Minimq.InboundPublish)
      (hs : s.point = .select event) (he : e = .receive (.ok message))
      (herror : e.sessionError = none)
      (ht : t = State.connectionLoop event { s with client := ⟨s.client.snapshot.recordReceive⟩ })
  | dequeued (event : Minimq.ConnectEvent) (message : OutboundMessage)
      (rest : List OutboundMessage) (hs : s.point = .select event) (he : e = .dequeue)
      (houtbound : s.outbound = message :: rest)
      (ht : t = { s with outbound := rest, point := .publish event message })
  | published (event : Minimq.ConnectEvent) (message : OutboundMessage)
      (hs : s.point = .publish event message) (he : e = .publish (.ok ()))
      (ht : t = State.connectionLoop event { s with client := ⟨s.client.snapshot.recordPublish⟩ })
  | failed (event : Minimq.ConnectEvent) (error : Error B) (hs : s.point.session = some event)
      (hpublish : ∀ message, s.point = .publish event message →
        ∃ answer, e = .publish (.error answer))
      (he : e.sessionError = some error)
      (ht : t = State.mqttBackoff random
        { s with client := ⟨observeError s.client.snapshot error⟩ })

/-- An operation on the live connection ends in the next turn of the loop or in
a backoff, with the snapshot that its contract promises. -/
theorem afterOperation_cases {α : Type} {f : Connection → Connection × Except (Error B) α}
    {ok : α → Snapshot → Snapshot} (hf : Observes f ok) (event : Minimq.ConnectEvent) (s : State) :
    (∃ value, (f (s.client.connection event)).2 = .ok value ∧
      s.afterOperation random event (f (s.client.connection event)) =
        State.connectionLoop event { s with client := ⟨ok value s.client.snapshot⟩ }) ∨
    ∃ error, (f (s.client.connection event)).2 = .error error ∧
      s.afterOperation random event (f (s.client.connection event)) =
        State.mqttBackoff random { s with client := ⟨observeError s.client.snapshot error⟩ } := by
  have h := hf (s.client.connection event)
  cases hr : f (s.client.connection event) with
  | mk connection result =>
      cases result with
      | ok value =>
          simp only [hr] at h
          exact .inl ⟨value, rfl, by simp only [State.afterOperation, h]; rfl⟩
      | error error =>
          simp only [hr] at h
          exact .inr ⟨error, rfl, by simp only [State.afterOperation, h]; rfl⟩

variable {config random}

theorem subscribe_move {s t : State} {event : Minimq.ConnectEvent}
    {answer : Except (Minimq.Error B) Unit} (hp : s.point = .subscribe event)
    (h : step config random s (.subscribe answer) = some t) :
    Move random s (.subscribe answer) t := by
  simp only [step, hp, Option.some.injEq] at h
  obtain ⟨value, hv, ht⟩ | ⟨error, he, ht⟩ := afterOperation_cases random
    (subscribe_observes config.commandFilter .atLeastOnce fun _ => answer) event s
  · rcases answer with e | _
    · cases hv
    · exact .subscribed event hp rfl (h.symm.trans ht)
  · rcases answer with e | _
    · cases he
      exact .failed event _ (by rw [hp]; rfl) (by simp [hp]) rfl (h.symm.trans ht)
    · cases he

theorem receive_move {s t : State} {event : Minimq.ConnectEvent}
    {answer : Except (Minimq.Error B) Minimq.InboundPublish} (hp : s.point = .select event)
    (h : step config random s (.receive answer) = some t) :
    Move random s (.receive answer) t := by
  simp only [step, hp, Option.some.injEq] at h
  have hsession : s.point.session = some event := by rw [hp]; rfl
  obtain ⟨value, hv, ht⟩ | ⟨error, he, ht⟩ := afterOperation_cases random
    (receive_observes answer) event s
  · rcases answer with e | message
    · cases hv
    · refine .received event message hp rfl ?_ (h.symm.trans ht)
      cases hm : fromMinimqPublish message with
      | none => simp [Connection.receive, Connection.deliver, hm] at hv
      | some _ => simp [Event.sessionError, hm]
  · refine .failed event error hsession (by simp [hp]) ?_ (h.symm.trans ht)
    rcases answer with e | message
    · cases he
      rfl
    · cases hm : fromMinimqPublish message with
      | none =>
          simp only [Connection.receive, Connection.deliver, hm, Except.error.injEq] at he
          simp [Event.sessionError, hm, he]
      | some _ => simp [Connection.receive, Connection.deliver, hm] at he

theorem publish_move {s t : State} {event : Minimq.ConnectEvent} {message : OutboundMessage}
    {answer : Except (Minimq.PubError B) Unit} (hp : s.point = .publish event message)
    (h : step config random s (.publish answer) = some t) :
    Move random s (.publish answer) t := by
  simp only [step, hp, Option.some.injEq] at h
  have hsession : s.point.session = some event := by rw [hp]; rfl
  obtain ⟨value, hv, ht⟩ | ⟨error, he, ht⟩ := afterOperation_cases random
    (publish_observes config.telemetryTopic message.payload message.qos fun _ => answer) event s
  · rcases answer with (e | _) | _
    · cases hv
    · cases hv
    · exact .published event message hp rfl (h.symm.trans ht)
  · rcases answer with answer | _
    · refine .failed event error hsession (fun _ _ => ⟨answer, rfl⟩) ?_ (h.symm.trans ht)
      rcases answer with e | _ <;> cases he <;> rfl
    · cases he

theorem connectSession_move {s t : State}
    {answer : Except (Minimq.Error B) Minimq.ConnectEvent} (hp : s.point = .connectSession)
    (h : step config random s (.connectSession (some answer)) = some t) :
    Move random s (.connectSession (some answer)) t := by
  have hsession : s.point.session = none := by rw [hp]; rfl
  simp only [step, hp] at h
  rcases answer with e | event
  · cases h
    exact .refused e hsession rfl rfl
  · cases event with
    | connected =>
        cases h
        exact .fresh hsession rfl rfl
    | reconnected =>
        cases h
        exact .resumed hsession rfl rfl

theorem resolve_move {s t : State} {answer : Except Dns.Error (List IpAddress)}
    (hp : s.point = .resolve) (h : step config random s (.resolve (B := B) (some answer)) = some t) :
    Move random s (.resolve (B := B) (some answer)) t := by
  have hsession : s.point.session = none := by rw [hp]; rfl
  simp only [step, hp] at h
  split at h
  · cases h
  · rename_i hr
    cases h
    exact .external hsession (by simp only [Event.failureKind, hr]) rfl rfl
  · rename_i addresses hr
    cases h
    refine .waited _ _ hsession ⟨rfl, by simp only [Event.failureKind, hr]⟩ (.inr ⟨_, ?_, rfl⟩)
      ⟨rfl, rfl⟩ rfl
    rfl

theorem loopHead_move {s : State} {e : Event B} (hs : s.point.session = none)
    (he : e.isQuiet ∧ e.failureKind = none) : Move random s e s.loopHead :=
  .waited _ _ hs he (.inr ⟨.waitingForNetwork, rfl, rfl⟩) ⟨rfl, rfl⟩ rfl

/-- The inversion of `step`: every accepted event is one of the moves. -/
theorem step_move {s t : State} {e : Event B} (h : step config random s e = some t) :
    Move random s e t := by
  have hstep := h
  unfold step at h
  split at h
  case h_1 =>
    cases h
    exact .produced rfl rfl
  all_goals rename_i hp
  case h_2 =>
    cases h
    exact .waited _ _ (by rw [hp]; rfl) ⟨rfl, rfl⟩ (.inl rfl) ⟨rfl, rfl⟩ rfl
  case h_3 =>
    split at h
    · cases h
      exact .waited _ _ (by rw [hp]; rfl) ⟨rfl, rfl⟩ (.inr ⟨.resolvingBroker, rfl, rfl⟩)
        ⟨rfl, rfl⟩ rfl
    · cases h
      exact .waited _ _ (by rw [hp]; rfl) ⟨rfl, rfl⟩ (.inl rfl) ⟨rfl, rfl⟩ rfl
  case h_4 | h_5 | h_20 =>
    cases h
    exact loopHead_move (by rw [hp]; rfl) ⟨rfl, rfl⟩
  case h_6 | h_8 | h_9 | h_11 =>
    cases h
    exact .external (by rw [hp]; rfl) rfl rfl rfl
  case h_7 => exact resolve_move hp hstep
  case h_10 =>
    cases h
    exact .waited _ _ (by rw [hp]; rfl) ⟨rfl, rfl⟩ (.inr ⟨.connectingSession, rfl, rfl⟩)
      ⟨rfl, rfl⟩ rfl
  case h_12 => exact connectSession_move hp hstep
  case h_13 => exact subscribe_move hp hstep
  case h_14 => exact receive_move hp hstep
  case h_15 =>
    split at h
    · cases h
    · rename_i message rest ho
      cases h
      exact .dequeued _ message rest hp rfl ho rfl
  case h_16 => exact publish_move hp hstep
  case h_17 | h_18 | h_19 =>
    cases h
    exact .stopped (by rw [hp]; rfl) rfl rfl
  case h_21 => cases h

theorem sessionError_failureKind {e : Event B} {error : Error B}
    (h : e.sessionError = some error) :
    e.failureKind = some error.kind ∧ e.isProduce = false := by
  cases e with
  | subscribe _ | receive _ | publish _ => exact ⟨by simp only [Event.failureKind, h, Option.map], rfl⟩
  | produce | ipReady _ | timer | ipDown | resolve _ | connectTransport _ | connectSession _
  | dequeue => cases h

/-- An error of an operation on the live connection always ends in a backoff. -/
theorem Move.of_sessionError {random : ℕ → ℕ} {s t : State} {e : Event B} {error : Error B}
    (hm : Move random s e t) (he : e.sessionError = some error) :
    ∃ event, s.point.session = some event ∧
      t = State.mqttBackoff random { s with client := ⟨observeError s.client.snapshot error⟩ } := by
  obtain ⟨hkind, hp⟩ := sessionError_failureKind he
  cases hm with
  | failed event error' hs _ he' ht =>
      rw [he] at he'
      cases he'
      exact ⟨event, hs, ht⟩
  | waited _ _ _ hq => exact absurd hkind (by simp [hq.2])
  | produced h | stopped _ h | refused _ _ h | fresh _ h | resumed _ h | subscribed _ _ h
  | dequeued _ _ _ _ h | published _ _ _ h =>
      subst h
      cases he
  | external _ _ hnone | received _ _ _ _ hnone =>
      rw [he] at hnone
      cases hnone

end Step

section Fields

variable (random : ℕ → ℕ) (s : State)

@[simp] theorem mqttBackoff_client : (s.mqttBackoff random).client = s.client := rfl
@[simp] theorem mqttBackoff_draws : (s.mqttBackoff random).draws = s.draws + 1 := rfl
@[simp] theorem mqttBackoff_isBackoff : (s.mqttBackoff random).point.isBackoff = true := rfl
@[simp] theorem mqttBackoff_session : (s.mqttBackoff random).point.session = none := rfl

@[simp] theorem connectionLoop_client (event : Minimq.ConnectEvent) :
    (s.connectionLoop event).client = ⟨s.client.snapshot.recordQueueDrops s.queueDrops⟩ := rfl
@[simp] theorem connectionLoop_draws (event : Minimq.ConnectEvent) :
    (s.connectionLoop event).draws = s.draws := rfl
@[simp] theorem connectionLoop_point (event : Minimq.ConnectEvent) :
    (s.connectionLoop event).point = .select event := rfl

theorem produce_fields : s.produce.client = s.client ∧ s.produce.draws = s.draws ∧
    s.produce.point = s.point := by
  unfold State.produce
  split <;> exact ⟨rfl, rfl, rfl⟩

end Fields

end EmbeddedSdk.MqttTask
