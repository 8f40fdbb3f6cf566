import EmbeddedSdk.MqttConfig
import EmbeddedSdk.MqttLifecycle

/-!
# The MQTT adapter over `minimq`

`minimq` is not part of the repository. Its types that the adapter only passes
on are the fields of `Backend`, and every call takes the answer that `minimq`
gives to the request it receives. A connection borrows the snapshot of its
client, so its operations return the snapshot with their result.
-/
namespace EmbeddedSdk.MqttMinimq
open Mqtt

/-- The `minimq` types that the adapter passes on unread, and the one peer
error that it builds itself. -/
structure Backend where
  PeerError : Type
  ResourceError : Type
  IoError : Type
  ConfigError : Type
  invalidPacket : PeerError

/-- A `minimq` whose own error values carry no data. -/
def plainBackend : Backend := ⟨Unit, Unit, Unit, Unit, ()⟩

namespace Minimq

/-- Session errors of `minimq`; `other` stands for every variant that the
adapter does not name. -/
inductive Error (B : Backend)
  | notReady
  | disconnected
  | invalidRequest
  | peer (error : B.PeerError)
  | resource (error : B.ResourceError)
  | transport (error : B.IoError)
  | writeZero
  | other

inductive PubError (B : Backend)
  | session (error : Error B)
  | payload

inductive ConnectEvent
  | connected
  | reconnected
  deriving DecidableEq, Repr

inductive QoS
  | atMostOnce
  | atLeastOnce
  | exactlyOnce
  deriving DecidableEq, Repr

structure Publication where
  topic : String
  payload : List UInt8
  qos : QoS
  deriving DecidableEq

structure Subscription where
  filter : String
  maximumQos : QoS
  deriving DecidableEq

structure InboundPublish where
  topic : String
  payload : List UInt8
  qos : QoS
  retained : Bool
  deriving DecidableEq

end Minimq

/-- Whether a composed byte stream authenticates and encrypts broker traffic. -/
inductive TransportSecurity
  | encrypted
  | plaintextFixture
  deriving DecidableEq, Repr

/-- Borrowed MQTT username and password. -/
structure Credentials where
  username : String
  password : List UInt8
  deriving DecidableEq

/-- Error detected before an MQTT session is created. -/
inductive AdapterConfigError (B : Backend)
  | emptyBuffer
  | rxBufferTooSmall (required available : ℕ)
  | credentialsRequireEncryption
  | invalidCredentials
  | backend (error : B.ConfigError)

/-- Rejects an empty or null-containing username. -/
def Credentials.new (B : Backend) (username : String) (password : List UInt8) :
    Except (AdapterConfigError B) Credentials :=
  if username.isEmpty || username.toList.contains '\x00' then .error .invalidCredentials
  else .ok ⟨username, password⟩

/-- MQTT operation error normalized by failure domain. -/
inductive Error (B : Backend)
  | notReady
  | disconnected
  | invalidRequest
  | peer (error : B.PeerError)
  | resource (error : B.ResourceError)
  | transport (error : B.IoError)
  | writeZero
  | payloadTooLarge
  | backend

variable {B : Backend}

namespace Error

/-- The stable SDK error category. -/
def kind : Error B → ErrorKind
  | notReady => .notReady
  | disconnected => .disconnected
  | invalidRequest => .configuration
  | peer _ => .protocol
  | resource _ | payloadTooLarge => .capacity
  | transport _ | writeZero => .transport
  | backend => .protocol

/-- `From<minimq::Error>`. -/
def ofMinimq : Minimq.Error B → Error B
  | .notReady => .notReady
  | .disconnected => .disconnected
  | .invalidRequest => .invalidRequest
  | .peer error => .peer error
  | .resource error => .resource error
  | .transport error => .transport error
  | .writeZero => .writeZero
  | .other => .backend

end Error

def toMinimqQos : QoS → Minimq.QoS
  | .atMostOnce => .atMostOnce
  | .atLeastOnce => .atLeastOnce

def fromMinimqQos : Minimq.QoS → Option QoS
  | .atMostOnce => some .atMostOnce
  | .atLeastOnce => some .atLeastOnce
  | .exactlyOnce => none

/-- Borrowed inbound publication. -/
structure InboundPublish where
  topic : String
  payload : List UInt8
  qos : QoS
  retained : Bool
  deriving DecidableEq

/-- `None` on an inbound QoS 2 message, which the adapter does not support. -/
def fromMinimqPublish (message : Minimq.InboundPublish) : Option InboundPublish :=
  (fromMinimqQos message.qos).map fun qos =>
    ⟨message.topic, message.payload, qos, message.retained⟩

/-- The error kinds that `observe` and `observe_error` record as a failure. -/
def isRecorded : ErrorKind → Bool
  | .transport | .protocol | .disconnected => true
  | .configuration | .capacity | .notReady => false

/-- `observe_error`; the method `observe` of a connection repeats its body. -/
def observeError (snapshot : Snapshot) (error : Error B) : Snapshot :=
  if isRecorded error.kind then snapshot.recordFailure error.kind else snapshot

/-- One long-lived MQTT session. The `minimq` session is represented by the
answers that the operations take. -/
structure Client where
  snapshot : Snapshot := {}
  deriving DecidableEq, Repr

/-- Active MQTT connection: the event that created it and the borrowed snapshot. -/
structure Connection where
  connectEvent : Minimq.ConnectEvent
  snapshot : Snapshot
  deriving DecidableEq, Repr

namespace Client

/-- Translates portable configuration into a session. `builder` is the result
of the `minimq` configuration builder. -/
def new (config : Config) (rxLen txLen : ℕ) (security : TransportSecurity)
    (credentials : Option Credentials) (builder : Except B.ConfigError Unit) :
    Except (AdapterConfigError B) Client :=
  if rxLen = 0 ∨ txLen = 0 then .error .emptyBuffer
  else if rxLen < config.maximumPacketSize.toNat then
    .error (.rxBufferTooSmall config.maximumPacketSize.toNat rxLen)
  else if security = .plaintextFixture ∧ credentials.isSome then
    .error .credentialsRequireEncryption
  else match builder with
    | .error error => .error (.backend error)
    | .ok () => .ok {}

def transition (c : Client) (state : ConnectionState) : Client :=
  { c with snapshot := c.snapshot.transition state }

def recordExternalFailure (c : Client) (error : ErrorKind) : Client :=
  { c with snapshot := c.snapshot.recordFailure error }

/-- The first half of `connect`, up to the wait for CONNACK. Dropping the
future there leaves the client in this state. -/
def beginConnect (c : Client) : Client := c.transition .connectingSession

/-- The second half of `connect`, from the answer of `minimq` on. -/
def finishConnect (c : Client) (answer : Except (Minimq.Error B) Minimq.ConnectEvent) :
    Client × Except (Error B) Minimq.ConnectEvent :=
  match answer with
  | .ok .connected => ({ c with snapshot := c.snapshot.recordConnected }, .ok .connected)
  | .ok .reconnected => ({ c with snapshot := c.snapshot.recordResumed }, .ok .reconnected)
  | .error error =>
      let error := Error.ofMinimq error
      ({ c with snapshot := c.snapshot.recordFailure error.kind }, .error error)

/-- Establishes or resumes MQTT over an already-connected byte stream. -/
def connect (c : Client) (answer : Except (Minimq.Error B) Minimq.ConnectEvent) :
    Client × Except (Error B) Minimq.ConnectEvent :=
  c.beginConnect.finishConnect answer

/-- The connection that a successful `connect` returns. -/
def connection (c : Client) (event : Minimq.ConnectEvent) : Connection := ⟨event, c.snapshot⟩

end Client

namespace Connection

/-- Whether the broker resumed an earlier session. -/
def resumed (c : Connection) : Bool := c.connectEvent == .reconnected

def recordQueueDrops (c : Connection) (count : ℕ) : Connection :=
  { c with snapshot := c.snapshot.recordQueueDrops count }

def observe (c : Connection) (error : Error B) : Connection × Error B :=
  (if isRecorded error.kind then { c with snapshot := c.snapshot.recordFailure error.kind } else c,
    error)

/-- Publishes bytes at QoS 0 or QoS 1. -/
def publish (c : Connection) (topic : TopicName) (payload : List UInt8) (qos : QoS)
    (inner : Minimq.Publication → Except (Minimq.PubError B) Unit) :
    Connection × Except (Error B) Unit :=
  match inner ⟨topic.asStr, payload, toMinimqQos qos⟩ with
  | .ok () => ({ c with snapshot := c.snapshot.recordPublish }, .ok ())
  | .error (.session error) =>
      let (c, error) := c.observe (.ofMinimq error)
      (c, .error error)
  | .error .payload => (c, .error .payloadTooLarge)

/-- Subscribes to one validated topic filter at QoS 0 or QoS 1. -/
def subscribe (c : Connection) (filter : TopicFilter) (qos : QoS)
    (inner : Minimq.Subscription → Except (Minimq.Error B) Unit) :
    Connection × Except (Error B) Unit :=
  match inner ⟨filter.asStr, toMinimqQos qos⟩ with
  | .ok () => (c, .ok ())
  | .error error =>
      let (c, error) := c.observe (.ofMinimq error)
      (c, .error error)

/-- Unsubscribes from one validated topic filter. -/
def unsubscribe (c : Connection) (filter : TopicFilter)
    (inner : String → Except (Minimq.Error B) Unit) : Connection × Except (Error B) Unit :=
  match inner filter.asStr with
  | .ok () => (c, .ok ())
  | .error error =>
      let (c, error) := c.observe (.ofMinimq error)
      (c, .error error)

/-- The common tail of `drive` and `receive` once `minimq` has a message. -/
def deliver (c : Connection) (message : Minimq.InboundPublish) :
    Connection × Except (Error B) InboundPublish :=
  match fromMinimqPublish message with
  | none =>
      let error : Error B := .peer B.invalidPacket
      ({ c with snapshot := observeError c.snapshot error }, .error error)
  | some message => ({ c with snapshot := c.snapshot.recordReceive }, .ok message)

/-- Cooperatively advances acknowledgements, replay, keepalive, and inbound traffic. -/
def drive (c : Connection) (answer : Except (Minimq.Error B) (Option Minimq.InboundPublish)) :
    Connection × Except (Error B) (Option InboundPublish) :=
  match answer with
  | .ok (some message) =>
      let (c, result) := c.deliver message
      (c, result.map some)
  | .ok none => (c, .ok none)
  | .error error =>
      let error := Error.ofMinimq error
      ({ c with snapshot := observeError c.snapshot error }, .error error)

/-- Waits for the next inbound publish while servicing all MQTT state. -/
def receive (c : Connection) (answer : Except (Minimq.Error B) Minimq.InboundPublish) :
    Connection × Except (Error B) InboundPublish :=
  match answer with
  | .ok message => c.deliver message
  | .error error =>
      let error := Error.ofMinimq error
      ({ c with snapshot := observeError c.snapshot error }, .error error)

/-- Sends MQTT DISCONNECT and marks the handle closed. -/
def disconnect (c : Connection) (answer : Except (Minimq.Error B) Unit) :
    Connection × Except (Error B) Unit :=
  match answer with
  | .ok () => ({ c with snapshot := c.snapshot.transition .waitingForNetwork }, .ok ())
  | .error error =>
      let (c, error) := c.observe (.ofMinimq error)
      (c, .error error)

end Connection

/-- The contract that all connection operations share: on success the snapshot
moves by `ok`, on an error it is exactly what `observe_error` makes of it. -/
def Observes {α : Type} (f : Connection → Connection × Except (Error B) α)
    (ok : α → Snapshot → Snapshot) : Prop :=
  ∀ c, match (f c).2 with
    | .ok value => (f c).1.snapshot = ok value c.snapshot
    | .error e => (f c).1.snapshot = observeError c.snapshot e

@[simp] theorem observe_snapshot (c : Connection) (e : Error B) :
    (c.observe e).1.snapshot = observeError c.snapshot e := by
  simp only [Connection.observe, observeError]
  split <;> rfl

@[simp] theorem observe_error (c : Connection) (e : Error B) : (c.observe e).2 = e := rfl

theorem publish_observes (topic : TopicName) (payload : List UInt8) (qos : QoS)
    (inner : Minimq.Publication → Except (Minimq.PubError B) Unit) :
    Observes (fun c => c.publish topic payload qos inner) fun _ s => s.recordPublish := by
  intro c
  simp only [Connection.publish]
  rcases inner ⟨topic.asStr, payload, toMinimqQos qos⟩ with (e | _) | _
  · simp
  · rfl
  · rfl

theorem subscribe_observes (filter : TopicFilter) (qos : QoS)
    (inner : Minimq.Subscription → Except (Minimq.Error B) Unit) :
    Observes (fun c => c.subscribe filter qos inner) fun _ s => s := by
  intro c
  simp only [Connection.subscribe]
  rcases inner ⟨filter.asStr, toMinimqQos qos⟩ with e | _
  · simp
  · rfl

theorem unsubscribe_observes (filter : TopicFilter)
    (inner : String → Except (Minimq.Error B) Unit) :
    Observes (fun c => c.unsubscribe filter inner) fun _ s => s := by
  intro c
  simp only [Connection.unsubscribe]
  rcases inner filter.asStr with e | _
  · simp
  · rfl

theorem deliver_observes (message : Minimq.InboundPublish) :
    Observes (B := B) (fun c => c.deliver message) fun _ s => s.recordReceive := by
  intro c
  simp only [Connection.deliver]
  cases fromMinimqPublish message <;> rfl

theorem drive_observes (answer : Except (Minimq.Error B) (Option Minimq.InboundPublish)) :
    Observes (fun c => c.drive answer) fun message s => message.elim s fun _ => s.recordReceive := by
  intro c
  rcases answer with e | message
  · rfl
  · cases message with
    | none => rfl
    | some message =>
        have h := deliver_observes (B := B) message c
        simp only [Connection.drive]
        cases hd : (c.deliver (B := B) message).2 with
        | ok value => simpa [hd, Except.map] using h
        | error e => simpa [hd, Except.map] using h

theorem receive_observes (answer : Except (Minimq.Error B) Minimq.InboundPublish) :
    Observes (fun c => c.receive answer) fun _ s => s.recordReceive := by
  intro c
  rcases answer with e | message
  · rfl
  · exact deliver_observes message c

theorem disconnect_observes (answer : Except (Minimq.Error B) Unit) :
    Observes (fun c => c.disconnect answer) fun _ s => s.transition .waitingForNetwork := by
  intro c
  rcases answer with e | _
  · simp only [Connection.disconnect, observe_error, observe_snapshot]
  · rfl

end EmbeddedSdk.MqttMinimq
