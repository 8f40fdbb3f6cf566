import EmbeddedSdk.MachineInt
import EmbeddedSdk.MqttConfig

/-!
# MQTT lifecycle snapshot and reconnect backoff

The snapshot is the health record that firmware reports: a lifecycle state, six
saturating 32-bit counters and the latest normalized error. The backoff keeps
an 8-bit attempt counter beside its policy.
-/
namespace EmbeddedSdk.Mqtt
open MachineInt

/-- MQTT lifecycle state, separate from link, DNS, TCP, and TLS state. -/
inductive ConnectionState
  | disabled
  | waitingForNetwork
  | resolvingBroker
  | connectingTransport
  | authenticatingTransport
  | connectingSession
  | connected
  | resumed
  | backingOff
  deriving DecidableEq, Repr

/-- Backend-independent MQTT error category. -/
inductive ErrorKind
  | configuration
  | capacity
  | transport
  | protocol
  | disconnected
  | notReady
  deriving DecidableEq, Repr

/-- Stable counters and state suitable for health telemetry. -/
structure Snapshot where
  state : ConnectionState := .disabled
  connections : ℕ := 0
  resumptions : ℕ := 0
  failures : ℕ := 0
  publishes : ℕ := 0
  received : ℕ := 0
  queueDrops : ℕ := 0
  lastError : Option ErrorKind := none
  deriving DecidableEq, Repr

namespace Snapshot

/-- Moves to a lifecycle state without changing counters. -/
def transition (s : Snapshot) (state : ConnectionState) : Snapshot := { s with state := state }

def recordConnected (s : Snapshot) : Snapshot :=
  { s with
    state := .connected
    connections := saturatingAdd u32Max s.connections 1
    lastError := none }

def recordResumed (s : Snapshot) : Snapshot :=
  { s with
    state := .resumed
    resumptions := saturatingAdd u32Max s.resumptions 1
    lastError := none }

def recordFailure (s : Snapshot) (error : ErrorKind) : Snapshot :=
  { s with
    state := .backingOff
    failures := saturatingAdd u32Max s.failures 1
    lastError := some error }

def recordPublish (s : Snapshot) : Snapshot :=
  { s with publishes := saturatingAdd u32Max s.publishes 1 }

def recordReceive (s : Snapshot) : Snapshot :=
  { s with received := saturatingAdd u32Max s.received 1 }

def recordQueueDrops (s : Snapshot) (count : ℕ) : Snapshot :=
  { s with queueDrops := saturatingAdd u32Max s.queueDrops count }

end Snapshot

/-- Bounded exponential reconnect policy with caller-provided jitter. -/
structure ReconnectPolicy where
  initialDelayMs : ℕ
  maximumDelayMs : ℕ
  jitterMs : ℕ
  deriving DecidableEq, Repr

/-- Mutable reconnect attempt state. -/
structure ReconnectBackoff where
  policy : ReconnectPolicy
  attempts : ℕ
  deriving DecidableEq, Repr

/-- Validates a reconnect delay range. -/
def ReconnectPolicy.new (initialDelayMs maximumDelayMs jitterMs : UInt32) :
    Except ConfigError ReconnectPolicy :=
  if initialDelayMs = 0 ∨ maximumDelayMs < initialDelayMs then .error .invalidReconnectPolicy
  else .ok ⟨initialDelayMs.toNat, maximumDelayMs.toNat, jitterMs.toNat⟩

/-- The policy that the firmware uses. -/
def ReconnectPolicy.default : ReconnectPolicy := ⟨1000, 60000, 250⟩

def ReconnectPolicy.backoff (policy : ReconnectPolicy) : ReconnectBackoff := ⟨policy, 0⟩

namespace ReconnectBackoff

/-- Resets the exponential sequence after a successful session. -/
def reset (b : ReconnectBackoff) : ReconnectBackoff := { b with attempts := 0 }

/-- `checked_shl` of a 32-bit value: the bits shifted out are lost, and only a
shift by 32 or more is refused. -/
def checkedShl (value shift : ℕ) : Option ℕ :=
  if shift < 32 then some (value * 2 ^ shift % 4294967296) else none

/-- The next delay with its jitter. The attempt counter saturates at 255. -/
def nextDelayMs (b : ReconnectBackoff) (jitter : ℕ) : ℕ × ReconnectBackoff :=
  let shift := min b.attempts 31
  let base := min ((checkedShl b.policy.initialDelayMs shift).getD u32Max) b.policy.maximumDelayMs
  let jitter :=
    if b.policy.jitterMs = 0 then 0 else jitter % saturatingAdd u32Max b.policy.jitterMs 1
  (min (saturatingAdd u32Max base jitter) b.policy.maximumDelayMs,
    { b with attempts := saturatingAdd 255 b.attempts 1 })

end ReconnectBackoff

end EmbeddedSdk.Mqtt
