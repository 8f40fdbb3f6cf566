import EmbeddedSdk.PaddedBytes

/-!
# Portable MQTT configuration

Names, filters and identifiers are copied into fixed arrays beside a 16-bit
length. A validator runs before the copy. Lengths are counted in UTF-8 bytes,
the characters that the validators look for are single bytes of UTF-8.
-/
namespace EmbeddedSdk.Mqtt
open PaddedBytes

/-- Maximum broker hostname length accepted by the SDK. -/
def maxHostnameLen : ℕ := 253

/-- Maximum MQTT client identifier length accepted by the SDK. -/
def maxClientIdLen : ℕ := 64

/-- Maximum topic or topic-filter length accepted by the SDK. -/
def maxTopicLen : ℕ := 256

/-- Largest MQTT packet this first SDK slice supports. -/
def maxPacketSize : ℕ := 65535

/-- Error returned while constructing portable MQTT configuration. -/
inductive ConfigError
  | empty
  | tooLong
  | invalidHostname
  | invalidClientId
  | invalidTopicName
  | invalidTopicFilter
  | invalidPort
  | invalidMaximumPacketSize
  | invalidReconnectPolicy
  deriving DecidableEq, Repr

/-- The storage behind every `bounded_text!` type. -/
structure BoundedText (capacity : ℕ) where
  bytes : Vector UInt8 capacity
  len : UInt16
  deriving DecidableEq

namespace BoundedText

/-- Validates and copies a value into zeroed fixed-capacity storage. -/
def new (capacity : ℕ) (validator : String → Except ConfigError Unit) (value : String) :
    Except ConfigError (BoundedText capacity) :=
  if value.isEmpty then .error .empty
  else if value.utf8ByteSize > capacity then .error .tooLong
  else do
    validator value
    .ok ⟨Vector.ofFn fun i => value.toUTF8.data.getD i 0, .ofNat value.utf8ByteSize⟩

/-- The stored prefix as text, or the empty string if it is not UTF-8. -/
def asStr {capacity : ℕ} (text : BoundedText capacity) : String :=
  (String.fromUTF8? ⟨text.bytes.toArray.extract 0 text.len.toNat⟩).getD ""

/-- A value is accepted when it is neither empty nor too long and passes its
validator. -/
theorem new_isOk {capacity : ℕ} {validator : String → Except ConfigError Unit} {value : String} :
    (new capacity validator value).isOk = true ↔
      (1 ≤ value.utf8ByteSize ∧ value.utf8ByteSize ≤ capacity) ∧
        (validator value).isOk = true := by
  have hempty : value.isEmpty = true ↔ value.utf8ByteSize = 0 :=
    String.isEmpty_iff_utf8ByteSize_eq_zero
  unfold new
  by_cases h0 : value.isEmpty = true
  · rw [if_pos h0, hempty.mp h0]
    simp [Except.isOk, Except.toBool]
  · have hpos : value.utf8ByteSize ≠ 0 := mt hempty.mpr h0
    rw [if_neg h0]
    by_cases hlong : value.utf8ByteSize > capacity
    · have hlength : ¬ value.utf8ByteSize ≤ capacity := by omega
      rw [if_pos hlong]
      simp [Except.isOk, Except.toBool, hlength]
    · rw [if_neg hlong]
      have hlength : 1 ≤ value.utf8ByteSize ∧ value.utf8ByteSize ≤ capacity := by omega
      cases validator value with
      | error e => simp [Except.isOk, Except.toBool, bind, Except.bind]
      | ok u => simp [Except.isOk, Except.toBool, bind, Except.bind, hlength]

/-- What the constructor stores when it accepts a value. -/
theorem eq_of_new {capacity : ℕ} {validator : String → Except ConfigError Unit} {value : String}
    {text : BoundedText capacity} (h : new capacity validator value = .ok text) :
    value.utf8ByteSize ≤ capacity ∧
      text = ⟨padded capacity 0 value.toUTF8.data, .ofNat value.utf8ByteSize⟩ := by
  obtain ⟨hsize, -⟩ := new_isOk.mp (congrArg Except.isOk h)
  unfold new at h
  split at h
  next hempty => nomatch h
  next hnonempty =>
    rw [if_neg (Nat.not_lt.mpr hsize.2)] at h
    cases hvalid : validator value with
    | error e =>
        rw [hvalid] at h
        nomatch h
    | ok u =>
        rw [hvalid] at h
        exact ⟨hsize.2, (Except.ok.inj h).symm⟩

/-- The types of `bounded_text!` differ in capacity and validator only. -/
theorem new_storesText {capacity : ℕ} (hcapacity : capacity < 65536)
    (validator : String → Except ConfigError Unit) :
    StoresText (new capacity validator) (fun v => v.bytes)
      (fun v => v.len.toNat) (fun v => v.asStr) := by
  apply storesText
  · intro s v h
    obtain ⟨hsize, hv⟩ := eq_of_new h
    subst hv
    have hcast : s.utf8ByteSize < 65536 := Nat.lt_of_le_of_lt hsize hcapacity
    exact ⟨hsize, rfl, Nat.mod_eq_of_lt hcast⟩
  · intro v
    rfl

end BoundedText

/-- The UTF-8 bytes of a piece of text. -/
def utf8 (text : List Char) : List UInt8 := text.flatMap String.utf8EncodeChar

def isAsciiAlphanumeric (byte : UInt8) : Bool :=
  (48 ≤ byte && byte ≤ 57) || (65 ≤ byte && byte ≤ 90) || (97 ≤ byte && byte ≤ 122)

/-- One label of a hostname, as the closure of `validate_hostname` rejects it.
The byte 45 is the hyphen. -/
def invalidLabel (label : List Char) : Bool :=
  label.isEmpty || decide ((utf8 label).length > 63) ||
    label.head? == some '-' || label.getLast? == some '-' ||
    !(utf8 label).all fun byte => isAsciiAlphanumeric byte || byte == 45

def validateHostname (value : String) : Except ConfigError Unit :=
  if value.toList.getLast? == some '.' || (value.toList.splitOn '.').any invalidLabel then
    .error .invalidHostname
  else .ok ()

def validateClientId (value : String) : Except ConfigError Unit :=
  if value.toList.contains '\x00' then .error .invalidClientId else .ok ()

def validateTopicName (value : String) : Except ConfigError Unit :=
  if value.toList.any fun c => c == '\x00' || c == '+' || c == '#' then
    .error .invalidTopicName
  else .ok ()

/-- One level of a topic filter, as the loop of `validate_topic_filter` rejects it. -/
def invalidLevel (levelCount index : ℕ) (level : List Char) : Bool :=
  level.contains '\x00' || (level.contains '+' && level != ['+']) ||
    (level.contains '#' && (level != ['#'] || index + 1 != levelCount))

def validateTopicFilter (value : String) : Except ConfigError Unit :=
  let levels := value.toList.splitOn '/'
  if levels.zipIdx.any fun (level, index) => invalidLevel levels.length index level then
    .error .invalidTopicFilter
  else .ok ()

/-- A validated, bounded DNS broker hostname. -/
abbrev BrokerHostname := BoundedText maxHostnameLen

def BrokerHostname.new : String → Except ConfigError BrokerHostname :=
  BoundedText.new maxHostnameLen validateHostname

/-- A validated, bounded MQTT client identifier. -/
abbrev ClientId := BoundedText maxClientIdLen

def ClientId.new : String → Except ConfigError ClientId :=
  BoundedText.new maxClientIdLen validateClientId

/-- A validated MQTT topic name without wildcards. -/
abbrev TopicName := BoundedText maxTopicLen

def TopicName.new : String → Except ConfigError TopicName :=
  BoundedText.new maxTopicLen validateTopicName

/-- A validated MQTT subscription filter. -/
abbrev TopicFilter := BoundedText maxTopicLen

def TopicFilter.new : String → Except ConfigError TopicFilter :=
  BoundedText.new maxTopicLen validateTopicFilter

/-- A validated non-zero TCP port. -/
structure BrokerPort where
  value : UInt16
  nonzero : value ≠ 0
  deriving DecidableEq

def BrokerPort.new (value : UInt16) : Except ConfigError BrokerPort :=
  if h : value = 0 then .error .invalidPort else .ok ⟨value, h⟩

/-- Validated portable MQTT session configuration. -/
structure Config where
  hostname : BrokerHostname
  port : BrokerPort
  clientId : ClientId
  keepAliveSeconds : UInt16
  sessionExpirySeconds : UInt32
  maximumPacketSize : UInt32
  deriving DecidableEq

def Config.new (hostname : BrokerHostname) (port : BrokerPort) (clientId : ClientId)
    (keepAliveSeconds : UInt16) (sessionExpirySeconds maximumPacketSize : UInt32) :
    Except ConfigError Config :=
  if maximumPacketSize = 0 ∨ maximumPacketSize.toNat > maxPacketSize then
    .error .invalidMaximumPacketSize
  else .ok ⟨hostname, port, clientId, keepAliveSeconds, sessionExpirySeconds, maximumPacketSize⟩

/-- MQTT quality of service supported by the first adapter slice. -/
inductive QoS
  | atMostOnce
  | atLeastOnce
  deriving DecidableEq, Repr

end EmbeddedSdk.Mqtt
