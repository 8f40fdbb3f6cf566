import EmbeddedSdk.PaddedBytes

/-!
# Portable Wi-Fi configuration

Network names are bytes, passphrases are text; both are copied into fixed arrays
beside an 8-bit length. A station configuration pairs a name with the
authentication that its constructor checked.
-/
namespace EmbeddedSdk.Wifi
open PaddedBytes

/-- Maximum IEEE 802.11 service-set identifier length, in bytes. -/
def maxSsidLen : ℕ := 32

/-- Maximum WPA personal passphrase or raw PSK length, in bytes. -/
def maxPassphraseLen : ℕ := 64

/-- Error returned while constructing a Wi-Fi value. -/
inductive ConfigError
  | emptySsid
  | ssidTooLong
  | invalidPassphrase
  | invalidReconnectPolicy
  deriving DecidableEq, Repr

/-- A service-set identifier in fixed storage. -/
structure Ssid where
  bytes : Vector UInt8 maxSsidLen
  len : UInt8
  deriving DecidableEq

namespace Ssid

/-- Creates an SSID from its exact over-the-air bytes. -/
def new (value : Array UInt8) : Except ConfigError Ssid :=
  if value.size > maxSsidLen then .error .ssidTooLong
  else .ok ⟨padded maxSsidLen 0 value, .ofNat value.size⟩

/-- Creates an SSID from text. -/
def tryFrom (value : String) : Except ConfigError Ssid := new value.toUTF8.data

def asBytes (ssid : Ssid) : Array UInt8 := ssid.bytes.toArray.extract 0 ssid.len.toNat

/-- The SSID as text, when it is UTF-8. -/
def asStr (ssid : Ssid) : Option String := String.fromUTF8? ⟨ssid.asBytes⟩

def isEmpty (ssid : Ssid) : Bool := ssid.len == 0

/-- What the constructor stores when it accepts a value. -/
theorem eq_of_new {value : Array UInt8} {ssid : Ssid} (h : new value = .ok ssid) :
    value.size ≤ maxSsidLen ∧ ssid = ⟨padded maxSsidLen 0 value, .ofNat value.size⟩ := by
  unfold new at h
  by_cases hlong : value.size > maxSsidLen
  · rw [if_pos hlong] at h
    nomatch h
  · rw [if_neg hlong] at h
    exact ⟨Nat.le_of_not_lt hlong, (Except.ok.inj h).symm⟩

theorem new_isOk (value : Array UInt8) : (new value).isOk = true ↔ value.size ≤ maxSsidLen := by
  unfold new
  split <;> simp [Except.isOk, Except.toBool] <;> omega

theorem tryFrom_isOk (value : String) :
    (tryFrom value).isOk = true ↔ value.utf8ByteSize ≤ maxSsidLen :=
  new_isOk value.toUTF8.data

end Ssid

/-- The hexadecimal digits of ASCII. -/
def isAsciiHexdigit (byte : UInt8) : Bool :=
  (48 ≤ byte && byte ≤ 57) || (65 ≤ byte && byte ≤ 70) || (97 ≤ byte && byte ≤ 102)

/-- A WPA personal passphrase in fixed storage. -/
structure Passphrase where
  bytes : Vector UInt8 maxPassphraseLen
  len : UInt8
  deriving DecidableEq

namespace Passphrase

/-- Stores a passphrase of 8 to 63 bytes, or a key of 64 hexadecimal digits. -/
def new (value : String) : Except ConfigError Passphrase :=
  let bytes := value.toUTF8.data
  let valid := (8 ≤ bytes.size && bytes.size < maxPassphraseLen) ||
    (bytes.size == maxPassphraseLen && bytes.all isAsciiHexdigit)
  if !valid then .error .invalidPassphrase
  else .ok ⟨padded maxPassphraseLen 0 bytes, .ofNat bytes.size⟩

/-- What the constructor stores when it accepts a value. -/
theorem eq_of_new {value : String} {passphrase : Passphrase} (h : new value = .ok passphrase) :
    value.utf8ByteSize ≤ maxPassphraseLen ∧
      passphrase = ⟨padded maxPassphraseLen 0 value.toUTF8.data, .ofNat value.utf8ByteSize⟩ := by
  simp only [new] at h
  split at h
  next hinvalid => nomatch h
  next hvalid =>
    have hsize : value.toUTF8.data.size ≤ maxPassphraseLen := by
      simp only [Bool.not_eq_true, Bool.not_eq_false', Bool.or_eq_true, Bool.and_eq_true,
        decide_eq_true_eq, beq_iff_eq] at hvalid
      omega
    exact ⟨hsize, (Except.ok.inj h).symm⟩

/-- The stored prefix as text, or the empty string if it is not UTF-8. -/
def asStr (passphrase : Passphrase) : String :=
  (String.fromUTF8? ⟨passphrase.bytes.toArray.extract 0 passphrase.len.toNat⟩).getD ""

end Passphrase

/-- Personal Wi-Fi authentication supported by the portable station contract. -/
inductive Authentication
  | «open»
  | wpa2Personal
  | wpa3Personal
  | wpa2Wpa3Personal
  deriving DecidableEq, Repr

/-- Validated station-mode configuration. -/
structure StationConfig where
  ssid : Ssid
  authentication : Authentication
  passphrase : Option Passphrase
  deriving DecidableEq

namespace StationConfig

def validateSsid (ssid : Ssid) : Except ConfigError Unit :=
  if ssid.isEmpty then .error .emptySsid else .ok ()

/-- Configuration for an open network. -/
def «open» (ssid : Ssid) : Except ConfigError StationConfig := do
  validateSsid ssid
  .ok ⟨ssid, .«open», none⟩

/-- Configuration for a WPA personal network. -/
def personal (ssid : Ssid) (passphrase : Passphrase) (authentication : Authentication) :
    Except ConfigError StationConfig := do
  validateSsid ssid
  if authentication = .«open» then .error .invalidPassphrase
  else .ok ⟨ssid, authentication, some passphrase⟩

end StationConfig

/-- Security advertised by a discovered or connected network. -/
inductive Security
  | «open»
  | wep
  | wpa
  | wpa2Personal
  | wpa3Personal
  | enterprise
  | unknown
  deriving DecidableEq, Repr

/-- Portable information about a discovered access point. -/
structure AccessPoint where
  ssid : Ssid
  bssid : Vector UInt8 6
  channel : UInt8
  signalStrengthDbm : Int8
  security : Security
  deriving DecidableEq

/-- Portable information returned after station association succeeds. -/
structure ConnectedStation where
  ssid : Ssid
  bssid : Vector UInt8 6
  channel : UInt8
  security : Security
  deriving DecidableEq

/-- High-level lifecycle state shared by platform Wi-Fi implementations. -/
inductive WifiState
  | disabled
  | starting
  | ready
  | scanning
  | connecting
  | connected
  | disconnected
  | failed
  deriving DecidableEq, Repr

end EmbeddedSdk.Wifi
