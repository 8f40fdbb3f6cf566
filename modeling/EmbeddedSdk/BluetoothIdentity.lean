import EmbeddedSdk.BeaconUuid
import EmbeddedSdk.PaddedBytes

/-!
# Bluetooth names, addresses and proximity frames

A device name is copied into fixed storage that leaves room for the other
structures of a legacy advertisement. An iBeacon frame is sent as 23 bytes of
manufacturer data, multi-byte values first byte first.
-/
namespace EmbeddedSdk.Bluetooth
open PaddedBytes

/-- Maximum device-name length supported by the SDK's legacy GAP profile. -/
def maxDeviceNameLen : ℕ := 22

/-- Bluetooth SIG company identifier used by Apple's iBeacon frame. -/
def ibeaconCompanyIdentifier : UInt16 := 0x004c

/-- Length of the manufacturer payload following the company identifier. -/
def ibeaconPayloadLen : ℕ := 23

/-- A BLE GAP device name in fixed storage. -/
structure DeviceName where
  bytes : Vector UInt8 maxDeviceNameLen
  len : UInt8
  deriving DecidableEq

namespace DeviceName

/-- Validates and stores a UTF-8 BLE device name. -/
def new (value : String) : Except ConfigError DeviceName :=
  if value.isEmpty then .error .emptyDeviceName
  else if value.utf8ByteSize > maxDeviceNameLen then .error .deviceNameTooLong
  else .ok ⟨padded maxDeviceNameLen 0 value.toUTF8.data, .ofNat value.utf8ByteSize⟩

/-- The stored prefix as text, or the empty string if it is not UTF-8. -/
def asStr (name : DeviceName) : String :=
  (String.fromUTF8? ⟨name.bytes.toArray.extract 0 name.len.toNat⟩).getD ""

/-- What the constructor stores when it accepts a value. -/
theorem eq_of_new {value : String} {name : DeviceName} (h : new value = .ok name) :
    value.utf8ByteSize ≤ maxDeviceNameLen ∧
      name = ⟨padded maxDeviceNameLen 0 value.toUTF8.data, .ofNat value.utf8ByteSize⟩ := by
  unfold new at h
  split at h
  next hempty => nomatch h
  next hnonempty =>
    split at h
    next hlong => nomatch h
    next hsize => exact ⟨Nat.le_of_not_lt hsize, (Except.ok.inj h).symm⟩

end DeviceName

/-- Validated interval for legacy BLE advertising. -/
structure AdvertisingInterval where
  millis : UInt16
  permitted : 20 ≤ millis ∧ millis ≤ 10240
  deriving DecidableEq

namespace AdvertisingInterval

def minMillis : UInt16 := 20
def maxMillis : UInt16 := 10240

/-- Validates an interval expressed in milliseconds. -/
def fromMillis (milliseconds : UInt16) : Except ConfigError AdvertisingInterval :=
  if h : milliseconds < minMillis ∨ milliseconds > maxMillis then
    .error .advertisingIntervalOutOfRange
  else
    .ok ⟨milliseconds, UInt16.not_lt.mp fun hlt => h (.inl hlt),
      UInt16.not_lt.mp fun hlt => h (.inr hlt)⟩

theorem fromMillis_eq_ok_iff {milliseconds : UInt16} {interval : AdvertisingInterval} :
    fromMillis milliseconds = .ok interval ↔ interval.millis = milliseconds := by
  unfold fromMillis
  obtain ⟨millis, hlow, hhigh⟩ := interval
  split
  next hout =>
    simp only [reduceCtorEq, false_iff]
    rintro rfl
    exact hout.elim (UInt16.not_lt.mpr hlow) (UInt16.not_lt.mpr hhigh)
  next => simp [eq_comm]

end AdvertisingInterval

/-- `u16::to_be_bytes`. -/
def toBeBytes (value : UInt16) : Vector UInt8 2 := #v[(value >>> 8).toUInt8, value.toUInt8]

theorem toBeBytes_injective {a b : UInt16} (h : toBeBytes a = toBeBytes b) : a = b := by
  have hhigh : (a >>> 8).toUInt8 = (b >>> 8).toUInt8 := congrArg (fun v => v[0]) h
  have hlow : a.toUInt8 = b.toUInt8 := congrArg (fun v => v[1]) h
  have hhigh' : a.toNat / 256 % 256 = b.toNat / 256 % 256 := by
    simpa [Nat.shiftRight_eq_div_pow] using congrArg UInt8.toNat hhigh
  have hlow' : a.toNat % 256 = b.toNat % 256 := by
    simpa using congrArg UInt8.toNat hlow
  have ha := a.toNat_lt
  have hb := b.toNat_lt
  apply UInt16.toNat_inj.mp
  omega

/-- An iBeacon-compatible proximity frame. -/
structure IBeacon where
  uuid : BeaconUuid
  major : UInt16
  minor : UInt16
  measuredPower : Int8
  deriving DecidableEq

namespace IBeacon

/-- The bytes carried after the Apple company identifier. -/
def manufacturerPayload (frame : IBeacon) : Vector UInt8 ibeaconPayloadLen :=
  .cast (by decide) <|
    (#v[0x02, 0x15] : Vector UInt8 2) ++ frame.uuid.bytes ++ toBeBytes frame.major ++
      toBeBytes frame.minor ++ #v[frame.measuredPower.toUInt8]

theorem manufacturerPayload_toList (frame : IBeacon) :
    frame.manufacturerPayload.toList =
      [0x02, 0x15] ++ (frame.uuid.bytes.toList ++ ((toBeBytes frame.major).toList ++
        ((toBeBytes frame.minor).toList ++ [frame.measuredPower.toUInt8]))) := by
  simp only [manufacturerPayload, Vector.toList_cast, Vector.toList_append, List.append_assoc]
  rfl

/-- The payload determines the frame: its parts have fixed lengths. -/
theorem manufacturerPayload_inj {frame other : IBeacon}
    (h : frame.manufacturerPayload = other.manufacturerPayload) : frame = other := by
  have hlist := congrArg Vector.toList h
  rw [manufacturerPayload_toList, manufacturerPayload_toList] at hlist
  obtain ⟨-, hlist⟩ := List.append_inj hlist (by simp)
  obtain ⟨huuid, hlist⟩ := List.append_inj hlist (by simp)
  obtain ⟨hmajor, hlist⟩ := List.append_inj hlist (by simp)
  obtain ⟨hminor, hlist⟩ := List.append_inj hlist (by simp)
  have hpower : frame.measuredPower.toUInt8 = other.measuredPower.toUInt8 := by
    simpa using hlist
  have hsigned := congrArg UInt8.toInt8 hpower
  rw [Int8.toInt8_toUInt8, Int8.toInt8_toUInt8] at hsigned
  have hmajor' := toBeBytes_injective (Vector.toList_inj.mp hmajor)
  have hminor' := toBeBytes_injective (Vector.toList_inj.mp hminor)
  obtain ⟨⟨uuid⟩, major, minor, power⟩ := frame
  obtain ⟨⟨uuid'⟩, major', minor', power'⟩ := other
  have huuid' : uuid = uuid' := Vector.toList_inj.mp huuid
  simp_all

end IBeacon

/-- A stable random BLE device address, most significant byte first. -/
structure StaticRandomAddress where
  bytes : Vector UInt8 6
  deriving DecidableEq

namespace StaticRandomAddress

/-- Derives a static random address from six stable seed bytes. The random part
must be neither all zeroes nor all ones. -/
def fromSeed (seed : Vector UInt8 6) : StaticRandomAddress :=
  let seed := seed.set 0 (seed[0] ||| 0b11000000)
  let allZeroes := seed == #v[0b11000000, 0, 0, 0, 0, 0]
  let allOnes := seed == #v[0xff, 0xff, 0xff, 0xff, 0xff, 0xff]
  if allZeroes || allOnes then ⟨seed.set 5 (seed[5] ^^^ 1)⟩ else ⟨seed⟩

end StaticRandomAddress

end EmbeddedSdk.Bluetooth
