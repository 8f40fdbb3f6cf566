import Mathlib.Data.List.Basic

/-!
# Keys and records of the persistent store

A key is packed into the 32-bit key of the storage engine. A record is a tag
byte, followed by the value if the tag says that there is one. Deleting a key
stores a record without a value.
-/
namespace EmbeddedSdk.Storage

/-- Stable identifier for one value. -/
structure Key where
  namespaceId : UInt16
  record : UInt16
  deriving DecidableEq

namespace Key

def fromRaw (raw : UInt32) : Key where
  namespaceId := (raw >>> 16).toUInt16
  record := raw.toUInt16

def toRaw (key : Key) : UInt32 := key.namespaceId.toUInt32 <<< 16 ||| key.record.toUInt32

theorem toNat_toRaw (key : Key) :
    key.toRaw.toNat = key.namespaceId.toNat * 65536 + key.record.toNat := by
  have hnamespace := key.namespaceId.toNat_lt
  have hrecord := key.record.toNat_lt
  have hshift : key.namespaceId.toNat <<< 16 % 4294967296 = key.namespaceId.toNat <<< 16 := by
    rw [Nat.shiftLeft_eq]
    omega
  have hor := Nat.shiftLeft_add_eq_or_of_lt hrecord key.namespaceId.toNat
  rw [toRaw, UInt32.toNat_or, UInt32.toNat_shiftLeft]
  simp only [UInt16.toNat_toUInt32, UInt32.reduceToNat, Nat.reduceMod, Nat.reducePow, hshift]
  rw [← hor, Nat.shiftLeft_eq]

/-- The packed representation keeps both halves. -/
@[simp] theorem fromRaw_toRaw (key : Key) : fromRaw key.toRaw = key := by
  obtain ⟨n, r⟩ := key
  have hn := n.toNat_lt
  have hr := r.toNat_lt
  simp only [fromRaw, Key.mk.injEq]
  constructor
  · apply UInt16.toNat_inj.mp
    rw [UInt32.toNat_toUInt16, UInt32.toNat_shiftRight, toNat_toRaw]
    simp only [UInt32.reduceToNat, Nat.reduceMod, Nat.shiftRight_eq_div_pow, Nat.reducePow]
    omega
  · apply UInt16.toNat_inj.mp
    rw [UInt32.toNat_toUInt16, toNat_toRaw]
    simp only [Nat.reducePow]
    omega

theorem toRaw_injective : Function.Injective toRaw := by
  intro key key' h
  rw [← fromRaw_toRaw key, h, fromRaw_toRaw]

end Key

/-- The errors of the engine's record codec. -/
inductive SerializationError
  | bufferTooSmall
  | invalidData
  | invalidFormat
  | custom (code : Int32)
  deriving DecidableEq

/-- What is stored under a key. -/
inductive StoredValue
  | live (value : List UInt8)
  | tombstone
  deriving DecidableEq

namespace StoredValue

def tag : StoredValue → UInt8
  | live _ => 1
  | tombstone => 0

def bytes : StoredValue → List UInt8
  | live value => value
  | tombstone => []

/-- Writes the record to the front of a buffer and returns its length. -/
def serializeInto (value : StoredValue) (buffer : List UInt8) :
    Except SerializationError (List UInt8 × ℕ) :=
  if value.bytes.length + 1 ≤ buffer.length then
    .ok (value.tag :: value.bytes ++ buffer.drop (value.bytes.length + 1), value.bytes.length + 1)
  else .error .bufferTooSmall

/-- Reads a record and returns how many bytes it took. -/
def deserializeFrom : List UInt8 → Except SerializationError (StoredValue × ℕ)
  | [0] => .ok (tombstone, 1)
  | 1 :: value => .ok (live value, value.length + 1)
  | _ => .error .invalidFormat

/-- The record of a value. -/
def encoding (value : StoredValue) : List UInt8 := value.tag :: value.bytes

/-- The record that a value leaves in a buffer of `size` bytes. -/
def Serializes (value : StoredValue) (size : ℕ) (record : List UInt8) : Prop :=
  ∃ buffer written len, buffer.length = size ∧
    value.serializeInto buffer = .ok (written, len) ∧ record = written.take len

theorem Serializes.eq_encoding {value : StoredValue} {size : ℕ} {record : List UInt8}
    (h : value.Serializes size record) : record = value.encoding := by
  obtain ⟨buffer, written, len, -, hwritten, rfl⟩ := h
  unfold serializeInto at hwritten
  split at hwritten
  · rw [Except.ok.injEq, Prod.mk.injEq] at hwritten
    obtain ⟨rfl, rfl⟩ := hwritten
    simp [encoding]
  · simp at hwritten

@[simp] theorem deserializeFrom_encoding (value : StoredValue) :
    deserializeFrom value.encoding = .ok (value, value.encoding.length) := by
  cases value with
  | live value => simp [encoding, tag, bytes, deserializeFrom]
  | tombstone => simp [encoding, tag, bytes, deserializeFrom]

end StoredValue

end EmbeddedSdk.Storage
