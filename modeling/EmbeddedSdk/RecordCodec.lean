import EmbeddedSdk.SequentialStore

/-!
# The stored-record codec is exact

A record is read back exactly where one was written, and the size check of `put`
refuses exactly the values whose record does not fit behind the key.
-/
namespace EmbeddedSdk.Storage

namespace StoredValue

theorem length_encoding (v : StoredValue) : v.encoding.length = v.bytes.length + 1 := rfl

/-- The record goes to the front of the buffer, and the rest stays. -/
theorem serializeInto_of_le {v : StoredValue} {buffer : List UInt8}
    (h : v.encoding.length ≤ buffer.length) :
    v.serializeInto buffer =
      .ok (v.encoding ++ buffer.drop v.encoding.length, v.encoding.length) := by
  rw [length_encoding] at h
  unfold serializeInto
  rw [if_pos h]
  rfl

theorem serializeInto_of_lt {v : StoredValue} {buffer : List UInt8}
    (h : buffer.length < v.encoding.length) :
    v.serializeInto buffer = .error .bufferTooSmall := by
  rw [length_encoding] at h
  unfold serializeInto
  rw [if_neg (by omega)]

theorem serializeInto_error_iff (v : StoredValue) (buffer : List UInt8) :
    v.serializeInto buffer = .error .bufferTooSmall ↔ buffer.length < v.encoding.length := by
  constructor
  · intro h
    by_contra hle
    rw [serializeInto_of_le (by omega)] at h
    simp at h
  · exact serializeInto_of_lt

/-- Whatever is read was written by the codec. -/
theorem encoding_of_deserializeFrom {bytes : List UInt8} {v : StoredValue} {n : ℕ}
    (h : deserializeFrom bytes = .ok (v, n)) : v.encoding = bytes ∧ n = bytes.length := by
  unfold deserializeFrom at h
  split at h
  · cases h
    exact ⟨rfl, rfl⟩
  · cases h
    exact ⟨rfl, rfl⟩
  · simp at h

/-- The record of a value fits behind the key exactly when `put` accepts the value. -/
theorem length_encoding_le_iff {scratch : ℕ} (h : encodingOverhead ≤ scratch)
    (value : List UInt8) :
    (live value).encoding.length ≤ scratch - keySize ↔ value.length ≤ maxValueSize scratch := by
  rw [length_encoding, bytes, maxValueSize]
  rw [encodingOverhead] at h ⊢
  omega

end StoredValue

open StoredValue

/-- The codec writes a record as a prefix or not at all, reads back exactly the
records, and the limit of `put` is where records stop to fit. -/
theorem record_codec_exact :
    (∀ (v : StoredValue) (buffer : List UInt8),
      (v.serializeInto buffer = .error .bufferTooSmall ↔ buffer.length < v.encoding.length) ∧
        (¬ buffer.length < v.encoding.length → v.serializeInto buffer =
          .ok (v.encoding ++ buffer.drop v.encoding.length, v.encoding.length))) ∧
      (∀ v : StoredValue, deserializeFrom v.encoding = .ok (v, v.encoding.length)) ∧
      (∀ bytes, (∃ result, deserializeFrom bytes = .ok result) ↔
        ∃ v : StoredValue, bytes = v.encoding) ∧
      (∀ bytes v n, deserializeFrom bytes = .ok (v, n) → v.encoding = bytes ∧ n = bytes.length) ∧
      (live []).encoding ≠ tombstone.encoding ∧
      ∀ scratch, encodingOverhead ≤ scratch → ∀ buffer : List UInt8,
        buffer.length = scratch - keySize →
          (∀ value, value.length ≤ maxValueSize scratch →
            ∃ result, (live value).serializeInto buffer = .ok result) ∧
          (∃ result, tombstone.serializeInto buffer = .ok result) ∧
          ∀ value, value.length > maxValueSize scratch →
            (live value).serializeInto buffer = .error .bufferTooSmall := by
  refine ⟨?_, deserializeFrom_encoding, ?_, ?_, ?_, ?_⟩
  · intro v buffer
    exact ⟨serializeInto_error_iff v buffer, fun h => serializeInto_of_le (Nat.le_of_not_lt h)⟩
  · intro bytes
    constructor
    · rintro ⟨⟨v, n⟩, h⟩
      exact ⟨v, (encoding_of_deserializeFrom h).1.symm⟩
    · rintro ⟨v, rfl⟩
      exact ⟨_, deserializeFrom_encoding v⟩
  · intro bytes v n h
    exact encoding_of_deserializeFrom h
  · decide
  · intro scratch hscratch buffer hbuffer
    refine ⟨?_, ?_, ?_⟩
    · intro value hvalue
      rw [← length_encoding_le_iff hscratch, ← hbuffer] at hvalue
      exact ⟨_, serializeInto_of_le hvalue⟩
    · have htombstone : tombstone.encoding.length ≤ buffer.length := by
        rw [hbuffer, length_encoding, bytes, List.length_nil]
        rw [encodingOverhead] at hscratch
        omega
      exact ⟨_, serializeInto_of_le htombstone⟩
    · intro value hvalue
      have hlong := mt (length_encoding_le_iff hscratch value).mp (Nat.not_le_of_gt hvalue)
      rw [← hbuffer] at hlong
      exact serializeInto_of_lt (Nat.lt_of_not_le hlong)

end EmbeddedSdk.Storage
