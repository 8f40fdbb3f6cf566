import Mathlib.Data.List.Basic

/-!
# Values at the front of padded storage

A value of varying length is copied to the front of an array of fixed length and
its length is kept beside it. Copying and slicing are partial: they fail where an
index is out of range. A value that fits is read back as it was, and two values
that leave the same storage and the same length are equal, although one of them may
go on with the filler of the other.
-/
namespace EmbeddedSdk.PaddedBytes

section Storage

variable {α : Type*} {capacity : ℕ}

/-- Storage with the value at its front and the filler behind it. -/
def padded (capacity : ℕ) (filler : α) (value : Array α) : Vector α capacity :=
  Vector.ofFn fun i => value.getD i filler

/-- `storage[start..stop].copy_from_slice(value)`. -/
def copyRange? (storage : Vector α capacity) (start stop : ℕ) (value : Array α) :
    Option (Vector α capacity) :=
  if start ≤ stop ∧ stop ≤ capacity ∧ value.size = stop - start then
    some (Vector.ofFn fun i =>
      if start ≤ i ∧ i < stop then value.getD (i - start) storage[i] else storage[i])
  else none

/-- `storage[..value.len()].copy_from_slice(value)`. -/
def copyFront? (storage : Vector α capacity) (value : Array α) : Option (Vector α capacity) :=
  copyRange? storage 0 value.size value

/-- `&storage[..len]`. -/
def front? (storage : Vector α capacity) (len : ℕ) : Option (Array α) :=
  if len ≤ capacity then some (storage.toArray.extract 0 len) else none

variable {filler : α} {value : Array α}

/-- A value that fits can be copied into storage full of fillers. -/
theorem copyFront?_replicate (h : value.size ≤ capacity) :
    copyFront? (Vector.replicate capacity filler) value = some (padded capacity filler value) := by
  unfold copyFront? copyRange?
  rw [if_pos ⟨Nat.zero_le _, h, rfl⟩]
  apply congrArg some
  ext i hi
  by_cases hvalue : i < value.size
  · simp [padded, hvalue]
  · simp [padded, hvalue]

theorem extract_padded (h : value.size ≤ capacity) :
    (padded capacity filler value).toArray.extract 0 value.size = value := by
  apply Array.ext
  · simp [h]
  · intro i hi hi'
    have hcapacity : i < capacity := by omega
    simp [padded, hi']

/-- Reading as many elements as were written gives the value back. -/
theorem front?_padded (h : value.size ≤ capacity) :
    front? (padded capacity filler value) value.size = some value := by
  unfold front?
  rw [if_pos h, extract_padded h]

theorem extract_of_front? {storage : Vector α capacity} {len : ℕ}
    (h : front? storage len = some value) :
    len ≤ capacity ∧ storage.toArray.extract 0 len = value := by
  unfold front? at h
  by_cases hlen : len ≤ capacity
  · rw [if_pos hlen] at h
    exact ⟨hlen, Option.some.inj h⟩
  · rw [if_neg hlen] at h
    nomatch h

/-- What is written right behind the front makes the front longer. -/
theorem front?_copyRange? {storage : Vector α capacity} {len : ℕ} {written : Array α}
    (h : front? storage len = some written) (value : Array α)
    (hfits : len + value.size ≤ capacity) :
    ∃ storage', copyRange? storage len (len + value.size) value = some storage' ∧
      front? storage' (len + value.size) = some (written ++ value) := by
  have hlen : len ≤ capacity := by omega
  have hwritten := (extract_of_front? h).2
  have hsize : written.size = len := by simp [← hwritten, hlen]
  refine ⟨_, if_pos ⟨by omega, hfits, by omega⟩, ?_⟩
  rw [front?, if_pos hfits]
  apply congrArg some
  apply Array.ext
  · simp [hsize]
    omega
  · intro i hi hi'
    have hi'' : i < len + value.size := by simpa [hsize] using hi'
    by_cases hfront : i < len
    · have hbefore : ¬ (len ≤ i ∧ i < len + value.size) := by omega
      have hleft : i < written.size := by omega
      rw [Array.getElem_append_left hleft]
      simp [hbefore, ← hwritten]
    · have hbehind : len ≤ i ∧ i < len + value.size := by omega
      have hindex : i - len < value.size := by omega
      simp [hbehind, hindex, hsize]

/-- A value that fits can be copied to the front of any storage and is read back. -/
theorem exists_copyFront? (storage : Vector α capacity) (h : value.size ≤ capacity) :
    ∃ storage', copyFront? storage value = some storage' ∧
      front? storage' value.size = some value := by
  have hempty : front? storage 0 = some #[] := by simp [front?]
  obtain ⟨storage', hcopy, hfront⟩ := front?_copyRange? hempty value (by omega)
  rw [Nat.zero_add] at hcopy hfront
  rw [Array.empty_append] at hfront
  exact ⟨storage', hcopy, hfront⟩

theorem size_le_of_copyFront? {storage storage' : Vector α capacity}
    (h : copyFront? storage value = some storage') : value.size ≤ capacity := by
  unfold copyFront? copyRange? at h
  split at h
  next hrange => exact hrange.2.1
  next hrange => nomatch h

/-- Storage and length together determine the value. -/
theorem padded_inj {other : Array α} (h : value.size ≤ capacity) (h' : other.size ≤ capacity)
    (hstorage : padded capacity filler value = padded capacity filler other)
    (hsize : value.size = other.size) : value = other := by
  calc
    value = (padded capacity filler value).toArray.extract 0 value.size := (extract_padded h).symm
    _ = (padded capacity filler other).toArray.extract 0 other.size := by rw [hstorage, hsize]
    _ = other := extract_padded h'

/-- Storage and a length that hold exactly a value. Neither writing it to storage
full of fillers nor reading it back goes out of range. -/
structure IsCopy (filler : α) (value : Array α) (storage : Vector α capacity) (len : ℕ) :
    Prop where
  written : copyFront? (Vector.replicate capacity filler) value = some storage
  read : front? storage len = some value
  length : len = value.size

theorem isCopy_padded (h : value.size ≤ capacity) :
    IsCopy filler value (padded capacity filler value) value.size :=
  ⟨copyFront?_replicate h, front?_padded h, rfl⟩

theorem IsCopy.extract_eq {storage : Vector α capacity} {len : ℕ}
    (h : IsCopy filler value storage len) : storage.toArray.extract 0 len = value :=
  (extract_of_front? h.read).2

end Storage

section Constructors

variable {ι α ε β : Type*} {capacity : ℕ}

/-- A constructor that keeps a copy of every input that it accepts, such that equal
values come from equal inputs only. -/
structure StoresCopies (filler : α) (content : ι → Array α) (new : ι → Except ε β)
    (storage : β → Vector α capacity) (len : β → ℕ) : Prop where
  isCopy : ∀ {i v}, new i = .ok v → IsCopy filler (content i) (storage v) (len v)
  eq_iff : ∀ {i j v w}, new i = .ok v → new j = .ok w → (v = w ↔ i = j)

theorem storesCopies {filler : α} {content : ι → Array α} {new : ι → Except ε β}
    {storage : β → Vector α capacity} {len : β → ℕ}
    (hcontent : ∀ i j, content i = content j → i = j)
    (hnew : ∀ i v, new i = .ok v → (content i).size ≤ capacity ∧
      storage v = padded capacity filler (content i) ∧ len v = (content i).size) :
    StoresCopies filler content new storage len where
  isCopy := by
    intro i v h
    obtain ⟨hsize, hstorage, hlen⟩ := hnew i v h
    rw [hstorage, hlen]
    exact isCopy_padded hsize
  eq_iff := by
    intro i j v w hi hj
    obtain ⟨hsize, hstorage, hlen⟩ := hnew i v hi
    obtain ⟨hsize', hstorage', hlen'⟩ := hnew j w hj
    constructor
    · intro hvw
      subst hvw
      have hpadded := hstorage.symm.trans hstorage'
      have hsizes := hlen.symm.trans hlen'
      exact hcontent i j (padded_inj hsize hsize' hpadded hsizes)
    · intro hij
      subst hij
      rw [hi] at hj
      exact Except.ok.inj hj

end Constructors

section Text

/-- Text is read back from its own bytes. -/
theorem fromUTF8?_self (s : String) : String.fromUTF8? s.toUTF8 = some s := by
  have hvalid : s.toUTF8.IsValidUTF8 := s.isValidUTF8
  exact dif_pos hvalid

/-- Bytes that are read as text are the bytes of that text. -/
theorem toUTF8_eq_of_read {bytes : ByteArray} {s : String}
    (h : String.fromUTF8? bytes = some s) : s.toUTF8 = bytes := by
  by_cases hvalid : bytes.IsValidUTF8
  · rw [String.fromUTF8?, dif_pos hvalid] at h
    cases h
    rfl
  · rw [String.fromUTF8?, dif_neg hvalid] at h
    cases h

theorem toUTF8_injective {s t : String} (h : s.toUTF8.data = t.toUTF8.data) : s = t := by
  have hbytes : s.toUTF8 = t.toUTF8 := ByteArray.ext h
  have hread : some s = some t := by
    rw [← fromUTF8?_self s, hbytes, fromUTF8?_self t]
  exact Option.some.inj hread

/-- Text that was stored is read as text again, never as something that is not UTF-8. -/
theorem IsCopy.fromUTF8?_eq {capacity len : ℕ} {s : String} {storage : Vector UInt8 capacity}
    (h : IsCopy 0 s.toUTF8.data storage len) :
    String.fromUTF8? ⟨storage.toArray.extract 0 len⟩ = some s := by
  rw [h.extract_eq]
  exact fromUTF8?_self s

/-- A constructor of bounded text that keeps a copy and reads it back. -/
structure StoresText {ε β : Type*} {capacity : ℕ} (new : String → Except ε β)
    (storage : β → Vector UInt8 capacity) (len : β → ℕ) (asStr : β → String) : Prop where
  copies : StoresCopies 0 (fun s : String => s.toUTF8.data) new storage len
  len_eq : ∀ {s v}, new s = .ok v → len v = s.utf8ByteSize
  decoded : ∀ {s v}, new s = .ok v →
    String.fromUTF8? ⟨(storage v).toArray.extract 0 (len v)⟩ = some s
  asStr_eq : ∀ {s v}, new s = .ok v → asStr v = s

theorem storesText {ε β : Type*} {capacity : ℕ} {new : String → Except ε β}
    {storage : β → Vector UInt8 capacity} {len : β → ℕ} {asStr : β → String}
    (hnew : ∀ s v, new s = .ok v → s.utf8ByteSize ≤ capacity ∧
      storage v = padded capacity 0 s.toUTF8.data ∧ len v = s.utf8ByteSize)
    (hasStr : ∀ v, asStr v =
      (String.fromUTF8? ⟨(storage v).toArray.extract 0 (len v)⟩).getD "") :
    StoresText new storage len asStr := by
  have hcopies : StoresCopies 0 (fun s : String => s.toUTF8.data) new storage len :=
    storesCopies (fun _ _ => toUTF8_injective) hnew
  have hdecoded : ∀ {s v}, new s = .ok v →
      String.fromUTF8? ⟨(storage v).toArray.extract 0 (len v)⟩ = some s :=
    fun h => (hcopies.isCopy h).fromUTF8?_eq
  refine ⟨hcopies, fun h => (hnew _ _ h).2.2, hdecoded, fun h => ?_⟩
  rw [hasStr, hdecoded h, Option.getD_some]

end Text

end EmbeddedSdk.PaddedBytes
