import EmbeddedSdk.MachineInt
import EmbeddedSdk.ScannerAdvertisement
import EmbeddedSdk.SlotTable

/-!
# The device registry of the beacon scanner

The registry holds one entry for each device heard lately. A report updates the
entry of its address, takes a free slot, or evicts the entry that was silent
for longest. The last part of the module says once what a report can do to the
table; everything else about reports follows from that.
-/
namespace EmbeddedSdk.Scanner
open MachineInt

def deviceStaleAfterMs : ℕ := 15000
def deviceCapacity : ℕ := 128
def rememberedDeviceCapacity : ℕ := 48
def snapshotDisplayLimit : ℕ := 12
def beaconDisplayLimit : ℕ := 24

/-- Largest value of an unsigned 64-bit integer. -/
def u64Max : ℕ := 18446744073709551615

/-- Smallest value of a signed 16-bit integer. -/
def i16Min : ℤ := -32768

/-- The cast `as i16`, which keeps the low 16 bits. -/
def asI16 (x : ℤ) : ℤ := x.bmod 65536

/-- A device of the registry with its counters of the present window. -/
structure DeviceEntry where
  address : Address
  previousWindowAverage : Option ℤ
  windowRssiSum : ℤ
  windowReports : ℕ
  windowPeakRssi : Int8
  lastSeenMs : ℕ
  name : Option LocalName
  manufacturer : Option UInt16
  beacon : BeaconMetadata
  deriving DecidableEq

namespace DeviceEntry

/-- The average RSSI of the window, truncated toward zero. -/
def windowAverage (entry : DeviceEntry) : Option ℤ :=
  if entry.windowReports = 0 then none
  else some (asI16 (entry.windowRssiSum.tdiv entry.windowReports))

/-- The entry of a device that was not in the registry. -/
def fresh (address : Address) (rssi : Int8) (metadata : AdvertisementMetadata) (nowMs : ℕ) :
    DeviceEntry where
  address := address
  previousWindowAverage := none
  windowRssiSum := rssi.toInt
  windowReports := 1
  windowPeakRssi := rssi
  lastSeenMs := nowMs
  name := metadata.name
  manufacturer := metadata.manufacturer
  beacon := metadata.beacon

/-- The entry after one more report of its device. -/
def update (entry : DeviceEntry) (rssi : Int8) (metadata : AdvertisementMetadata) (nowMs : ℕ) :
    DeviceEntry :=
  { entry with
    windowRssiSum := saturatingAddInt i32Min i32Max entry.windowRssiSum rssi.toInt
    windowReports := saturatingAdd u32Max entry.windowReports 1
    windowPeakRssi := max entry.windowPeakRssi rssi
    lastSeenMs := nowMs
    name := if metadata.name.isSome then metadata.name else entry.name
    manufacturer :=
      if metadata.manufacturer.isSome then metadata.manufacturer else entry.manufacturer
    beacon := entry.beacon.merge metadata.beacon }

/-- The entry at the start of the next window. -/
def resetWindow (entry : DeviceEntry) : DeviceEntry :=
  { entry with
    previousWindowAverage :=
      match entry.windowAverage with
      | some average => some average
      | none => entry.previousWindowAverage
    windowRssiSum := 0
    windowReports := 0
    windowPeakRssi := Int8.minValue }

/-- The entry was not heard for more than 15 seconds. -/
def isStale (entry : DeviceEntry) (nowMs : ℕ) : Bool :=
  decide (nowMs - entry.lastSeenMs > deviceStaleAfterMs)

@[simp] theorem fresh_address (a : Address) (rssi : Int8) (m : AdvertisementMetadata) (now : ℕ) :
    (fresh a rssi m now).address = a := rfl

@[simp] theorem fresh_lastSeenMs (a : Address) (rssi : Int8) (m : AdvertisementMetadata)
    (now : ℕ) : (fresh a rssi m now).lastSeenMs = now := rfl

@[simp] theorem update_address (e : DeviceEntry) (rssi : Int8) (m : AdvertisementMetadata)
    (now : ℕ) : (e.update rssi m now).address = e.address := rfl

@[simp] theorem update_lastSeenMs (e : DeviceEntry) (rssi : Int8) (m : AdvertisementMetadata)
    (now : ℕ) : (e.update rssi m now).lastSeenMs = now := rfl

@[simp] theorem resetWindow_address (e : DeviceEntry) : e.resetWindow.address = e.address := rfl

@[simp] theorem resetWindow_lastSeenMs (e : DeviceEntry) :
    e.resetWindow.lastSeenMs = e.lastSeenMs := rfl

theorem fresh_windowReports_pos (a : Address) (rssi : Int8) (m : AdvertisementMetadata)
    (now : ℕ) : 0 < (fresh a rssi m now).windowReports := Nat.one_pos

theorem update_windowReports_pos (e : DeviceEntry) (rssi : Int8) (m : AdvertisementMetadata)
    (now : ℕ) : 0 < (e.update rssi m now).windowReports := by
  simp only [update, saturatingAdd, u32Max]
  omega

@[simp] theorem resetWindow_windowReports (e : DeviceEntry) :
    e.resetWindow.windowReports = 0 := rfl

end DeviceEntry

/-- A device as it was displayed at the end of a window. -/
structure DisplayedDevice where
  address : Address
  averageRssi : ℤ
  lastSeenMs : ℕ
  name : Option LocalName
  manufacturer : Option UInt16
  beacon : BeaconMetadata
  deriving DecidableEq

namespace DisplayedDevice

def fromEntry (entry : DeviceEntry) : DisplayedDevice where
  address := entry.address
  averageRssi := entry.windowAverage.getD i16Min
  lastSeenMs := entry.lastSeenMs
  name := entry.name
  manufacturer := entry.manufacturer
  beacon := entry.beacon

def matchesAddress (device : DisplayedDevice) (address : Address) : Bool :=
  device.address.kind == address.kind && device.address.addr == address.addr

end DisplayedDevice

/-- The registry with its counters of the present window. -/
structure DeviceRegistry where
  entries : SlotTable DeviceEntry deviceCapacity := .empty _ _
  previousRemembered : SlotTable DisplayedDevice rememberedDeviceCapacity := .empty _ _
  windowReports : ℕ := 0
  windowMalformedReports : ℕ := 0
  windowEvictions : ℕ := 0

namespace DeviceRegistry

def new : DeviceRegistry := {}

/-- The slot of a device, if it has one. -/
def existing (r : DeviceRegistry) (address : Address) : Option ℕ :=
  r.entries.position fun slot => slot.any fun entry =>
    entry.address.kind == address.kind && entry.address.addr == address.addr

/-- The slot that was silent for longest. -/
def oldest (r : DeviceRegistry) : ℕ :=
  (r.entries.minPosition fun slot => slot.elim u64Max DeviceEntry.lastSeenMs).getD 0

def record (r : DeviceRegistry) (address : Address) (rssi : Int8)
    (metadata : AdvertisementMetadata) (nowMs : ℕ) : DeviceRegistry :=
  let r := { r with windowReports := wrappingAddU32 r.windowReports 1 }
  match r.existing address with
  | some index =>
      { r with entries := r.entries.modify index fun entry => entry.update rssi metadata nowMs }
  | none =>
      let entry := DeviceEntry.fresh address rssi metadata nowMs
      match r.entries.position Option.isNone with
      | some index => { r with entries := r.entries.put index entry }
      | none =>
          { r with
            windowEvictions := wrappingAddU32 r.windowEvictions 1
            entries := r.entries.put r.oldest entry }

def recordMalformedReport (r : DeviceRegistry) : DeviceRegistry :=
  { r with windowMalformedReports := wrappingAddU32 r.windowMalformedReports 1 }

def removeStale (r : DeviceRegistry) (nowMs : ℕ) : DeviceRegistry :=
  { r with entries := r.entries.retain fun entry => !entry.isStale nowMs }

/-- The address has an entry. -/
def IsLive (r : DeviceRegistry) (address : Address) : Prop :=
  ∃ entry ∈ r.entries.entries, entry.address = address

instance (r : DeviceRegistry) (address : Address) : Decidable (r.IsLive address) :=
  inferInstanceAs (Decidable (∃ entry ∈ r.entries.entries, entry.address = address))

/-- Every slot is occupied. -/
def IsFull (r : DeviceRegistry) : Prop := ∀ slot ∈ r.entries.slots, slot.isSome = true

instance (r : DeviceRegistry) : Decidable r.IsFull :=
  inferInstanceAs (Decidable (∀ slot ∈ r.entries.slots, slot.isSome = true))

/-- A report of the address evicts a device: every slot is occupied, and by
other addresses. -/
def Evicts (r : DeviceRegistry) (address : Address) : Prop := r.IsFull ∧ ¬ r.IsLive address

instance (r : DeviceRegistry) (address : Address) : Decidable (r.Evicts address) :=
  inferInstanceAs (Decidable (r.IsFull ∧ ¬ r.IsLive address))

theorem isLive_iff {r : DeviceRegistry} {a : Address} :
    r.IsLive a ↔ ∃ i e, r.entries.at? i = some e ∧ e.address = a := by
  simp only [IsLive, SlotTable.mem_entries]
  constructor
  · rintro ⟨e, ⟨i, hi⟩, he⟩
    exact ⟨i, e, hi, he⟩
  · rintro ⟨i, e, hi, he⟩
    exact ⟨e, ⟨i, hi⟩, he⟩

/-- What a report can do to the table of entries. -/
inductive Recorded (r : DeviceRegistry) (a : Address) (rssi : Int8) (m : AdvertisementMetadata)
    (now : ℕ) : SlotTable DeviceEntry deviceCapacity → Prop
  | updated (i : ℕ) (e : DeviceEntry) (hslot : r.entries.at? i = some e) (haddress : e.address = a) :
      Recorded r a rssi m now (r.entries.put i (e.update rssi m now))
  | inserted (i : ℕ) (hi : i < deviceCapacity) (hslot : r.entries.at? i = none)
      (hlive : ¬ r.IsLive a) (hfull : ¬ r.IsFull) :
      Recorded r a rssi m now (r.entries.put i (.fresh a rssi m now))
  | evicted (e : DeviceEntry) (hslot : r.entries.at? r.oldest = some e) (hlive : ¬ r.IsLive a)
      (hfull : r.IsFull)
      (holdest : ∀ i f, r.entries.at? i = some f → e.lastSeenMs ≤ f.lastSeenMs) :
      Recorded r a rssi m now (r.entries.put r.oldest (.fresh a rssi m now))

theorem address_matches_iff (b a : Address) :
    (b.kind == a.kind && b.addr == a.addr) = true ↔ b = a := by
  obtain ⟨bk, ba⟩ := b
  obtain ⟨ak, aa⟩ := a
  simp

/-- The slot found for an address always contains its entry. -/
theorem existing_some {r : DeviceRegistry} {a : Address} {i : ℕ} (h : r.existing a = some i) :
    ∃ e, r.entries.at? i = some e ∧ e.address = a := by
  obtain ⟨e, he, hmatch⟩ := SlotTable.at?_of_position_any h
  exact ⟨e, he, (address_matches_iff e.address a).mp hmatch⟩

theorem existing_none {r : DeviceRegistry} {a : Address} :
    r.existing a = none ↔ ¬ r.IsLive a := by
  rw [existing, SlotTable.position_any_eq_none, IsLive]
  push Not
  refine forall₂_congr fun e _ => ?_
  rw [← Bool.not_eq_true, address_matches_iff]

theorem isFull_iff {r : DeviceRegistry} :
    r.IsFull ↔ r.entries.position Option.isNone = none := by
  simp only [IsFull, SlotTable.position, List.findIdx?_eq_none_iff, Option.isNone_eq_false_iff]

/-- A full table has an oldest entry. -/
theorem oldest_spec {r : DeviceRegistry} (h : r.IsFull) :
    ∃ e, r.entries.at? r.oldest = some e ∧
      ∀ i f, r.entries.at? i = some f → e.lastSeenMs ≤ f.lastSeenMs := by
  obtain ⟨i, hi, hlt, hmin⟩ := r.entries.minPosition_spec (by decide)
    fun slot => slot.elim u64Max DeviceEntry.lastSeenMs
  obtain ⟨e, he⟩ := SlotTable.full_of_position_isNone (isFull_iff.mp h) hlt
  have holdest : r.oldest = i := by rw [oldest, hi, Option.getD_some]
  refine ⟨e, by rw [holdest, he], ?_⟩
  intro j f hf
  have hle := hmin j f hf
  rwa [he] at hle

theorem record_recorded (r : DeviceRegistry) (a : Address) (rssi : Int8)
    (m : AdvertisementMetadata) (now : ℕ) :
    r.Recorded a rssi m now (r.record a rssi m now).entries := by
  unfold record
  cases hexisting : r.existing a with
  | some i =>
      obtain ⟨e, he, ha⟩ := existing_some hexisting
      have hput := SlotTable.modify_eq_put he fun entry => entry.update rssi m now
      simp only [existing] at hexisting ⊢
      rw [hexisting]
      simp only [hput]
      exact .updated i e he ha
  | none =>
      have hlive := existing_none.mp hexisting
      simp only [existing] at hexisting ⊢
      rw [hexisting]
      cases hfree : r.entries.position Option.isNone with
      | some i =>
          obtain ⟨hi, hslot⟩ := SlotTable.at?_of_position_isNone hfree
          have hfull : ¬ r.IsFull := by rw [isFull_iff, hfree]; simp
          dsimp only
          exact .inserted i hi hslot hlive hfull
      | none =>
          have hfull := isFull_iff.mpr hfree
          obtain ⟨e, he, hle⟩ := oldest_spec hfull
          dsimp only
          exact .evicted e he hlive hfull hle

@[simp] theorem record_previousRemembered (r : DeviceRegistry) (a : Address) (rssi : Int8)
    (m : AdvertisementMetadata) (now : ℕ) :
    (r.record a rssi m now).previousRemembered = r.previousRemembered := by
  unfold record
  dsimp only
  split
  · rfl
  · split <;> rfl

/-- Evictions are counted, modulo the width of the counter. -/
theorem record_windowEvictions (r : DeviceRegistry) (a : Address) (rssi : Int8)
    (m : AdvertisementMetadata) (now : ℕ) :
    (r.record a rssi m now).windowEvictions =
      if r.Evicts a then wrappingAddU32 r.windowEvictions 1 else r.windowEvictions := by
  simp only [Evicts, ← existing_none, isFull_iff]
  unfold record existing
  dsimp only
  split
  · rename_i i hi
    simp [hi]
  · rename_i hnone
    split
    · rename_i i hi
      simp [hi]
    · rename_i hfree
      simp [hnone, hfree]

/-- No two slots hold the same address. -/
def Distinct (r : DeviceRegistry) : Prop :=
  ∀ i j e f, r.entries.at? i = some e → r.entries.at? j = some f → e.address = f.address → i = j

theorem oldest_lt {r : DeviceRegistry} {e : DeviceEntry} (h : r.entries.at? r.oldest = some e) :
    r.oldest < deviceCapacity :=
  SlotTable.at?_lt h

/-- A report puts one entry of its address into one slot. -/
theorem record_eq_put (r : DeviceRegistry) (a : Address) (rssi : Int8)
    (m : AdvertisementMetadata) (now : ℕ) :
    ∃ i entry, i < deviceCapacity ∧ (r.record a rssi m now).entries = r.entries.put i entry ∧
      entry.address = a := by
  have hrec := record_recorded r a rssi m now
  generalize (r.record a rssi m now).entries = table at hrec ⊢
  cases hrec with
  | updated i e hslot ha => exact ⟨i, e.update rssi m now, SlotTable.at?_lt hslot, rfl, ha⟩
  | inserted i hi _ _ _ => exact ⟨i, .fresh a rssi m now, hi, rfl, rfl⟩
  | evicted e hslot _ _ _ => exact ⟨r.oldest, .fresh a rssi m now, oldest_lt hslot, rfl, rfl⟩

/-- A report puts one entry of its address into one slot, and no other slot
holds the address. -/
theorem record_put {r : DeviceRegistry} (hd : r.Distinct) (a : Address) (rssi : Int8)
    (m : AdvertisementMetadata) (now : ℕ) :
    ∃ i entry, i < deviceCapacity ∧ (r.record a rssi m now).entries = r.entries.put i entry ∧
      entry.address = a ∧ (∀ j f, j ≠ i → r.entries.at? j = some f → f.address ≠ a) ∧
      ((∃ e, r.entries.at? i = some e ∧ e.address = a ∧ entry = e.update rssi m now) ∨
        (¬ r.IsLive a ∧ entry = .fresh a rssi m now)) := by
  have hnone : ¬ r.IsLive a → ∀ (i j : ℕ) (f : DeviceEntry), j ≠ i →
      r.entries.at? j = some f → f.address ≠ a := by
    intro hlive i j f _ hf hfa
    exact hlive (isLive_iff.mpr ⟨j, f, hf, hfa⟩)
  have hrec := record_recorded r a rssi m now
  generalize (r.record a rssi m now).entries = table at hrec ⊢
  cases hrec with
  | updated i e hslot ha =>
      refine ⟨i, _, SlotTable.at?_lt hslot, rfl, ha, ?_, .inl ⟨e, hslot, ha, rfl⟩⟩
      intro j f hne hf hfa
      exact hne (hd j i f e hf hslot (hfa.trans ha.symm))
  | inserted i hi hslot hlive hfull =>
      exact ⟨i, _, hi, rfl, rfl, hnone hlive i, .inr ⟨hlive, rfl⟩⟩
  | evicted e hslot hlive hfull holdest =>
      exact ⟨r.oldest, _, oldest_lt hslot, rfl, rfl, hnone hlive r.oldest, .inr ⟨hlive, rfl⟩⟩

theorem record_distinct {r : DeviceRegistry} (hd : r.Distinct) (a : Address) (rssi : Int8)
    (m : AdvertisementMetadata) (now : ℕ) : (r.record a rssi m now).Distinct := by
  obtain ⟨i, entry, hi, hput, ha, hother, -⟩ := record_put hd a rssi m now
  intro j k e f he hf hef
  rw [hput, SlotTable.at?_put _ hi] at he hf
  by_cases hj : i = j
  · by_cases hk : i = k
    · omega
    · rw [if_pos hj, Option.some.injEq] at he
      rw [if_neg hk] at hf
      have hfa : f.address = a := by rw [← hef, ← he, ha]
      exact absurd hfa (hother k f (Ne.symm hk) hf)
  · rw [if_neg hj] at he
    by_cases hk : i = k
    · rw [if_pos hk, Option.some.injEq] at hf
      have hea : e.address = a := by rw [hef, ← hf, ha]
      exact absurd hea (hother j e (Ne.symm hj) he)
    · rw [if_neg hk] at hf
      exact hd j k e f he hf hef

/-- Where an entry found after a report comes from. -/
theorem record_entry {r : DeviceRegistry} (hd : r.Distinct) {a : Address} {rssi : Int8}
    {m : AdvertisementMetadata} {now j : ℕ} {f : DeviceEntry}
    (h : (r.record a rssi m now).entries.at? j = some f) :
    (∃ e, r.entries.at? j = some e ∧ e.address = a ∧ f = e.update rssi m now) ∨
      (¬ r.IsLive a ∧ f = .fresh a rssi m now) ∨
      (f.address ≠ a ∧ r.entries.at? j = some f) := by
  obtain ⟨i, entry, hi, hput, -, hother, hentry⟩ := record_put hd a rssi m now
  rw [hput, SlotTable.at?_put _ hi] at h
  by_cases hij : i = j
  · rw [if_pos hij, Option.some.injEq] at h
    subst hij h
    rcases hentry with hupdated | hfresh
    · exact .inl hupdated
    · exact .inr (.inl hfresh)
  · rw [if_neg hij] at h
    exact .inr (.inr ⟨hother j f (Ne.symm hij) h, h⟩)

theorem record_isLive (r : DeviceRegistry) (a : Address) (rssi : Int8)
    (m : AdvertisementMetadata) (now : ℕ) : (r.record a rssi m now).IsLive a := by
  obtain ⟨i, entry, hi, hput, ha⟩ := record_eq_put r a rssi m now
  refine isLive_iff.mpr ⟨i, entry, ?_, ha⟩
  rw [hput, SlotTable.at?_put _ hi, if_pos rfl]

/-- Only the oldest entry of a full table leaves at a report. -/
theorem record_leaves {r : DeviceRegistry} {a b : Address} {rssi : Int8}
    {m : AdvertisementMetadata} {now : ℕ} (hb : r.IsLive b)
    (hleft : ¬ (r.record a rssi m now).IsLive b) :
    r.Evicts a ∧ ∃ e, r.entries.at? r.oldest = some e ∧ e.address = b ∧
      ∀ i f, r.entries.at? i = some f → e.lastSeenMs ≤ f.lastSeenMs := by
  obtain ⟨k, f, hk, hf⟩ := isLive_iff.mp hb
  have hrec := record_recorded r a rssi m now
  rw [isLive_iff] at hleft
  generalize (r.record a rssi m now).entries = table at hrec hleft
  have hkept : ∀ i x, i < deviceCapacity → table = r.entries.put i x → i ≠ k → False := by
    intro i x hi htable hne
    exact hleft ⟨k, f, by rw [htable, SlotTable.at?_put _ hi, if_neg hne, hk], hf⟩
  cases hrec with
  | updated i e hslot ha =>
      have hi := SlotTable.at?_lt hslot
      by_cases hik : i = k
      · have hef : f = e := Option.some.inj (by rw [← hk, ← hslot, hik])
        refine absurd ⟨i, _, by rw [SlotTable.at?_put _ hi, if_pos rfl], ?_⟩ hleft
        rw [DeviceEntry.update_address, ← hef, hf]
      · exact (hkept i _ hi rfl hik).elim
  | inserted i hi hslot hlive hfull =>
      have hik : i ≠ k := by
        intro hik
        rw [hik, hk] at hslot
        simp at hslot
      exact (hkept i _ hi rfl hik).elim
  | evicted e hslot hlive hfull holdest =>
      by_cases hik : r.oldest = k
      · have hef : f = e := Option.some.inj (by rw [← hk, ← hslot, hik])
        exact ⟨⟨hfull, hlive⟩, e, hslot, by rw [← hef, hf], holdest⟩
      · exact (hkept r.oldest _ (oldest_lt hslot) rfl hik).elim

/-- The oldest entry of a full table leaves at a report of a new address. -/
theorem record_evicts {r : DeviceRegistry} (hd : r.Distinct) {a : Address} (rssi : Int8)
    (m : AdvertisementMetadata) (now : ℕ) (h : r.Evicts a) {e : DeviceEntry}
    (he : r.entries.at? r.oldest = some e) : ¬ (r.record a rssi m now).IsLive e.address := by
  have hne : e.address ≠ a := fun ha => h.2 (isLive_iff.mpr ⟨_, e, he, ha⟩)
  have hrec := record_recorded r a rssi m now
  rw [isLive_iff]
  generalize (r.record a rssi m now).entries = table at hrec ⊢
  rintro ⟨k, f, hk, hf⟩
  cases hrec with
  | updated i e' hslot ha => exact h.2 (isLive_iff.mpr ⟨i, e', hslot, ha⟩)
  | inserted i hi hslot hlive hfull => exact hfull h.1
  | evicted e' hslot hlive hfull holdest =>
      rw [SlotTable.at?_put _ (oldest_lt he)] at hk
      by_cases hik : r.oldest = k
      · rw [if_pos hik, Option.some.injEq] at hk
        exact hne (by rw [← hf, ← hk, DeviceEntry.fresh_address])
      · rw [if_neg hik] at hk
        exact hik (hd _ _ _ _ he hk hf.symm)

end DeviceRegistry

end EmbeddedSdk.Scanner
