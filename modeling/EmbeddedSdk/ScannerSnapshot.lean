import EmbeddedSdk.ScannerRegistry
import EmbeddedSdk.UnstableSort
import Mathlib.Data.List.Induction

/-!
# Snapshots of the scanner and its runs

At the end of a window `print_snapshot` removes stale devices, copies the
registry, resets the counters and prints tables from the copy. The copy is
sorted with an unstable sort, so every snapshot event carries its outcome. A run
is a list of reports, malformed reports and snapshots.
-/
namespace EmbeddedSdk.Scanner
open MachineInt UnstableSort

/-- The order of optional averages: having none is less than having any. -/
def AverageLe : Option ℤ → Option ℤ → Prop
  | none, _ => True
  | some _, none => False
  | some left, some right => left ≤ right

instance : DecidableRel AverageLe
  | none, _ => isTrue trivial
  | some _, none => isFalse not_false
  | some left, some right => inferInstanceAs (Decidable (left ≤ right))

theorem averageLe_total (left right : Option ℤ) : AverageLe left right ∨ AverageLe right left := by
  cases left with
  | none => exact .inl trivial
  | some a =>
      cases right with
      | none => exact .inr trivial
      | some b => exact Int.le_total a b

theorem AverageLe.trans {a b c : Option ℤ} (hab : AverageLe a b) (hbc : AverageLe b c) :
    AverageLe a c := by
  cases a with
  | none => exact trivial
  | some a =>
      cases b with
      | none => exact hab.elim
      | some b =>
          cases c with
          | none => exact hbc.elim
          | some c => exact Int.le_trans hab hbc

/-- The comparison of `sort_unstable_by`: louder slots first, those without a
report in the window last. -/
def Louder (left right : Option DeviceEntry) : Prop :=
  AverageLe (right.bind DeviceEntry.windowAverage) (left.bind DeviceEntry.windowAverage)

instance : DecidableRel Louder := fun left right =>
  inferInstanceAs (Decidable
    (AverageLe (right.bind DeviceEntry.windowAverage) (left.bind DeviceEntry.windowAverage)))

instance : Std.Total Louder := ⟨fun _ _ => averageLe_total _ _⟩

instance : IsTrans (Option DeviceEntry) Louder := ⟨fun _ _ _ h h' => h'.trans h⟩

/-- The entries with a report in the window. -/
def heard (slots : List (Option DeviceEntry)) : List DeviceEntry :=
  slots.reduceOption.filter fun entry => entry.windowReports > 0

/-- The remembered devices that no current entry with a report matches. -/
def lostDevices (remembered : SlotTable DisplayedDevice rememberedDeviceCapacity)
    (current : List (Option DeviceEntry)) : List DisplayedDevice :=
  remembered.entries.filter fun previous =>
    !current.reduceOption.any fun entry =>
      decide (entry.windowReports > 0) && previous.matchesAddress entry.address

/-- A line of the device table. -/
structure DeviceRow where
  average : ℤ
  delta : Option ℤ
  windowPeakRssi : Int8
  ageMs : ℕ
  windowReports : ℕ
  address : Address
  manufacturer : Option UInt16
  beacon : BeaconMetadata
  name : Option LocalName

/-- A line of the beacon table. -/
structure BeaconRow where
  average : ℤ
  delta : Option ℤ
  address : Address
  manufacturer : Option UInt16
  beacon : BeaconMetadata
  name : Option LocalName

/-- A line of the lost table. -/
structure LostRow where
  averageRssi : ℤ
  ageMs : ℕ
  address : Address
  manufacturer : Option UInt16
  beacon : BeaconMetadata
  name : Option LocalName

/-- A section that is printed only when it counts something. -/
structure Section (Row : Type) where
  count : ℕ
  shown : ℕ
  rows : List Row

/-- Everything that one snapshot prints. -/
structure Printout where
  count : ℕ
  windowReports : ℕ
  windowMalformedReports : ℕ
  windowEvictions : ℕ
  shown : ℕ
  devices : List DeviceRow
  beacons : Option (Section BeaconRow)
  lost : Option (Section LostRow)

namespace DeviceEntry

/-- The average shown for an entry. -/
def shownAverage (entry : DeviceEntry) : ℤ := entry.windowAverage.getD i16Min

/-- The change since the previous window with a report. -/
def delta (entry : DeviceEntry) : Option ℤ :=
  entry.previousWindowAverage.map fun previous => entry.shownAverage - previous

def deviceRow (entry : DeviceEntry) (nowMs : ℕ) : DeviceRow where
  average := entry.shownAverage
  delta := entry.delta
  windowPeakRssi := entry.windowPeakRssi
  ageMs := nowMs - entry.lastSeenMs
  windowReports := entry.windowReports
  address := entry.address
  manufacturer := entry.manufacturer
  beacon := entry.beacon
  name := entry.name

def beaconRow (entry : DeviceEntry) : BeaconRow where
  average := entry.shownAverage
  delta := entry.delta
  address := entry.address
  manufacturer := entry.manufacturer
  beacon := entry.beacon
  name := entry.name

end DeviceEntry

def DisplayedDevice.lostRow (device : DisplayedDevice) (nowMs : ℕ) : LostRow where
  averageRssi := device.averageRssi
  ageMs := nowMs - device.lastSeenMs
  address := device.address
  manufacturer := device.manufacturer
  beacon := device.beacon
  name := device.name

namespace DeviceRegistry

/-- The registry at the start of the next window. -/
def resetWindows (r : DeviceRegistry) : DeviceRegistry :=
  { r with
    entries := r.entries.map DeviceEntry.resetWindow
    windowReports := 0
    windowMalformedReports := 0
    windowEvictions := 0 }

/-- What `print_snapshot` prints, from the copy of the registry and the slots of
that copy in sorted order. -/
def printout (snapshot : DeviceRegistry) (sorted : List (Option DeviceEntry)) (nowMs : ℕ) :
    Printout :=
  let count := (heard snapshot.entries.slots).length
  let lost := lostDevices snapshot.previousRemembered sorted
  let beacons := (heard sorted).filter fun entry => entry.beacon.isBeacon
  { count := count
    windowReports := snapshot.windowReports
    windowMalformedReports := snapshot.windowMalformedReports
    windowEvictions := snapshot.windowEvictions
    shown := min count snapshotDisplayLimit
    devices := ((heard sorted).take snapshotDisplayLimit).map fun entry => entry.deviceRow nowMs
    beacons :=
      if beacons.length > 0 then
        some ⟨beacons.length, min beacons.length beaconDisplayLimit,
          (beacons.take beaconDisplayLimit).map DeviceEntry.beaconRow⟩
      else none
    lost :=
      if lost.length > 0 then
        some ⟨lost.length, min lost.length snapshotDisplayLimit,
          (lost.take snapshotDisplayLimit).map fun device => device.lostRow nowMs⟩
      else none }

def printSnapshot (r : DeviceRegistry) (sorter : Sorter Louder) (nowMs : ℕ) :
    DeviceRegistry × Printout :=
  let snapshot := r.removeStale nowMs
  let sorted := sorter.sort snapshot.entries.slots
  let remembered :=
    SlotTable.ofList rememberedDeviceCapacity ((heard sorted).map DisplayedDevice.fromEntry)
  ({ snapshot.resetWindows with previousRemembered := remembered },
    snapshot.printout sorted nowMs)

end DeviceRegistry

/-- What happens to the registry: the handler gets a report with its decoded
structures, it gets a malformed report, or a window ends. -/
inductive Event
  | report (address : Address) (rssi : Int8) (structures : List AdStructure) (nowMs : ℕ)
  | malformedReport
  | snapshot (nowMs : ℕ) (sorter : Sorter Louder)

namespace DeviceRegistry

def step (r : DeviceRegistry) : Event → DeviceRegistry
  | .report address rssi structures nowMs =>
      r.record address rssi (AdvertisementMetadata.parse structures) nowMs
  | .malformedReport => r.recordMalformedReport
  | .snapshot nowMs sorter => (r.printSnapshot sorter nowMs).1

/-- The registry after a run from the start. -/
def after (events : List Event) : DeviceRegistry := events.foldl step new

@[simp] theorem after_nil : after [] = new := rfl

@[simp] theorem after_concat (past : List Event) (e : Event) :
    after (past ++ [e]) = (after past).step e := by
  simp only [after, List.foldl_append, List.foldl_cons, List.foldl_nil]

/-- Where an entry found after a snapshot comes from. -/
theorem printSnapshot_at? (r : DeviceRegistry) (sorter : Sorter Louder) (now j : ℕ) :
    (r.printSnapshot sorter now).1.entries.at? j =
      ((r.entries.at? j).filter fun e => !e.isStale now).map DeviceEntry.resetWindow := by
  simp only [printSnapshot, resetWindows, removeStale, SlotTable.at?_map, SlotTable.at?_retain]

theorem printSnapshot_entry {r : DeviceRegistry} {sorter : Sorter Louder} {now j : ℕ}
    {f : DeviceEntry} (h : (r.printSnapshot sorter now).1.entries.at? j = some f) :
    ∃ e, r.entries.at? j = some e ∧ e.isStale now = false ∧ f = e.resetWindow := by
  rw [printSnapshot_at?] at h
  obtain ⟨e, he, rfl⟩ := Option.map_eq_some_iff.mp h
  obtain ⟨hslot, hstale⟩ := Option.filter_eq_some_iff.mp he
  exact ⟨e, hslot, by simpa using hstale, rfl⟩

theorem step_distinct {r : DeviceRegistry} (hd : r.Distinct) (e : Event) :
    (r.step e).Distinct := by
  cases e with
  | report a rssi structures now => exact record_distinct hd a rssi _ now
  | malformedReport => exact hd
  | snapshot now sorter =>
      intro i j e f he hf hef
      obtain ⟨e', he', -, rfl⟩ := printSnapshot_entry he
      obtain ⟨f', hf', -, rfl⟩ := printSnapshot_entry hf
      exact hd i j e' f' he' hf' hef

/-- In every run, no two slots ever hold the same address. -/
theorem after_distinct (events : List Event) : (after events).Distinct := by
  induction events using List.reverseRecOn with
  | nil =>
      intro i j e f he
      simp [new] at he
  | append_singleton past e ih =>
      rw [after_concat]
      exact step_distinct ih e

/-- What holds of new entries and is kept by reports and by the end of a window
holds of every entry of every run. -/
theorem after_entries {P : DeviceEntry → Prop}
    (hfresh : ∀ a rssi m now, P (.fresh a rssi m now))
    (hupdate : ∀ e rssi m now, P e → P (e.update rssi m now))
    (hreset : ∀ e, P e → P e.resetWindow) (events : List Event) {j : ℕ} {f : DeviceEntry}
    (hf : (after events).entries.at? j = some f) : P f := by
  induction events using List.reverseRecOn generalizing j f with
  | nil => simp [new] at hf
  | append_singleton past event ih =>
      rw [after_concat] at hf
      cases event with
      | report a rssi structures now =>
          rcases record_entry (after_distinct past) hf with
            ⟨e, he, -, rfl⟩ | ⟨-, rfl⟩ | ⟨-, he⟩
          · exact hupdate e rssi _ now (ih he)
          · exact hfresh a rssi _ now
          · exact ih he
      | malformedReport => exact ih hf
      | snapshot now sorter =>
          obtain ⟨e, he, -, rfl⟩ := printSnapshot_entry hf
          exact hreset e (ih he)

end DeviceRegistry

namespace Event

/-- The timestamp of an event. -/
def time? : Event → Option ℕ
  | report _ _ _ nowMs => some nowMs
  | malformedReport => none
  | snapshot nowMs _ => some nowMs

def isSnapshot : Event → Bool
  | snapshot _ _ => true
  | _ => false

end Event

end EmbeddedSdk.Scanner
