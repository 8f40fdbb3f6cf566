import EmbeddedSdk.SnapshotTables

/-!
# The range of RSSI arithmetic

The sum of a window is a 32-bit integer and its count a 32-bit counter; both
saturate, each on its own. The sum stays between the extreme values of a report
times the count all the same, so that averages fit into a byte and differences of
averages into 16 bits, however long a window is.
-/
namespace EmbeddedSdk.Scanner
open MachineInt UnstableSort DeviceRegistry

/-- Largest value of a signed 16-bit integer. -/
def i16Max : ℤ := 32767

namespace DeviceEntry

/-- The sum of a window is bounded by its count, the counters are in their ranges and
the stored average is one of signed bytes. -/
structure RssiInRange (e : DeviceEntry) : Prop where
  sum_lower : -128 * (e.windowReports : ℤ) ≤ e.windowRssiSum
  sum_upper : e.windowRssiSum ≤ 127 * (e.windowReports : ℤ)
  sum_mem : i32Min ≤ e.windowRssiSum ∧ e.windowRssiSum ≤ i32Max
  previous : ∀ p, e.previousWindowAverage = some p → -128 ≤ p ∧ p ≤ 127

theorem rssi_mem (rssi : Int8) : -128 ≤ rssi.toInt ∧ rssi.toInt ≤ 127 := by
  have hle := rssi.le_toInt
  have hlt := rssi.toInt_lt
  omega

/-- The average of a window is a signed byte, so that its cast loses nothing. -/
theorem RssiInRange.windowAverage {e : DeviceEntry} (h : e.RssiInRange) {average : ℤ}
    (haverage : e.windowAverage = some average) :
    average = e.windowRssiSum.tdiv e.windowReports ∧ -128 ≤ average ∧ average ≤ 127 := by
  unfold DeviceEntry.windowAverage at haverage
  split at haverage
  · simp at haverage
  · rename_i hne
    have hpos : (0 : ℤ) < e.windowReports := by omega
    have hlower : -128 ≤ e.windowRssiSum.tdiv e.windowReports :=
      calc -128 = (-128 * (e.windowReports : ℤ)).tdiv e.windowReports :=
            (Int.mul_tdiv_cancel _ (by omega)).symm
        _ ≤ e.windowRssiSum.tdiv e.windowReports := Int.tdiv_le_tdiv hpos h.sum_lower
    have hupper : e.windowRssiSum.tdiv e.windowReports ≤ 127 :=
      calc e.windowRssiSum.tdiv e.windowReports
          ≤ (127 * (e.windowReports : ℤ)).tdiv e.windowReports :=
            Int.tdiv_le_tdiv hpos h.sum_upper
        _ = 127 := Int.mul_tdiv_cancel _ (by omega)
    rw [Option.some.injEq, asI16, Int.bmod_eq_of_le (by omega) (by omega)] at haverage
    rw [← haverage]
    exact ⟨rfl, hlower, hupper⟩

theorem fresh_rssiInRange (a : Address) (rssi : Int8) (m : AdvertisementMetadata) (now : ℕ) :
    (fresh a rssi m now).RssiInRange := by
  have hrssi := rssi_mem rssi
  constructor
  · simp only [fresh]
    omega
  · simp only [fresh]
    omega
  · simp only [fresh, i32Min, i32Max]
    omega
  · intro p hp
    simp [fresh] at hp

/-- A report keeps the bounds, also when the sum or the count is saturated: a sum
that is cut moves toward zero, and a count that is cut is so large that the bounds
lie outside the range of the sum. -/
theorem RssiInRange.update {e : DeviceEntry} (h : e.RssiInRange) (rssi : Int8)
    (m : AdvertisementMetadata) (now : ℕ) : (e.update rssi m now).RssiInRange := by
  have hrssi := rssi_mem rssi
  obtain ⟨hlower, hupper, hmem, hprevious⟩ := h
  simp only [i32Min, i32Max] at hmem
  have hcount : (saturatingAdd u32Max e.windowReports 1 : ℤ) =
      min ((e.windowReports : ℤ) + 1) 4294967295 := by
    simp only [saturatingAdd, u32Max]
    omega
  constructor
  · simp only [DeviceEntry.update, hcount, saturatingAddInt, i32Min, i32Max]
    omega
  · simp only [DeviceEntry.update, hcount, saturatingAddInt, i32Min, i32Max]
    omega
  · simp only [DeviceEntry.update, saturatingAddInt, i32Min, i32Max]
    omega
  · exact hprevious

theorem RssiInRange.resetWindow {e : DeviceEntry} (h : e.RssiInRange) :
    e.resetWindow.RssiInRange := by
  constructor
  · simp [DeviceEntry.resetWindow]
  · simp [DeviceEntry.resetWindow]
  · simp [DeviceEntry.resetWindow, i32Min, i32Max]
  · intro p hp
    simp only [DeviceEntry.resetWindow] at hp
    split at hp
    · rename_i average haverage
      rw [Option.some.injEq] at hp
      rw [← hp]
      exact (h.windowAverage haverage).2
    · exact h.previous p hp

end DeviceEntry

/-- The bounds hold of every entry of every run. -/
theorem after_rssiInRange (events : List Event) {e : DeviceEntry}
    (he : e ∈ (after events).entries.entries) : e.RssiInRange := by
  obtain ⟨j, hj⟩ := SlotTable.mem_entries.mp he
  exact after_entries DeviceEntry.fresh_rssiInRange (fun _ rssi m now h => h.update rssi m now)
    (fun _ h => h.resetWindow) events hj

/-- Whatever the number of reports, sums are bounded by their counts, averages are
signed bytes and the cast keeps them, and no printed change leaves 16 bits. -/
theorem rssi_arithmetic_in_range (events : List Event) :
    (∀ e ∈ (after events).entries.entries,
      -128 * (e.windowReports : ℤ) ≤ e.windowRssiSum ∧
        e.windowRssiSum ≤ 127 * (e.windowReports : ℤ) ∧
        (∀ average, e.windowAverage = some average →
          average = e.windowRssiSum.tdiv e.windowReports ∧ -128 ≤ average ∧ average ≤ 127) ∧
        ∀ previous, e.previousWindowAverage = some previous →
          -128 ≤ previous ∧ previous ≤ 127) ∧
      ∀ sorter nowMs a d, (after events).PrintsDelta sorter nowMs a d → i16Min ≤ d ∧ d ≤ i16Max := by
  constructor
  · intro e he
    have h := after_rssiInRange events he
    exact ⟨h.sum_lower, h.sum_upper, fun average haverage => h.windowAverage haverage, h.previous⟩
  · intro sorter nowMs a d hprints
    obtain ⟨e, he, -, hd⟩ := hprints.exists_listed
    obtain ⟨hentry, -, hpos⟩ := mem_seen.mp he.mem_seen
    have h := after_rssiInRange events hentry
    obtain ⟨-, haverage⟩ := h.windowAverage (DeviceEntry.windowAverage_of_pos hpos)
    obtain ⟨p, hp, rfl⟩ := Option.map_eq_some_iff.mp hd
    have hprevious := h.previous p hp
    simp only [i16Min, i16Max]
    omega

end EmbeddedSdk.Scanner
