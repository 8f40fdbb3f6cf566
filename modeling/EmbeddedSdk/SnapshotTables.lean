import EmbeddedSdk.LossNotices

/-!
# The tables of a snapshot

One sort of the slots feeds the device table, the beacon table and the list of
remembered devices, which in turn feeds the lost table of the next snapshot. The
sort is unstable and sorts empty and silent slots along with the others. Every
table is nevertheless a selection of the loudest devices that belong to it.
-/
namespace EmbeddedSdk.Scanner
open UnstableSort DeviceRegistry

/-- The rows of a section, none if it is not printed. -/
def printedRows {Row : Type} (printed : Option (Section Row)) : List Row :=
  printed.elim [] Section.rows

namespace DeviceEntry

theorem windowAverage_of_pos {e : DeviceEntry} (h : 0 < e.windowReports) :
    e.windowAverage = some e.shownAverage := by
  rw [shownAverage, windowAverage, if_neg (by omega), Option.getD_some]

end DeviceEntry

theorem heard_perm (sorter : Sorter Louder) (slots : List (Option DeviceEntry)) :
    (heard (sorter.sort slots)).Perm (heard slots) :=
  ((sorter.perm slots).filterMap id).filter _

namespace DeviceRegistry

/-- The devices seen in the window: the entries that have a report and are at most 15
seconds old. -/
def seen (r : DeviceRegistry) (nowMs : ℕ) : Finset DeviceEntry :=
  r.entries.entries.toFinset.filter fun e => nowMs - e.lastSeenMs ≤ 15000 ∧ 0 < e.windowReports

theorem isStale_eq_false_iff {e : DeviceEntry} {now : ℕ} :
    e.isStale now = false ↔ now - e.lastSeenMs ≤ 15000 := by
  rw [DeviceEntry.isStale, decide_eq_false_iff_not, not_lt, deviceStaleAfterMs]

theorem mem_seen {r : DeviceRegistry} {now : ℕ} {e : DeviceEntry} :
    e ∈ r.seen now ↔
      e ∈ r.entries.entries ∧ e.isStale now = false ∧ 0 < e.windowReports := by
  rw [seen, Finset.mem_filter, List.mem_toFinset, isStale_eq_false_iff]

/-- The code's own filter of the slots finds the devices that were seen. -/
theorem mem_heard_iff {r : DeviceRegistry} {now : ℕ} {e : DeviceEntry} :
    e ∈ heard (r.removeStale now).entries.slots ↔ e ∈ r.seen now := by
  have hentries : e ∈ (r.removeStale now).entries.entries ↔
      e ∈ r.entries.entries ∧ e.isStale now = false := by
    rw [SlotTable.mem_entries, SlotTable.mem_entries]
    simp only [removeStale, SlotTable.at?_retain, Option.filter_eq_some_iff, Bool.not_eq_true']
    exact exists_and_right
  rw [mem_seen, heard, List.mem_filter, decide_eq_true_iff, ← and_assoc, ← hentries]
  rfl

theorem mem_heard_sorted {r : DeviceRegistry} {sorter : Sorter Louder} {now : ℕ}
    {e : DeviceEntry} :
    e ∈ heard (sorter.sort (r.removeStale now).entries.slots) ↔ e ∈ r.seen now := by
  rw [← mem_heard_iff]
  exact (heard_perm sorter _).mem_iff

/-- The entry has a line in the device table or in the beacon table. -/
def Listed (r : DeviceRegistry) (sorter : Sorter Louder) (nowMs : ℕ) (e : DeviceEntry) : Prop :=
  e ∈ (heard (sorter.sort (r.removeStale nowMs).entries.slots)).take snapshotDisplayLimit ∨
    e ∈ ((heard (sorter.sort (r.removeStale nowMs).entries.slots)).filter
      fun entry => entry.beacon.isBeacon).take beaconDisplayLimit

theorem Listed.mem_seen {r : DeviceRegistry} {sorter : Sorter Louder} {now : ℕ}
    {e : DeviceEntry} (h : r.Listed sorter now e) : e ∈ r.seen now := by
  rcases h with hdevice | hbeacon
  · exact mem_heard_sorted.mp (List.mem_of_mem_take hdevice)
  · exact mem_heard_sorted.mp (List.mem_filter.mp (List.mem_of_mem_take hbeacon)).1

/-- A table shows a numeric change for the address. -/
def PrintsDelta (r : DeviceRegistry) (sorter : Sorter Louder) (nowMs : ℕ) (a : Address)
    (d : ℤ) : Prop :=
  (∃ row ∈ (r.printSnapshot sorter nowMs).2.devices, row.address = a ∧ row.delta = some d) ∨
    ∃ row ∈ printedRows (r.printSnapshot sorter nowMs).2.beacons,
      row.address = a ∧ row.delta = some d

end DeviceRegistry

/-- A section is printed with its first rows, or it has none. -/
theorem printedRows_section {α Row : Type} (items : List α) (limit : ℕ) (row : α → Row) :
    printedRows (if items.length > 0 then
        some ⟨items.length, min items.length limit, (items.take limit).map row⟩
      else none) = (items.take limit).map row := by
  by_cases h : items.length > 0
  · rw [if_pos h]
    rfl
  · have hnil : items = [] := List.length_eq_zero_iff.mp (by omega)
    rw [if_neg h, hnil, List.take_nil]
    rfl

namespace DeviceRegistry

/-- A change is shown only for a listed device. -/
theorem PrintsDelta.exists_listed {r : DeviceRegistry} {sorter : Sorter Louder} {now : ℕ}
    {a : Address} {d : ℤ} (h : r.PrintsDelta sorter now a d) :
    ∃ e, r.Listed sorter now e ∧ e.address = a ∧ e.delta = some d := by
  rcases h with ⟨row, hrow, ha, hd⟩ | ⟨row, hrow, ha, hd⟩
  · obtain ⟨e, he, rfl⟩ := List.mem_map.mp hrow
    exact ⟨e, .inl he, ha, hd⟩
  · rw [printSnapshot, printout, printedRows_section] at hrow
    obtain ⟨e, he, rfl⟩ := List.mem_map.mp hrow
    exact ⟨e, .inr he, ha, hd⟩

/-- The change of a listed device is shown. -/
theorem Listed.printsDelta {r : DeviceRegistry} {sorter : Sorter Louder} {now : ℕ}
    {e : DeviceEntry} {d : ℤ} (h : r.Listed sorter now e) (hd : e.delta = some d) :
    r.PrintsDelta sorter now e.address d := by
  rcases h with hdevice | hbeacon
  · exact .inl ⟨e.deviceRow now, List.mem_map_of_mem hdevice, rfl, hd⟩
  · refine .inr ⟨e.beaconRow, ?_, rfl, hd⟩
    rw [printSnapshot, printout, printedRows_section]
    exact List.mem_map_of_mem hbeacon

end DeviceRegistry

end EmbeddedSdk.Scanner
