import EmbeddedSdk.SnapshotTables

/-!
# The header of a snapshot accounts for every packet

The counters in the header are kept by the registry, the packets in the rows by the
entries. A report is counted in both. It leaves the rows when its entry is evicted
or goes stale before the window ends, and nothing else makes the two differ.
-/
namespace EmbeddedSdk.Scanner
open MachineInt UnstableSort DeviceRegistry

/-- What happened since the last snapshot, read off the events of a run. -/
structure WindowTally where
  reports : ℕ := 0
  malformed : ℕ := 0
  evictions : ℕ := 0
  evictedReports : ℕ := 0

/-- The reports of the window in the entry that was silent for longest. -/
def DeviceRegistry.oldestReports (r : DeviceRegistry) : ℕ :=
  (r.entries.at? r.oldest).elim 0 DeviceEntry.windowReports

def WindowTally.add (r : DeviceRegistry) (t : WindowTally) : Event → WindowTally
  | .report a _ _ _ =>
      if r.Evicts a then
        ⟨t.reports + 1, t.malformed, t.evictions + 1, t.evictedReports + r.oldestReports⟩
      else { t with reports := t.reports + 1 }
  | .malformedReport => { t with malformed := t.malformed + 1 }
  | .snapshot _ _ => {}

/-- One step of `tally`, beside the registry that it looks at. -/
def trackTally (acc : DeviceRegistry × WindowTally) (e : Event) : DeviceRegistry × WindowTally :=
  (acc.1.step e, acc.2.add acc.1 e)

def tally (events : List Event) : WindowTally := (events.foldl trackTally (new, {})).2

theorem trackTally_fst (events : List Event) :
    (events.foldl trackTally (new, {})).1 = after events := by
  induction events using List.reverseRecOn with
  | nil => rfl
  | append_singleton past e ih =>
      simp only [List.foldl_append, List.foldl_cons, List.foldl_nil, trackTally, ih, after_concat]

theorem tally_concat (past : List Event) (e : Event) :
    tally (past ++ [e]) = (tally past).add (after past) e := by
  simp only [tally, List.foldl_append, List.foldl_cons, List.foldl_nil, trackTally, trackTally_fst]

namespace DeviceRegistry

/-- The packets of all entries in the present window. -/
def packets (r : DeviceRegistry) : ℕ := r.entries.total DeviceEntry.windowReports

/-- The packets of entries that a snapshot drops as stale. -/
def stalePackets (r : DeviceRegistry) (nowMs : ℕ) : ℕ :=
  (r.entries.retain fun entry => entry.isStale nowMs).total DeviceEntry.windowReports

theorem record_windowReports (r : DeviceRegistry) (a : Address) (rssi : Int8)
    (m : AdvertisementMetadata) (now : ℕ) :
    (r.record a rssi m now).windowReports = wrappingAddU32 r.windowReports 1 := by
  unfold record
  dsimp only
  split
  · rfl
  · split <;> rfl

theorem record_windowMalformedReports (r : DeviceRegistry) (a : Address) (rssi : Int8)
    (m : AdvertisementMetadata) (now : ℕ) :
    (r.record a rssi m now).windowMalformedReports = r.windowMalformedReports := by
  unfold record
  dsimp only
  split
  · rfl
  · split <;> rfl

/-- A report adds one packet to the entries. If it evicts an entry, then the packets
of that entry go with it. -/
theorem record_packets (r : DeviceRegistry) (a : Address) (rssi : Int8)
    (m : AdvertisementMetadata) (now : ℕ) (h : r.packets < u32Max) :
    (r.record a rssi m now).packets + (if r.Evicts a then r.oldestReports else 0) =
      r.packets + 1 := by
  have hrec := record_recorded r a rssi m now
  rw [packets] at h ⊢
  generalize (r.record a rssi m now).entries = table at hrec ⊢
  cases hrec with
  | updated i e hslot ha =>
      have hevicts : ¬ r.Evicts a := fun hevicts =>
        hevicts.2 (isLive_iff.mpr ⟨i, e, hslot, ha⟩)
      have hle := SlotTable.le_total hslot DeviceEntry.windowReports
      have hput := SlotTable.total_put (SlotTable.at?_lt hslot) (e.update rssi m now)
        DeviceEntry.windowReports (t := r.entries)
      have hupdate : (e.update rssi m now).windowReports = e.windowReports + 1 :=
        saturatingAdd_of_le (by omega)
      rw [hslot, Option.elim_some, hupdate] at hput
      rw [if_neg hevicts, packets]
      omega
  | inserted i hi hslot hlive hfull =>
      have hput := SlotTable.total_put hi (.fresh a rssi m now) DeviceEntry.windowReports
        (t := r.entries)
      rw [hslot, Option.elim_none] at hput
      rw [if_neg fun hevicts => hfull hevicts.1]
      exact hput
  | evicted e hslot hlive hfull holdest =>
      have hput := SlotTable.total_put (oldest_lt hslot) (.fresh a rssi m now)
        DeviceEntry.windowReports (t := r.entries)
      rw [if_pos ⟨hfull, hlive⟩]
      exact hput

theorem printSnapshot_packets (r : DeviceRegistry) (sorter : Sorter Louder) (now : ℕ) :
    (r.printSnapshot sorter now).1.packets = 0 := by
  simp only [packets, printSnapshot, resetWindows, SlotTable.total_map]
  simp [SlotTable.total]

end DeviceRegistry

/-- The counters of the header hold the tally of the window, as far as they reach. -/
theorem after_counters (events : List Event) :
    (after events).windowReports = (tally events).reports % 4294967296 ∧
      (after events).windowMalformedReports = (tally events).malformed % 4294967296 ∧
      (after events).windowEvictions = (tally events).evictions % 4294967296 := by
  induction events using List.reverseRecOn with
  | nil => exact ⟨rfl, rfl, rfl⟩
  | append_singleton past e ih =>
      obtain ⟨hreports, hmalformed, hevictions⟩ := ih
      rw [after_concat, tally_concat]
      cases e with
      | report a rssi structures now =>
          simp only [step, record_windowReports, record_windowMalformedReports,
            record_windowEvictions, WindowTally.add]
          split
          · simp only [hreports, hmalformed, hevictions, wrappingAddU32, true_and]
            omega
          · simp only [hreports, hmalformed, hevictions, wrappingAddU32, and_self, and_true]
            omega
      | malformedReport =>
          simp only [step, recordMalformedReport, WindowTally.add, hreports, hmalformed,
            hevictions, wrappingAddU32, true_and, and_true]
          omega
      | snapshot now sorter => exact ⟨rfl, rfl, rfl⟩

/-- As long as no counter wraps, every report of the window is in an entry or was
evicted with one. -/
theorem after_packets (events : List Event) (h : (tally events).reports ≤ u32Max) :
    (after events).packets + (tally events).evictedReports = (tally events).reports := by
  induction events using List.reverseRecOn with
  | nil => simp [DeviceRegistry.packets, new, tally]
  | append_singleton past e ih =>
      rw [tally_concat] at h ⊢
      rw [after_concat]
      cases e with
      | report a rssi structures now =>
          have hreports : (tally past).reports + 1 ≤ u32Max := by
            simp only [WindowTally.add] at h
            split at h <;> exact h
          have hpast := ih (by omega)
          have hrecord := record_packets (after past) a rssi (.parse structures) now (by omega)
          simp only [step, WindowTally.add]
          split
          · rename_i hevicts
            rw [if_pos hevicts] at hrecord
            dsimp only
            omega
          · rename_i hevicts
            rw [if_neg hevicts] at hrecord
            dsimp only
            omega
      | malformedReport => exact ih h
      | snapshot now sorter => exact printSnapshot_packets (after past) sorter now

theorem tally_evictions_le (events : List Event) :
    (tally events).evictions ≤ (tally events).reports := by
  induction events using List.reverseRecOn with
  | nil => exact Nat.le_refl 0
  | append_singleton past e ih =>
      rw [tally_concat]
      cases e with
      | report a rssi structures now =>
          simp only [WindowTally.add]
          split <;> dsimp only <;> omega
      | malformedReport => exact ih
      | snapshot now sorter => exact Nat.le_refl 0

theorem tally_evictedReports_of_none (events : List Event) (h : (tally events).evictions = 0) :
    (tally events).evictedReports = 0 := by
  induction events using List.reverseRecOn with
  | nil => rfl
  | append_singleton past e ih =>
      rw [tally_concat] at h ⊢
      cases e with
      | report a rssi structures now =>
          simp only [WindowTally.add] at h ⊢
          split
          · rename_i hevicts
            rw [if_pos hevicts] at h
            simp at h
          · rename_i hevicts
            rw [if_neg hevicts] at h
            exact ih h
      | malformedReport => exact ih h
      | snapshot now sorter => rfl

/-- Silent entries have no packets, so the heard ones have all of them. -/
theorem sum_heard (slots : List (Option DeviceEntry)) :
    ((heard slots).map DeviceEntry.windowReports).sum =
      (slots.reduceOption.map DeviceEntry.windowReports).sum := by
  rw [heard]
  induction slots.reduceOption with
  | nil => rfl
  | cons e entries ih =>
      by_cases he : e.windowReports > 0
      · rw [List.filter_cons_of_pos (by simpa using he), List.map_cons, List.map_cons,
          List.sum_cons, List.sum_cons, ih]
      · rw [List.filter_cons_of_neg (by simpa using he), List.map_cons, List.sum_cons, ih]
        omega

/-- The packets of all devices that are heard at a snapshot. -/
def heardPackets (r : DeviceRegistry) (sorter : Sorter Louder) (nowMs : ℕ) : ℕ :=
  ((heard (sorter.sort (r.removeStale nowMs).entries.slots)).map DeviceEntry.windowReports).sum

theorem heardPackets_add_stalePackets (r : DeviceRegistry) (sorter : Sorter Louder) (now : ℕ) :
    heardPackets r sorter now + r.stalePackets now = r.packets := by
  have hheard : heardPackets r sorter now =
      (r.removeStale now).entries.total DeviceEntry.windowReports := by
    rw [heardPackets, ((heard_perm sorter _).map DeviceEntry.windowReports).sum_eq, sum_heard]
    rfl
  have hsplit := r.entries.total_retain (fun entry => !entry.isStale now)
    DeviceEntry.windowReports
  simp only [Bool.not_not] at hsplit
  rw [hheard, packets, hsplit]
  rfl

/-- The rows of the device table show the packets of the first heard devices. -/
theorem devices_packets (r : DeviceRegistry) (sorter : Sorter Louder) (now : ℕ) :
    ((r.printSnapshot sorter now).2.devices.map DeviceRow.windowReports) =
      ((heard (sorter.sort (r.removeStale now).entries.slots)).map
        DeviceEntry.windowReports).take snapshotDisplayLimit := by
  simp only [printSnapshot, printout, List.map_map, ← List.map_take]
  rfl

/-- In every run, the header of a snapshot shows how many reports, malformed reports
and evictions the window had. The packets in the header are the packets of the heard
devices, of the evicted entries and of the stale ones; the rows show all of them when
nothing was evicted or stale and no device is left out of the table. -/
theorem header_accounts_for_packets (past : List Event) (sorter : Sorter Louder) (now : ℕ)
    (h : (tally past).reports ≤ u32Max) :
    let printed := ((after past).printSnapshot sorter now).2
    printed.windowReports = (tally past).reports ∧
      printed.windowMalformedReports = (tally past).malformed % 4294967296 ∧
      printed.windowEvictions = (tally past).evictions ∧
      printed.windowReports = heardPackets (after past) sorter now +
        (tally past).evictedReports + (after past).stalePackets now ∧
      (printed.devices.map DeviceRow.windowReports).sum ≤ printed.windowReports ∧
      (printed.windowEvictions = 0 → (after past).stalePackets now = 0 →
        printed.count ≤ snapshotDisplayLimit →
          (printed.devices.map DeviceRow.windowReports).sum = printed.windowReports) := by
  obtain ⟨hreports, hmalformed, hevictions⟩ := after_counters past
  have hevictions_le := tally_evictions_le past
  have hpackets := after_packets past h
  have hsplit := heardPackets_add_stalePackets (after past) sorter now
  rw [u32Max] at h
  rw [Nat.mod_eq_of_lt (by omega)] at hreports
  rw [Nat.mod_eq_of_lt (by omega)] at hevictions
  have hheader : ((after past).printSnapshot sorter now).2.windowReports = (tally past).reports :=
    hreports
  have hrows : (((after past).printSnapshot sorter now).2.devices.map
      DeviceRow.windowReports).sum ≤ heardPackets (after past) sorter now := by
    rw [devices_packets]
    exact (List.take_sublist _ _).sum_le_sum (by simp)
  refine ⟨hheader, hmalformed, hevictions, ?_, ?_, ?_⟩
  · rw [hheader]
    omega
  · rw [hheader]
    omega
  · intro hnone hstale hcount
    have hnone' : (tally past).evictions = 0 := hevictions.symm.trans hnone
    have hevicted := tally_evictedReports_of_none past hnone'
    have hlength : (heard (sorter.sort ((after past).removeStale now).entries.slots)).length ≤
        snapshotDisplayLimit := by
      rw [(heard_perm sorter _).length_eq]
      exact hcount
    have hall : (((after past).printSnapshot sorter now).2.devices.map
        DeviceRow.windowReports).sum = heardPackets (after past) sorter now := by
      rw [devices_packets, List.take_of_length_le (by rw [List.length_map]; exact hlength)]
      rfl
    rw [hall, hheader]
    omega

def otherAddress : Address := ⟨1, #v[6, 5, 4, 3, 2, 1]⟩

/-- Two devices, one of them heard twice, and a malformed report. -/
def twoDevices : List Event :=
  [.report sampleAddress (-40) [] 100, .report otherAddress (-70) [] 200, .malformedReport,
    .report sampleAddress (-44) [] 300]

theorem twoDevices_accounted :
    (tally twoDevices).reports ≤ u32Max ∧
      (((after twoDevices).printSnapshot (.insertion Louder) 5000).2.devices.map
        DeviceRow.windowReports).sum = 3 := by
  have hbound : (tally twoDevices).reports ≤ u32Max := by decide +kernel
  obtain ⟨hheader, -, -, -, -, hrows⟩ :=
    header_accounts_for_packets twoDevices (.insertion Louder) 5000 hbound
  have hthree : (tally twoDevices).reports = 3 := by decide +kernel
  refine ⟨hbound, ?_⟩
  rw [hrows (by decide +kernel) (by decide +kernel) (by decide +kernel), hheader, hthree]

end EmbeddedSdk.Scanner
