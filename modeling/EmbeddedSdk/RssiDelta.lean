import EmbeddedSdk.SnapshotTables

/-!
# The change since the preceding scan

An entry stores the average of the last window in which its device was heard. A
silent window leaves that average alone, so that the change printed after it is one
since an earlier scan. The changes are right as long as no listed device comes back
after a silent window.
-/
namespace EmbeddedSdk.Scanner
open MachineInt UnstableSort DeviceRegistry

/-- No prefix of the reports of a window overflows the sum or the count. -/
def Unsaturated (reports : List Report) : Prop :=
  (∀ front, front <+: reports → i32Min ≤ rssiSum front ∧ rssiSum front ≤ i32Max) ∧
    reports.length ≤ u32Max

theorem unsaturated_of_length_le {reports : List Report} (h : reports.length ≤ 16777216) :
    Unsaturated reports := by
  refine ⟨?_, ?_⟩
  · intro front hfront
    exact rssiSum_mem (hfront.length_le.trans h)
  · rw [u32Max]
    omega

/-- What an entry knows of the present window and of the one before. -/
structure Tracks (w : Windows) (e : DeviceEntry) : Prop where
  current : Unsaturated w.current →
    e.windowReports = w.current.length ∧ e.windowRssiSum = rssiSum w.current
  first : w.closed = [] → e.previousWindowAverage = none ∧ 0 < e.windowReports
  later : w.closed ≠ [] → e.previousWindowAverage.isSome
  preceding : ∀ reports, w.closed.getLast? = some reports → reports ≠ [] → Unsaturated reports →
    e.previousWindowAverage = mean reports

theorem fresh_tracks (a : Address) (report : Report) :
    Tracks ⟨[], [report]⟩ (.fresh a report.rssi report.metadata report.nowMs) := by
  constructor
  · intro _
    simp [DeviceEntry.fresh, rssiSum]
  · intro _
    exact ⟨rfl, Nat.one_pos⟩
  · intro hclosed
    exact absurd rfl hclosed
  · intro reports hlast
    simp at hlast

theorem Tracks.update {w : Windows} {e : DeviceEntry} (h : Tracks w e) (report : Report) :
    Tracks ⟨w.closed, w.current ++ [report]⟩
      (e.update report.rssi report.metadata report.nowMs) := by
  constructor
  · intro hunsaturated
    obtain ⟨hsums, hlength⟩ := hunsaturated
    have hfront : Unsaturated w.current := by
      refine ⟨?_, ?_⟩
      · intro front hfront
        exact hsums front (hfront.trans (List.prefix_append _ _))
      · rw [List.length_append] at hlength
        omega
    obtain ⟨hcount, hsum⟩ := h.current hfront
    obtain ⟨hlo, hhi⟩ := hsums _ List.prefix_rfl
    rw [rssiSum_concat] at hlo hhi
    rw [List.length_append, List.length_singleton] at hlength
    refine ⟨?_, ?_⟩
    · simp only [DeviceEntry.update, hcount, saturatingAdd_of_le hlength, List.length_append,
        List.length_singleton]
    · simp only [DeviceEntry.update, hsum, saturatingAddInt_of_mem hlo hhi, rssiSum_concat]
  · intro hclosed
    obtain ⟨hnone, hpos⟩ := h.first hclosed
    refine ⟨hnone, ?_⟩
    simp only [DeviceEntry.update, saturatingAdd, u32Max]
    omega
  · exact h.later
  · exact h.preceding

theorem Tracks.resetWindow {w : Windows} {e : DeviceEntry} (h : Tracks w e) :
    Tracks ⟨w.closed ++ [w.current], []⟩ e.resetWindow := by
  constructor
  · intro _
    exact ⟨rfl, rfl⟩
  · intro hnil
    simp at hnil
  · intro _
    cases haverage : e.windowAverage with
    | some average => simp only [DeviceEntry.resetWindow, haverage, Option.isSome_some]
    | none =>
        simp only [DeviceEntry.resetWindow, haverage]
        apply h.later
        intro hclosed
        rw [DeviceEntry.windowAverage_of_pos (h.first hclosed).2] at haverage
        simp at haverage
  · intro reports hlast hne hunsaturated
    rw [List.getLast?_concat, Option.some.injEq] at hlast
    subst hlast
    obtain ⟨hcount, hsum⟩ := h.current hunsaturated
    have hmean := windowAverage_eq_mean hcount hsum
    have hsome : mean w.current = some ((rssiSum w.current).tdiv w.current.length) := if_neg hne
    simp only [DeviceEntry.resetWindow, hmean, hsome]

/-- Every entry of every run tracks its windows. -/
theorem after_tracks (events : List Event) {j : ℕ} {f : DeviceEntry}
    (hf : (after events).entries.at? j = some f) : Tracks (windowsOf f.address events) f :=
  after_related (R := fun _ w e => Tracks w e) fresh_tracks (fun _ _ _ report h => h.update report)
    (fun _ _ _ h => h.resetWindow) events hf

/-- Once a window has ended since the insertion, no report of the present window is
missing. -/
theorem windowsOf_current (a : Address) (events : List Event)
    (h : (windowsOf a events).closed ≠ []) :
    (windowsOf a events).current = (windows a events).current := by
  induction events using List.reverseRecOn with
  | nil => rfl
  | append_singleton past event ih =>
      by_cases hins : event.Inserts a (after past)
      · obtain ⟨report, hreport⟩ := Option.isSome_iff_exists.mp hins.1
        rw [windowsOf_insert hins hreport] at h
        simp at h
      · rw [windowsOf_concat hins] at h ⊢
        rw [windows_concat]
        cases event with
        | snapshot now sorter => rfl
        | report address rssi structures now =>
            have hcurrent := ih h
            simp only [Windows.add, hcurrent]
        | malformedReport =>
            have hcurrent := ih h
            simp only [Windows.add, hcurrent]

/-- Every numeric change that a snapshot prints compares the window that ends with
the preceding one: the device was reported in both, and the change is the
difference of the averages. -/
def DeltasCompare (events : List Event) : Prop :=
  ∀ past now sorter, past ++ [.snapshot now sorter] <+: events → ∀ a d,
    (after past).PrintsDelta sorter now a d →
      ∃ preceding, (windows a past).closed.getLast? = some preceding ∧ preceding ≠ [] ∧
        ∃ average before, mean (windows a past).current = some average ∧
          mean preceding = some before ∧ d = average - before

/-- At every snapshot, every listed device either was inserted in the window that
ends or was reported in the preceding window as well. -/
def HeardWithoutPause (events : List Event) : Prop :=
  ∀ past now sorter, past ++ [.snapshot now sorter] <+: events → ∀ e,
    (after past).Listed sorter now e → (windowsOf e.address past).closed = [] ∨
      ∃ preceding, (windows e.address past).closed.getLast? = some preceding ∧ preceding ≠ []

/-- At every snapshot, no report of a listed device in the preceding window came before
the insertion of its entry, and neither window saturates a counter. -/
def ReportsKept (events : List Event) : Prop :=
  ∀ past now sorter, past ++ [.snapshot now sorter] <+: events → ∀ e,
    (after past).Listed sorter now e → ∀ kept,
      (windowsOf e.address past).closed.getLast? = some kept →
        (windows e.address past).closed.getLast? = some kept ∧ Unsaturated kept ∧
          Unsaturated (windows e.address past).current

/-- With all reports of the two windows, the stored average is that of the preceding
window. -/
theorem deltasCompare_of_heard {events : List Event} (hheard : HeardWithoutPause events)
    (hreports : ReportsKept events) : DeltasCompare events := by
  intro past now sorter hp a d hprints
  obtain ⟨e, he, rfl, hd⟩ := hprints.exists_listed
  obtain ⟨hentry, -, hpos⟩ := mem_seen.mp he.mem_seen
  obtain ⟨j, hj⟩ := SlotTable.mem_entries.mp hentry
  have htracks := after_tracks past hj
  obtain ⟨p, hprevious, rfl⟩ := Option.map_eq_some_iff.mp hd
  have hclosed : (windowsOf e.address past).closed ≠ [] := by
    intro hnil
    rw [(htracks.first hnil).1] at hprevious
    simp at hprevious
  obtain ⟨preceding, hlast, hne⟩ := (hheard past now sorter hp e he).resolve_left hclosed
  have hkept := List.getLast?_eq_some_getLast hclosed
  obtain ⟨hsame, hunsaturated, hcurrent⟩ := hreports past now sorter hp e he _ hkept
  rw [hlast, Option.some.injEq] at hsame
  rw [← hsame] at hkept hunsaturated
  have haverage : mean (windows e.address past).current = some e.shownAverage := by
    rw [← windowsOf_current e.address past hclosed] at hcurrent ⊢
    obtain ⟨hcount, hsum⟩ := htracks.current hcurrent
    rw [← windowAverage_eq_mean hcount hsum]
    exact DeviceEntry.windowAverage_of_pos hpos
  rw [htracks.preceding preceding hkept hne hunsaturated] at hprevious
  exact ⟨preceding, hlast, hne, e.shownAverage, p, haverage, hprevious, rfl⟩

/-- An entry that has seen a snapshot has a stored average, whether or not its device
was heard in the preceding window. -/
theorem heard_of_deltasCompare {events : List Event} (h : DeltasCompare events) :
    HeardWithoutPause events := by
  intro past now sorter hp e he
  by_cases hclosed : (windowsOf e.address past).closed = []
  · exact .inl hclosed
  · obtain ⟨j, hj⟩ := SlotTable.mem_entries.mp (mem_seen.mp he.mem_seen).1
    obtain ⟨p, hprevious⟩ := Option.isSome_iff_exists.mp ((after_tracks past hj).later hclosed)
    have hd : e.delta = some (e.shownAverage - p) := by
      rw [DeviceEntry.delta, hprevious, Option.map_some]
    obtain ⟨preceding, hlast, hne, -⟩ := h past now sorter hp _ _ (he.printsDelta hd)
    exact .inr ⟨preceding, hlast, hne⟩

/-- In every run in which no listed device comes back after a silent window, and
entries have all reports of the two windows, every printed change is one since the
preceding window. A device that comes back always makes a change that is not. -/
theorem deltasCompare_heardWithoutPause (events : List Event) :
    (HeardWithoutPause events ∧ ReportsKept events → DeltasCompare events) ∧
      (DeltasCompare events → HeardWithoutPause events) := by
  constructor
  · intro h
    exact deltasCompare_of_heard h.1 h.2
  · exact heard_of_deltasCompare

/-- A device heard in two windows in a row. -/
def steadyEvents : List Event :=
  [.report sampleAddress (-60) [] 10, .snapshot 5000 (.insertion Louder),
    .report sampleAddress (-47) [] 5100, .snapshot 10000 (.insertion Louder)]

/-- A device that is silent for a whole window. -/
def pausingEvents : List Event :=
  [.report sampleAddress (-60) [] 10, .snapshot 5000 (.insertion Louder),
    .snapshot 10000 (.insertion Louder), .report sampleAddress (-47) [] 10100]

/-- What the two tables of a snapshot print of each device. -/
def printedDeltas (r : DeviceRegistry) (nowMs : ℕ) : List (Address × Option ℤ) :=
  let printed := (r.printSnapshot (.insertion Louder) nowMs).2
  (printed.devices.map fun row => (row.address, row.delta)) ++
    (printedRows printed.beacons).map fun row => (row.address, row.delta)

theorem mem_printedDeltas {r : DeviceRegistry} {now : ℕ} {a : Address} {d : ℤ} :
    r.PrintsDelta (.insertion Louder) now a d ↔ (a, some d) ∈ printedDeltas r now := by
  simp only [PrintsDelta, printedDeltas, List.mem_append, List.mem_map, Prod.mk.injEq]

theorem steadyEvents_snapshots {past : List Event} {now : ℕ} {sorter : Sorter Louder}
    (h : past ++ [.snapshot now sorter] <+: steadyEvents) :
    past = steadyEvents.take 1 ∨ past = steadyEvents.take 3 := by
  obtain ⟨rest, hrest⟩ := h
  rcases past with _ | ⟨e₁, _ | ⟨e₂, _ | ⟨e₃, _ | ⟨e₄, past⟩⟩⟩⟩
  · simp [steadyEvents] at hrest
  · simp only [steadyEvents, List.cons_append, List.nil_append, List.cons.injEq] at hrest
    rw [hrest.1]
    exact .inl rfl
  · simp [steadyEvents] at hrest
  · simp only [steadyEvents, List.cons_append, List.nil_append, List.cons.injEq] at hrest
    rw [hrest.1, hrest.2.1, hrest.2.2.1]
    exact .inr rfl
  · simp [steadyEvents] at hrest

theorem steadyEvents_compare :
    (after (steadyEvents.take 3)).PrintsDelta (.insertion Louder) 10000 sampleAddress 13 ∧
      DeltasCompare steadyEvents := by
  have hprinted : printedDeltas (after (steadyEvents.take 3)) 10000 =
      [(sampleAddress, some 13)] := by
    decide +kernel
  have hfirst : ∀ e ∈ (after (steadyEvents.take 1)).entries.entries,
      (windowsOf e.address (steadyEvents.take 1)).closed = [] := by
    decide +kernel
  have hsecond : ∀ e ∈ (after (steadyEvents.take 3)).entries.entries,
      e.address = sampleAddress := by
    decide +kernel
  have hkept : (windowsOf sampleAddress (steadyEvents.take 3)).closed.getLast? =
      some [⟨-60, .parse [], 10⟩] := by
    decide +kernel
  have hpreceding : (windows sampleAddress (steadyEvents.take 3)).closed.getLast? =
      some [⟨-60, .parse [], 10⟩] := by
    decide +kernel
  have hcurrent : (windows sampleAddress (steadyEvents.take 3)).current.length = 1 := by
    decide +kernel
  refine ⟨mem_printedDeltas.mpr (by simp [hprinted]),
    (deltasCompare_heardWithoutPause steadyEvents).1 ⟨?_, ?_⟩⟩
  · intro past now sorter hp e he
    have hentry := (mem_seen.mp he.mem_seen).1
    rcases steadyEvents_snapshots hp with rfl | rfl
    · exact .inl (hfirst e hentry)
    · rw [hsecond e hentry]
      exact .inr ⟨_, hpreceding, by simp⟩
  · intro past now sorter hp e he kept hkept'
    have hentry := (mem_seen.mp he.mem_seen).1
    rcases steadyEvents_snapshots hp with rfl | rfl
    · rw [hfirst e hentry] at hkept'
      simp at hkept'
    · rw [hsecond e hentry] at hkept' ⊢
      rw [hkept, Option.some.injEq] at hkept'
      rw [← hkept']
      exact ⟨hpreceding, unsaturated_of_length_le (by simp),
        unsaturated_of_length_le (hcurrent.trans_le (by omega))⟩

/-- The change printed after a silent window is one since the window before it. -/
theorem pausingEvents_compare_earlier :
    (after pausingEvents).PrintsDelta (.insertion Louder) 15000 sampleAddress 13 ∧
      ¬ ReportedInWindow sampleAddress (pausingEvents.take 2) ∧
      ¬ DeltasCompare (pausingEvents ++ [.snapshot 15000 (.insertion Louder)]) := by
  have hprinted : printedDeltas (after pausingEvents) 15000 = [(sampleAddress, some 13)] := by
    decide +kernel
  have hprints : (after pausingEvents).PrintsDelta (.insertion Louder) 15000 sampleAddress 13 :=
    mem_printedDeltas.mpr (by simp [hprinted])
  have hsilent : (windows sampleAddress pausingEvents).closed.getLast? = some [] := by
    decide +kernel
  refine ⟨hprints, by decide +kernel, ?_⟩
  intro h
  obtain ⟨preceding, hlast, hne, -⟩ := h _ 15000 _ List.prefix_rfl sampleAddress 13 hprints
  rw [hsilent, Option.some.injEq] at hlast
  exact hne hlast.symm

end EmbeddedSdk.Scanner
