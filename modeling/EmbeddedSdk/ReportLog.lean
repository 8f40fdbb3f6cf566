import EmbeddedSdk.ScannerSnapshot
import Mathlib.Tactic.Linarith

/-!
# The registry as a summary of the report log

The log of a device starts over whenever a report finds it without an entry. It
is cut into windows at the snapshots. An entry is compared with that log field
by field, as long as no window is long enough to saturate a counter.
-/
namespace EmbeddedSdk.Scanner
open MachineInt DeviceRegistry

/-- A report of one device. -/
structure Report where
  rssi : Int8
  metadata : AdvertisementMetadata
  nowMs : ℕ
  deriving DecidableEq

/-- The report of the address that an event brings. -/
def Event.reportOf (a : Address) : Event → Option Report
  | report address rssi structures nowMs =>
      if address = a then some ⟨rssi, .parse structures, nowMs⟩ else none
  | _ => none

/-- All reports of the address. -/
def reportsOf (a : Address) (events : List Event) : List Report :=
  events.filterMap (Event.reportOf a)

/-- The event is a report of an address without an entry. -/
def Event.Inserts (a : Address) (r : DeviceRegistry) (e : Event) : Prop :=
  (e.reportOf a).isSome ∧ ¬ r.IsLive a

instance (a : Address) (r : DeviceRegistry) (e : Event) : Decidable (e.Inserts a r) :=
  inferInstanceAs (Decidable (_ ∧ _))

/-- One step of `sinceInsertion`, beside the registry that it looks at. -/
def trackInsertion (a : Address) (acc : DeviceRegistry × List Event) (e : Event) :
    DeviceRegistry × List Event :=
  (acc.1.step e, if e.Inserts a acc.1 then [e] else acc.2 ++ [e])

/-- The events of a run from the last insertion of the address on. -/
def sinceInsertion (a : Address) (events : List Event) : List Event :=
  (events.foldl (trackInsertion a) (new, [])).2

/-- The reports of one address, cut at the snapshots. -/
structure Windows where
  closed : List (List Report) := []
  current : List Report := []

def Windows.add (a : Address) (w : Windows) : Event → Windows
  | .snapshot _ _ => ⟨w.closed ++ [w.current], []⟩
  | e => ⟨w.closed, w.current ++ (e.reportOf a).toList⟩

def windows (a : Address) (events : List Event) : Windows := events.foldl (Windows.add a) {}

def rssiSum (reports : List Report) : ℤ := (reports.map fun report => report.rssi.toInt).sum

/-- The mean RSSI truncated toward zero. -/
def mean (reports : List Report) : Option ℤ :=
  if reports = [] then none else some ((rssiSum reports).tdiv reports.length)

/-- The entry says exactly what its log says. -/
structure Summarizes (log : List Report) (w : Windows) (e : DeviceEntry) : Prop where
  windowReports : e.windowReports = w.current.length
  windowRssiSum : e.windowRssiSum = rssiSum w.current
  windowPeakRssi : e.windowPeakRssi =
    (w.current.map fun report => report.rssi).foldl max Int8.minValue
  lastSeenMs : log.getLast?.map (fun report => report.nowMs) = some e.lastSeenMs
  name : e.name = log.reverse.findSome? fun report => report.metadata.name
  manufacturer : e.manufacturer = log.reverse.findSome? fun report => report.metadata.manufacturer
  feasycom : e.beacon.feasycom = log.any fun report => report.metadata.beacon.feasycom
  formats : e.beacon.formats =
    (log.map fun report => report.metadata.beacon.formats).foldl (fun x y => x ||| y) 0
  previousWindowAverage : e.previousWindowAverage = w.closed.reverse.findSome? mean

/-- No window holds more than 2^24 reports. -/
def Windows.Bounded (w : Windows) : Prop :=
  (∀ reports ∈ w.closed, reports.length ≤ 16777216) ∧ w.current.length ≤ 16777216

theorem trackInsertion_fst (a : Address) (events : List Event) :
    (events.foldl (trackInsertion a) (new, [])).1 = after events := by
  induction events using List.reverseRecOn with
  | nil => rfl
  | append_singleton past e ih =>
      simp only [List.foldl_append, List.foldl_cons, List.foldl_nil, trackInsertion, ih,
        after_concat]

theorem sinceInsertion_concat (a : Address) (past : List Event) (e : Event) :
    sinceInsertion a (past ++ [e]) =
      if e.Inserts a (after past) then [e] else sinceInsertion a past ++ [e] := by
  simp only [sinceInsertion, List.foldl_append, List.foldl_cons, List.foldl_nil, trackInsertion,
    trackInsertion_fst]

theorem windows_concat (a : Address) (past : List Event) (e : Event) :
    windows a (past ++ [e]) = (windows a past).add a e := by
  simp only [windows, List.foldl_append, List.foldl_cons, List.foldl_nil]

theorem reportsOf_concat (a : Address) (past : List Event) (e : Event) :
    reportsOf a (past ++ [e]) = reportsOf a past ++ (e.reportOf a).toList := by
  simp only [reportsOf, List.filterMap_append]
  cases h : e.reportOf a <;> simp [h]

theorem rssiSum_concat (reports : List Report) (report : Report) :
    rssiSum (reports ++ [report]) = rssiSum reports + report.rssi.toInt := by
  simp [rssiSum]

theorem rssiSum_le {reports : List Report} {hi : ℤ}
    (h : ∀ report ∈ reports, report.rssi.toInt ≤ hi) :
    rssiSum reports ≤ hi * reports.length := by
  induction reports using List.reverseRecOn with
  | nil => simp [rssiSum]
  | append_singleton reports report ih =>
      have hlast := h report (by simp)
      have hinit := ih fun r hr => h r (by simp [hr])
      rw [rssiSum_concat, List.length_append, List.length_singleton]
      push_cast
      linarith

theorem le_rssiSum {reports : List Report} {lo : ℤ}
    (h : ∀ report ∈ reports, lo ≤ report.rssi.toInt) :
    lo * reports.length ≤ rssiSum reports := by
  induction reports using List.reverseRecOn with
  | nil => simp [rssiSum]
  | append_singleton reports report ih =>
      have hlast := h report (by simp)
      have hinit := ih fun r hr => h r (by simp [hr])
      rw [rssiSum_concat, List.length_append, List.length_singleton]
      push_cast
      linarith

theorem mean_eq_some {reports : List Report} {average : ℤ} (h : mean reports = some average) :
    0 < (reports.length : ℤ) ∧ average = (rssiSum reports).tdiv reports.length := by
  unfold mean at h
  split at h
  · simp at h
  · rename_i hne
    have hpos := List.length_pos_iff.mpr hne
    rw [Option.some.injEq] at h
    exact ⟨by omega, h.symm⟩

/-- The mean is at most every upper bound of the reports. -/
theorem mean_le {reports : List Report} {average hi : ℤ} (h : mean reports = some average)
    (hhi : ∀ report ∈ reports, report.rssi.toInt ≤ hi) : average ≤ hi := by
  obtain ⟨hpos, rfl⟩ := mean_eq_some h
  calc (rssiSum reports).tdiv reports.length
      ≤ (hi * reports.length).tdiv reports.length := Int.tdiv_le_tdiv hpos (rssiSum_le hhi)
    _ = hi := Int.mul_tdiv_cancel hi (by omega)

/-- The mean is at least every lower bound of the reports. -/
theorem le_mean {reports : List Report} {average lo : ℤ} (h : mean reports = some average)
    (hlo : ∀ report ∈ reports, lo ≤ report.rssi.toInt) : lo ≤ average := by
  obtain ⟨hpos, rfl⟩ := mean_eq_some h
  calc lo = (lo * reports.length).tdiv reports.length := (Int.mul_tdiv_cancel lo (by omega)).symm
    _ ≤ (rssiSum reports).tdiv reports.length := Int.tdiv_le_tdiv hpos (le_rssiSum hlo)

theorem rssi_le (report : Report) : report.rssi.toInt ≤ 127 := by
  have h := report.rssi.toInt_lt
  omega

theorem le_rssi (report : Report) : -128 ≤ report.rssi.toInt := by
  have h := report.rssi.le_toInt
  omega

/-- Sums of a bounded window fit into 32 bits. -/
theorem rssiSum_mem {reports : List Report} (h : reports.length ≤ 16777216) :
    i32Min ≤ rssiSum reports ∧ rssiSum reports ≤ i32Max := by
  have hle := rssiSum_le fun report (_ : report ∈ reports) => rssi_le report
  have hge := le_rssiSum fun report (_ : report ∈ reports) => le_rssi report
  simp only [i32Min, i32Max]
  omega

/-- The window average of exact counters is the mean of the reports. -/
theorem windowAverage_eq_mean {e : DeviceEntry} {reports : List Report}
    (hcount : e.windowReports = reports.length) (hsum : e.windowRssiSum = rssiSum reports) :
    e.windowAverage = mean reports := by
  simp only [DeviceEntry.windowAverage, hcount, hsum, List.length_eq_zero_iff]
  by_cases hnil : reports = []
  · simp [mean, hnil]
  · have hmean : mean reports = some ((rssiSum reports).tdiv reports.length) := if_neg hnil
    have hle := mean_le hmean fun report _ => rssi_le report
    have hge := le_mean hmean fun report _ => le_rssi report
    rw [if_neg hnil, hmean, asI16, Int.bmod_eq_of_le (by omega) (by omega)]

theorem Summarizes.windowAverage {log : List Report} {w : Windows} {e : DeviceEntry}
    (h : Summarizes log w e) : e.windowAverage = mean w.current :=
  windowAverage_eq_mean h.windowReports h.windowRssiSum

/-- The entry of a new device summarizes its first report. -/
theorem fresh_summarizes (a : Address) (report : Report) :
    Summarizes [report] ⟨[], [report]⟩
      (.fresh a report.rssi report.metadata report.nowMs) := by
  have hpeak : report.rssi = max Int8.minValue report.rssi :=
    (if_pos (Int8.minValue_le report.rssi)).symm
  constructor <;> simp [DeviceEntry.fresh, rssiSum]
  exact hpeak

/-- One more report keeps the summary exact. -/
theorem Summarizes.update {log : List Report} {w : Windows} {e : DeviceEntry}
    (h : Summarizes log w e) (report : Report) (hb : w.current.length < 16777216) :
    Summarizes (log ++ [report]) ⟨w.closed, w.current ++ [report]⟩
      (e.update report.rssi report.metadata report.nowMs) := by
  have hlen : (w.current ++ [report]).length ≤ 16777216 := by
    rw [List.length_append, List.length_singleton]
    omega
  obtain ⟨hlo, hhi⟩ := rssiSum_mem hlen
  rw [rssiSum_concat] at hlo hhi
  have hreports : saturatingAdd u32Max w.current.length 1 = w.current.length + 1 :=
    saturatingAdd_of_le (by rw [u32Max]; omega)
  constructor
  · simp only [DeviceEntry.update, h.windowReports, hreports, List.length_append,
      List.length_singleton]
  · simp only [DeviceEntry.update, h.windowRssiSum, saturatingAddInt_of_mem hlo hhi,
      rssiSum_concat]
  · simp only [DeviceEntry.update, h.windowPeakRssi, List.map_append, List.map_singleton,
      List.foldl_append, List.foldl_cons, List.foldl_nil]
  · simp [DeviceEntry.update]
  · simp only [DeviceEntry.update, h.name, List.reverse_append, List.reverse_singleton,
      List.singleton_append, List.findSome?_cons]
    cases report.metadata.name <;> rfl
  · simp only [DeviceEntry.update, h.manufacturer, List.reverse_append, List.reverse_singleton,
      List.singleton_append, List.findSome?_cons]
    cases report.metadata.manufacturer <;> rfl
  · simp only [DeviceEntry.update, BeaconMetadata.merge, h.feasycom, List.any_append,
      List.any_cons, List.any_nil, Bool.or_false]
  · simp only [DeviceEntry.update, BeaconMetadata.merge, h.formats, List.map_append,
      List.map_singleton, List.foldl_append, List.foldl_cons, List.foldl_nil]
  · exact h.previousWindowAverage

/-- The end of a window keeps the summary exact. -/
theorem Summarizes.resetWindow {log : List Report} {w : Windows} {e : DeviceEntry}
    (h : Summarizes log w e) :
    Summarizes log ⟨w.closed ++ [w.current], []⟩ e.resetWindow := by
  constructor
  · rfl
  · rfl
  · rfl
  · exact h.lastSeenMs
  · exact h.name
  · exact h.manufacturer
  · exact h.feasycom
  · exact h.formats
  · simp only [DeviceEntry.resetWindow, h.windowAverage, List.reverse_append,
      List.reverse_singleton, List.singleton_append, List.findSome?_cons,
      h.previousWindowAverage]
    cases mean w.current <;> rfl

/-- The reports of the address since its last insertion. -/
def logOf (a : Address) (events : List Event) : List Report :=
  reportsOf a (sinceInsertion a events)

/-- The windows of the address since its last insertion. -/
def windowsOf (a : Address) (events : List Event) : Windows := windows a (sinceInsertion a events)

theorem logOf_concat {a : Address} {past : List Event} {e : Event}
    (h : ¬ e.Inserts a (after past)) :
    logOf a (past ++ [e]) = logOf a past ++ (e.reportOf a).toList := by
  rw [logOf, sinceInsertion_concat, if_neg h, reportsOf_concat, logOf]

theorem windowsOf_concat {a : Address} {past : List Event} {e : Event}
    (h : ¬ e.Inserts a (after past)) :
    windowsOf a (past ++ [e]) = (windowsOf a past).add a e := by
  rw [windowsOf, sinceInsertion_concat, if_neg h, windows_concat, windowsOf]

theorem not_inserts_of_none {a : Address} {r : DeviceRegistry} {e : Event}
    (h : e.reportOf a = none) : ¬ e.Inserts a r := by
  intro hins
  rw [Event.Inserts, h] at hins
  simp at hins

theorem not_inserts_of_live {a : Address} {r : DeviceRegistry} {e : Event} (h : r.IsLive a) :
    ¬ e.Inserts a r := fun hins => hins.2 h

/-- Events that bring no report of the address and end no window leave its
windows alone. -/
theorem Windows.add_of_none {a : Address} {e : Event} (w : Windows)
    (h : e.reportOf a = none) (hs : e.isSnapshot = false) : w.add a e = w := by
  cases e with
  | report address rssi structures now => simp [Windows.add, h]
  | malformedReport => simp [Windows.add, h]
  | snapshot now sorter => simp [Event.isSnapshot] at hs

/-- An insertion starts the log over. -/
theorem logOf_insert {a : Address} {past : List Event} {e : Event} {report : Report}
    (hins : e.Inserts a (after past)) (hreport : e.reportOf a = some report) :
    logOf a (past ++ [e]) = [report] := by
  rw [logOf, sinceInsertion_concat, if_pos hins]
  simp [reportsOf, hreport]

theorem windowsOf_insert {a : Address} {past : List Event} {e : Event} {report : Report}
    (hins : e.Inserts a (after past)) (hreport : e.reportOf a = some report) :
    windowsOf a (past ++ [e]) = ⟨[], [report]⟩ := by
  rw [windowsOf, sinceInsertion_concat, if_pos hins]
  cases e with
  | report address rssi structures now => simp [windows, Windows.add, hreport]
  | malformedReport => simp [Event.reportOf] at hreport
  | snapshot now sorter => simp [Event.reportOf] at hreport

/-- Events without a report of the address leave its log alone. -/
theorem logOf_of_none {a : Address} {past : List Event} {e : Event} (h : e.reportOf a = none) :
    logOf a (past ++ [e]) = logOf a past := by
  rw [logOf_concat (not_inserts_of_none h), h, Option.toList_none, List.append_nil]

/-- What the first report of a device establishes and later reports and the ends of
windows keep relates every entry of every run to its log. -/
theorem after_related {R : List Report → Windows → DeviceEntry → Prop}
    (hfresh : ∀ a report, R [report] ⟨[], [report]⟩
      (.fresh a report.rssi report.metadata report.nowMs))
    (hupdate : ∀ log w e report, R log w e → R (log ++ [report]) ⟨w.closed, w.current ++ [report]⟩
      (e.update report.rssi report.metadata report.nowMs))
    (hreset : ∀ log w e, R log w e → R log ⟨w.closed ++ [w.current], []⟩ e.resetWindow)
    (events : List Event) {j : ℕ} {f : DeviceEntry}
    (hf : (after events).entries.at? j = some f) :
    R (logOf f.address events) (windowsOf f.address events) f := by
  induction events using List.reverseRecOn generalizing j f with
  | nil => simp [new] at hf
  | append_singleton past event ih =>
      rw [after_concat] at hf
      cases event with
      | report a rssi structures now =>
          have hreport : (Event.report a rssi structures now).reportOf a =
              some ⟨rssi, .parse structures, now⟩ := if_pos rfl
          rcases record_entry (after_distinct past) hf with
            ⟨e, he, ha, rfl⟩ | ⟨hlive, rfl⟩ | ⟨hne, he⟩
          · have hnot : ¬ (Event.report a rssi structures now).Inserts a (after past) :=
              not_inserts_of_live (isLive_iff.mpr ⟨j, e, he, ha⟩)
            subst ha
            rw [DeviceEntry.update_address, windowsOf_concat hnot, logOf_concat hnot, hreport]
            simp only [Windows.add, hreport, Option.toList_some]
            exact hupdate _ _ e ⟨rssi, .parse structures, now⟩ (ih he)
          · have hins : (Event.report a rssi structures now).Inserts a (after past) :=
              ⟨by rw [hreport]; rfl, hlive⟩
            rw [DeviceEntry.fresh_address, logOf_insert hins hreport,
              windowsOf_insert hins hreport]
            exact hfresh a ⟨rssi, .parse structures, now⟩
          · have hnone : (Event.report a rssi structures now).reportOf f.address = none :=
              if_neg (Ne.symm hne)
            rw [windowsOf_concat (not_inserts_of_none hnone), Windows.add_of_none _ hnone rfl,
              logOf_of_none hnone]
            exact ih he
      | malformedReport =>
          have hnone : Event.malformedReport.reportOf f.address = none := rfl
          rw [windowsOf_concat (not_inserts_of_none hnone), Windows.add_of_none _ hnone rfl,
            logOf_of_none hnone]
          exact ih hf
      | snapshot now sorter =>
          obtain ⟨e, he, -, rfl⟩ := printSnapshot_entry hf
          have hnone : (Event.snapshot now sorter).reportOf e.address = none := rfl
          rw [DeviceEntry.resetWindow_address, windowsOf_concat (not_inserts_of_none hnone),
            logOf_of_none hnone]
          exact hreset _ _ e (ih he)

/-- Every entry of every run summarizes its log, unless a window is too long. -/
theorem after_summarizes (events : List Event) {j : ℕ} {f : DeviceEntry}
    (hf : (after events).entries.at? j = some f) (hb : (windowsOf f.address events).Bounded) :
    Summarizes (logOf f.address events) (windowsOf f.address events) f := by
  refine after_related (R := fun log w e => w.Bounded → Summarizes log w e) ?_ ?_ ?_ events hf hb
  · intro a report _
    exact fresh_summarizes a report
  · intro log w e report h hb
    obtain ⟨hclosed, hcurrent⟩ := hb
    rw [List.length_append, List.length_singleton] at hcurrent
    exact (h ⟨hclosed, by omega⟩).update report (by omega)
  · intro log w e h hb
    obtain ⟨hclosed, -⟩ := hb
    refine (h ⟨?_, ?_⟩).resetWindow
    · intro reports hreports
      exact hclosed reports (by simp [hreports])
    · exact hclosed _ (by simp)

/-- The registry refines the report log. Whatever happened before, every entry
holds exactly what the reports since its insertion add up to; its window average
is their mean and lies between the weakest and the strongest of them. -/
theorem entry_refines_log (events : List Event) (e : DeviceEntry)
    (he : e ∈ (after events).entries.entries)
    (hb : (windowsOf e.address events).Bounded) :
    Summarizes (logOf e.address events) (windowsOf e.address events) e ∧
      e.windowAverage = mean (windowsOf e.address events).current ∧
      ∀ average, e.windowAverage = some average →
        (∃ report ∈ (windowsOf e.address events).current, report.rssi.toInt ≤ average) ∧
        (∃ report ∈ (windowsOf e.address events).current, average ≤ report.rssi.toInt) := by
  obtain ⟨j, hj⟩ := SlotTable.mem_entries.mp he
  have hsum := after_summarizes events hj hb
  refine ⟨hsum, hsum.windowAverage, ?_⟩
  intro average haverage
  rw [hsum.windowAverage] at haverage
  constructor
  · by_contra hall
    push Not at hall
    have hlow := le_mean haverage fun report hreport => Int.add_one_le_iff.mpr (hall report hreport)
    omega
  · by_contra hall
    push Not at hall
    have hhigh := mean_le haverage fun report hreport => Int.le_sub_one_iff.mpr (hall report hreport)
    omega

def sampleAddress : Address := ⟨1, #v[1, 2, 3, 4, 5, 6]⟩

/-- A device heard twice in one window and once in the next. -/
def sampleEvents : List Event :=
  [.report sampleAddress (-60) [.manufacturerSpecificData 0x004c []] 10, .malformedReport,
    .report sampleAddress (-51) [] 20, .snapshot 5000 (.insertion Louder),
    .report sampleAddress (-47) [] 5100]

def sampleEntry : DeviceEntry where
  address := sampleAddress
  previousWindowAverage := some (-55)
  windowRssiSum := -47
  windowReports := 1
  windowPeakRssi := -47
  lastSeenMs := 5100
  name := none
  manufacturer := some 0x004c
  beacon := {}

theorem sampleEntry_refines_log :
    sampleEntry ∈ (after sampleEvents).entries.entries ∧
      (logOf sampleAddress sampleEvents).map Report.nowMs = [10, 20, 5100] ∧
      Summarizes (logOf sampleAddress sampleEvents) (windowsOf sampleAddress sampleEvents)
        sampleEntry := by
  have hentry : sampleEntry ∈ (after sampleEvents).entries.entries := by decide +kernel
  have hlog : (logOf sampleAddress sampleEvents).map Report.nowMs = [10, 20, 5100] := by
    decide +kernel
  have hbounded : (windowsOf sampleAddress sampleEvents).Bounded := by
    constructor <;> decide +kernel
  exact ⟨hentry, hlog, (entry_refines_log sampleEvents sampleEntry hentry hbounded).1⟩

end EmbeddedSdk.Scanner
