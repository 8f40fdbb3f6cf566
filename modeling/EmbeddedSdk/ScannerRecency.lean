import EmbeddedSdk.ReportLog

/-!
# The registry as a least recently used set

The laws of a single step need no assumption. The recency law compares entries
with everything that was ever dropped and rests on a clock that never goes
back.
-/
namespace EmbeddedSdk.Scanner
open MachineInt UnstableSort DeviceRegistry

/-- The clock never goes back. -/
def NonDecreasing (events : List Event) : Prop :=
  (events.filterMap Event.time?).Pairwise (· ≤ ·)

instance (events : List Event) : Decidable (NonDecreasing events) :=
  inferInstanceAs (Decidable ((events.filterMap Event.time?).Pairwise (· ≤ ·)))

/-- The time of the last report of an address. -/
def lastReport (a : Address) (events : List Event) : Option ℕ :=
  (reportsOf a events).getLast?.map fun report => report.nowMs

theorem lastReport_concat (a : Address) (past : List Event) (e : Event) :
    lastReport a (past ++ [e]) =
      ((e.reportOf a).map fun report => report.nowMs).or (lastReport a past) := by
  rw [lastReport, reportsOf_concat]
  cases h : e.reportOf a with
  | none => simp [lastReport]
  | some report => simp

theorem reportOf_time {a : Address} {e : Event} {report : Report}
    (h : e.reportOf a = some report) : e.time? = some report.nowMs := by
  cases e with
  | report address rssi structures now =>
      simp only [Event.reportOf] at h
      split at h
      · cases h
        rfl
      · cases h
  | malformedReport => cases h
  | snapshot now sorter => cases h

theorem lastReport_mem {a : Address} {events : List Event} {time : ℕ}
    (h : lastReport a events = some time) : time ∈ events.filterMap Event.time? := by
  obtain ⟨report, hlast, rfl⟩ := Option.map_eq_some_iff.mp h
  obtain ⟨e, he, hreport⟩ := List.mem_filterMap.mp (List.mem_of_getLast? hlast)
  exact List.mem_filterMap.mpr ⟨e, he, reportOf_time hreport⟩

theorem NonDecreasing.init {past : List Event} {e : Event} (h : NonDecreasing (past ++ [e])) :
    NonDecreasing past := by
  rw [NonDecreasing, List.filterMap_append, List.pairwise_append] at h
  exact h.1

theorem NonDecreasing.le_last {past : List Event} {e : Event} {t now : ℕ}
    (h : NonDecreasing (past ++ [e])) (ht : t ∈ past.filterMap Event.time?)
    (hnow : e.time? = some now) : t ≤ now := by
  rw [NonDecreasing, List.filterMap_append, List.pairwise_append] at h
  exact h.2.2 t ht now (by simp [hnow])

/-- An entry knows the time of the last report of its address. -/
theorem after_lastSeenMs (events : List Event) {j : ℕ} {f : DeviceEntry}
    (hf : (after events).entries.at? j = some f) :
    lastReport f.address events = some f.lastSeenMs := by
  induction events using List.reverseRecOn generalizing j f with
  | nil => simp [new] at hf
  | append_singleton past event ih =>
      rw [after_concat] at hf
      rw [lastReport_concat]
      cases event with
      | report a rssi structures now =>
          rcases record_entry (after_distinct past) hf with
            ⟨e, -, ha, rfl⟩ | ⟨-, rfl⟩ | ⟨hne, he⟩
          · simp [Event.reportOf, ha]
          · simp [Event.reportOf]
          · simp [Event.reportOf, Ne.symm hne, ih he]
      | malformedReport =>
          have h := ih hf
          simp [Event.reportOf, h]
      | snapshot now sorter =>
          obtain ⟨e, he, -, rfl⟩ := printSnapshot_entry hf
          have h := ih he
          simp [Event.reportOf, h]

/-- An entry leaves at a snapshot only when it is stale. -/
theorem printSnapshot_leaves {r : DeviceRegistry} {b : Address} {sorter : Sorter Louder} {now : ℕ}
    {i : ℕ} {e : DeviceEntry} (he : r.entries.at? i = some e) (hb : e.address = b)
    (hleft : ¬ (r.printSnapshot sorter now).1.IsLive b) : e.isStale now = true := by
  by_contra hstale
  refine hleft (isLive_iff.mpr ⟨i, e.resetWindow, ?_, hb⟩)
  rw [printSnapshot_at?, he, Option.filter_some_pos (by simpa using hstale), Option.map_some]

/-- What one step does to the set of live addresses and to the counter of
evictions. -/
structure StepLaws (r : DeviceRegistry) (event : Event) : Prop where
  recorded_live : ∀ a, (event.reportOf a).isSome → (r.step event).IsLive a
  leaves : ∀ b, r.IsLive b → ¬ (r.step event).IsLive b →
    (∃ a, (event.reportOf a).isSome ∧ r.Evicts a) ∨
      ∃ now sorter e, event = .snapshot now sorter ∧ e ∈ r.entries.entries ∧ e.address = b ∧
        now - e.lastSeenMs > deviceStaleAfterMs
  evicts : ∀ a, (event.reportOf a).isSome →
    (r.Evicts a ↔ ∃ b, r.IsLive b ∧ ¬ (r.step event).IsLive b)
  counted : ∀ a, (event.reportOf a).isSome → (r.step event).windowEvictions =
    if r.Evicts a then (r.windowEvictions + 1) % 4294967296 else r.windowEvictions
  not_counted : (∀ a, event.reportOf a = none) →
    (r.step event).windowEvictions = if event.isSnapshot then 0 else r.windowEvictions
  one_slot : (∃ a, (event.reportOf a).isSome) →
    ∃ i : ℕ, ∀ j : ℕ, j ≠ i → (r.step event).entries.slots[j]? = r.entries.slots[j]?

theorem record_one_slot (r : DeviceRegistry) (a : Address) (rssi : Int8)
    (m : AdvertisementMetadata) (now : ℕ) :
    ∃ i : ℕ, ∀ j : ℕ, j ≠ i →
      (r.record a rssi m now).entries.slots[j]? = r.entries.slots[j]? := by
  obtain ⟨i, entry, -, hput, -⟩ := record_eq_put r a rssi m now
  refine ⟨i, fun j hj => ?_⟩
  rw [hput, SlotTable.put, List.getElem?_set_ne (Ne.symm hj)]

theorem report_stepLaws {r : DeviceRegistry} (hd : r.Distinct) (a : Address) (rssi : Int8)
    (structures : List AdStructure) (now : ℕ) :
    StepLaws r (.report a rssi structures now) := by
  have haddress : ∀ b, ((Event.report a rssi structures now).reportOf b).isSome → a = b := by
    intro b hb
    by_contra hne
    simp [Event.reportOf, hne] at hb
  have hself : ((Event.report a rssi structures now).reportOf a).isSome := by
    simp [Event.reportOf]
  constructor
  · intro b hb
    obtain rfl := haddress b hb
    exact record_isLive r a rssi _ now
  · intro b hb hleft
    exact .inl ⟨a, hself, (record_leaves hb hleft).1⟩
  · intro b hb
    obtain rfl := haddress b hb
    constructor
    · intro hevicts
      obtain ⟨e, he, -⟩ := oldest_spec hevicts.1
      exact ⟨e.address, isLive_iff.mpr ⟨_, e, he, rfl⟩, record_evicts hd rssi _ now hevicts he⟩
    · rintro ⟨b, hb, hleft⟩
      exact (record_leaves hb hleft).1
  · intro b hb
    obtain rfl := haddress b hb
    exact record_windowEvictions r a rssi _ now
  · intro hnone
    rw [hnone a] at hself
    simp at hself
  · intro _
    exact record_one_slot r a rssi _ now

theorem snapshot_stepLaws (r : DeviceRegistry) (now : ℕ) (sorter : Sorter Louder) :
    StepLaws r (.snapshot now sorter) := by
  have hnone : ∀ a, ((Event.snapshot now sorter).reportOf a).isSome → False := by
    intro a ha
    simp [Event.reportOf] at ha
  constructor
  · exact fun a ha => (hnone a ha).elim
  · intro b hb hleft
    obtain ⟨i, e, he, heb⟩ := isLive_iff.mp hb
    have hstale := printSnapshot_leaves he heb hleft
    rw [DeviceEntry.isStale, decide_eq_true_iff] at hstale
    exact .inr ⟨now, sorter, e, rfl, SlotTable.mem_entries.mpr ⟨i, he⟩, heb, hstale⟩
  · exact fun a ha => (hnone a ha).elim
  · exact fun a ha => (hnone a ha).elim
  · intro _
    rfl
  · rintro ⟨a, ha⟩
    exact (hnone a ha).elim

theorem malformedReport_stepLaws (r : DeviceRegistry) : StepLaws r .malformedReport := by
  have hnone : ∀ a, (Event.malformedReport.reportOf a).isSome → False := by
    intro a ha
    simp [Event.reportOf] at ha
  constructor
  · exact fun a ha => (hnone a ha).elim
  · intro b hb hleft
    exact absurd hb hleft
  · exact fun a ha => (hnone a ha).elim
  · exact fun a ha => (hnone a ha).elim
  · intro _
    rfl
  · rintro ⟨a, ha⟩
    exact (hnone a ha).elim

theorem stepLaws {r : DeviceRegistry} (hd : r.Distinct) (event : Event) : StepLaws r event := by
  cases event with
  | report a rssi structures now => exact report_stepLaws hd a rssi structures now
  | malformedReport => exact malformedReport_stepLaws r
  | snapshot now sorter => exact snapshot_stepLaws r now sorter

/-- Whatever was dropped was last heard no later than every live entry. -/
def DroppedAreOlder (events : List Event) : Prop :=
  ∀ b time, lastReport b events = some time → ¬ (after events).IsLive b →
    ∀ j f, (after events).entries.at? j = some f → time ≤ f.lastSeenMs

theorem report_droppedAreOlder {past : List Event} {a : Address} {rssi : Int8}
    {structures : List AdStructure} {now : ℕ}
    (hmono : NonDecreasing (past ++ [.report a rssi structures now]))
    (ih : DroppedAreOlder past) :
    DroppedAreOlder (past ++ [.report a rssi structures now]) := by
  intro b time htime hleft j f hf
  rw [after_concat] at hleft hf
  have hlive : ((after past).step (.report a rssi structures now)).IsLive a :=
    record_isLive _ a rssi _ now
  have hab : a ≠ b := fun h => hleft (h ▸ hlive)
  rw [lastReport_concat] at htime
  simp only [Event.reportOf, if_neg hab, Option.map_none, Option.none_or] at htime
  have hnow : time ≤ now := hmono.le_last (lastReport_mem htime) rfl
  rcases record_entry (after_distinct past) hf with ⟨e, -, -, rfl⟩ | ⟨-, rfl⟩ | ⟨-, hold⟩
  · exact hnow
  · exact hnow
  · by_cases hb : (after past).IsLive b
    · obtain ⟨-, e, he, heb, holdest⟩ := record_leaves hb hleft
      have hlast := after_lastSeenMs past he
      rw [heb, htime, Option.some.injEq] at hlast
      have hle := holdest j f hold
      omega
    · exact ih b time htime hb j f hold

theorem snapshot_droppedAreOlder {past : List Event} {now : ℕ} {sorter : Sorter Louder}
    (ih : DroppedAreOlder past) : DroppedAreOlder (past ++ [.snapshot now sorter]) := by
  intro b time htime hleft j f hf
  rw [after_concat] at hleft hf
  rw [lastReport_concat] at htime
  simp only [Event.reportOf, Option.map_none, Option.none_or] at htime
  obtain ⟨e, he, hfresh, rfl⟩ := printSnapshot_entry hf
  rw [DeviceEntry.resetWindow_lastSeenMs]
  by_cases hb : (after past).IsLive b
  · obtain ⟨i, g, hg, hgb⟩ := isLive_iff.mp hb
    have hstale := printSnapshot_leaves hg hgb hleft
    have hlast := after_lastSeenMs past hg
    rw [hgb, htime, Option.some.injEq] at hlast
    simp only [DeviceEntry.isStale, decide_eq_true_iff, decide_eq_false_iff_not] at hstale hfresh
    omega
  · exact ih b time htime hb j e he

theorem droppedAreOlder (events : List Event) (hmono : NonDecreasing events) :
    DroppedAreOlder events := by
  induction events using List.reverseRecOn with
  | nil =>
      intro b time htime
      simp [lastReport, reportsOf] at htime
  | append_singleton past event ih =>
      cases event with
      | report a rssi structures now => exact report_droppedAreOlder hmono (ih hmono.init)
      | malformedReport =>
          intro b time htime hleft j f hf
          rw [after_concat] at hleft hf
          rw [lastReport_concat] at htime
          exact ih hmono.init b time htime hleft j f hf
      | snapshot now sorter => exact snapshot_droppedAreOlder (ih hmono.init)

/-- In every run whose clock never goes back, the registry is a duplicate-free
least recently used set: every step obeys the laws above, and every address that
was reported but is not live now was last heard no later than any live entry. -/
theorem registry_is_lru (events : List Event) (hmono : NonDecreasing events) :
    (after events).Distinct ∧
      (∀ past event, past ++ [event] <+: events → StepLaws (after past) event) ∧
      ∀ a time, lastReport a events = some time → ¬ (after events).IsLive a →
        ∀ e ∈ (after events).entries.entries, time ≤ e.lastSeenMs := by
  refine ⟨after_distinct events, fun past event _ => stepLaws (after_distinct past) event, ?_⟩
  intro a time htime hleft e he
  obtain ⟨j, hj⟩ := SlotTable.mem_entries.mp he
  exact droppedAreOlder events hmono a time htime hleft j e hj

/-- Two devices, the first of which goes stale. -/
def staleEvents : List Event :=
  [.report ⟨0, #v[0, 0, 0, 0, 0, 1]⟩ (-60) [] 100, .report ⟨0, #v[0, 0, 0, 0, 0, 2]⟩ (-60) [] 9000,
    .snapshot 15101 (.insertion Louder)]

theorem staleEvents_lru :
    ¬ (after staleEvents).IsLive ⟨0, #v[0, 0, 0, 0, 0, 1]⟩ ∧
      (after staleEvents).entries.entries.length = 1 ∧
      ∀ e ∈ (after staleEvents).entries.entries, 100 ≤ e.lastSeenMs := by
  have hleft : ¬ (after staleEvents).IsLive ⟨0, #v[0, 0, 0, 0, 0, 1]⟩ := by decide +kernel
  have htime : lastReport ⟨0, #v[0, 0, 0, 0, 0, 1]⟩ staleEvents = some 100 := by decide +kernel
  exact ⟨hleft, by decide +kernel,
    (registry_is_lru staleEvents (by decide +kernel)).2.2 _ 100 htime hleft⟩

end EmbeddedSdk.Scanner
