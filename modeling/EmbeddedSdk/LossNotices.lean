import EmbeddedSdk.ScannerRecency
import Mathlib.Data.Finset.Card

/-!
# Loss notices

A snapshot reports a remembered device as lost when no entry that survived to
the snapshot has a report of it. That is not the same as the device having been
silent: an entry can be evicted or go stale after its last report of the window.
-/
namespace EmbeddedSdk.Scanner
open UnstableSort DeviceRegistry

namespace DeviceRegistry

/-- The devices that a snapshot counts as lost. -/
def lostAt (r : DeviceRegistry) (sorter : Sorter Louder) (nowMs : ℕ) : List DisplayedDevice :=
  let snapshot := r.removeStale nowMs
  lostDevices snapshot.previousRemembered (sorter.sort snapshot.entries.slots)

/-- The address belongs to a device that a snapshot counts or prints as lost. -/
def NoticesLoss (r : DeviceRegistry) (sorter : Sorter Louder) (nowMs : ℕ) (a : Address) : Prop :=
  (∃ d ∈ r.lostAt sorter nowMs, d.address = a) ∨
    ∃ lost, (r.printSnapshot sorter nowMs).2.lost = some lost ∧ ∃ row ∈ lost.rows, row.address = a

/-- The address has an entry with a report that is not stale. -/
def HeardAt (r : DeviceRegistry) (nowMs : ℕ) (a : Address) : Prop :=
  ∃ i e, r.entries.at? i = some e ∧ e.isStale nowMs = false ∧ 0 < e.windowReports ∧ e.address = a

theorem printSnapshot_lost (r : DeviceRegistry) (sorter : Sorter Louder) (now : ℕ) :
    (r.printSnapshot sorter now).2.lost =
      if (r.lostAt sorter now).length > 0 then
        some ⟨(r.lostAt sorter now).length, min (r.lostAt sorter now).length snapshotDisplayLimit,
          ((r.lostAt sorter now).take snapshotDisplayLimit).map fun d => d.lostRow now⟩
      else none := rfl

/-- Only devices that are counted are printed. -/
theorem noticesLoss_iff {r : DeviceRegistry} {sorter : Sorter Louder} {now : ℕ} {a : Address} :
    r.NoticesLoss sorter now a ↔ ∃ d ∈ r.lostAt sorter now, d.address = a := by
  constructor
  · rintro (hcounted | ⟨lost, hlost, row, hrow, ha⟩)
    · exact hcounted
    · rw [printSnapshot_lost] at hlost
      split at hlost
      · rw [Option.some.injEq] at hlost
        subst hlost
        obtain ⟨d, hd, rfl⟩ := List.mem_map.mp hrow
        exact ⟨d, List.mem_of_mem_take hd, ha⟩
      · simp at hlost
  · exact Or.inl

theorem mem_sorted_iff {r : DeviceRegistry} {sorter : Sorter Louder} {now : ℕ} {e : DeviceEntry} :
    e ∈ (sorter.sort (r.removeStale now).entries.slots).reduceOption ↔
      ∃ i, r.entries.at? i = some e ∧ e.isStale now = false := by
  have hslots : some e ∈ (r.removeStale now).entries.slots ↔
      e ∈ (r.removeStale now).entries.entries := List.reduceOption_mem_iff.symm
  rw [List.reduceOption_mem_iff, sorter.mem_sort, hslots, SlotTable.mem_entries]
  simp only [removeStale, SlotTable.at?_retain, Option.filter_eq_some_iff, Bool.not_eq_true']

/-- The search of `print_snapshot` for a remembered device finds the entries that are
heard. -/
theorem any_matches_iff {r : DeviceRegistry} {sorter : Sorter Louder} {now : ℕ}
    {d : DisplayedDevice} :
    ((sorter.sort (r.removeStale now).entries.slots).reduceOption.any fun entry =>
      decide (entry.windowReports > 0) && d.matchesAddress entry.address) = true ↔
      r.HeardAt now d.address := by
  rw [List.any_eq_true]
  constructor
  · rintro ⟨e, he, hmatch⟩
    obtain ⟨i, hi, hstale⟩ := mem_sorted_iff.mp he
    rw [Bool.and_eq_true, decide_eq_true_iff, DisplayedDevice.matchesAddress,
      address_matches_iff] at hmatch
    exact ⟨i, e, hi, hstale, hmatch.1, hmatch.2.symm⟩
  · rintro ⟨i, e, hi, hstale, hpos, ha⟩
    refine ⟨e, mem_sorted_iff.mpr ⟨i, hi, hstale⟩, ?_⟩
    rw [Bool.and_eq_true, decide_eq_true_iff, DisplayedDevice.matchesAddress, address_matches_iff]
    exact ⟨hpos, ha.symm⟩

/-- A remembered device is lost when it is not heard any more. -/
theorem mem_lostAt {r : DeviceRegistry} {sorter : Sorter Louder} {now : ℕ}
    {d : DisplayedDevice} :
    d ∈ r.lostAt sorter now ↔
      d ∈ r.previousRemembered.entries ∧ ¬ r.HeardAt now d.address := by
  simp only [lostAt, lostDevices, List.mem_filter]
  refine and_congr_right fun _ => ?_
  rw [Bool.not_eq_true', ← Bool.not_eq_true]
  exact not_congr any_matches_iff

/-- A snapshot remembers only devices that are heard. -/
theorem heardAt_of_remembered {r : DeviceRegistry} {sorter : Sorter Louder} {now : ℕ}
    {d : DisplayedDevice}
    (hd : d ∈ (r.printSnapshot sorter now).1.previousRemembered.entries) :
    r.HeardAt now d.address := by
  simp only [printSnapshot, SlotTable.entries_ofList] at hd
  obtain ⟨e, he, rfl⟩ := List.mem_map.mp (List.mem_of_mem_take hd)
  rw [heard, List.mem_filter, decide_eq_true_iff] at he
  obtain ⟨i, hi, hstale⟩ := mem_sorted_iff.mp he.1
  exact ⟨i, e, hi, hstale, he.2, rfl⟩

end DeviceRegistry

/-- A report of the address was recorded since the last snapshot. -/
def ReportedInWindow (a : Address) (events : List Event) : Prop := (windows a events).current ≠ []

instance (a : Address) (events : List Event) : Decidable (ReportedInWindow a events) :=
  inferInstanceAs (Decidable (_ ≠ _))

theorem reportedInWindow_concat (a : Address) (past : List Event) (e : Event) :
    ReportedInWindow a (past ++ [e]) ↔
      e.isSnapshot = false ∧ ((e.reportOf a).isSome ∨ ReportedInWindow a past) := by
  rw [ReportedInWindow, windows_concat]
  cases e with
  | report address rssi structures now =>
      cases h : (Event.report address rssi structures now).reportOf a <;>
        simp [Windows.add, Event.isSnapshot, ReportedInWindow, h]
  | malformedReport => simp [Windows.add, Event.isSnapshot, Event.reportOf, ReportedInWindow]
  | snapshot now sorter => simp [Windows.add, Event.isSnapshot]

/-- An entry counts reports in the present window exactly when there are some. -/
theorem after_windowReports_pos (events : List Event) {j : ℕ} {f : DeviceEntry}
    (hf : (after events).entries.at? j = some f) :
    0 < f.windowReports ↔ ReportedInWindow f.address events := by
  induction events using List.reverseRecOn generalizing j f with
  | nil => simp [new] at hf
  | append_singleton past event ih =>
      rw [after_concat] at hf
      rw [reportedInWindow_concat]
      cases event with
      | report a rssi structures now =>
          rcases record_entry (after_distinct past) hf with
            ⟨e, -, rfl, rfl⟩ | ⟨-, rfl⟩ | ⟨hne, he⟩
          · have hpos := e.update_windowReports_pos rssi (.parse structures) now
            simp [Event.isSnapshot, Event.reportOf, hpos]
          · have hpos := DeviceEntry.fresh_windowReports_pos a rssi (.parse structures) now
            simp [Event.isSnapshot, Event.reportOf, hpos]
          · simp [Event.isSnapshot, Event.reportOf, Ne.symm hne, ih he]
      | malformedReport =>
          have h := ih hf
          simp [Event.isSnapshot, Event.reportOf, h]
      | snapshot now sorter =>
          obtain ⟨e, -, -, rfl⟩ := printSnapshot_entry hf
          simp [Event.isSnapshot]

section FalseLoss

/-- The event is a report that evicts the address: it finds every slot occupied
by other devices, and the address is the one that was silent for longest. -/
def Event.EvictsOldest (r : DeviceRegistry) (a : Address) (event : Event) : Prop :=
  ∃ b, (event.reportOf b).isSome ∧ r.Evicts b ∧
    ∃ e, r.entries.at? r.oldest = some e ∧ e.address = a

/-- The address was evicted and not reported again. -/
def EvictedSinceReport (a : Address) (events : List Event) : Prop :=
  ∃ before event rest, events = before ++ event :: rest ∧
    event.EvictsOldest (after before) a ∧ reportsOf a rest = []

theorem evictedSinceReport_concat (a : Address) (past : List Event) (e : Event) :
    EvictedSinceReport a (past ++ [e]) ↔
      e.EvictsOldest (after past) a ∨ (EvictedSinceReport a past ∧ e.reportOf a = none) := by
  constructor
  · rintro ⟨before, event, rest, hsplit, hevicts, hrest⟩
    induction rest using List.reverseRecOn with
    | nil =>
        obtain ⟨rfl, heq⟩ := List.append_inj' hsplit rfl
        rw [List.singleton_inj] at heq
        exact .inl (heq ▸ hevicts)
    | append_singleton rest last _ =>
        rw [← List.cons_append, ← List.append_assoc] at hsplit
        obtain ⟨rfl, heq⟩ := List.append_inj' hsplit rfl
        rw [List.singleton_inj] at heq
        subst heq
        rw [reportsOf_concat, List.append_eq_nil_iff, Option.toList_eq_nil_iff] at hrest
        exact .inr ⟨⟨before, event, rest, rfl, hevicts, hrest.1⟩, hrest.2⟩
  · rintro (hevicts | ⟨⟨before, event, rest, rfl, hevicts, hrest⟩, hnone⟩)
    · exact ⟨past, e, [], rfl, hevicts, rfl⟩
    · refine ⟨before, event, rest ++ [e], by simp, hevicts, ?_⟩
      rw [reportsOf_concat, hrest, hnone]
      rfl

theorem evictsOldest_report {r : DeviceRegistry} {a b : Address} {rssi : Int8}
    {structures : List AdStructure} {now : ℕ} :
    (Event.report b rssi structures now).EvictsOldest r a ↔
      r.Evicts b ∧ ∃ e, r.entries.at? r.oldest = some e ∧ e.address = a := by
  constructor
  · rintro ⟨c, hc, hevicts⟩
    by_cases hbc : b = c
    · exact hbc ▸ hevicts
    · simp [Event.reportOf, hbc] at hc
  · intro hevicts
    exact ⟨b, by simp [Event.reportOf], hevicts⟩

/-- A report of another device leaves an address without an entry exactly when
it had none or is evicted. -/
theorem report_not_isLive_iff {r : DeviceRegistry} (hd : r.Distinct) {a b : Address}
    (hb : b ≠ a) (rssi : Int8) (structures : List AdStructure) (now : ℕ) :
    ¬ (r.step (.report b rssi structures now)).IsLive a ↔
      (Event.report b rssi structures now).EvictsOldest r a ∨ ¬ r.IsLive a := by
  rw [evictsOldest_report]
  constructor
  · intro hleft
    by_cases ha : r.IsLive a
    · obtain ⟨hevicts, e, he, hea, -⟩ := record_leaves ha hleft
      exact .inl ⟨hevicts, e, he, hea⟩
    · exact .inr ha
  · rintro (⟨hevicts, e, he, rfl⟩ | hdead)
    · exact record_evicts hd rssi _ now hevicts he
    · intro hlive
      obtain ⟨j, f, hf, hfa⟩ := isLive_iff.mp hlive
      rcases record_entry hd hf with ⟨e, -, heb, rfl⟩ | ⟨-, rfl⟩ | ⟨-, hold⟩
      · exact hb (by rw [← hfa, DeviceEntry.update_address, heb])
      · exact hb hfa
      · exact hdead (isLive_iff.mpr ⟨j, f, hold, hfa⟩)

/-- A device without an entry that was reported in this window has been evicted
since its last report. -/
theorem not_isLive_iff_evicted (events : List Event) (a : Address)
    (hwindow : ReportedInWindow a events) :
    ¬ (after events).IsLive a ↔ EvictedSinceReport a events := by
  induction events using List.reverseRecOn with
  | nil => simp [ReportedInWindow, windows] at hwindow
  | append_singleton past event ih =>
      rw [evictedSinceReport_concat, after_concat]
      rw [reportedInWindow_concat] at hwindow
      cases event with
      | snapshot now sorter => simp [Event.isSnapshot] at hwindow
      | malformedReport =>
          have hevicts : ¬ Event.malformedReport.EvictsOldest (after past) a := by
            rintro ⟨b, hb, -⟩
            simp [Event.reportOf] at hb
          have hsame : ((after past).step .malformedReport).IsLive a ↔ (after past).IsLive a :=
            Iff.rfl
          have h := ih (by simpa [Event.isSnapshot, Event.reportOf] using hwindow)
          simpa [hevicts, hsame, Event.reportOf] using h
      | report b rssi structures now =>
          by_cases hb : b = a
          · subst hb
            have hlive : ((after past).step (.report b rssi structures now)).IsLive b :=
              record_isLive _ b rssi _ now
            have hevicts : ¬ (Event.report b rssi structures now).EvictsOldest (after past) b := by
              rw [evictsOldest_report]
              rintro ⟨hfull, e, he, heb⟩
              exact hfull.2 (isLive_iff.mpr ⟨_, e, he, heb⟩)
            simp [hlive, hevicts, Event.reportOf]
          · have hnone : (Event.report b rssi structures now).reportOf a = none := if_neg hb
            have hih := ih (by simpa [Event.isSnapshot, hnone] using hwindow)
            rw [report_not_isLive_iff (after_distinct past) hb, hnone, ← hih]
            simp only [and_true]

/-- Whoever is reported as lost was silent for the whole window. -/
def NoFalseLoss (events : List Event) : Prop :=
  ∀ past now sorter, past ++ [.snapshot now sorter] <+: events → ∀ a,
    (after past).NoticesLoss sorter now a → ¬ ReportedInWindow a past

/-- When a window ends, no remembered device was evicted since its last report of
the window, and none of these reports is more than 15 seconds old. -/
def ReportedAreKept (events : List Event) : Prop :=
  ∀ past now sorter, past ++ [.snapshot now sorter] <+: events →
    ∀ d ∈ (after past).previousRemembered.entries, ReportedInWindow d.address past →
      ¬ EvictedSinceReport d.address past ∧
        ∀ time, lastReport d.address past = some time → now - time ≤ deviceStaleAfterMs

/-- A device reported in the window is heard at its end unless it was evicted or
went stale after the report. -/
theorem heardAt_iff {past : List Event} {a : Address} (now : ℕ)
    (hwindow : ReportedInWindow a past) :
    (after past).HeardAt now a ↔ ¬ EvictedSinceReport a past ∧
      ∀ time, lastReport a past = some time → now - time ≤ deviceStaleAfterMs := by
  rw [← not_isLive_iff_evicted past a hwindow, not_not]
  constructor
  · rintro ⟨i, e, he, hstale, -, rfl⟩
    refine ⟨isLive_iff.mpr ⟨i, e, he, rfl⟩, ?_⟩
    intro time htime
    rw [after_lastSeenMs past he, Option.some.injEq] at htime
    rw [DeviceEntry.isStale, decide_eq_false_iff_not] at hstale
    omega
  · rintro ⟨hlive, hage⟩
    obtain ⟨i, e, he, rfl⟩ := isLive_iff.mp hlive
    refine ⟨i, e, he, ?_, (after_windowReports_pos past he).mpr hwindow, rfl⟩
    have hold := hage e.lastSeenMs (after_lastSeenMs past he)
    rw [DeviceEntry.isStale, decide_eq_false_iff_not]
    omega

/-- A run gives no false loss notice exactly when every remembered device that
it reports in a window is still in the registry, and not stale, when the window
ends. -/
theorem noFalseLoss_iff_reportedAreKept (events : List Event) :
    NoFalseLoss events ↔ ReportedAreKept events := by
  constructor
  · intro h past now sorter hp d hd hwindow
    rw [← heardAt_iff now hwindow]
    by_contra hheard
    exact h past now sorter hp d.address
      (noticesLoss_iff.mpr ⟨d, mem_lostAt.mpr ⟨hd, hheard⟩, rfl⟩) hwindow
  · intro h past now sorter hp a hloss hwindow
    obtain ⟨d, hd, rfl⟩ := noticesLoss_iff.mp hloss
    obtain ⟨hremembered, hsilent⟩ := mem_lostAt.mp hd
    exact hsilent ((heardAt_iff now hwindow).mpr (h past now sorter hp d hremembered hwindow))

/-- One report of each of the given devices, all at the same time. -/
def crowd (others : List Address) (rssi : Int8) (now : ℕ) : List Event :=
  others.map fun b => .report b rssi [] now

theorem append_crowd_concat (past : List Event) (others : List Address) (b : Address)
    (rssi : Int8) (now : ℕ) :
    past ++ crowd (others ++ [b]) rssi now =
      (past ++ crowd others rssi now) ++ [.report b rssi [] now] := by
  simp [crowd]

theorem previousRemembered_crowd (past : List Event) (others : List Address) (rssi : Int8)
    (now : ℕ) :
    (after (past ++ crowd others rssi now)).previousRemembered =
      (after past).previousRemembered := by
  induction others using List.reverseRecOn with
  | nil => simp [crowd]
  | append_singleton others b ih =>
      rw [append_crowd_concat, after_concat, step, record_previousRemembered, ih]

theorem reportedInWindow_crowd {past : List Event} {a : Address} (h : ReportedInWindow a past)
    (others : List Address) (rssi : Int8) (now : ℕ) :
    ReportedInWindow a (past ++ crowd others rssi now) := by
  induction others using List.reverseRecOn with
  | nil => simpa [crowd] using h
  | append_singleton others b ih =>
      rw [append_crowd_concat, reportedInWindow_concat]
      exact ⟨rfl, .inr ih⟩

theorem lastReport_crowd (a : Address) (past : List Event) (others : List Address) (rssi : Int8)
    (now : ℕ) :
    lastReport a (past ++ crowd others rssi now) =
      if a ∈ others then some now else lastReport a past := by
  induction others using List.reverseRecOn with
  | nil => simp [crowd]
  | append_singleton others b ih =>
      rw [append_crowd_concat, lastReport_concat, ih]
      by_cases hb : b = a
      · simp [Event.reportOf, hb]
      · simp [Event.reportOf, hb, Ne.symm hb]

/-- There are at most as many live addresses as slots. -/
theorem length_le_of_live {r : DeviceRegistry} {addresses : List Address}
    (hnodup : addresses.Nodup) (hlive : ∀ a ∈ addresses, r.IsLive a) :
    addresses.length ≤ deviceCapacity := by
  have hslot : ∀ a ∈ addresses.toFinset, ∃ i e, r.entries.at? i = some e ∧ e.address = a := by
    intro a ha
    exact isLive_iff.mp (hlive a (List.mem_toFinset.mp ha))
  choose! slot entry hentry haddress using hslot
  have hcard : addresses.toFinset.card ≤ (Finset.range deviceCapacity).card := by
    refine Finset.card_le_card_of_injOn slot ?_ ?_
    · intro a ha
      exact Finset.mem_coe.mpr (Finset.mem_range.mpr (SlotTable.at?_lt (hentry a ha)))
    · intro a ha b hb hab
      have heq := hentry a ha
      rw [hab, hentry b hb, Option.some.injEq] at heq
      rw [← haddress a ha, ← haddress b hb, heq]
  rwa [List.toFinset_card_of_nodup hnodup, Finset.card_range] at hcard

/-- As many other devices as there are slots evict a device that was heard
before them. -/
theorem crowd_evicts {past : List Event} {others : List Address} {rssi : Int8} {now time : ℕ}
    {a : Address} (hmono : NonDecreasing (past ++ crowd others rssi now))
    (hlast : lastReport a past = some time) (hlt : time < now) (hnodup : (a :: others).Nodup)
    (hmany : deviceCapacity ≤ others.length) :
    ¬ (after (past ++ crowd others rssi now)).IsLive a := by
  intro hlive
  obtain ⟨i, e, he, hea⟩ := isLive_iff.mp hlive
  have hnot : a ∉ others := (List.nodup_cons.mp hnodup).1
  have hseen := after_lastSeenMs _ he
  rw [hea, lastReport_crowd, if_neg hnot, hlast, Option.some.injEq] at hseen
  have hothers : ∀ b ∈ others, (after (past ++ crowd others rssi now)).IsLive b := by
    intro b hb
    by_contra hdead
    have hreported := lastReport_crowd b past others rssi now
    rw [if_pos hb] at hreported
    have hle := droppedAreOlder _ hmono b now hreported hdead i e he
    omega
  have hlength := length_le_of_live hnodup (List.forall_mem_cons.mpr ⟨hlive, hothers⟩)
  rw [List.length_cons] at hlength
  omega

/-- The `n`th of a crowd of devices. -/
def crowdAddress (n : ℕ) : Address := ⟨1, #v[0, 0, 0, 0, 0, .ofNat n]⟩

theorem crowdAddress_inj {m n : ℕ} (hm : m < 256) (hn : n < 256)
    (h : crowdAddress m = crowdAddress n) : m = n := by
  have hlast : UInt8.ofNat m = UInt8.ofNat n := congrArg (fun a => a.addr[5]) h
  have hnat := congrArg UInt8.toNat hlast
  simp only [UInt8.toNat_ofNat'] at hnat
  omega

/-- The crowd and the device before it are all different. -/
theorem crowdAddress_nodup :
    (crowdAddress 0 :: (List.range 128).map fun n => crowdAddress (n + 1)).Nodup := by
  have hrange : (crowdAddress 0 :: (List.range 128).map fun n => crowdAddress (n + 1)) =
      (List.range 129).map crowdAddress := by
    rw [List.range_succ_eq_map, List.map_cons, List.map_map]
    rfl
  rw [hrange]
  refine List.Nodup.map_on ?_ List.nodup_range
  intro m hm n hn hmn
  rw [List.mem_range] at hm hn
  exact crowdAddress_inj (by omega) (by omega) hmn

/-- A device is remembered and heard again in the next window. -/
def rememberedAndHeard : List Event :=
  [.report (crowdAddress 0) (-50) [] 100, .snapshot 5000 (.insertion Louder),
    .report (crowdAddress 0) (-50) [] 5100]

/-- Then 128 other devices are heard before the window ends. -/
def crowdedWindow : List Event :=
  rememberedAndHeard ++ crowd ((List.range 128).map fun n => crowdAddress (n + 1)) (-60) 5200

/-- In a crowded window a device is reported as lost that was heard in it. -/
theorem crowdedWindow_false_loss :
    NonDecreasing (crowdedWindow ++ [.snapshot 10000 (.insertion Louder)]) ∧
      ¬ NoFalseLoss (crowdedWindow ++ [.snapshot 10000 (.insertion Louder)]) := by
  have hmono : NonDecreasing (crowdedWindow ++ [.snapshot 10000 (.insertion Louder)]) := by
    decide +kernel
  have hremembered : ⟨crowdAddress 0, -50, 100, none, none, {}⟩ ∈
      (after crowdedWindow).previousRemembered.entries := by
    rw [crowdedWindow, previousRemembered_crowd]
    decide +kernel
  have hreported : ReportedInWindow (crowdAddress 0) crowdedWindow :=
    reportedInWindow_crowd (by decide +kernel) _ _ _
  have hevicted : ¬ (after crowdedWindow).IsLive (crowdAddress 0) :=
    crowd_evicts hmono.init (by decide +kernel : lastReport (crowdAddress 0) rememberedAndHeard =
      some 5100) (by omega) crowdAddress_nodup (by simp [deviceCapacity])
  have hlost : (after crowdedWindow).NoticesLoss (.insertion Louder) 10000 (crowdAddress 0) := by
    refine noticesLoss_iff.mpr ⟨_, mem_lostAt.mpr ⟨hremembered, ?_⟩, rfl⟩
    rintro ⟨i, e, he, -, -, ha⟩
    exact hevicted (isLive_iff.mpr ⟨i, e, he, ha⟩)
  exact ⟨hmono, fun h => h crowdedWindow 10000 (.insertion Louder) List.prefix_rfl _ hlost
    hreported⟩

end FalseLoss

section EveryLoss

/-- The windows after a snapshot do not depend on what came before it. -/
theorem reportedInWindow_append_snapshot (a : Address) (past mid : List Event) (now : ℕ)
    (sorter : Sorter Louder) :
    ReportedInWindow a (past ++ .snapshot now sorter :: mid) ↔ ReportedInWindow a mid := by
  induction mid using List.reverseRecOn with
  | nil =>
      rw [reportedInWindow_concat]
      simp [Event.isSnapshot, ReportedInWindow, windows]
  | append_singleton mid e ih =>
      rw [← List.cons_append, ← List.append_assoc, reportedInWindow_concat, ih,
        reportedInWindow_concat]

/-- A window of the events ended with a report of the address in it. -/
def ReportedInSomeWindow (a : Address) (events : List Event) : Prop :=
  ∃ window ∈ (windows a events).closed, window ≠ []

theorem reportedInSomeWindow_concat (a : Address) (past : List Event) (e : Event) :
    ReportedInSomeWindow a (past ++ [e]) ↔
      ReportedInSomeWindow a past ∨ (e.isSnapshot = true ∧ ReportedInWindow a past) := by
  rw [ReportedInSomeWindow, windows_concat]
  cases e with
  | report address rssi structures now =>
      simp [Windows.add, Event.isSnapshot, ReportedInSomeWindow]
  | malformedReport => simp [Windows.add, Event.isSnapshot, ReportedInSomeWindow]
  | snapshot now sorter =>
      simp only [Windows.add, Event.isSnapshot, ReportedInSomeWindow, ReportedInWindow,
        List.mem_append, List.mem_singleton]
      constructor
      · rintro ⟨window, hclosed | rfl, hne⟩
        · exact .inl ⟨window, hclosed, hne⟩
        · exact .inr ⟨trivial, hne⟩
      · rintro (⟨window, hclosed, hne⟩ | ⟨-, hne⟩)
        · exact ⟨window, .inl hclosed, hne⟩
        · exact ⟨_, .inr rfl, hne⟩

/-- A device that was not heard at one snapshot and is remembered later was
reported in a window between the two. -/
theorem reported_of_remembered {past mid : List Event} {now : ℕ} {sorter : Sorter Louder}
    {a : Address} (hsilent : ¬ (after past).HeardAt now a) {d : DisplayedDevice}
    (hd : d ∈ (after (past ++ .snapshot now sorter :: mid)).previousRemembered.entries)
    (ha : d.address = a) : ReportedInSomeWindow a mid := by
  induction mid using List.reverseRecOn generalizing d with
  | nil =>
      rw [after_concat] at hd
      exact absurd (ha ▸ heardAt_of_remembered hd) hsilent
  | append_singleton mid e ih =>
      rw [← List.cons_append, ← List.append_assoc, after_concat] at hd
      rw [reportedInSomeWindow_concat]
      cases e with
      | report b rssi structures now' =>
          rw [step, record_previousRemembered] at hd
          exact .inl (ih hd ha)
      | malformedReport => exact .inl (ih hd ha)
      | snapshot now' sorter' =>
          obtain ⟨i, f, hf, -, hpos, hfa⟩ := heardAt_of_remembered hd
          have hreported := (after_windowReports_pos _ hf).mp hpos
          rw [hfa, ha, reportedInWindow_append_snapshot] at hreported
          exact .inr ⟨rfl, hreported⟩

/-- What a snapshot prints about losses counts exactly these devices and shows the first
of them. They are among the remembered ones. -/
def DeviceRegistry.CountsLost (r : DeviceRegistry) (sorter : Sorter Louder) (nowMs : ℕ)
    (lost : List DisplayedDevice) : Prop :=
  lost.Sublist r.previousRemembered.entries ∧
    (r.printSnapshot sorter nowMs).2.lost =
      if lost = [] then none
      else some ⟨lost.length, min lost.length 12, (lost.take 12).map fun d => d.lostRow nowMs⟩

theorem DeviceRegistry.countsLost_lostAt (r : DeviceRegistry) (sorter : Sorter Louder) (now : ℕ) :
    r.CountsLost sorter now (r.lostAt sorter now) := by
  refine ⟨List.filter_sublist, ?_⟩
  rw [printSnapshot_lost]
  by_cases hnone : r.lostAt sorter now = []
  · rw [if_pos hnone, hnone]
    rfl
  · rw [if_neg hnone, if_pos (List.length_pos_iff.mpr hnone)]
    rfl

/-- Every loss is noticed, once. The lost section of a snapshot counts the devices of
`lostAt`. A remembered device without a report in the window is counted at its end,
whatever became of its entry; and between two snapshots that count the same address as
lost, a window ended in which it was reported. -/
theorem losses_noticed_once :
    (∀ past now sorter, (after past).CountsLost sorter now ((after past).lostAt sorter now)) ∧
    (∀ past now sorter, ∀ d ∈ (after past).previousRemembered.entries,
      ¬ ReportedInWindow d.address past → d ∈ (after past).lostAt sorter now) ∧
    (∀ past mid now sorter now' sorter' d d',
      d ∈ (after past).lostAt sorter now →
      d' ∈ (after (past ++ .snapshot now sorter :: mid)).lostAt sorter' now' →
      d.address = d'.address → ReportedInSomeWindow d.address mid) := by
  refine ⟨fun past now sorter => countsLost_lostAt _ sorter now, ?_, ?_⟩
  · intro past now sorter d hd hsilent
    refine mem_lostAt.mpr ⟨hd, ?_⟩
    rintro ⟨i, e, he, -, hpos, ha⟩
    exact hsilent (ha ▸ (after_windowReports_pos past he).mp hpos)
  · intro past mid now sorter now' sorter' d d' hd hd' haddress
    exact reported_of_remembered (mem_lostAt.mp hd).2 (mem_lostAt.mp hd').1 haddress.symm

/-- A device as it is remembered after `heardOnce`. -/
def silentDevice : DisplayedDevice := ⟨sampleAddress, -50, 100, none, none, {}⟩

def heardOnce : List Event :=
  [.report sampleAddress (-50) [] 100, .snapshot 5000 (.insertion Louder)]

/-- The device is silent for one window, comes back for one and is silent again. -/
def heardAgain : List Event :=
  [.report sampleAddress (-40) [] 10100, .snapshot 15000 (.insertion Louder)]

theorem silentDevice_lost_twice :
    (after heardOnce).CountsLost (.insertion Louder) 10000
        ((after heardOnce).lostAt (.insertion Louder) 10000) ∧
      ((after heardOnce).printSnapshot (.insertion Louder) 10000).2.lost.map Section.count =
        some 1 ∧
      silentDevice ∈ (after heardOnce).lostAt (.insertion Louder) 10000 ∧
      ⟨sampleAddress, -40, 10100, none, none, {}⟩ ∈
        (after (heardOnce ++ .snapshot 10000 (.insertion Louder) :: heardAgain)).lostAt
          (.insertion Louder) 20000 ∧
      ReportedInSomeWindow sampleAddress heardAgain := by
  have hfirst : silentDevice ∈ (after heardOnce).lostAt (.insertion Louder) 10000 :=
    losses_noticed_once.2.1 heardOnce 10000 (.insertion Louder) silentDevice (by decide +kernel)
      (by decide +kernel)
  have hsecond : ⟨sampleAddress, -40, 10100, none, none, {}⟩ ∈
      (after (heardOnce ++ .snapshot 10000 (.insertion Louder) :: heardAgain)).lostAt
        (.insertion Louder) 20000 :=
    losses_noticed_once.2.1 _ 20000 (.insertion Louder) _ (by decide +kernel) (by decide +kernel)
  exact ⟨losses_noticed_once.1 heardOnce 10000 (.insertion Louder), by decide +kernel, hfirst,
    hsecond, losses_noticed_once.2.2 heardOnce heardAgain 10000 (.insertion Louder)
    20000 (.insertion Louder) silentDevice _ hfirst hsecond rfl⟩

end EveryLoss

end EmbeddedSdk.Scanner
