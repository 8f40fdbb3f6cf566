import EmbeddedSdk.Runs
import EmbeddedSdk.ScannerRecency
import EmbeddedSdk.SnapshotTables

/-!
# The scanner firmware as a system

`scanner_task` joins two loops on one executor. One runs the host stack, which calls
the report handler; the other starts a scan, sleeps for the scan window and prints a
snapshot. Both sleep for a second after a failure. The clock advances at any time and
a timer that is due may be noticed late, so a run is any interleaving in which no
timer fires early. The registry sees such a run as a list of events with times that
never go back, and the scan window decides which ages the tables can show.
-/
namespace EmbeddedSdk.Scanner
open UnstableSort DeviceRegistry Runs

def scanWindowMs : ℕ := 5000
def retryMs : ℕ := 1000

namespace ScannerTask

/-- The awaits of the scan loop, with the time at which a timer is due. -/
inductive ScanPoint
  | scan
  | window (dueMs : ℕ)
  | retry (dueMs : ℕ)

/-- The awaits of `bluetooth_runner`. -/
inductive RunnerPoint
  | run
  | retry (dueMs : ℕ)

/-- What the two loops print. -/
inductive Message
  | scanning
  | snapshot (nowMs : ℕ) (printout : Printout)
  | scanStartFailed
  | hostRunnerFailed

structure State where
  nowMs : ℕ
  scan : ScanPoint
  runner : RunnerPoint
  registry : DeviceRegistry
  console : List Message

/-- What can happen: the clock advances, the host stack calls the handler or returns,
a scan starts or fails to, or the timer of one of the loops fires. -/
inductive Input
  | clock (elapsedMs : ℕ)
  | report (address : Address) (rssi : Int8) (structures : List AdStructure)
  | malformedReport
  | runnerReturned (ok : Bool)
  | runnerTimer
  | scanReturned (ok : Bool)
  | scanTimer (sorter : Sorter Louder)

/-- The two loops up to their first awaits. -/
def scannerTask (nowMs : ℕ) : State := ⟨nowMs, .scan, .run, new, []⟩

/-- The body of the scan loop behind the sleep for the scan window. -/
def State.printSnapshot (s : State) (sorter : Sorter Louder) : State :=
  let (registry, printout) := s.registry.printSnapshot sorter s.nowMs
  { s with
    scan := .scan
    registry := registry
    console := s.console ++ [.snapshot s.nowMs printout] }

def step (s : State) : Input → Option State
  | .clock elapsedMs => some { s with nowMs := s.nowMs + elapsedMs }
  | .report address rssi structures =>
      match s.runner with
      | .run => some { s with registry := s.registry.record address rssi (.parse structures) s.nowMs }
      | .retry _ => none
  | .malformedReport =>
      match s.runner with
      | .run => some { s with registry := s.registry.recordMalformedReport }
      | .retry _ => none
  | .runnerReturned ok =>
      match s.runner, ok with
      | .run, true => some s
      | .run, false =>
          some { s with
            runner := .retry (s.nowMs + retryMs)
            console := s.console ++ [.hostRunnerFailed] }
      | .retry _, _ => none
  | .runnerTimer =>
      match s.runner with
      | .retry dueMs => if dueMs ≤ s.nowMs then some { s with runner := .run } else none
      | .run => none
  | .scanReturned ok =>
      match s.scan, ok with
      | .scan, true =>
          some { s with
            scan := .window (s.nowMs + scanWindowMs)
            console := s.console ++ [.scanning] }
      | .scan, false =>
          some { s with
            scan := .retry (s.nowMs + retryMs)
            console := s.console ++ [.scanStartFailed] }
      | _, _ => none
  | .scanTimer sorter =>
      match s.scan with
      | .window dueMs => if dueMs ≤ s.nowMs then some (s.printSnapshot sorter) else none
      | .retry dueMs => if dueMs ≤ s.nowMs then some { s with scan := .scan } else none
      | .scan => none

/-- The clock behind an input. -/
def Input.clockAfter (nowMs : ℕ) : Input → ℕ
  | .clock elapsedMs => nowMs + elapsedMs
  | _ => nowMs

/-- What the handler hears of an input. -/
def Input.heard (nowMs : ℕ) : Input → List Event
  | .report address rssi structures => [.report address rssi structures nowMs]
  | .malformedReport => [.malformedReport]
  | _ => []

/-- Everything that one input can do. Most of them leave the registry and the
snapshots on the console as they are. -/
inductive Move (s : State) : Input → State → Prop
  | later {t : State} (elapsedMs : ℕ) (h : t = { s with nowMs := s.nowMs + elapsedMs }) :
      Move s (.clock elapsedMs) t
  | reported {t : State} (address : Address) (rssi : Int8) (structures : List AdStructure)
      (h : t = { s with
        registry := s.registry.step (.report address rssi structures s.nowMs) }) :
      Move s (.report address rssi structures) t
  | malformed {t : State} (h : t = { s with registry := s.registry.step .malformedReport }) :
      Move s .malformedReport t
  | idle {input : Input} {t : State} (hclock : input.clockAfter s.nowMs = s.nowMs)
      (hheard : input.heard s.nowMs = []) (message : List Message)
      (hmessage : ∀ nowMs p, Message.snapshot nowMs p ∉ message)
      (runner : RunnerPoint) (point : ScanPoint)
      (hpoint : point = s.scan ∨ point = .window (s.nowMs + scanWindowMs) ∨
        ∀ dueMs, point ≠ .window dueMs)
      (h : t = { s with scan := point, runner := runner, console := s.console ++ message }) :
      Move s input t
  | printed {t : State} (sorter : Sorter Louder) (dueMs : ℕ) (hscan : s.scan = .window dueMs)
      (hdue : dueMs ≤ s.nowMs) (h : t = s.printSnapshot sorter) : Move s (.scanTimer sorter) t

theorem step_move {s t : State} {input : Input} (h : step s input = some t) : Move s input t := by
  cases input with
  | clock elapsedMs => exact .later elapsedMs (Option.some.inj h).symm
  | report address rssi structures =>
      simp only [step] at h
      split at h
      · exact .reported address rssi structures (Option.some.inj h).symm
      · cases h
  | malformedReport =>
      simp only [step] at h
      split at h
      · exact .malformed (Option.some.inj h).symm
      · cases h
  | runnerReturned ok =>
      simp only [step] at h
      split at h
      · cases h
        exact .idle rfl rfl [] (by simp) s.runner s.scan (.inl rfl) (by simp)
      · cases h
        exact .idle rfl rfl [.hostRunnerFailed] (by simp) _ s.scan (.inl rfl) rfl
      · cases h
  | runnerTimer =>
      simp only [step] at h
      split at h
      · split at h
        · cases h
          exact .idle rfl rfl [] (by simp) .run s.scan (.inl rfl) (by simp)
        · cases h
      · cases h
  | scanReturned ok =>
      simp only [step] at h
      split at h
      · cases h
        exact .idle rfl rfl [.scanning] (by simp) s.runner _ (.inr (.inl rfl)) rfl
      · cases h
        exact .idle rfl rfl [.scanStartFailed] (by simp) s.runner _ (.inr (.inr (by simp))) rfl
      · cases h
  | scanTimer sorter =>
      simp only [step] at h
      split at h
      · next dueMs hscan =>
        split at h
        · next hdue => exact .printed sorter dueMs hscan hdue (Option.some.inj h).symm
        · cases h
      · split at h
        · cases h
          exact .idle rfl rfl [] (by simp) s.runner .scan (.inr (.inr (by simp))) (by simp)
        · cases h
      · cases h

/-- The snapshot that a message shows, with its time. -/
def Message.printout? : Message → Option (ℕ × Printout)
  | .snapshot nowMs printout => some (nowMs, printout)
  | _ => none

/-- The snapshots on the console. -/
def State.printed (s : State) : List (ℕ × Printout) := s.console.filterMap Message.printout?

theorem filterMap_printout?_eq_nil {messages : List Message}
    (h : ∀ nowMs p, Message.snapshot nowMs p ∉ messages) :
    messages.filterMap Message.printout? = [] := by
  rw [List.filterMap_eq_nil_iff]
  intro message hmessage
  cases message with
  | snapshot nowMs p => exact absurd hmessage (h nowMs p)
  | scanning => rfl
  | scanStartFailed => rfl
  | hostRunnerFailed => rfl

/-- What an event makes the registry print. -/
def printout? (r : DeviceRegistry) : Event → Option (ℕ × Printout)
  | .snapshot nowMs sorter => some (nowMs, (r.printSnapshot sorter nowMs).2)
  | _ => none

/-- What the snapshots of a run of the registry print, with their times. -/
def printouts (r : DeviceRegistry) : List Event → List (ℕ × Printout)
  | [] => []
  | e :: rest => (printout? r e).toList ++ printouts (r.step e) rest

theorem printouts_concat (r : DeviceRegistry) (past : List Event) (e : Event) :
    printouts r (past ++ [e]) =
      printouts r past ++ (printout? (past.foldl DeviceRegistry.step r) e).toList := by
  induction past generalizing r with
  | nil => simp [printouts]
  | cons first past ih =>
      rw [List.cons_append, printouts, ih, printouts, List.foldl_cons, List.append_assoc]

/-- The system is in a state that a run of the registry explains. -/
structure Refines (s : State) (log : List Event) : Prop where
  registry : s.registry = after log
  clock : NonDecreasing log
  past : ∀ t ∈ log.filterMap Event.time?, t ≤ s.nowMs
  printed : s.printed = printouts new log

theorem Refines.concat {s t : State} {log : List Event} {e : Event} (h : Refines s log)
    (htime : ∀ now ∈ e.time?, now = s.nowMs) (hnow : t.nowMs = s.nowMs)
    (hregistry : t.registry = s.registry.step e)
    (hprinted : t.printed = s.printed ++ (printout? s.registry e).toList) :
    Refines t (log ++ [e]) := by
  have hlast : ∀ now ∈ [e].filterMap Event.time?, now = s.nowMs := by
    intro now hmem
    obtain ⟨e', he', htime'⟩ := List.mem_filterMap.mp hmem
    rw [List.mem_singleton.mp he'] at htime'
    exact htime now htime'
  constructor
  · rw [hregistry, h.registry, after_concat]
  · rw [NonDecreasing, List.filterMap_append, List.pairwise_append]
    refine ⟨h.clock, ?_, ?_⟩
    · cases htime? : e.time? with
      | none => simp [htime?]
      | some now => simp [htime?]
    · intro time hmem now hnow'
      rw [hlast now hnow']
      exact h.past time hmem
  · intro time hmem
    rw [List.filterMap_append, List.mem_append] at hmem
    rw [hnow]
    rcases hmem with hbefore | hat
    · exact h.past time hbefore
    · exact (hlast time hat).le
  · rw [hprinted, printouts_concat, h.printed, h.registry]
    rfl

/-- The reports and the malformed reports in a run of the registry. -/
def received (log : List Event) : List Event := log.filter fun e => !e.isSnapshot

/-- What the handler hears of the inputs, each report with the time on the clock. -/
def heardOf (nowMs : ℕ) : List Input → List Event
  | [] => []
  | input :: rest => input.heard nowMs ++ heardOf (input.clockAfter nowMs) rest

def clockAfter (nowMs : ℕ) (inputs : List Input) : ℕ := inputs.foldl Input.clockAfter nowMs

theorem heardOf_concat (nowMs : ℕ) (past : List Input) (input : Input) :
    heardOf nowMs (past ++ [input]) =
      heardOf nowMs past ++ input.heard (clockAfter nowMs past) := by
  induction past generalizing nowMs with
  | nil => simp [heardOf, clockAfter]
  | cons first past ih =>
      rw [List.cons_append, heardOf, ih, heardOf, List.append_assoc]
      rfl

theorem clockAfter_concat (nowMs : ℕ) (past : List Input) (input : Input) :
    clockAfter nowMs (past ++ [input]) = input.clockAfter (clockAfter nowMs past) := by
  rw [clockAfter, List.foldl_concat]
  rfl

theorem Move.nowMs {s t : State} {input : Input} (h : Move s input t) :
    t.nowMs = input.clockAfter s.nowMs := by
  cases h with
  | later elapsedMs ht => rw [ht]; rfl
  | reported address rssi structures ht => rw [ht]; rfl
  | malformed ht => rw [ht]; rfl
  | idle hclock _ message hmessage runner point hpoint ht => rw [ht, hclock]
  | printed sorter dueMs hscan hdue ht => rw [ht]; rfl

theorem Move.refines {s t : State} {input : Input} (h : Move s input t) {log : List Event}
    (hs : Refines s log) :
    ∃ log', Refines t log' ∧ received log' = received log ++ input.heard s.nowMs := by
  cases h with
  | later elapsedMs ht =>
      subst ht
      refine ⟨log, ⟨hs.registry, hs.clock, ?_, hs.printed⟩, (List.append_nil _).symm⟩
      intro time hmem
      exact (hs.past time hmem).trans (Nat.le_add_right _ _)
  | reported address rssi structures ht =>
      subst ht
      exact ⟨_, hs.concat (e := .report address rssi structures s.nowMs)
        (fun now hnow => (Option.some.inj hnow).symm) rfl rfl (List.append_nil _).symm,
        List.filter_append ..⟩
  | malformed ht =>
      subst ht
      exact ⟨_, hs.concat (e := .malformedReport) (fun now hnow => by cases hnow) rfl rfl
        (List.append_nil _).symm, List.filter_append ..⟩
  | idle hclock hheard message hmessage runner point hpoint ht =>
      subst ht
      rw [hheard, List.append_nil]
      refine ⟨log, ⟨hs.registry, hs.clock, hs.past, ?_⟩, rfl⟩
      rw [State.printed, List.filterMap_append, filterMap_printout?_eq_nil hmessage,
        List.append_nil]
      exact hs.printed
  | printed sorter dueMs hscan hdue ht =>
      subst ht
      refine ⟨_, hs.concat (e := .snapshot s.nowMs sorter)
        (fun now hnow => (Option.some.inj hnow).symm) rfl rfl ?_, List.filter_append ..⟩
      simp only [State.printed, State.printSnapshot, List.filterMap_append]
      rfl

/-- Every run of the firmware is a run of the registry in which time never goes back.
The registry gets the reports and malformed reports of the inputs, in their order and
with the times at which they came, and the console shows exactly what the snapshots of
that run print. -/
theorem runs_refine_registry {bootMs : ℕ} {inputs : List Input} {s : State}
    (h : run step (scannerTask bootMs) inputs = some s) :
    ∃ log, s.registry = after log ∧ NonDecreasing log ∧ s.printed = printouts new log ∧
      received log = heardOf bootMs inputs := by
  have hrefines : s.nowMs = clockAfter bootMs inputs ∧
      ∃ log, Refines s log ∧ received log = heardOf bootMs inputs := by
    refine run_history (R := fun past s => s.nowMs = clockAfter bootMs past ∧
      ∃ log, Refines s log ∧ received log = heardOf bootMs past) ?_ ?_ h
    · exact ⟨rfl, [], ⟨rfl, List.Pairwise.nil, by simp, rfl⟩, rfl⟩
    · intro past s input t _ hs hstep
      obtain ⟨hnow, log, hlog, hheard⟩ := hs
      have hmove : Move s input t := step_move hstep
      obtain ⟨log', hlog', hreceived⟩ := hmove.refines hlog
      refine ⟨?_, log', hlog', ?_⟩
      · rw [hmove.nowMs, hnow, clockAfter_concat]
      · rw [hreceived, hheard, hnow, heardOf_concat]
  obtain ⟨-, log, hlog, hheard⟩ := hrefines
  exact ⟨log, hlog.registry, hlog.clock, hlog.printed, hheard⟩

/-- Two windows; the device is heard in the first and not in the second. -/
def lostInSecondWindow : List Input :=
  [.scanReturned true, .clock 200, .report sampleAddress (-40) [], .clock 4800,
    .scanTimer (.insertion Louder), .scanReturned true, .clock 5100,
    .scanTimer (.insertion Louder)]

theorem lostInSecondWindow_refines :
    ∃ s log, run step (scannerTask 0) lostInSecondWindow = some s ∧ s.registry = after log ∧
      NonDecreasing log ∧ s.printed = printouts new log ∧
      received log = [.report sampleAddress (-40) [] 200] := by
  have hsome : (run step (scannerTask 0) lostInSecondWindow).isSome = true := by decide +kernel
  obtain ⟨s, hs⟩ := Option.isSome_iff_exists.mp hsome
  obtain ⟨log, hregistry, hclock, hprinted, hheard⟩ := runs_refine_registry hs
  exact ⟨s, log, hs, hregistry, hclock, hprinted, hheard⟩

/-- The times of the snapshots on the console. -/
def State.times (s : State) : List ℕ := s.printed.map Prod.fst

/-- What the times of the reports have to do with the times of the snapshots: entries
with a report were heard since the latest snapshot, and the remembered devices in
the window before it. -/
structure Timely (s : State) : Prop where
  distinct : s.registry.Distinct
  latest : ∀ t ∈ s.times.getLast?, t ≤ s.nowMs
  entries : ∀ i e, s.registry.entries.at? i = some e → e.lastSeenMs ≤ s.nowMs ∧
    (0 < e.windowReports → ∀ t ∈ s.times.getLast?, t ≤ e.lastSeenMs)
  remembered : ∀ d ∈ s.registry.previousRemembered.entries, ∃ t, s.times.getLast? = some t ∧
    d.lastSeenMs ≤ t ∧ ∀ t' ∈ s.times.dropLast.getLast?, t' ≤ d.lastSeenMs
  due : ∀ dueMs, s.scan = .window dueMs → ∀ t ∈ s.times.getLast?, t + scanWindowMs ≤ dueMs

theorem times_printSnapshot (s : State) (sorter : Sorter Louder) :
    (s.printSnapshot sorter).times = s.times ++ [s.nowMs] := by
  simp only [State.times, State.printed, State.printSnapshot, List.filterMap_append,
    List.map_append]
  rfl

theorem Timely.later {s : State} (hs : Timely s) (elapsedMs : ℕ) :
    Timely { s with nowMs := s.nowMs + elapsedMs } where
  distinct := hs.distinct
  latest t ht := (hs.latest t ht).trans (Nat.le_add_right _ _)
  entries i e he := ⟨(hs.entries i e he).1.trans (Nat.le_add_right _ _), (hs.entries i e he).2⟩
  remembered := hs.remembered
  due := hs.due

theorem Timely.reported {s : State} (hs : Timely s) (a : Address) (rssi : Int8)
    (structures : List AdStructure) :
    Timely { s with registry := s.registry.step (.report a rssi structures s.nowMs) } where
  distinct := step_distinct hs.distinct _
  latest := hs.latest
  entries i f hf := by
    rcases record_entry hs.distinct hf with ⟨e, -, -, rfl⟩ | ⟨-, rfl⟩ | ⟨-, he⟩
    · exact ⟨le_rfl, fun _ => hs.latest⟩
    · exact ⟨le_rfl, fun _ => hs.latest⟩
    · exact hs.entries i f he
  remembered d hd := by
    simp only [DeviceRegistry.step, record_previousRemembered] at hd
    exact hs.remembered d hd
  due := hs.due

theorem Timely.printed {s : State} (hs : Timely s) (sorter : Sorter Louder) :
    Timely (s.printSnapshot sorter) where
  distinct := step_distinct hs.distinct (.snapshot s.nowMs sorter)
  latest t ht := by
    rw [times_printSnapshot, List.getLast?_concat] at ht
    exact (Option.some.inj ht).ge
  entries i f hf := by
    obtain ⟨e, he, -, rfl⟩ := printSnapshot_entry hf
    exact ⟨(hs.entries i e he).1, fun hpos => absurd hpos (Nat.lt_irrefl 0)⟩
  remembered d hd := by
    have hentry : ∃ e, e ∈ s.registry.seen s.nowMs ∧ DisplayedDevice.fromEntry e = d := by
      simp only [State.printSnapshot, DeviceRegistry.printSnapshot, SlotTable.entries_ofList] at hd
      obtain ⟨e, he, rfl⟩ := List.mem_map.mp (List.mem_of_mem_take hd)
      exact ⟨e, mem_heard_sorted.mp he, rfl⟩
    obtain ⟨e, he, rfl⟩ := hentry
    obtain ⟨hmem, -, hpos⟩ := mem_seen.mp he
    obtain ⟨i, hi⟩ := SlotTable.mem_entries.mp hmem
    rw [times_printSnapshot, List.getLast?_concat, List.dropLast_concat]
    exact ⟨s.nowMs, rfl, (hs.entries i e hi).1, (hs.entries i e hi).2 hpos⟩
  due dueMs hdue := by cases hdue

theorem Timely.idle {s : State} (hs : Timely s) {message : List Message}
    (hmessage : ∀ nowMs p, Message.snapshot nowMs p ∉ message) (runner : RunnerPoint)
    {point : ScanPoint}
    (hpoint : point = s.scan ∨ point = .window (s.nowMs + scanWindowMs) ∨
      ∀ dueMs, point ≠ .window dueMs) :
    Timely { s with scan := point, runner := runner, console := s.console ++ message } := by
  have htimes : State.times { s with
      scan := point, runner := runner, console := s.console ++ message } = s.times := by
    simp only [State.times, State.printed, List.filterMap_append,
      filterMap_printout?_eq_nil hmessage, List.append_nil]
  constructor
  · exact hs.distinct
  · rw [htimes]
    exact hs.latest
  · rw [htimes]
    exact hs.entries
  · rw [htimes]
    exact hs.remembered
  · rw [htimes]
    intro dueMs hdue t ht
    rcases hpoint with hsame | hwindow | hnone
    · exact hs.due dueMs (hsame.symm.trans hdue) t ht
    · have hat : s.nowMs + scanWindowMs = dueMs := ScanPoint.window.inj (hwindow.symm.trans hdue)
      have hle := hs.latest t ht
      omega
    · exact absurd hdue (hnone dueMs)

/-- What the times and ages of a snapshot say, given the times of the snapshots before
it: it comes a scan window after the latest of them, the ages of its first table lie in
the window since then, and those of the lost devices in the window before. The age of a
lost device is that of the report that was remembered: a device that was heard again and
then evicted is lost as well, with its older age. -/
structure AgesSeparate (earlier : List ℕ) (nowMs : ℕ) (p : Printout) : Prop where
  spaced : ∀ t ∈ earlier.getLast?, t + scanWindowMs ≤ nowMs
  devices : ∀ row ∈ p.devices, row.ageMs ≤ deviceStaleAfterMs ∧
    ∀ t ∈ earlier.getLast?, row.ageMs ≤ nowMs - t
  lost : ∀ row ∈ printedRows p.lost, scanWindowMs ≤ row.ageMs ∧
    ∃ t, earlier.getLast? = some t ∧ nowMs - t ≤ row.ageMs ∧
      ∀ t' ∈ earlier.dropLast.getLast?, row.ageMs ≤ nowMs - t'

/-- Every snapshot in a list is as it should be after those in front of it. -/
def AllSeparate (printed : List (ℕ × Printout)) : Prop :=
  ∀ before nowMs p behind, printed = before ++ (nowMs, p) :: behind →
    AgesSeparate (before.map Prod.fst) nowMs p

theorem AllSeparate.concat {printed : List (ℕ × Printout)} (h : AllSeparate printed) {nowMs : ℕ}
    {p : Printout} (hp : AgesSeparate (printed.map Prod.fst) nowMs p) :
    AllSeparate (printed ++ [(nowMs, p)]) := by
  intro before time q behind hsplit
  rcases List.eq_nil_or_concat' behind with rfl | ⟨init, last, rfl⟩
  · obtain ⟨hprinted, hlast⟩ := List.append_inj' hsplit rfl
    obtain ⟨rfl, rfl⟩ := Prod.mk.inj (List.cons.inj hlast).1
    rw [← hprinted]
    exact hp
  · rw [← List.cons_append, ← List.append_assoc] at hsplit
    exact h before time q init (List.append_inj' hsplit rfl).1

end ScannerTask

end EmbeddedSdk.Scanner
