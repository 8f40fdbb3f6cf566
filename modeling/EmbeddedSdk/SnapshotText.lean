import EmbeddedSdk.AdvertisementMerge
import EmbeddedSdk.OutputFields
import EmbeddedSdk.SnapshotTables

/-!
# The text of a snapshot

A snapshot is printed line by line: a header, the device table, and the beacon and
lost tables when they have something to show. Names come from the radio and run up
to the ends of the lines. The text still comes apart into the lines that were
written, and tells a reader everything that the tables hold.
-/
namespace EmbeddedSdk.Scanner
open SeparatedText TextColumns UnstableSort

namespace Section
variable {Row Reading : Type}

def map (read : Row → Reading) (s : Section Row) : Section Reading :=
  ⟨s.count, s.shown, s.rows.map read⟩

/-- The line above the column titles. -/
def headingWords (title : List (List Char)) (s : Section Row) : List (List Char) :=
  title ++ [decimal s.count ++ [';'], "showing".toList, "strongest".toList]

def headingLine (title : List (List Char)) (s : Section Row) : List Char :=
  row ' ' (s.headingWords title) (decimal s.shown)

/-- The lines of a section, none if it is not printed. -/
def lines (title : List (List Char)) (columns : List Char) (line : Row → List Char) :
    Option (Section Row) → List (List Char)
  | none => []
  | some s => s.headingLine title :: columns :: s.rows.map line

end Section

namespace Printout

def seenWords (p : Printout) : List (List Char) :=
  ["Seen".toList, decimal p.count, "devices".toList, '(' :: decimal p.windowReports,
    "packets,".toList, decimal p.windowMalformedReports, "malformed,".toList,
    decimal p.windowEvictions, "evicted);".toList, "showing".toList, "strongest".toList]

def seenLine (p : Printout) : List Char := row ' ' p.seenWords (decimal p.shown)

def deviceColumns : List Char :=
  "  AVG DELTA  MAX AGEms PKTS KIND ADDRESS             MFG    BEACON NAME".toList

def beaconTitle : List (List Char) := ["Detected".toList, "beacons:".toList]

def beaconColumns : List Char :=
  "  AVG DELTA ADDRESS             MFG    BEACON NAME".toList

def lostTitle : List (List Char) :=
  ["Lost".toList, "since".toList, "previous".toList, "scan:".toList]

def lostColumns : List Char :=
  " LAST AGEms KIND ADDRESS             MFG    BEACON NAME".toList

variable (display : Address → List Char)

/-- The calls of `println!`, with the empty line at the end. -/
def lines (p : Printout) : List (List Char) :=
  p.seenLine :: deviceColumns :: (p.devices.map (DeviceRow.line display) ++
    (Section.lines beaconTitle beaconColumns (BeaconRow.line display) p.beacons ++
      (Section.lines lostTitle lostColumns (LostRow.line display) p.lost ++ [[]])))

def text (p : Printout) : List Char := unlines '\n' (p.lines display)

/-- Two printouts hold the same for a reader, who sees names as they are shown and
no kinds of address in the beacon table. -/
structure ReadsAlike (p q : Printout) : Prop where
  count : p.count = q.count
  windowReports : p.windowReports = q.windowReports
  windowMalformedReports : p.windowMalformedReports = q.windowMalformedReports
  windowEvictions : p.windowEvictions = q.windowEvictions
  shown : p.shown = q.shown
  devices : p.devices.map DeviceRow.asRead = q.devices.map DeviceRow.asRead
  beacons : p.beacons.map (Section.map BeaconRow.asRead) =
    q.beacons.map (Section.map BeaconRow.asRead)
  lost : p.lost.map (Section.map LostRow.asRead) = q.lost.map (Section.map LostRow.asRead)

/-- Every count of lines is right, and every format that is set has a label. -/
structure WellFormed (p : Printout) : Prop where
  shown : p.shown = p.devices.length
  devices : ∀ r ∈ p.devices, r.beacon.formats < 64
  beaconsShown : ∀ s ∈ p.beacons, s.shown = s.rows.length
  beacons : ∀ s ∈ p.beacons, ∀ r ∈ s.rows, r.beacon.formats < 64
  lostShown : ∀ s ∈ p.lost, s.shown = s.rows.length
  lost : ∀ s ∈ p.lost, ∀ r ∈ s.rows, r.beacon.formats < 64

end Printout

theorem startsVisibly_decimal (n : ℕ) : StartsVisibly endsWord (decimal n) := by
  intro c hc
  exact (isWord_decimal n).2 c (List.mem_of_mem_head? hc)

theorem isControl_of_mem_decimal {n : ℕ} {c : Char} (h : c ∈ decimal n) : isControl c = false :=
  isControl_of_endsWord ((isWord_decimal n).2 c h)

/-- A line of words that ends in a number has no control characters. -/
theorem isControl_of_mem_words {words : List (List Char)}
    (h : ∀ word ∈ words, IsWord endsWord word) {n : ℕ} {c : Char}
    (hc : c ∈ row ' ' words (decimal n)) : isControl c = false := by
  rcases mem_row (forall₂_shows_self h) hc with rfl | hword | hnumber
  · rfl
  · exact isControl_of_endsWord hword
  · exact isControl_of_mem_decimal hnumber

/-- A line of words that ends in a number tells both. -/
theorem words_eq_of_row_eq {words words' : List (List Char)} {n n' : ℕ}
    (h : ∀ word ∈ words, IsWord endsWord word) (h' : ∀ word ∈ words', IsWord endsWord word)
    (hlength : words.length = words'.length)
    (heq : row ' ' words (decimal n) = row ' ' words' (decimal n')) : words = words' ∧ n = n' := by
  obtain ⟨hwords, hnumber⟩ := row_inj endsWord_blank (forall₂_shows_self h) (forall₂_shows_self h')
    hlength (startsVisibly_decimal n) (startsVisibly_decimal n') heq
  exact ⟨hwords, decimal_inj hnumber⟩

namespace Section
variable {Row Reading : Type} {title : List (List Char)} {columns : List Char}
  {line : Row → List Char} {read : Row → Reading}

theorem isWord_headingWords (htitle : ∀ word ∈ title, IsWord endsWord word) (s : Section Row) :
    ∀ word ∈ s.headingWords title, IsWord endsWord word := by
  have hliterals : ["showing".toList, "strongest".toList].all isPlain = true := by decide +kernel
  intro word hword
  rcases List.mem_append.mp hword with hmem | hmem
  · exact htitle word hmem
  · rcases List.mem_cons.mp hmem with rfl | hmem
    · refine ⟨by simp, ?_⟩
      intro c hc
      rcases List.mem_append.mp hc with hdigit | hlast
      · exact (isWord_decimal s.count).2 c hdigit
      · rw [List.mem_singleton.mp hlast]
        rfl
    · exact isWord_of_all hliterals word hmem

/-- The line above a section starts with the first letter of its title. -/
theorem headingLine_eq_cons (c : Char) (first : List Char) (rest : List (List Char))
    (s : Section Row) : ∃ text, s.headingLine ((c :: first) :: rest) = c :: text :=
  ⟨_, rfl⟩

theorem headingLine_inj (htitle : ∀ word ∈ title, IsWord endsWord word) {s s' : Section Row}
    (h : s.headingLine title = s'.headingLine title) : s.count = s'.count ∧ s.shown = s'.shown := by
  obtain ⟨hwords, hshown⟩ := words_eq_of_row_eq (isWord_headingWords htitle s)
    (isWord_headingWords htitle s') (by simp [headingWords]) h
  have hcount := (List.cons.inj (List.append_cancel_left hwords)).1
  exact ⟨decimal_inj (List.append_cancel_right hcount), hshown⟩

/-- A section can be told from what follows it, which starts with another letter. -/
theorem lines_inj {c : Char} {first : List Char} {words : List (List Char)}
    (htitle : ∀ word ∈ (c :: first) :: words, IsWord endsWord word)
    {s s' : Option (Section Row)} (hshown : ∀ t ∈ s, t.shown = t.rows.length)
    (hshown' : ∀ t ∈ s', t.shown = t.rows.length)
    (hread : ∀ t ∈ s, ∀ t' ∈ s', ∀ r ∈ t.rows, ∀ r' ∈ t'.rows, line r = line r' → read r = read r')
    {rest rest' : List (List Char)} (hrest : ∀ text, rest.head? ≠ some (c :: text))
    (hrest' : ∀ text, rest'.head? ≠ some (c :: text))
    (heq : lines ((c :: first) :: words) columns line s ++ rest =
      lines ((c :: first) :: words) columns line s' ++ rest') :
    s.map (Section.map read) = s'.map (Section.map read) ∧ rest = rest' := by
  match s, s' with
  | none, none => exact ⟨rfl, heq⟩
  | none, some t' =>
      obtain ⟨text, htext⟩ := headingLine_eq_cons c first words t'
      have hhead := congrArg List.head? heq
      rw [lines, lines, List.nil_append, List.cons_append, List.head?_cons, htext] at hhead
      exact absurd hhead (hrest text)
  | some t, none =>
      obtain ⟨text, htext⟩ := headingLine_eq_cons c first words t
      have hhead := congrArg List.head? heq
      rw [lines, lines, List.nil_append, List.cons_append, List.head?_cons, htext] at hhead
      exact absurd hhead.symm (hrest' text)
  | some t, some t' =>
      rw [lines, lines, List.cons_append, List.cons_append, List.cons_append, List.cons_append]
        at heq
      obtain ⟨hheading, hrows⟩ := List.cons.inj heq
      obtain ⟨hcount, hshowns⟩ := headingLine_inj htitle hheading
      have hlength : (t.rows.map line).length = (t'.rows.map line).length := by
        rw [List.length_map, List.length_map, ← hshown t rfl, ← hshown' t' rfl, hshowns]
      obtain ⟨hlines, hrest⟩ := List.append_inj (List.cons.inj hrows).2 hlength
      have hreads := map_eq_map_of_forall (hread t rfl t' rfl) hlines
      refine ⟨?_, hrest⟩
      rw [Option.map_some, Option.map_some, map, map, hcount, hshowns, hreads]

/-- A section is written from what a reader learns of it. -/
theorem lines_eq_of_map_eq {s s' : Option (Section Row)}
    (hwrite : ∀ t ∈ s, ∀ t' ∈ s', ∀ r ∈ t.rows, ∀ r' ∈ t'.rows, read r = read r' → line r = line r')
    (heq : s.map (Section.map read) = s'.map (Section.map read)) :
    lines title columns line s = lines title columns line s' := by
  match s, s', heq with
  | none, none, _ => rfl
  | some t, some t', heq =>
      simp only [Option.map_some, map, Option.some.injEq, mk.injEq] at heq
      obtain ⟨hcount, hshown, hrows⟩ := heq
      have hlines := map_eq_map_of_forall (hwrite t rfl t' rfl) hrows
      rw [lines, lines, headingLine, headingLine, headingWords, headingWords, hcount, hshown,
        hlines]

theorem isControl_of_mem_lines (htitle : ∀ word ∈ title, IsWord endsWord word)
    (hcolumns : ∀ c ∈ columns, isControl c = false)
    (hline : ∀ r, ∀ c ∈ line r, isControl c = false) {s : Option (Section Row)}
    {l : List Char} (hl : l ∈ lines title columns line s) : ∀ c ∈ l, isControl c = false := by
  match s with
  | none => exact absurd hl List.not_mem_nil
  | some t =>
      rw [lines, List.mem_cons, List.mem_cons, List.mem_map] at hl
      rcases hl with rfl | rfl | ⟨r, -, rfl⟩
      · intro c hc
        exact isControl_of_mem_words (isWord_headingWords htitle t) hc
      · exact hcolumns
      · exact hline r

end Section

namespace Printout

theorem isWord_seenWords (p : Printout) : ∀ word ∈ p.seenWords, IsWord endsWord word := by
  have hliterals : ["Seen".toList, "devices".toList, "packets,".toList, "malformed,".toList,
      "evicted);".toList, "showing".toList, "strongest".toList].all isPlain = true := by
    decide +kernel
  have hparen : IsWord endsWord ('(' :: decimal p.windowReports) :=
    isWord_cons rfl (isWord_decimal p.windowReports).2
  intro word hword
  simp only [seenWords, List.mem_cons, List.not_mem_nil, or_false] at hword
  rcases hword with rfl | rfl | rfl | rfl | rfl | rfl | rfl | rfl | rfl | rfl | rfl
  · exact isWord_of_all hliterals _ (by simp)
  · exact isWord_decimal _
  · exact isWord_of_all hliterals _ (by simp)
  · exact hparen
  · exact isWord_of_all hliterals _ (by simp)
  · exact isWord_decimal _
  · exact isWord_of_all hliterals _ (by simp)
  · exact isWord_decimal _
  · exact isWord_of_all hliterals _ (by simp)
  · exact isWord_of_all hliterals _ (by simp)
  · exact isWord_of_all hliterals _ (by simp)

theorem isWord_beaconTitle : ∀ word ∈ beaconTitle, IsWord endsWord word :=
  isWord_of_all (by decide +kernel)

theorem isWord_lostTitle : ∀ word ∈ lostTitle, IsWord endsWord word :=
  isWord_of_all (by decide +kernel)

/-- The header tells its numbers. -/
theorem seenLine_inj {p q : Printout} (h : p.seenLine = q.seenLine) :
    p.count = q.count ∧ p.windowReports = q.windowReports ∧
      p.windowMalformedReports = q.windowMalformedReports ∧
      p.windowEvictions = q.windowEvictions ∧ p.shown = q.shown := by
  obtain ⟨hwords, hshown⟩ := words_eq_of_row_eq p.isWord_seenWords q.isWord_seenWords rfl h
  simp only [seenWords, List.cons.injEq, true_and, and_true] at hwords
  obtain ⟨hcount, hreports, hmalformed, hevictions⟩ := hwords
  exact ⟨decimal_inj hcount, decimal_inj hreports, decimal_inj hmalformed,
    decimal_inj hevictions, hshown⟩

variable {display : Address → List Char} (hd : WritesOctets display)
include hd

theorem isControl_of_mem_lines {p : Printout} {l : List Char} (hl : l ∈ p.lines display) :
    ∀ c ∈ l, isControl c = false := by
  have hcolumns : ∀ columns ∈ [deviceColumns, beaconColumns, lostColumns],
      ∀ c ∈ columns, isControl c = false := by
    have hchecked : [deviceColumns, beaconColumns, lostColumns].all
        (fun columns => columns.all fun c => !isControl c) = true := by decide +kernel
    intro columns hmem c hc
    have hcolumn := List.all_eq_true.mp (List.all_eq_true.mp hchecked columns hmem) c hc
    simpa using hcolumn
  rw [lines, List.mem_cons, List.mem_cons, List.mem_append, List.mem_append, List.mem_append] at hl
  rcases hl with rfl | rfl | hdevice | hbeacon | hlost | hempty
  · intro c hc
    exact isControl_of_mem_words p.isWord_seenWords hc
  · exact hcolumns _ (by simp)
  · obtain ⟨r, -, rfl⟩ := List.mem_map.mp hdevice
    intro c hc
    exact isControl_of_mem_line (r.cells_show hd) hc
  · exact Section.isControl_of_mem_lines isWord_beaconTitle (hcolumns _ (by simp))
      (fun r c hc => isControl_of_mem_line (r.cells_show hd) hc) hbeacon
  · exact Section.isControl_of_mem_lines isWord_lostTitle (hcolumns _ (by simp))
      (fun r c hc => isControl_of_mem_line (r.cells_show hd) hc) hlost
  · rw [List.mem_singleton.mp hempty]
    simp

theorem newline_notMem {p : Printout} : ∀ l ∈ p.lines display, '\n' ∉ l := by
  intro l hl hc
  exact absurd (isControl_of_mem_lines hd hl _ hc) (by decide)

theorem lines_inj {p q : Printout} (hp : p.WellFormed) (hq : q.WellFormed)
    (h : p.lines display = q.lines display) : p.ReadsAlike q := by
  obtain ⟨hseen, htail⟩ := List.cons.inj h
  obtain ⟨hcount, hreports, hmalformed, hevictions, hshown⟩ := seenLine_inj hseen
  have hlength : (p.devices.map (DeviceRow.line display)).length =
      (q.devices.map (DeviceRow.line display)).length := by
    rw [List.length_map, List.length_map, ← hp.shown, ← hq.shown, hshown]
  obtain ⟨hdevices, hsections⟩ := List.append_inj (List.cons.inj htail).2 hlength
  -- The first letters of the titles tell the sections from each other and from the end.
  have hafter : ∀ (s : Option (Section LostRow)) (text : List Char),
      (Section.lines lostTitle lostColumns (LostRow.line display) s ++ [[]]).head? ≠
        some ('D' :: text) := by
    intro s text
    cases s with
    | none => simp [Section.lines]
    | some t =>
        obtain ⟨rest, hrest⟩ := Section.headingLine_eq_cons 'L' "ost".toList
          ["since".toList, "previous".toList, "scan:".toList] t
        intro hhead
        have hline := (Option.some.inj hhead).symm.trans hrest
        exact absurd (List.cons.inj hline).1 (by decide)
  obtain ⟨hbeacons, hrest⟩ := Section.lines_inj isWord_beaconTitle hp.beaconsShown hq.beaconsShown
    (fun s hs s' hs' r hr r' hr' => (BeaconRow.line_eq_iff hd (hp.beacons s hs r hr)
      (hq.beacons s' hs' r' hr')).mp) (hafter p.lost) (hafter q.lost) hsections
  obtain ⟨hlost, -⟩ := Section.lines_inj isWord_lostTitle hp.lostShown hq.lostShown
    (fun s hs s' hs' r hr r' hr' => (LostRow.line_eq_iff hd (hp.lost s hs r hr)
      (hq.lost s' hs' r' hr')).mp) (by simp) (by simp) hrest
  exact
    { count := hcount
      windowReports := hreports
      windowMalformedReports := hmalformed
      windowEvictions := hevictions
      shown := hshown
      devices := map_eq_map_of_forall (fun r hr r' hr' => (DeviceRow.line_eq_iff hd
        (hp.devices r hr) (hq.devices r' hr')).mp) hdevices
      beacons := hbeacons
      lost := hlost }

theorem lines_eq_of_readsAlike {p q : Printout} (hp : p.WellFormed) (hq : q.WellFormed)
    (h : p.ReadsAlike q) : p.lines display = q.lines display := by
  have hseen : p.seenLine = q.seenLine := by
    rw [seenLine, seenLine, seenWords, seenWords, h.count, h.windowReports,
      h.windowMalformedReports, h.windowEvictions, h.shown]
  have hdevices := map_eq_map_of_forall (fun r hr r' hr' => (DeviceRow.line_eq_iff hd
    (hp.devices r hr) (hq.devices r' hr')).mpr) h.devices
  rw [lines, lines, hseen, hdevices,
    Section.lines_eq_of_map_eq (fun s hs s' hs' r hr r' hr' => (BeaconRow.line_eq_iff hd
      (hp.beacons s hs r hr) (hq.beacons s' hs' r' hr')).mpr) h.beacons,
    Section.lines_eq_of_map_eq (fun s hs s' hs' r hr r' hr' => (LostRow.line_eq_iff hd
      (hp.lost s hs r hr) (hq.lost s' hs' r' hr')).mpr) h.lost]

end Printout

theorem or_lt_sixtyFour {a b : UInt8} (ha : a < 64) (hb : b < 64) : a ||| b < 64 := by
  rw [UInt8.lt_iff_toNat_lt, UInt8.toNat_or]
  exact Nat.or_lt_two_pow (n := 6) ha hb

namespace AdvertisementMetadata

theorem eddystoneFormat_lt (data : List UInt8) : eddystoneFormat data < 64 := by
  unfold eddystoneFormat
  split <;> decide

/-- Every format that is recognised has a label. -/
theorem parseStructure_formats_lt {m : AdvertisementMetadata} (h : m.beacon.formats < 64)
    (s : AdStructure) : (m.parseStructure s).beacon.formats < 64 := by
  cases s with
  | completeLocalName name => exact h
  | shortenedLocalName name => exact h
  | other => exact h
  | serviceData16 uuid data =>
      rw [parseStructure_serviceData16]
      split
      · split
        · exact h
        · exact h
      · split
        · exact or_lt_sixtyFour h (eddystoneFormat_lt data)
        · exact h
  | manufacturerSpecificData companyIdentifier payload =>
      simp only [parseStructure, addFormats, setFeasycom]
      split <;> split <;> split <;>
        first
        | exact h
        | exact or_lt_sixtyFour h (by decide)
        | exact or_lt_sixtyFour (or_lt_sixtyFour h (by decide)) (by decide)

theorem parse_formats_lt (structures : List AdStructure) :
    (parse structures).beacon.formats < 64 := by
  induction structures using List.reverseRecOn with
  | nil => decide
  | append_singleton structures s ih =>
      rw [parse_concat]
      exact parseStructure_formats_lt ih s

end AdvertisementMetadata

namespace DeviceRegistry

/-- Every format that is known of a device has a label. -/
structure Labelled (r : DeviceRegistry) : Prop where
  entries : ∀ i e, r.entries.at? i = some e → e.beacon.formats < 64
  remembered : ∀ d ∈ r.previousRemembered.entries, d.beacon.formats < 64

theorem mem_heard_at? {r : DeviceRegistry} {sorter : Sorter Louder} {now : ℕ} {e : DeviceEntry}
    (h : e ∈ heard (sorter.sort (r.removeStale now).entries.slots)) :
    ∃ i, r.entries.at? i = some e :=
  SlotTable.mem_entries.mp (mem_seen.mp (mem_heard_sorted.mp h)).1

theorem step_labelled {r : DeviceRegistry} (hdistinct : r.Distinct) (h : r.Labelled) (e : Event) :
    (r.step e).Labelled := by
  cases e with
  | report a rssi structures now =>
      have hparsed := AdvertisementMetadata.parse_formats_lt structures
      constructor
      · intro i f hf
        rcases record_entry hdistinct hf with ⟨e, he, -, rfl⟩ | ⟨-, rfl⟩ | ⟨-, he⟩
        · exact or_lt_sixtyFour (h.entries i e he) hparsed
        · exact hparsed
        · exact h.entries i f he
      · rw [step, record_previousRemembered]
        exact h.remembered
  | malformedReport => exact ⟨h.entries, h.remembered⟩
  | snapshot now sorter =>
      constructor
      · intro i f hf
        obtain ⟨e, he, -, rfl⟩ := printSnapshot_entry hf
        exact h.entries i e he
      · intro d hd
        rw [step, printSnapshot, SlotTable.entries_ofList] at hd
        obtain ⟨e, he, rfl⟩ := List.mem_map.mp (List.mem_of_mem_take hd)
        obtain ⟨i, hi⟩ := mem_heard_at? he
        exact h.entries i e hi

/-- In every run, every format that is known of a device has a label. -/
theorem after_labelled (events : List Event) : (after events).Labelled := by
  induction events using List.reverseRecOn with
  | nil =>
      constructor
      · intro i e he
        simp [new] at he
      · intro d hd
        exact absurd hd List.not_mem_nil
  | append_singleton past e ih =>
      rw [after_concat]
      exact step_labelled (after_distinct past) ih e

end DeviceRegistry

/-- The rows of a section that is printed are counted right. -/
theorem mem_section {α Row : Type} {items : List α} {limit : ℕ} {row : α → Row} {s : Section Row}
    (h : s ∈ if items.length > 0 then
        some ⟨items.length, min items.length limit, (items.take limit).map row⟩
      else none) : s.shown = s.rows.length ∧ ∀ r ∈ s.rows, ∃ item ∈ items, r = row item := by
  split at h
  · rw [← Option.some.inj h]
    refine ⟨by simp [Nat.min_comm], ?_⟩
    intro r hr
    obtain ⟨item, hitem, rfl⟩ := List.mem_map.mp hr
    exact ⟨item, List.mem_of_mem_take hitem, rfl⟩
  · exact absurd h (Option.not_mem_none s)

namespace DeviceRegistry

theorem Labelled.printSnapshot_wellFormed {r : DeviceRegistry} (h : r.Labelled)
    (sorter : Sorter Louder) (now : ℕ) : (r.printSnapshot sorter now).2.WellFormed := by
  have hheard : ∀ e ∈ heard (sorter.sort (r.removeStale now).entries.slots),
      e.beacon.formats < 64 := by
    intro e he
    obtain ⟨i, hi⟩ := mem_heard_at? he
    exact h.entries i e hi
  constructor
  · have hlength := (heard_perm sorter (r.removeStale now).entries.slots).length_eq
    simp only [printSnapshot, printout, List.length_map, List.length_take, hlength]
    exact Nat.min_comm _ _
  · intro row hrow
    obtain ⟨e, he, rfl⟩ := List.mem_map.mp hrow
    exact hheard e (List.mem_of_mem_take he)
  · intro s hs
    exact (mem_section hs).1
  · intro s hs row hrow
    obtain ⟨e, he, rfl⟩ := (mem_section hs).2 row hrow
    exact hheard e (List.mem_of_mem_filter he)
  · intro s hs
    exact (mem_section hs).1
  · intro s hs row hrow
    obtain ⟨d, hd, rfl⟩ := (mem_section hs).2 row hrow
    exact h.remembered d (List.mem_of_mem_filter hd)

end DeviceRegistry

open DeviceRegistry

/-- The text that the scanner prints at the end of a run. -/
def outputAfter (display : Address → List Char) (events : List Event) (sorter : Sorter Louder)
    (nowMs : ℕ) : List Char :=
  ((after events).printSnapshot sorter nowMs).2.text display

/-- Whatever was advertised, the text comes apart at its newlines into the lines that
were written, and none of them has a control character. -/
theorem output_lines_intact {display : Address → List Char} (hd : WritesOctets display)
    (events : List Event) (sorter : Sorter Louder) (nowMs : ℕ) :
    (outputAfter display events sorter nowMs).splitOn '\n' =
        ((after events).printSnapshot sorter nowMs).2.lines display ++ [[]] ∧
      ∀ line ∈ (outputAfter display events sorter nowMs).splitOn '\n',
        ∀ c ∈ line, isControl c = false := by
  have hsplit : (outputAfter display events sorter nowMs).splitOn '\n' =
      ((after events).printSnapshot sorter nowMs).2.lines display ++ [[]] :=
    splitOn_unlines (Printout.newline_notMem hd)
  refine ⟨hsplit, ?_⟩
  intro line hline
  rw [hsplit, List.mem_append, List.mem_singleton] at hline
  rcases hline with hwritten | rfl
  · exact Printout.isControl_of_mem_lines hd hwritten
  · simp

/-- Two snapshots, of the same run or of different ones, print the same text if and
only if their tables read alike. -/
theorem output_eq_iff_readsAlike {display : Address → List Char} (hd : WritesOctets display)
    (events events' : List Event) (sorter sorter' : Sorter Louder) (nowMs nowMs' : ℕ) :
    outputAfter display events sorter nowMs = outputAfter display events' sorter' nowMs' ↔
      ((after events).printSnapshot sorter nowMs).2.ReadsAlike
        ((after events').printSnapshot sorter' nowMs').2 := by
  have hp := (after_labelled events).printSnapshot_wellFormed sorter nowMs
  have hq := (after_labelled events').printSnapshot_wellFormed sorter' nowMs'
  constructor
  · intro h
    exact Printout.lines_inj hd hp hq
      (unlines_inj (Printout.newline_notMem hd) (Printout.newline_notMem hd) h)
  · intro h
    rw [outputAfter, outputAfter, Printout.text, Printout.text,
      Printout.lines_eq_of_readsAlike hd hp hq h]

/-- An octet in hexadecimal, in capital letters. -/
def hexOctet (octet : UInt8) : List Char :=
  ["0123456789ABCDEF".toList.getD (octet.toNat / 16) '0',
    "0123456789ABCDEF".toList.getD (octet.toNat % 16) '0']

/-- The octets from the most significant one down, with colons between them. -/
def colonOctets (a : Address) : List Char :=
  [':'].intercalate (a.addr.toList.reverse.map hexOctet)

theorem hexOctet_spec (octet : UInt8) : ':' ∉ hexOctet octet ∧
    ∀ c ∈ hexOctet octet, endsWord c = false := by
  have hdigits : ∀ d < 16, "0123456789ABCDEF".toList.getD d '0' ≠ ':' ∧
      endsWord ("0123456789ABCDEF".toList.getD d '0') = false := by decide +kernel
  have hlt := octet.toNat_lt
  have hhigh := hdigits (octet.toNat / 16) (by omega)
  have hlow := hdigits (octet.toNat % 16) (by omega)
  constructor
  · simp only [hexOctet, List.mem_cons, List.not_mem_nil, or_false, not_or]
    exact ⟨hhigh.1.symm, hlow.1.symm⟩
  · intro c hc
    simp only [hexOctet, List.mem_cons, List.not_mem_nil, or_false] at hc
    rcases hc with rfl | rfl
    · exact hhigh.2
    · exact hlow.2

theorem hexOctet_injective : Function.Injective hexOctet := by
  have hdigits : ∀ d < 16, ∀ e < 16, "0123456789ABCDEF".toList.getD d '0' =
      "0123456789ABCDEF".toList.getD e '0' → d = e := by decide +kernel
  intro octet octet' h
  simp only [hexOctet, List.cons.injEq, and_true] at h
  have hlt := octet.toNat_lt
  have hlt' := octet'.toNat_lt
  have hhigh := hdigits _ (by omega) _ (by omega) h.1
  have hlow := hdigits _ (by omega) _ (by omega) h.2
  exact UInt8.toNat_inj.mp (by omega)

theorem colonOctets_writesOctets : WritesOctets colonOctets := by
  have hne : ∀ a : Address, a.addr.toList.reverse.map hexOctet ≠ [] := by
    intro a hnil
    have hlength := congrArg List.length hnil
    simp at hlength
  constructor
  · intro a
    constructor
    · intro hnil
      have hsplit := congrArg (List.splitOn ':') hnil
      rw [colonOctets, List.splitOn_intercalate ':' _ (hne a)] at hsplit
      · have hlength := congrArg List.length hsplit
        simp at hlength
      · intro piece hpiece
        obtain ⟨octet, -, rfl⟩ := List.mem_map.mp hpiece
        exact (hexOctet_spec octet).1
    · intro c hc
      rcases mem_intercalate hc with hcolon | ⟨piece, hpiece, hmem⟩
      · rw [List.mem_singleton.mp hcolon]
        rfl
      · obtain ⟨octet, -, rfl⟩ := List.mem_map.mp hpiece
        exact (hexOctet_spec octet).2 c hmem
  · intro a b
    constructor
    · intro h
      have hpieces : ∀ c : Address, ∀ piece ∈ c.addr.toList.reverse.map hexOctet, ':' ∉ piece := by
        intro c piece hpiece
        obtain ⟨octet, -, rfl⟩ := List.mem_map.mp hpiece
        exact (hexOctet_spec octet).1
      have hsplit := congrArg (List.splitOn ':') h
      rw [colonOctets, colonOctets, List.splitOn_intercalate ':' (hpieces a) (hne a),
        List.splitOn_intercalate ':' (hpieces b) (hne b)] at hsplit
      have hreversed := List.map_injective_iff.mpr hexOctet_injective hsplit
      exact Vector.toList_inj.mp (List.reverse_injective hreversed)
    · intro h
      rw [colonOctets, colonOctets, h]

/-- The same report, in two runs at different times. -/
def reportAt (nowMs : ℕ) : List Event := [.report sampleAddress (-40) [] nowMs]

theorem reportAt_readAlike :
    outputAfter colonOctets (reportAt 100) (.insertion Louder) 5000 =
      outputAfter colonOctets (reportAt 300) (.insertion Louder) 5200 := by
  refine (output_eq_iff_readsAlike colonOctets_writesOctets (reportAt 100) (reportAt 300)
    (.insertion Louder) (.insertion Louder) 5000 5200).mpr ?_
  constructor
  · decide +kernel
  · decide +kernel
  · decide +kernel
  · decide +kernel
  · decide +kernel
  · decide +kernel
  · rfl
  · rfl

theorem reportAt_lines_intact :
    ((outputAfter colonOctets (reportAt 100) (.insertion Louder) 5000).splitOn '\n').length = 5
    := by
  rw [(output_lines_intact colonOctets_writesOctets (reportAt 100) (.insertion Louder) 5000).1]
  decide +kernel

end EmbeddedSdk.Scanner
