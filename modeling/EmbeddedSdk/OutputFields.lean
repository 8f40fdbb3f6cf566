import EmbeddedSdk.DisplayName
import EmbeddedSdk.ScannerSnapshot
import EmbeddedSdk.TextColumns

/-!
# The fields of the scanner's lines

A line of a table is a row of short fields with an advertised name at its end. Each
field is a word for every value that it can show, and except for the name no two
values share a word. The beacon label is written piece by piece and says which
formats were recognised.
-/
namespace EmbeddedSdk.Scanner
open SeparatedText TextColumns

/-- A character that ends a word of the output. -/
def endsWord (c : Char) : Bool := c == ' ' || isControl c

theorem endsWord_blank : endsWord ' ' = true := rfl

theorem isControl_of_endsWord {c : Char} (h : endsWord c = false) : isControl c = false :=
  (Bool.or_eq_false_iff.mp h).2

theorem endsWord_digitChar {d : ℕ} (h : d < 16) : endsWord d.digitChar = false := by
  interval_cases d <;> rfl

theorem isWord_decimal (n : ℕ) : IsWord endsWord (decimal n) := by
  refine ⟨decimal_ne_nil n, ?_⟩
  intro c hc
  obtain ⟨d, hd, rfl⟩ := mem_decimal hc
  exact endsWord_digitChar (by omega)

theorem isWord_cons {c : Char} (hc : endsWord c = false) {text : List Char}
    (h : ∀ d ∈ text, endsWord d = false) : IsWord endsWord (c :: text) := by
  refine ⟨List.cons_ne_nil c text, ?_⟩
  intro d hd
  rcases List.mem_cons.mp hd with rfl | hmem
  · exact hc
  · exact h d hmem

/-- The check that a fixed text is a word. -/
def isPlain (text : List Char) : Bool := !text.isEmpty && text.all fun c => !endsWord c

theorem isWord_of_isPlain {text : List Char} (h : isPlain text = true) :
    IsWord endsWord text := by
  simp only [isPlain, Bool.and_eq_true, Bool.not_eq_true', List.all_eq_true] at h
  exact ⟨by simpa using h.1, h.2⟩

theorem isWord_of_all {words : List (List Char)} (h : words.all isPlain = true) :
    ∀ word ∈ words, IsWord endsWord word :=
  fun word hword => isWord_of_isPlain (List.all_eq_true.mp h word hword)

theorem isWord_signed (n : ℤ) : IsWord endsWord (signed n) := by
  unfold signed
  split
  · exact isWord_cons rfl (isWord_decimal n.natAbs).2
  · exact isWord_decimal n.natAbs

theorem isWord_signedPlus (n : ℤ) : IsWord endsWord (signedPlus n) := by
  unfold signedPlus
  split
  · exact isWord_cons rfl (isWord_decimal n.natAbs).2
  · exact isWord_cons rfl (isWord_decimal n.natAbs).2

namespace RssiDelta

def fmt : Option ℤ → List Char
  | some delta => (signedPlus delta).leftpad 5 ' '
  | none => "    -".toList

def word : Option ℤ → List Char
  | some delta => signedPlus delta
  | none => ['-']

theorem fmt_shows (delta : Option ℤ) : Shows endsWord ' ' (word delta) (fmt delta) := by
  cases delta with
  | none => exact ⟨isWord_cons rfl (by simp), 4, 0, rfl⟩
  | some delta => exact shows_leftpad (isWord_signedPlus delta) 5

theorem signedPlus_ne_dash (delta : ℤ) : signedPlus delta ≠ ['-'] := by
  intro h
  exact decimal_ne_nil _ (List.cons.inj h).2

theorem word_inj {delta delta' : Option ℤ} (h : word delta = word delta') : delta = delta' := by
  match delta, delta', h with
  | none, none, _ => rfl
  | none, some delta', h => exact absurd h.symm (signedPlus_ne_dash delta')
  | some delta, none, h => exact absurd h (signedPlus_ne_dash delta)
  | some delta, some delta', h => rw [signedPlus_inj h]

end RssiDelta

/-- The kinds of address that have a name of their own. -/
def addrKindPublic : UInt8 := 0
def addrKindRandom : UInt8 := 1

namespace AddressKind

def fmt (kind : UInt8) : List Char :=
  if kind = addrKindPublic then "pub".toList
  else if kind = addrKindRandom then "rnd".toList
  else (decimal kind.toNat).rightpad 3 ' '

def word (kind : UInt8) : List Char :=
  if kind = addrKindPublic then "pub".toList
  else if kind = addrKindRandom then "rnd".toList
  else decimal kind.toNat

theorem fmt_shows (kind : UInt8) : Shows endsWord ' ' (word kind) (fmt kind) := by
  unfold word fmt
  split
  · exact shows_self (isWord_of_isPlain rfl)
  · split
    · exact shows_self (isWord_of_isPlain rfl)
    · exact shows_rightpad (isWord_decimal _) 3

theorem word_cases (kind : UInt8) :
    kind = addrKindPublic ∧ word kind = "pub".toList ∨
      kind = addrKindRandom ∧ word kind = "rnd".toList ∨ word kind = decimal kind.toNat := by
  unfold word
  split
  · exact .inl ⟨‹_›, rfl⟩
  · split
    · exact .inr (.inl ⟨‹_›, rfl⟩)
    · exact .inr (.inr rfl)

/-- The names of kinds are not numbers. -/
theorem name_ne_decimal (n : ℕ) : "pub".toList ≠ decimal n ∧ "rnd".toList ≠ decimal n :=
  ⟨fun h => decimal_ne_cons (by decide) _ h.symm, fun h => decimal_ne_cons (by decide) _ h.symm⟩

theorem word_inj {kind kind' : UInt8} (h : word kind = word kind') : kind = kind' := by
  rcases word_cases kind with ⟨hk, hw⟩ | ⟨hk, hw⟩ | hw <;>
    rcases word_cases kind' with ⟨hk', hw'⟩ | ⟨hk', hw'⟩ | hw' <;>
    rw [hw, hw'] at h
  · rw [hk, hk']
  · exact absurd h (by decide)
  · exact absurd h (name_ne_decimal _).1
  · exact absurd h (by decide)
  · rw [hk, hk']
  · exact absurd h (name_ne_decimal _).2
  · exact absurd h.symm (name_ne_decimal _).1
  · exact absurd h.symm (name_ne_decimal _).2
  · exact UInt8.toNat_inj.mp (decimal_inj h)

end AddressKind

namespace Manufacturer

def fmt : Option UInt16 → List Char
  | some identifier => "0x".toList ++ hexadecimal 4 identifier.toNat
  | none => "-     ".toList

def word : Option UInt16 → List Char
  | some identifier => "0x".toList ++ hexadecimal 4 identifier.toNat
  | none => ['-']

theorem fmt_shows (manufacturer : Option UInt16) :
    Shows endsWord ' ' (word manufacturer) (fmt manufacturer) := by
  cases manufacturer with
  | none => exact ⟨isWord_cons rfl (by simp), 0, 5, rfl⟩
  | some identifier =>
      refine shows_self (isWord_cons rfl ?_)
      intro c hc
      rcases List.mem_cons.mp hc with rfl | hdigit
      · rfl
      · obtain ⟨d, hd, rfl⟩ := mem_hexadecimal hdigit
        exact endsWord_digitChar hd

theorem word_inj {manufacturer manufacturer' : Option UInt16}
    (h : word manufacturer = word manufacturer') : manufacturer = manufacturer' := by
  match manufacturer, manufacturer', h with
  | none, none, _ => rfl
  | none, some _, h => exact absurd (List.cons.inj h).1 (by decide)
  | some _, none, h => exact absurd (List.cons.inj h).1 (by decide)
  | some identifier, some identifier', h =>
      have hnumber := hexadecimal_inj (List.append_cancel_left h)
      rw [UInt16.toNat_inj.mp hnumber]

end Manufacturer

namespace BeaconLabel

def feasy : List Char := "Feasy".toList

/-- The flags in the order of the loop of `fmt`, with their labels. -/
def labels : List (UInt8 × List Char) :=
  [(beaconFormatIbeacon, "iBeacon".toList), (beaconFormatEddystoneUid, "E-UID".toList),
    (beaconFormatEddystoneUrl, "E-URL".toList), (beaconFormatEddystoneTlm, "E-TLM".toList),
    (beaconFormatEddystoneEid, "E-EID".toList), (beaconFormatAltbeacon, "AltBeacon".toList)]

/-- The body of the loop: a flag that is set adds its label, behind a slash unless it
is the first. -/
def writeLabel (formats : UInt8) (out : List Char × Bool) (entry : UInt8 × List Char) :
    List Char × Bool :=
  if formats &&& entry.1 ≠ 0 then
    ((if out.2 then out.1 ++ ['/'] else out.1) ++ entry.2, true)
  else out

def fmt (beacon : BeaconMetadata) : List Char :=
  let start := if beacon.feasycom then (feasy, true) else ([], false)
  let out := labels.foldl (writeLabel beacon.formats) start
  if out.2 then out.1 else out.1 ++ ['-']

/-- The labels that are written. -/
def shownLabels (beacon : BeaconMetadata) : List (List Char) :=
  (if beacon.feasycom then [feasy] else []) ++
    (labels.filter fun entry => beacon.formats &&& entry.1 ≠ 0).map Prod.snd

/-- The state of the loop after the given labels. -/
def written (pieces : List (List Char)) : List Char × Bool :=
  (['/'].intercalate pieces, !pieces.isEmpty)

theorem written_concat (pieces : List (List Char)) (piece : List Char) :
    written (pieces ++ [piece]) =
      ((if (written pieces).2 then (written pieces).1 ++ ['/'] else (written pieces).1) ++ piece,
        true) := by
  induction pieces with
  | nil => simp [written]
  | cons first pieces ih =>
      have hne : pieces ++ [piece] ≠ [] := by simp
      have htail := congrArg Prod.fst ih
      simp only [written] at htail ⊢
      rw [List.cons_append, List.intercalate_cons_of_ne_nil hne, htail]
      cases pieces with
      | nil => simp
      | cons next rest => simp [List.intercalate_cons_cons]

theorem foldl_writeLabel (formats : UInt8) (entries : List (UInt8 × List Char))
    (pieces : List (List Char)) :
    entries.foldl (writeLabel formats) (written pieces) =
      written (pieces ++
        (entries.filter fun entry => formats &&& entry.1 ≠ 0).map Prod.snd) := by
  induction entries generalizing pieces with
  | nil => simp
  | cons entry entries ih =>
      rw [List.foldl_cons, writeLabel]
      by_cases hflag : formats &&& entry.1 ≠ 0
      · rw [if_pos hflag, ← written_concat, ih, List.filter_cons_of_pos (by simpa using hflag)]
        simp
      · rw [if_neg hflag, ih, List.filter_cons_of_neg (by simpa using hflag)]

/-- The label is the written labels with slashes between them, or a dash. -/
theorem fmt_eq (beacon : BeaconMetadata) :
    fmt beacon = if shownLabels beacon = [] then ['-'] else ['/'].intercalate (shownLabels beacon)
    := by
  have hstart : (if beacon.feasycom then (feasy, true) else ([], false)) =
      written (if beacon.feasycom then [feasy] else []) := by
    split
    · rfl
    · rfl
  simp only [fmt, hstart, foldl_writeLabel]
  rw [← shownLabels, written]
  by_cases h : shownLabels beacon = []
  · rw [h]
    rfl
  · rw [if_neg h, if_pos (by simpa using h)]

theorem mem_shownLabels {beacon : BeaconMetadata} {piece : List Char}
    (h : piece ∈ shownLabels beacon) : piece ∈ feasy :: labels.map Prod.snd := by
  rw [shownLabels, List.mem_append] at h
  rcases h with hfeasy | hlabel
  · split at hfeasy
    · rw [List.mem_singleton.mp hfeasy]
      exact List.mem_cons_self
    · exact absurd hfeasy List.not_mem_nil
  · obtain ⟨entry, hentry, rfl⟩ := List.mem_map.mp hlabel
    exact List.mem_cons_of_mem _ (List.mem_map_of_mem (List.mem_of_mem_filter hentry))

/-- The labels are words without slashes, and none is a dash. -/
theorem label_spec {piece : List Char} (h : piece ∈ feasy :: labels.map Prod.snd) :
    IsWord endsWord piece ∧ '/' ∉ piece ∧ piece ≠ ['-'] := by
  have hwords : (feasy :: labels.map Prod.snd).all isPlain = true := by decide +kernel
  have hslash : ∀ label ∈ feasy :: labels.map Prod.snd, '/' ∉ label := by decide +kernel
  have hdash : ∀ label ∈ feasy :: labels.map Prod.snd, label ≠ ['-'] := by decide +kernel
  exact ⟨isWord_of_all hwords piece h, hslash piece h, hdash piece h⟩

theorem isWord_fmt (beacon : BeaconMetadata) : IsWord endsWord (fmt beacon) := by
  rw [fmt_eq]
  split
  · exact isWord_cons rfl (by simp)
  · next hne =>
    have hpieces : ∀ piece ∈ shownLabels beacon, ∀ c ∈ piece, endsWord c = false :=
      fun piece hpiece => (label_spec (mem_shownLabels hpiece)).1.2
    obtain ⟨first, rest, hshown⟩ := List.exists_cons_of_ne_nil hne
    have hmem : first ∈ shownLabels beacon := by
      rw [hshown]
      exact List.mem_cons_self
    have hfirst := (label_spec (mem_shownLabels hmem)).1.1
    constructor
    · intro hnil
      rw [hshown] at hnil
      cases rest with
      | nil => exact hfirst (by simpa using hnil)
      | cons next rest => simp [List.intercalate_cons_cons] at hnil
    · intro c hc
      rcases mem_intercalate hc with hslash | ⟨piece, hpiece, hmem⟩
      · rw [List.mem_singleton.mp hslash]
        rfl
      · exact hpieces piece hpiece c hmem

/-- The pieces between the slashes of a label. -/
theorem splitOn_fmt (beacon : BeaconMetadata) :
    (fmt beacon).splitOn '/' = if shownLabels beacon = [] then [['-']] else shownLabels beacon := by
  rw [fmt_eq]
  split
  · rfl
  · next hne =>
    refine List.splitOn_intercalate '/' ?_ hne
    intro piece hpiece
    exact (label_spec (mem_shownLabels hpiece)).2.1

theorem shownLabels_eq_of_fmt_eq {beacon beacon' : BeaconMetadata} (h : fmt beacon = fmt beacon') :
    shownLabels beacon = shownLabels beacon' := by
  have hdash : ∀ b, shownLabels b ≠ [['-']] := by
    intro b hb
    have hmem : ['-'] ∈ shownLabels b := by
      rw [hb]
      exact List.mem_cons_self
    exact (label_spec (mem_shownLabels hmem)).2.2 rfl
  have hsplit := congrArg (List.splitOn '/') h
  rw [splitOn_fmt, splitOn_fmt] at hsplit
  split at hsplit <;> split at hsplit
  · next hnil hnil' => rw [hnil, hnil']
  · exact absurd hsplit.symm (hdash beacon')
  · exact absurd hsplit (hdash beacon)
  · exact hsplit

theorem feasy_mem_iff (beacon : BeaconMetadata) :
    feasy ∈ shownLabels beacon ↔ beacon.feasycom = true := by
  have hother : feasy ∉ labels.map Prod.snd := by decide +kernel
  have hfiltered : feasy ∉
      (labels.filter fun entry => beacon.formats &&& entry.1 ≠ 0).map Prod.snd :=
    fun h => hother (List.map_subset _ (List.filter_subset_self _) h)
  rw [shownLabels, List.mem_append, or_iff_left hfiltered]
  by_cases h : beacon.feasycom = true
  · simp [h]
  · simp [h]

theorem label_mem_iff (beacon : BeaconMetadata) {entry : UInt8 × List Char}
    (hentry : entry ∈ labels) :
    entry.2 ∈ shownLabels beacon ↔ beacon.formats &&& entry.1 ≠ 0 := by
  have hunique : ∀ e ∈ labels, ∀ f ∈ labels, e.2 = f.2 → e = f := by decide +kernel
  have hfeasy : ∀ e ∈ labels, e.2 ≠ feasy := by decide +kernel
  rw [shownLabels, List.mem_append, List.mem_map]
  constructor
  · rintro (hhead | ⟨e, he, hlabel⟩)
    · split at hhead
      · exact absurd (List.mem_singleton.mp hhead) (hfeasy entry hentry)
      · exact absurd hhead List.not_mem_nil
    · obtain ⟨hmem, hflag⟩ := List.mem_filter.mp he
      rw [← hunique e hmem entry hentry hlabel]
      simpa using hflag
  · intro hflag
    exact .inr ⟨entry, List.mem_filter.mpr ⟨hentry, by simpa using hflag⟩, rfl⟩

/-- The flags that are set, put together again. -/
def recognised (formats : UInt8) : UInt8 :=
  labels.foldl (fun known entry => if formats &&& entry.1 ≠ 0 then known ||| entry.1 else known) 0

theorem recognised_eq {formats : UInt8} (h : formats < 64) : recognised formats = formats := by
  have hall : ∀ n < 64, recognised (.ofNat n) = .ofNat n := by decide +kernel
  have hformats := hall formats.toNat h
  rwa [UInt8.ofNat_toNat] at hformats

/-- Equal labels stand for the same formats. -/
theorem fmt_inj {beacon beacon' : BeaconMetadata} (hformats : beacon.formats < 64)
    (hformats' : beacon'.formats < 64) (h : fmt beacon = fmt beacon') : beacon = beacon' := by
  have hshown := shownLabels_eq_of_fmt_eq h
  have hfeasycom : beacon.feasycom = beacon'.feasycom := by
    rw [Bool.eq_iff_iff, ← feasy_mem_iff, ← feasy_mem_iff, hshown]
  have hflags : ∀ entry ∈ labels,
      (beacon.formats &&& entry.1 ≠ 0 ↔ beacon'.formats &&& entry.1 ≠ 0) := by
    intro entry hentry
    rw [← label_mem_iff beacon hentry, ← label_mem_iff beacon' hentry, hshown]
  have hrecognised : recognised beacon.formats = recognised beacon'.formats := by
    refine List.foldl_ext _ _ _ ?_
    intro known entry hentry
    simp only [hflags entry hentry]
  rw [recognised_eq hformats, recognised_eq hformats'] at hrecognised
  cases beacon
  cases beacon'
  simp_all

end BeaconLabel

theorem DisplayName.isControl_of_mem_fmt {name : Option LocalName} {c : Char} (h : c ∈ fmt name) :
    isControl c = false := by
  cases name with
  | none =>
      rw [fmt, List.mem_singleton] at h
      rw [h]
      rfl
  | some name =>
      rw [fmt, List.mem_cons, List.mem_append, List.mem_singleton] at h
      rcases h with rfl | hbody | rfl
      · rfl
      · obtain ⟨character, -, hcharacter⟩ := List.mem_flatMap.mp hbody
        exact isControl_of_mem_writeCharacter hcharacter
      · rfl

theorem DisplayName.fmt_startsVisibly (name : Option LocalName) :
    StartsVisibly endsWord (fmt name) := by
  cases name with
  | none =>
      intro c hc
      rw [← Option.some.inj hc]
      rfl
  | some name =>
      intro c hc
      rw [← Option.some.inj hc]
      rfl

/-- A name as a reader of the output sees it. -/
def shownName (name : Option LocalName) : Option (List Char) :=
  name.map fun name => name.asStr.toList.map DisplayName.shown

/-- Names are printed alike if and only if they show the same characters. -/
theorem DisplayName.fmt_eq_iff {name name' : Option LocalName} :
    fmt name = fmt name' ↔ shownName name = shownName name' := by
  match name, name' with
  | none, none => simp [shownName]
  | none, some name' => simp [fmt, shownName]
  | some name, none => simp [fmt, shownName]
  | some name, some name' =>
      simp only [fmt, shownName, Option.map_some, Option.some.injEq, List.cons.injEq, true_and,
        List.append_cancel_right_eq]
      constructor
      · intro h
        rw [← unescape_body, ← unescape_body, h]
      · intro h
        rw [body_eq, body_eq, h]

/-- What the host stack's `Display` of an address does: it writes the six octets as
one word and leaves the kind out. -/
structure WritesOctets (display : Address → List Char) : Prop where
  isWord : ∀ a, IsWord endsWord (display a)
  eq_iff : ∀ a b, display a = display b ↔ a.addr = b.addr

section Rows

variable (display : Address → List Char)

deriving instance DecidableEq for DeviceRow

namespace DeviceRow

/-- The fields in front of the name. The format string has two blanks behind the kind
of address. -/
def cells (r : DeviceRow) : List (List Char) :=
  [(signed r.average).rightpad 5 ' ', RssiDelta.fmt r.delta,
    (signed r.windowPeakRssi.toInt).rightpad 4 ' ', (decimal r.ageMs).rightpad 5 ' ',
    (decimal r.windowReports).rightpad 4 ' ', AddressKind.fmt r.address.kind ++ [' '],
    display r.address, Manufacturer.fmt r.manufacturer, BeaconLabel.fmt r.beacon]

def line (r : DeviceRow) : List Char := row ' ' (r.cells display) (DisplayName.fmt r.name)

def words (r : DeviceRow) : List (List Char) :=
  [signed r.average, RssiDelta.word r.delta, signed r.windowPeakRssi.toInt, decimal r.ageMs,
    decimal r.windowReports, AddressKind.word r.address.kind, display r.address,
    Manufacturer.word r.manufacturer, BeaconLabel.fmt r.beacon]

/-- What a reader of the line learns: all of the row, and of the name what it shows. -/
def asRead (r : DeviceRow) : DeviceRow × Option (List Char) :=
  ({ r with name := none }, shownName r.name)

end DeviceRow

namespace BeaconRow

def cells (r : BeaconRow) : List (List Char) :=
  [(signed r.average).rightpad 5 ' ', RssiDelta.fmt r.delta, display r.address,
    Manufacturer.fmt r.manufacturer, BeaconLabel.fmt r.beacon]

def line (r : BeaconRow) : List Char := row ' ' (r.cells display) (DisplayName.fmt r.name)

def words (r : BeaconRow) : List (List Char) :=
  [signed r.average, RssiDelta.word r.delta, display r.address,
    Manufacturer.word r.manufacturer, BeaconLabel.fmt r.beacon]

/-- What a reader of the line learns: not the kind of the address. -/
def asRead (r : BeaconRow) : BeaconRow × Option (List Char) :=
  ({ r with address := ⟨addrKindPublic, r.address.addr⟩, name := none }, shownName r.name)

end BeaconRow

namespace LostRow

def cells (r : LostRow) : List (List Char) :=
  [(signed r.averageRssi).rightpad 5 ' ', (decimal r.ageMs).rightpad 5 ' ',
    AddressKind.fmt r.address.kind ++ [' '], display r.address,
    Manufacturer.fmt r.manufacturer, BeaconLabel.fmt r.beacon]

def line (r : LostRow) : List Char := row ' ' (r.cells display) (DisplayName.fmt r.name)

def words (r : LostRow) : List (List Char) :=
  [signed r.averageRssi, decimal r.ageMs, AddressKind.word r.address.kind, display r.address,
    Manufacturer.word r.manufacturer, BeaconLabel.fmt r.beacon]

def asRead (r : LostRow) : LostRow × Option (List Char) :=
  ({ r with name := none }, shownName r.name)

end LostRow

/-- Lines that read the same show the same words and the same name. -/
theorem words_eq_of_line_eq {words words' cells cells' : List (List Char)}
    {name name' : Option LocalName} (h : List.Forall₂ (Shows endsWord ' ') words cells)
    (h' : List.Forall₂ (Shows endsWord ' ') words' cells')
    (hlength : words.length = words'.length)
    (heq : row ' ' cells (DisplayName.fmt name) = row ' ' cells' (DisplayName.fmt name')) :
    words = words' ∧ shownName name = shownName name' := by
  obtain ⟨hwords, hname⟩ := row_inj endsWord_blank h h' hlength
    (DisplayName.fmt_startsVisibly name) (DisplayName.fmt_startsVisibly name') heq
  exact ⟨hwords, DisplayName.fmt_eq_iff.mp hname⟩

/-- A line has no control characters. -/
theorem isControl_of_mem_line {words cells : List (List Char)} {name : Option LocalName}
    (h : List.Forall₂ (Shows endsWord ' ') words cells) {c : Char}
    (hc : c ∈ row ' ' cells (DisplayName.fmt name)) : isControl c = false := by
  rcases mem_row h hc with rfl | hword | hname
  · rfl
  · exact isControl_of_endsWord hword
  · exact DisplayName.isControl_of_mem_fmt hname

variable {display} (hd : WritesOctets display)
include hd

theorem WritesOctets.address_eq {a b : Address} (hkind : AddressKind.word a.kind =
    AddressKind.word b.kind) (haddr : display a = display b) : a = b := by
  have hkinds := AddressKind.word_inj hkind
  have hoctets := (hd.eq_iff a b).mp haddr
  cases a
  cases b
  simp_all

namespace DeviceRow

theorem cells_show (r : DeviceRow) :
    List.Forall₂ (Shows endsWord ' ') (r.words display) (r.cells display) :=
  .cons (shows_rightpad (isWord_signed _) 5) <| .cons (RssiDelta.fmt_shows _) <|
    .cons (shows_rightpad (isWord_signed _) 4) <| .cons (shows_rightpad (isWord_decimal _) 5) <|
    .cons (shows_rightpad (isWord_decimal _) 4) <| .cons (AddressKind.fmt_shows _).concat <|
    .cons (shows_self (hd.isWord _)) <| .cons (Manufacturer.fmt_shows _) <|
    .cons (shows_self (BeaconLabel.isWord_fmt _)) .nil

theorem line_eq_iff {r r' : DeviceRow} (hr : r.beacon.formats < 64)
    (hr' : r'.beacon.formats < 64) :
    r.line display = r'.line display ↔ r.asRead = r'.asRead := by
  simp only [asRead, Prod.mk.injEq, mk.injEq, and_true]
  constructor
  · intro h
    obtain ⟨hwords, hname⟩ := words_eq_of_line_eq (cells_show hd r) (cells_show hd r') rfl h
    simp only [words, List.cons.injEq, and_true] at hwords
    obtain ⟨haverage, hdelta, hpeak, hage, hreports, hkind, haddress, hmanufacturer, hbeacon⟩ :=
      hwords
    exact ⟨⟨signed_inj haverage, RssiDelta.word_inj hdelta, Int8.toInt_inj.mp (signed_inj hpeak),
      decimal_inj hage, decimal_inj hreports, hd.address_eq hkind haddress,
      Manufacturer.word_inj hmanufacturer, BeaconLabel.fmt_inj hr hr' hbeacon⟩, hname⟩
  · rintro ⟨⟨haverage, hdelta, hpeak, hage, hreports, haddress, hmanufacturer, hbeacon⟩, hname⟩
    rw [line, line, cells, cells, haverage, hdelta, hpeak, hage, hreports, haddress, hmanufacturer,
      hbeacon, DisplayName.fmt_eq_iff.mpr hname]

end DeviceRow

namespace BeaconRow

theorem cells_show (r : BeaconRow) :
    List.Forall₂ (Shows endsWord ' ') (r.words display) (r.cells display) :=
  .cons (shows_rightpad (isWord_signed _) 5) <| .cons (RssiDelta.fmt_shows _) <|
    .cons (shows_self (hd.isWord _)) <| .cons (Manufacturer.fmt_shows _) <|
    .cons (shows_self (BeaconLabel.isWord_fmt _)) .nil

theorem line_eq_iff {r r' : BeaconRow} (hr : r.beacon.formats < 64)
    (hr' : r'.beacon.formats < 64) :
    r.line display = r'.line display ↔ r.asRead = r'.asRead := by
  simp only [asRead, Prod.mk.injEq, mk.injEq, Address.mk.injEq, true_and, and_true]
  constructor
  · intro h
    obtain ⟨hwords, hname⟩ := words_eq_of_line_eq (cells_show hd r) (cells_show hd r') rfl h
    simp only [words, List.cons.injEq, and_true] at hwords
    obtain ⟨haverage, hdelta, haddress, hmanufacturer, hbeacon⟩ := hwords
    exact ⟨⟨signed_inj haverage, RssiDelta.word_inj hdelta, (hd.eq_iff _ _).mp haddress,
      Manufacturer.word_inj hmanufacturer, BeaconLabel.fmt_inj hr hr' hbeacon⟩, hname⟩
  · rintro ⟨⟨haverage, hdelta, haddress, hmanufacturer, hbeacon⟩, hname⟩
    rw [line, line, cells, cells, haverage, hdelta, (hd.eq_iff _ _).mpr haddress, hmanufacturer,
      hbeacon, DisplayName.fmt_eq_iff.mpr hname]

end BeaconRow

namespace LostRow

theorem cells_show (r : LostRow) :
    List.Forall₂ (Shows endsWord ' ') (r.words display) (r.cells display) :=
  .cons (shows_rightpad (isWord_signed _) 5) <| .cons (shows_rightpad (isWord_decimal _) 5) <|
    .cons (AddressKind.fmt_shows _).concat <| .cons (shows_self (hd.isWord _)) <|
    .cons (Manufacturer.fmt_shows _) <| .cons (shows_self (BeaconLabel.isWord_fmt _)) .nil

theorem line_eq_iff {r r' : LostRow} (hr : r.beacon.formats < 64)
    (hr' : r'.beacon.formats < 64) :
    r.line display = r'.line display ↔ r.asRead = r'.asRead := by
  simp only [asRead, Prod.mk.injEq, mk.injEq, and_true]
  constructor
  · intro h
    obtain ⟨hwords, hname⟩ := words_eq_of_line_eq (cells_show hd r) (cells_show hd r') rfl h
    simp only [words, List.cons.injEq, and_true] at hwords
    obtain ⟨haverage, hage, hkind, haddress, hmanufacturer, hbeacon⟩ := hwords
    exact ⟨⟨signed_inj haverage, decimal_inj hage, hd.address_eq hkind haddress,
      Manufacturer.word_inj hmanufacturer, BeaconLabel.fmt_inj hr hr' hbeacon⟩, hname⟩
  · rintro ⟨⟨haverage, hage, haddress, hmanufacturer, hbeacon⟩, hname⟩
    rw [line, line, cells, cells, haverage, hage, haddress, hmanufacturer, hbeacon,
      DisplayName.fmt_eq_iff.mpr hname]

end LostRow

end Rows

end EmbeddedSdk.Scanner
