import EmbeddedSdk.ScannerSnapshot

/-!
# Structures of an advertisement, together or in two reports

Inside one report the last structure of a kind counts, whatever it holds. Between
reports only what is present replaces what is known. The two rules agree for
companies and beacon formats, which are never taken back. They differ for names: a
later name that is not usable wipes out an earlier one of the same report, but not
one of an earlier report.
-/
namespace EmbeddedSdk.Scanner

/-- The bytes of a local name. -/
def AdStructure.localName? : AdStructure → Option (List UInt8)
  | .completeLocalName name | .shortenedLocalName name => some name
  | _ => none

/-- The last local name among the structures of a report. -/
def lastName (structures : List AdStructure) : Option (List UInt8) :=
  (structures.filterMap AdStructure.localName?).getLast?

namespace BeaconMetadata

theorem merge_assoc (a b c : BeaconMetadata) : (a.merge b).merge c = a.merge (b.merge c) := by
  simp [merge, Bool.or_assoc, UInt8.or_assoc]

@[simp] theorem merge_empty (b : BeaconMetadata) : b.merge {} = b := by
  simp [merge]

end BeaconMetadata

namespace AdvertisementMetadata

/-- The cross-report rule: present fields replace what is known. -/
def accumulate (known metadata : AdvertisementMetadata) : AdvertisementMetadata where
  name := metadata.name.or known.name
  manufacturer := metadata.manufacturer.or known.manufacturer
  beacon := known.beacon.merge metadata.beacon

theorem empty_accumulate (m : AdvertisementMetadata) : accumulate {} m = m := by
  simp [accumulate]

theorem addFormats_eq (m : AdvertisementMetadata) (formats : UInt8) :
    m.addFormats formats = { m with beacon := m.beacon.merge ⟨false, formats⟩ } := by
  simp [addFormats, BeaconMetadata.merge]

theorem setFeasycom_eq (m : AdvertisementMetadata) :
    m.setFeasycom = { m with beacon := m.beacon.merge ⟨true, 0⟩ } := by
  simp [setFeasycom, BeaconMetadata.merge]

theorem parseStructure_serviceData16 (m : AdvertisementMetadata) (uuid : UInt8 × UInt8)
    (data : List UInt8) :
    m.parseStructure (.serviceData16 uuid data) =
      if uuid = (0xf0, 0xff) then if data.length ≥ 11 then m.setFeasycom else m
      else if uuid = (0xaa, 0xfe) then m.addFormats (eddystoneFormat data)
      else m := by
  by_cases hfeasycom : uuid = (0xf0, 0xff)
  · subst hfeasycom
    rfl
  by_cases heddystone : uuid = (0xaa, 0xfe)
  · subst heddystone
    rfl
  rw [if_neg hfeasycom, if_neg heddystone]
  unfold parseStructure
  split <;> simp_all

/-- One structure adds to the company and the formats what it would add alone. -/
theorem parseStructure_adds (m : AdvertisementMetadata) (s : AdStructure) :
    (m.parseStructure s).manufacturer = (parseStructure {} s).manufacturer.or m.manufacturer ∧
      (m.parseStructure s).beacon = m.beacon.merge (parseStructure {} s).beacon := by
  cases s with
  | completeLocalName name => simp [parseStructure]
  | shortenedLocalName name => simp [parseStructure]
  | other => simp [parseStructure]
  | serviceData16 uuid data =>
      simp only [parseStructure_serviceData16, addFormats_eq, setFeasycom_eq]
      split
      · split <;> simp
      · split <;> simp
  | manufacturerSpecificData companyIdentifier payload =>
      simp only [parseStructure, addFormats_eq, setFeasycom_eq]
      split <;> split <;> split <;> simp [BeaconMetadata.merge_assoc]

/-- A local name replaces the name, and nothing else does. -/
theorem parseStructure_name (m : AdvertisementMetadata) (s : AdStructure) :
    (m.parseStructure s).name = (s.localName?.map LocalName.fromBytes).getD m.name := by
  cases s with
  | completeLocalName name => rfl
  | shortenedLocalName name => rfl
  | other => rfl
  | serviceData16 uuid data =>
      simp only [parseStructure_serviceData16, addFormats_eq, setFeasycom_eq]
      split
      · split <;> rfl
      · split <;> rfl
  | manufacturerSpecificData companyIdentifier payload =>
      simp only [parseStructure, addFormats_eq, setFeasycom_eq, AdStructure.localName?]
      split <;> split <;> split <;> rfl

theorem lastName_concat (xs : List AdStructure) (s : AdStructure) :
    lastName (xs ++ [s]) = s.localName?.or (lastName xs) := by
  simp only [lastName, List.filterMap_append]
  cases hname : s.localName? with
  | none => simp [hname]
  | some name => simp [hname]

theorem parse_concat (xs : List AdStructure) (s : AdStructure) :
    parse (xs ++ [s]) = (parse xs).parseStructure s := by
  simp [parse, List.foldl_append]

/-- The last local name decides about the name, also when it is not usable. -/
theorem foldl_name (m : AdvertisementMetadata) (xs : List AdStructure) :
    (xs.foldl parseStructure m).name = ((lastName xs).map LocalName.fromBytes).getD m.name := by
  induction xs using List.reverseRecOn with
  | nil => rfl
  | append_singleton xs s ih =>
      rw [List.foldl_append, List.foldl_cons, List.foldl_nil, parseStructure_name, ih,
        lastName_concat]
      cases s.localName? with
      | none => simp
      | some name => simp

theorem foldl_manufacturer (m : AdvertisementMetadata) (xs : List AdStructure) :
    (xs.foldl parseStructure m).manufacturer = (parse xs).manufacturer.or m.manufacturer := by
  induction xs using List.reverseRecOn with
  | nil => rfl
  | append_singleton xs s ih =>
      rw [List.foldl_append, List.foldl_cons, List.foldl_nil, (parseStructure_adds _ s).1, ih,
        parse_concat, (parseStructure_adds (parse xs) s).1, Option.or_assoc]

theorem foldl_beacon (m : AdvertisementMetadata) (xs : List AdStructure) :
    (xs.foldl parseStructure m).beacon = m.beacon.merge (parse xs).beacon := by
  induction xs using List.reverseRecOn with
  | nil => simp [parse]
  | append_singleton xs s ih =>
      rw [List.foldl_append, List.foldl_cons, List.foldl_nil, (parseStructure_adds _ s).2, ih,
        parse_concat, (parseStructure_adds (parse xs) s).2, BeaconMetadata.merge_assoc]

theorem parse_append (xs ys : List AdStructure) :
    parse (xs ++ ys) = ys.foldl parseStructure (parse xs) := by
  rw [parse, List.foldl_append]
  rfl

theorem parse_name (xs : List AdStructure) :
    (parse xs).name = (lastName xs).bind LocalName.fromBytes := by
  rw [parse, foldl_name]
  cases lastName xs with
  | none => rfl
  | some name => rfl

/-- Companies are accumulated alike in one report and in two. -/
theorem accumulate_manufacturer (known : AdvertisementMetadata) (xs ys : List AdStructure) :
    ((known.accumulate (parse xs)).accumulate (parse ys)).manufacturer =
      (known.accumulate (parse (xs ++ ys))).manufacturer := by
  simp only [accumulate, parse_append, foldl_manufacturer, Option.or_assoc]

/-- Beacon formats are accumulated alike in one report and in two. -/
theorem accumulate_beacon (known : AdvertisementMetadata) (xs ys : List AdStructure) :
    ((known.accumulate (parse xs)).accumulate (parse ys)).beacon =
      (known.accumulate (parse (xs ++ ys))).beacon := by
  simp only [accumulate, parse_append, foldl_beacon, BeaconMetadata.merge_assoc]

end AdvertisementMetadata

/-- No unusable name takes back a usable one that was not known before: if the last
name among `ys` is not usable and the last one among `xs` is, then the device is
known under that name already. -/
def KeepsName (known : Option LocalName) (xs ys : List AdStructure) : Prop :=
  ∀ later, lastName ys = some later → LocalName.fromBytes later = none →
    ∀ earlier, lastName xs = some earlier →
      ∀ name, LocalName.fromBytes earlier = some name → known = some name

namespace AdvertisementMetadata

/-- Names are accumulated alike exactly when no unusable name takes one back. -/
theorem accumulate_name_iff (known : AdvertisementMetadata) (xs ys : List AdStructure) :
    ((known.accumulate (parse xs)).accumulate (parse ys)).name =
        (known.accumulate (parse (xs ++ ys))).name ↔ KeepsName known.name xs ys := by
  simp only [accumulate, parse_append, foldl_name, parse_name, KeepsName]
  cases lastName ys with
  | none => simp
  | some later =>
      cases hlater : LocalName.fromBytes later with
      | some name => simp [hlater]
      | none =>
          cases lastName xs with
          | none => simp [hlater]
          | some earlier =>
              cases hearlier : LocalName.fromBytes earlier with
              | none => simp [hlater, hearlier]
              | some name => simp [hlater, hearlier, eq_comm]

end AdvertisementMetadata

/-- What an entry has accumulated. -/
def DeviceEntry.metadata (e : DeviceEntry) : AdvertisementMetadata :=
  ⟨e.name, e.manufacturer, e.beacon⟩

theorem DeviceEntry.fresh_metadata (a : Address) (rssi : Int8) (m : AdvertisementMetadata)
    (now : ℕ) : (fresh a rssi m now).metadata = m := rfl

theorem DeviceEntry.update_metadata (e : DeviceEntry) (rssi : Int8) (m : AdvertisementMetadata)
    (now : ℕ) : (e.update rssi m now).metadata = e.metadata.accumulate m := by
  simp only [DeviceEntry.metadata, update, AdvertisementMetadata.accumulate]
  congr 1
  · cases m.name <;> rfl
  · cases m.manufacturer <;> rfl

namespace DeviceRegistry

/-- The entry of an address. -/
def entryOf (r : DeviceRegistry) (address : Address) : Option DeviceEntry :=
  r.entries.entries.find? fun entry => entry.address = address

/-- What the registry has accumulated for an address, nothing without an entry. -/
def known (r : DeviceRegistry) (address : Address) : AdvertisementMetadata :=
  ((r.entryOf address).map DeviceEntry.metadata).getD {}

theorem entryOf_eq_none {r : DeviceRegistry} {a : Address} (h : ¬ r.IsLive a) :
    r.entryOf a = none := by
  rw [entryOf, List.find?_eq_none]
  intro e he hea
  exact h ⟨e, he, of_decide_eq_true hea⟩

theorem known_of_not_isLive {r : DeviceRegistry} {a : Address} (h : ¬ r.IsLive a) :
    r.known a = {} := by
  rw [known, entryOf_eq_none h]
  rfl

theorem entryOf_eq_some {r : DeviceRegistry} (hd : r.Distinct) {a : Address} {e : DeviceEntry}
    {i : ℕ} (hslot : r.entries.at? i = some e) (ha : e.address = a) : r.entryOf a = some e := by
  have hmem : e ∈ r.entries.entries := SlotTable.mem_entries.mpr ⟨i, hslot⟩
  cases hfind : r.entryOf a with
  | none =>
      rw [entryOf, List.find?_eq_none] at hfind
      exact absurd (decide_eq_true ha) (hfind e hmem)
  | some f =>
      rw [entryOf] at hfind
      have hmatch := List.find?_some hfind
      have hf : f.address = a := of_decide_eq_true hmatch
      obtain ⟨j, hj⟩ := SlotTable.mem_entries.mp (List.mem_of_find?_eq_some hfind)
      have hij : i = j := hd i j e f hslot hj (ha.trans hf.symm)
      rw [← hij, hslot] at hj
      exact hj.symm

/-- A report leaves an entry that has accumulated its metadata. -/
theorem entryOf_record {r : DeviceRegistry} (hd : r.Distinct) (a : Address) (rssi : Int8)
    (m : AdvertisementMetadata) (now : ℕ) :
    ∃ e, (r.record a rssi m now).entryOf a = some e ∧ e.metadata = (r.known a).accumulate m := by
  obtain ⟨i, entry, hi, hput, ha, -, hentry⟩ := record_put hd a rssi m now
  have hslot : (r.record a rssi m now).entries.at? i = some entry := by
    rw [hput, SlotTable.at?_put _ hi, if_pos rfl]
  refine ⟨entry, entryOf_eq_some (record_distinct hd a rssi m now) hslot ha, ?_⟩
  obtain ⟨e, he, hea, rfl⟩ | ⟨hlive, rfl⟩ := hentry
  · rw [DeviceEntry.update_metadata, known, entryOf_eq_some hd he hea]
    rfl
  · rw [DeviceEntry.fresh_metadata, known_of_not_isLive hlive,
      AdvertisementMetadata.empty_accumulate]

theorem known_record {r : DeviceRegistry} (hd : r.Distinct) (a : Address) (rssi : Int8)
    (m : AdvertisementMetadata) (now : ℕ) :
    (r.record a rssi m now).known a = (r.known a).accumulate m := by
  obtain ⟨e, he, hmetadata⟩ := entryOf_record hd a rssi m now
  rw [known, he, ← hmetadata]
  rfl

/-- Two reports of one address leave an entry that has accumulated both. -/
theorem entryOf_record_twice {r : DeviceRegistry} (hd : r.Distinct) (a : Address)
    (rssi rssi' : Int8) (m m' : AdvertisementMetadata) (now now' : ℕ) :
    ∃ e, ((r.record a rssi m now).record a rssi' m' now').entryOf a = some e ∧
      e.metadata = ((r.known a).accumulate m).accumulate m' := by
  obtain ⟨e, he, hmetadata⟩ :=
    entryOf_record (record_distinct hd a rssi m now) a rssi' m' now'
  rw [known_record hd] at hmetadata
  exact ⟨e, he, hmetadata⟩

/-- In every reachable registry, two reports leave the same metadata as one report
with the structures of both exactly when no unusable name takes back a usable one. -/
theorem split_reports_agree_iff_keepsName (events : List Event) (a : Address)
    (xs ys : List AdStructure) (rssi rssi' rssi'' : Int8) (now now' now'' : ℕ) :
    ∃ e e', (((after events).record a rssi (AdvertisementMetadata.parse xs) now).record a rssi'
          (AdvertisementMetadata.parse ys) now').entryOf a = some e ∧
      ((after events).record a rssi'' (AdvertisementMetadata.parse (xs ++ ys)) now'').entryOf a =
          some e' ∧
      ((e.name = e'.name ∧ e.manufacturer = e'.manufacturer ∧ e.beacon = e'.beacon) ↔
        KeepsName ((after events).known a).name xs ys) := by
  have hd := after_distinct events
  obtain ⟨e, he, htwo⟩ := entryOf_record_twice hd a rssi rssi' (AdvertisementMetadata.parse xs)
    (AdvertisementMetadata.parse ys) now now'
  obtain ⟨e', he', hone⟩ :=
    entryOf_record hd a rssi'' (AdvertisementMetadata.parse (xs ++ ys)) now''
  refine ⟨e, e', he, he', ?_⟩
  have hmanufacturer : e.manufacturer = e'.manufacturer := by
    have hagree := AdvertisementMetadata.accumulate_manufacturer ((after events).known a) xs ys
    rwa [← htwo, ← hone] at hagree
  have hbeacon : e.beacon = e'.beacon := by
    have hagree := AdvertisementMetadata.accumulate_beacon ((after events).known a) xs ys
    rwa [← htwo, ← hone] at hagree
  have hname := AdvertisementMetadata.accumulate_name_iff ((after events).known a) xs ys
  rw [← htwo, ← hone] at hname
  rw [← hname]
  exact ⟨fun h => h.1, fun h => ⟨h, hmanufacturer, hbeacon⟩⟩

/-- The name "A", and then a byte that is not UTF-8 as a shortened name: in two
reports the device keeps its name, in one report it has none. -/
theorem unusableName_wipes_name_of_same_report :
    let a : Address := ⟨1, #v[6, 5, 4, 3, 2, 1]⟩
    let xs : List AdStructure := [.completeLocalName [0x41]]
    let ys : List AdStructure := [.shortenedLocalName [0xff]]
    ((((after []).record a (-40) (AdvertisementMetadata.parse xs) 0).record a (-40)
        (AdvertisementMetadata.parse ys) 1).entryOf a).map DeviceEntry.name ≠
      (((after []).record a (-40) (AdvertisementMetadata.parse (xs ++ ys)) 1).entryOf a).map
        DeviceEntry.name := by
  decide +kernel

end DeviceRegistry

end EmbeddedSdk.Scanner
