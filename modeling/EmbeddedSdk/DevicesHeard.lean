import EmbeddedSdk.BeaconTask
import EmbeddedSdk.BluetoothPeripheral
import EmbeddedSdk.ReportLog

/-!
# The firmware images on one air

The scanner hears the beacon and the reference firmware among other devices, any
number of times and in any order, and it may forget them and hear them again. It
accumulates what it reads off the packets of an address, so an entry shows only what
the firmware at that address was built to send.
-/
namespace EmbeddedSdk.Scanner
open Beacon Bluetooth Runs

namespace DeviceRegistry

/-- All reports that the scanner hears from an address have metadata of a kind. -/
def HearsOnly (heard : List Event) (a : Address) (kind : AdvertisementMetadata → Prop) : Prop :=
  ∀ rssi structures now, Event.report a rssi structures now ∈ heard →
    kind (AdvertisementMetadata.parse structures)

theorem HearsOnly.of_concat {heard : List Event} {e : Event} {a : Address}
    {kind : AdvertisementMetadata → Prop} (h : HearsOnly (heard ++ [e]) a kind) :
    HearsOnly heard a kind :=
  fun rssi structures now hmem => h rssi structures now (List.mem_append_left _ hmem)

/-- What all reports of an address have, and what accumulating keeps, is what an entry
of the address has. -/
theorem metadata_of_hearsOnly {heard : List Event} {a : Address}
    {kind shown : AdvertisementMetadata → Prop} (h : HearsOnly heard a kind)
    (hfirst : ∀ m, kind m → shown m)
    (hnext : ∀ known m, shown known → kind m → shown (known.accumulate m)) {i : ℕ}
    {e : DeviceEntry} (he : (after heard).entries.at? i = some e) (ha : e.address = a) :
    shown e.metadata := by
  induction heard using List.reverseRecOn generalizing i e with
  | nil => simp [after, new] at he
  | append_singleton heard event ih =>
      have hbefore : ∀ {i e}, (after heard).entries.at? i = some e → e.address = a →
          shown e.metadata := ih h.of_concat
      rw [after_concat] at he
      cases event with
      | report b rssi structures now =>
          have hkind : b = a → kind (AdvertisementMetadata.parse structures) := by
            rintro rfl
            exact h rssi structures now (by simp)
          obtain ⟨e', he', hb, rfl⟩ | ⟨-, rfl⟩ | ⟨-, hsame⟩ :=
            record_entry (after_distinct heard) he
          · rw [DeviceEntry.update_address] at ha
            rw [DeviceEntry.update_metadata]
            exact hnext _ _ (hbefore he' ha) (hkind (hb.symm.trans ha))
          · exact hfirst _ (hkind ha)
          · exact hbefore hsame ha
      | malformedReport => exact hbefore he ha
      | snapshot now sorter =>
          obtain ⟨e', he', -, rfl⟩ := printSnapshot_entry he
          have hshown : shown e'.metadata := hbefore he' ha
          exact hshown

theorem entryOf_spec {r : DeviceRegistry} {a : Address} {e : DeviceEntry}
    (h : r.entryOf a = some e) : e.address = a ∧ ∃ i, r.entries.at? i = some e := by
  rw [entryOf] at h
  have hmatch := List.find?_some h
  exact ⟨of_decide_eq_true hmatch, SlotTable.mem_entries.mp (List.mem_of_find?_eq_some h)⟩

end DeviceRegistry

open DeviceRegistry

/-- The scanner can store every name of up to 29 bytes. -/
theorem exists_localName {text : String} (hpositive : 1 ≤ text.utf8ByteSize)
    (hsize : text.utf8ByteSize ≤ 29) :
    ∃ localName, LocalName.fromBytes text.toUTF8.data.toList = some localName ∧
      localName.asBytes = text.toUTF8.data.toList := by
  obtain ⟨name, hname⟩ := BeaconName.exists_fromStr_iff.mpr ⟨hpositive, hsize⟩
  rw [← (BeaconName.asBytes_fromStr hname).1]
  exact BeaconName.Constructed.localName (.inl ⟨text, hname⟩)

/-- The name of an entry is the last one that its reports have had. -/
theorem name_of_log (heard : List Event) {i : ℕ} {e : DeviceEntry}
    (he : (after heard).entries.at? i = some e) :
    e.name = (logOf e.address heard).reverse.findSome? fun report => report.metadata.name := by
  refine after_related (R := fun log _ e =>
    e.name = log.reverse.findSome? fun report => report.metadata.name) ?_ ?_ ?_ heard he
  · intro a report
    simp [DeviceEntry.fresh]
  · intro log w e report h
    simp only [DeviceEntry.update, h, List.reverse_append, List.reverse_singleton,
      List.singleton_append, List.findSome?_cons]
    cases report.metadata.name <;> rfl
  · intro log w e h
    exact h

/-- What the packets of the peripheral tell. The answer to a scan is empty. -/
structure OfPeripheral (localName : LocalName) (m : AdvertisementMetadata) : Prop where
  name : m.name = none ∨ m.name = some localName
  manufacturer : m.manufacturer = none
  beacon : m.beacon = {}

theorem OfPeripheral.accumulate {localName : LocalName} {known m : AdvertisementMetadata}
    (hknown : OfPeripheral localName known) (hm : OfPeripheral localName m) :
    OfPeripheral localName (known.accumulate m) := by
  refine ⟨?_, ?_, ?_⟩
  · rcases hm.name with hnone | hsome
    · simpa [AdvertisementMetadata.accumulate, hnone] using hknown.name
    · simp [AdvertisementMetadata.accumulate, hsome]
  · simp [AdvertisementMetadata.accumulate, hm.manufacturer, hknown.manufacturer]
  · simp only [AdvertisementMetadata.accumulate, hm.beacon, hknown.beacon]
    rfl

/-- Whatever else it hears, and however often it forgets the device, the scanner never
shows the reference firmware under another name or as a beacon. It shows the name from
the first advertisement on that it hears; answers to a scan do not have one. -/
theorem peripheral_shown_by_name {codec : AdCodec} (hcodec : codec.Documented) {text : String}
    {name : DeviceName} (hname : DeviceName.new text = .ok name) {bootMs : ℕ}
    {start s : Peripheral.State}
    (hstart : Peripheral.bluetoothTask codec name true bootMs = .ok start)
    {inputs : List Peripheral.Input} (hrun : run (Peripheral.step codec name) start inputs = some s)
    {heard : List Event} {a : Address}
    (hheard : ∀ rssi structures now, Event.report a rssi structures now ∈ heard →
      ∃ r ∈ s.requests, structures = codec.decode r.advData ∨
        structures = codec.decode r.scanData)
    {e : DeviceEntry} (he : (after heard).entryOf a = some e) :
    (∀ localName ∈ e.name, localName.asBytes = text.toUTF8.data.toList) ∧
      e.manufacturer = none ∧ e.beacon.isBeacon = false ∧
      ((∃ report ∈ logOf a heard, ∃ r ∈ s.requests,
        report.metadata = .parse (codec.decode r.advData)) → e.name.isSome = true) := by
  obtain ⟨hpositive, hsize, -⟩ := Peripheral.deviceName_spec hname
  obtain ⟨localName, hlocal, hbytes⟩ := exists_localName hpositive (by omega)
  obtain ⟨packet, hpacket⟩ := Peripheral.exists_encodes hcodec.toEncodesFitting hname
  have hsound := run_invariant (Peripheral.bluetoothTask_sound hpacket hstart)
    (Peripheral.step_sound hpacket) hrun
  have hadvertised : ∀ r ∈ s.requests,
      AdvertisementMetadata.parse (codec.decode r.advData) = ⟨some localName, none, {}⟩ := by
    intro r hr
    rw [hsound.requests r hr, hpacket.decode hcodec hname, ← hlocal]
    rfl
  have hkind : HearsOnly heard a (OfPeripheral localName) := by
    intro rssi structures now hmem
    obtain ⟨r, hr, rfl | rfl⟩ := hheard rssi structures now hmem
    · rw [hadvertised r hr]
      exact ⟨.inr rfl, rfl, rfl⟩
    · rw [hsound.requests r hr, hcodec.decode_nil]
      exact ⟨.inl rfl, rfl, rfl⟩
  obtain ⟨rfl, i, hi⟩ := entryOf_spec he
  have hshown : OfPeripheral localName e.metadata :=
    metadata_of_hearsOnly hkind (fun _ hm => hm) (fun _ _ hknown hm => hknown.accumulate hm) hi rfl
  have hbeacon : e.beacon = {} := hshown.beacon
  refine ⟨?_, hshown.manufacturer, by rw [hbeacon]; rfl, ?_⟩
  · intro localName' hname'
    rcases hshown.name with hnone | hsome
    · cases hnone.symm.trans hname'
    · cases hsome.symm.trans hname'
      exact hbytes
  · rintro ⟨report, hreport, r, hr, hmetadata⟩
    rw [name_of_log heard hi, List.findSome?_isSome_iff]
    refine ⟨report, List.mem_reverse.mpr hreport, ?_⟩
    rw [hmetadata, hadvertised r hr]
    rfl

/-- One report leaves an entry for its address. -/
theorem exists_entryOf_report (a : Address) (rssi : Int8) (structures : List AdStructure)
    (now : ℕ) : ∃ e, (after [.report a rssi structures now]).entryOf a = some e := by
  obtain ⟨e, he, -⟩ := entryOf_record (after_distinct []) a rssi (.parse structures) now
  exact ⟨e, he⟩

/-- The log begins with the first report of the address, and a second one goes behind it. -/
theorem mem_logOf_first (a : Address) (rssi rssi' : Int8)
    (structures structures' : List AdStructure) (now now' : ℕ) : ⟨rssi, .parse structures, now⟩ ∈
      logOf a [.report a rssi structures now, .report a rssi' structures' now'] := by
  have hinserts : (Event.report a rssi structures now).Inserts a (after []) :=
    ⟨by simp [Event.reportOf], by simp [IsLive, after, new, SlotTable.mem_entries]⟩
  have hfirst : logOf a ([] ++ [.report a rssi structures now]) =
      [⟨rssi, .parse structures, now⟩] :=
    logOf_insert hinserts (by simp [Event.reportOf])
  have hlive : (after ([] ++ [.report a rssi structures now])).IsLive a :=
    record_isLive new a rssi (.parse structures) now
  have hkept := logOf_concat (e := .report a rssi' structures' now') (not_inserts_of_live hlive)
  rw [hfirst] at hkept
  exact hkept ▸ List.mem_append_left _ List.mem_cons_self

theorem briefVisit_shown : ∃ start s r e,
    Peripheral.bluetoothTask tlvCodec Peripheral.sdkName true 0 = .ok start ∧
      run (Peripheral.step tlvCodec Peripheral.sdkName) start Peripheral.briefVisit = some s ∧
      r ∈ s.requests ∧ (after [.report sampleAddress (-50) (tlvCodec.decode r.advData) 10,
        .report sampleAddress (-50) (tlvCodec.decode r.scanData) 11]).entryOf sampleAddress =
          some e ∧
      e.name.isSome = true ∧ e.beacon.isBeacon = false := by
  have hname : DeviceName.new "XIAO ESP32C6 SDK" = .ok Peripheral.sdkName := by decide +kernel
  obtain ⟨start, hstart⟩ :
      ∃ start, Peripheral.bluetoothTask tlvCodec Peripheral.sdkName true 0 = .ok start := ⟨_, rfl⟩
  have hvisit : (run (Peripheral.step tlvCodec Peripheral.sdkName) start
      Peripheral.briefVisit).any (fun s => !s.requests.isEmpty) = true := by
    obtain rfl := Except.ok.inj hstart
    decide +kernel
  obtain ⟨s, hs, hrequests⟩ := (Option.any_eq_true _ _).mp hvisit
  obtain ⟨r, hr⟩ := List.exists_mem_of_ne_nil s.requests (by simpa using hrequests)
  let heard : List Event := [.report sampleAddress (-50) (tlvCodec.decode r.advData) 10,
    .report sampleAddress (-50) (tlvCodec.decode r.scanData) 11]
  obtain ⟨e, he, -⟩ := entryOf_record
    (after_distinct [.report sampleAddress (-50) (tlvCodec.decode r.advData) 10])
    sampleAddress (-50) (.parse (tlvCodec.decode r.scanData)) 11
  have hheard : ∀ rssi structures now, Event.report sampleAddress rssi structures now ∈ heard →
      ∃ r ∈ s.requests, structures = tlvCodec.decode r.advData ∨
        structures = tlvCodec.decode r.scanData := by
    intro rssi structures now hmem
    rcases List.mem_cons.mp hmem with hfirst | hsecond
    · cases hfirst
      exact ⟨r, hr, .inl rfl⟩
    · cases List.mem_singleton.mp hsecond
      exact ⟨r, hr, .inr rfl⟩
  obtain ⟨-, -, hbeacon, hshown⟩ :=
    peripheral_shown_by_name tlvCodec_documented hname hstart hs hheard he
  have hlog := mem_logOf_first sampleAddress (-50) (-50) (tlvCodec.decode r.advData)
    (tlvCodec.decode r.scanData) 10 11
  exact ⟨start, s, r, e, hstart, hs, hr, he, hshown ⟨_, hlog, r, hr, rfl⟩, hbeacon⟩

/-- What the packets of a beacon tell, or some of it. -/
structure OfBeacon (localName : LocalName) (m : AdvertisementMetadata) : Prop where
  name : m.name = none ∨ m.name = some localName
  kind : m.manufacturer = none ∧ m.beacon = {} ∨
    m.manufacturer = some 0x004c ∧ m.beacon = ⟨false, beaconFormatIbeacon⟩

theorem OfBeacon.of_packet {localName : LocalName} {m : AdvertisementMetadata}
    (h : m = ⟨none, some 0x004c, ⟨false, beaconFormatIbeacon⟩⟩ ∨ m = ⟨some localName, none, {}⟩) :
    OfBeacon localName m := by
  rcases h with rfl | rfl
  · exact ⟨.inl rfl, .inr ⟨rfl, rfl⟩⟩
  · exact ⟨.inr rfl, .inl ⟨rfl, rfl⟩⟩

theorem OfBeacon.accumulate {localName : LocalName} {known m : AdvertisementMetadata}
    (hknown : OfBeacon localName known)
    (h : m = ⟨none, some 0x004c, ⟨false, beaconFormatIbeacon⟩⟩ ∨ m = ⟨some localName, none, {}⟩) :
    OfBeacon localName (known.accumulate m) := by
  rcases h with rfl | rfl
  · refine ⟨hknown.name, .inr ⟨rfl, ?_⟩⟩
    rcases hknown.kind with ⟨-, hbeacon⟩ | ⟨-, hbeacon⟩ <;>
      simp only [AdvertisementMetadata.accumulate, hbeacon] <;> decide
  · refine ⟨.inr rfl, ?_⟩
    rcases hknown.kind with ⟨hmanufacturer, hbeacon⟩ | ⟨hmanufacturer, hbeacon⟩
    · exact .inl ⟨hmanufacturer, by simp only [AdvertisementMetadata.accumulate, hbeacon]; decide⟩
    · exact .inr ⟨hmanufacturer, by simp only [AdvertisementMetadata.accumulate, hbeacon]; decide⟩

/-- Whatever else it hears, and however often it forgets the beacon, the scanner never
shows the beacon under another name or as another kind of device. -/
theorem beacon_never_misread {codec : AdCodec} (hcodec : codec.Documented)
    {inputs : BeaconInputs} {address : StaticRandomAddress} {settings : BeaconSettings}
    (hsettings : (beaconSettings inputs address).run = some (.ok settings)) {bootMs : ℕ}
    {start s : BeaconTask.State}
    (hstart : BeaconTask.beaconTask codec settings bootMs = some (.ok start))
    {events : List BeaconTask.Input} (hrun : run BeaconTask.step start events = some s)
    {heard : List Event} {a : Address}
    (hheard : ∀ rssi structures now, Event.report a rssi structures now ∈ heard →
      ∃ r ∈ s.requests, structures = codec.decode r.2.advData ∨
        structures = codec.decode r.2.scanData)
    {e : DeviceEntry} (he : (after heard).entryOf a = some e) :
    (∀ localName ∈ e.name, localName.asBytes =
        (inputs.name.getD (generatedName (defaultMinor address))).toUTF8.data.toList) ∧
      (e.manufacturer = none ∧ e.beacon = {} ∨
        e.manufacturer = some 0x004c ∧ e.beacon = ⟨false, beaconFormatIbeacon⟩) := by
  have hconfigured := (decides_beaconSettings inputs address).of_pure hsettings
  obtain ⟨localName, hlocal, hbytes⟩ := hconfigured.constructed.localName
  obtain ⟨start', hstart', hannounces, hpaced, -⟩ :=
    BeaconTask.exists_beaconTask hcodec hconfigured bootMs
  rw [hstart'] at hstart
  obtain rfl := Except.ok.inj (Option.some.inj hstart)
  have hsame : BeaconTask.Paced start'.request s :=
    run_invariant hpaced BeaconTask.step_paced hrun
  have hkind : HearsOnly heard a fun m =>
      m = ⟨none, some 0x004c, ⟨false, beaconFormatIbeacon⟩⟩ ∨ m = ⟨some localName, none, {}⟩ := by
    intro rssi structures now hmem
    obtain ⟨r, hr, hstructures⟩ := hheard rssi structures now hmem
    rw [hsame.same r hr] at hstructures
    rcases hstructures with rfl | rfl
    · left
      rw [hannounces.advData, ← IBeacon.manufacturerPayload_toList]
      exact parse_advertised settings.frame
    · right
      rw [hannounces.scanData, parse_scanResponse, hlocal]
  obtain ⟨ha, i, hi⟩ := entryOf_spec he
  have hshown : OfBeacon localName e.metadata :=
    metadata_of_hearsOnly hkind (fun m hm => .of_packet hm) (fun _ _ hknown hm =>
      hknown.accumulate hm) hi ha
  refine ⟨?_, hshown.kind⟩
  intro localName' hname
  rcases hshown.name with hnone | hsome
  · cases hnone.symm.trans hname
  · cases hsome.symm.trans hname
    rw [hbytes, hconfigured.name]

theorem office_not_misread : ∃ settings start s r e,
    (beaconSettings BeaconTask.officeInputs BeaconTask.officeAddress).run = some (.ok settings) ∧
      BeaconTask.beaconTask tlvCodec settings 0 = some (.ok start) ∧
      run BeaconTask.step start BeaconTask.officeEvents = some s ∧ r ∈ s.requests ∧
      (after [.report sampleAddress (-50) (tlvCodec.decode r.2.scanData) 10]).entryOf
        sampleAddress = some e ∧
      ∀ localName ∈ e.name, localName.asBytes = "Office".toUTF8.data.toList := by
  have hall : (beaconSettings BeaconTask.officeInputs BeaconTask.officeAddress).run.any
      (fun result => result.toOption.any fun settings =>
        (BeaconTask.beaconTask tlvCodec settings 0).any fun result =>
          result.toOption.any fun start =>
            (run BeaconTask.step start BeaconTask.officeEvents).any fun s =>
              !s.requests.isEmpty) = true := by
    decide +kernel
  obtain ⟨result, hsettings, hresult⟩ := (Option.any_eq_true _ _).mp hall
  cases result with
  | error error => cases hresult
  | ok settings =>
      rw [Except.toOption, Option.any_some] at hresult
      obtain ⟨task, htask, hstart⟩ := (Option.any_eq_true _ _).mp hresult
      cases task with
      | error message => cases hstart
      | ok start =>
          rw [Except.toOption, Option.any_some] at hstart
          obtain ⟨s, hs, hrequests⟩ := (Option.any_eq_true _ _).mp hstart
          obtain ⟨r, hr⟩ := List.exists_mem_of_ne_nil s.requests (by simpa using hrequests)
          obtain ⟨e, he⟩ :=
            exists_entryOf_report sampleAddress (-50) (tlvCodec.decode r.2.scanData) 10
          have hheard : ∀ rssi structures now, Event.report sampleAddress rssi structures now ∈
              [Event.report sampleAddress (-50) (tlvCodec.decode r.2.scanData) 10] →
              ∃ r ∈ s.requests, structures = tlvCodec.decode r.2.advData ∨
                structures = tlvCodec.decode r.2.scanData := by
            intro rssi structures now hmem
            cases List.mem_singleton.mp hmem
            exact ⟨r, hr, .inr rfl⟩
          exact ⟨settings, start, s, r, e, hsettings, htask, hs, hr, he,
            (beacon_never_misread tlvCodec_documented hsettings htask hs hheard he).1⟩

end EmbeddedSdk.Scanner
