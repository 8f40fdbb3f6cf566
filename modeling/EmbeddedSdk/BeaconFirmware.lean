import EmbeddedSdk.AdvertisementMerge
import EmbeddedSdk.AsciiText
import EmbeddedSdk.BluetoothIdentity
import EmbeddedSdk.TextColumns
import Mathlib.Tactic.IntervalCases

/-!
# The beacon firmware and what the scanner makes of it

The beacon sends two packets of at most 31 bytes: an advertisement with its iBeacon
frame, and a scan response with its name. The host stack encodes and decodes the
structures of a packet; it is third-party code, so its codec is a parameter with
the behaviour that both firmware images rely on. The scanner hears the two packets
in any order.
-/
namespace EmbeddedSdk.Beacon
open AsciiText Bluetooth PaddedBytes Scanner TextColumns

def maxBeaconNameLength : ℕ := 29
def generatedBeaconNameLength : ℕ := 11

/-- The text `Beacon ` with its space. -/
def generatedBeaconNamePrefix : Vector UInt8 7 := #v[0x42, 0x65, 0x61, 0x63, 0x6f, 0x6e, 0x20]

/-- The data of a legacy advertising packet. -/
def packetCapacity : ℕ := 31

/-- A beacon's name in fixed storage. -/
structure BeaconName where
  bytes : Vector UInt8 maxBeaconNameLength
  length : UInt8
  deriving DecidableEq

/-- The bytes 48 and 65 are `0` and `A`. -/
def hexadecimalDigit (nibble : UInt8) : UInt8 :=
  if nibble ≤ 9 then 48 + nibble else 65 + nibble - 10

namespace BeaconName

/-- A name from the last two bytes of the address. -/
def fromAddress (address : StaticRandomAddress) : BeaconName :=
  let bytes : Vector UInt8 29 := padded maxBeaconNameLength 0 generatedBeaconNamePrefix.toArray
  let bytes := bytes.set 7 (hexadecimalDigit (address.bytes.get 4 >>> 4))
  let bytes := bytes.set 8 (hexadecimalDigit (address.bytes.get 4 &&& 0x0f))
  let bytes := bytes.set 9 (hexadecimalDigit (address.bytes.get 5 >>> 4))
  let bytes := bytes.set 10 (hexadecimalDigit (address.bytes.get 5 &&& 0x0f))
  ⟨bytes, .ofNat generatedBeaconNameLength⟩

/-- A configured name of one to 29 bytes. -/
def fromStr (name : String) : Option BeaconName :=
  if name.isEmpty || decide (name.utf8ByteSize > maxBeaconNameLength) then none
  else some ⟨padded maxBeaconNameLength 0 name.toUTF8.data, .ofNat name.utf8ByteSize⟩

def asBytes (name : BeaconName) : List UInt8 :=
  (name.bytes.toArray.extract 0 name.length.toNat).toList

/-- The names that a beacon can have. -/
def Constructed (name : BeaconName) : Prop :=
  (∃ text, fromStr text = some name) ∨ ∃ address, name = fromAddress address

theorem asBytes_fromAddress (address : StaticRandomAddress) :
    (fromAddress address).asBytes = generatedBeaconNamePrefix.toList ++
      [hexadecimalDigit (address.bytes.get 4 >>> 4),
        hexadecimalDigit (address.bytes.get 4 &&& 0x0f),
        hexadecimalDigit (address.bytes.get 5 >>> 4),
        hexadecimalDigit (address.bytes.get 5 &&& 0x0f)] := by
  rfl

theorem hexadecimalDigit_lt {nibble : UInt8} (h : nibble.toNat < 16) :
    (hexadecimalDigit nibble).toNat < 128 := by
  have hall : ∀ n < 16, (hexadecimalDigit (.ofNat n)).toNat < 128 := by decide
  have hdigit := hall nibble.toNat h
  rwa [UInt8.ofNat_toNat] at hdigit

theorem shiftRight_four_lt (b : UInt8) : (b >>> 4).toNat < 16 := by
  have hb := b.toNat_lt
  have hshift : (b >>> 4).toNat = b.toNat / 16 := by
    simp [Nat.shiftRight_eq_div_pow]
  omega

theorem and_fifteen_lt (b : UInt8) : (b &&& 0x0f).toNat < 16 := by
  rw [UInt8.toNat_and]
  exact Nat.lt_of_le_of_lt Nat.and_le_right (by decide)

/-- What `from_str` stores when it accepts a name. -/
theorem asBytes_fromStr {text : String} {name : BeaconName} (h : fromStr text = some name) :
    name.asBytes = text.toUTF8.data.toList ∧
      1 ≤ text.utf8ByteSize ∧ text.utf8ByteSize ≤ maxBeaconNameLength := by
  unfold fromStr at h
  split at h
  · nomatch h
  next hvalid =>
    simp only [Bool.or_eq_true, String.isEmpty_iff_utf8ByteSize_eq_zero, decide_eq_true_eq,
      not_or] at hvalid
    have hsize : text.toUTF8.data.size ≤ maxBeaconNameLength := Nat.le_of_not_lt hvalid.2
    have hlength : (UInt8.ofNat text.utf8ByteSize).toNat = text.toUTF8.data.size :=
      Nat.mod_eq_of_lt (Nat.lt_of_le_of_lt hsize (by decide))
    rw [← Option.some.inj h]
    refine ⟨?_, by omega, hsize⟩
    rw [asBytes, hlength, extract_padded hsize]

/-- A generated name is ASCII text. -/
theorem asBytes_fromAddress_lt (address : StaticRandomAddress) :
    ∀ b ∈ (fromAddress address).asBytes, b.toNat < 128 := by
  have hhead : ∀ b ∈ generatedBeaconNamePrefix.toList, b.toNat < 128 := by
    simp [generatedBeaconNamePrefix]
  rw [asBytes_fromAddress]
  intro b hb
  obtain hb | hb := List.mem_append.mp hb
  · exact hhead b hb
  · simp only [List.mem_cons, List.not_mem_nil, or_false] at hb
    obtain rfl | rfl | rfl | rfl := hb
    · exact hexadecimalDigit_lt (shiftRight_four_lt _)
    · exact hexadecimalDigit_lt (and_fifteen_lt _)
    · exact hexadecimalDigit_lt (shiftRight_four_lt _)
    · exact hexadecimalDigit_lt (and_fifteen_lt _)

/-- Every name of a beacon is text of one to 29 bytes. -/
theorem Constructed.exists_text {name : BeaconName} (h : name.Constructed) :
    ∃ text : String, text.toUTF8.data.toList = name.asBytes ∧
      1 ≤ name.asBytes.length ∧ name.asBytes.length ≤ maxBeaconNameLength := by
  obtain ⟨text, htext⟩ | ⟨address, rfl⟩ := h
  · obtain ⟨hbytes, hsize⟩ := asBytes_fromStr htext
    refine ⟨text, hbytes.symm, ?_⟩
    rw [hbytes, Array.length_toList]
    exact hsize
  · obtain ⟨text, htext⟩ := exists_text_of_lt (asBytes_fromAddress_lt address)
    refine ⟨text, htext, ?_⟩
    rw [asBytes_fromAddress, maxBeaconNameLength]
    simp

/-- The scanner's type of names takes every name of a beacon as it is. -/
theorem Constructed.localName {name : BeaconName} (h : name.Constructed) :
    ∃ localName, LocalName.fromBytes name.asBytes = some localName ∧
      localName.asBytes = name.asBytes := by
  obtain ⟨text, htext, hpos, hlength⟩ := h.exists_text
  have hne : name.asBytes ≠ [] := List.ne_nil_of_length_pos hpos
  have hread : (String.fromUTF8? ⟨name.asBytes.toArray⟩).isSome = true := by
    rw [← htext, Array.toArray_toList]
    have hself : String.fromUTF8? ⟨text.toUTF8.data⟩ = some text := fromUTF8?_self text
    rw [hself]
    rfl
  have hfrom := LocalName.fromBytes_eq_some_iff.mpr ⟨⟨hne, hlength, hread⟩, rfl⟩
  exact ⟨_, hfrom, LocalName.asBytes_fromBytes hfrom⟩

end BeaconName

/-- `u16::from_be_bytes`. -/
def fromBeBytes (high low : UInt8) : UInt16 := .ofNat (256 * high.toNat + low.toNat)

/-- The minor value of a beacon that has none configured. -/
def defaultMinor (address : StaticRandomAddress) : UInt16 :=
  fromBeBytes (address.bytes.get 4) (address.bytes.get 5)

/-- A generated name shows the default minor value in four hexadecimal digits. -/
def generatedName (minor : UInt16) : String :=
  "Beacon " ++ String.ofList ((hexadecimal 4 minor.toNat).map Char.toUpper)

/-- A digit of a generated name is an upper-case hexadecimal digit. -/
theorem hexadecimalDigit_eq {d : UInt8} (h : d.toNat < 16) :
    hexadecimalDigit d = byteOf (Nat.digitChar d.toNat).toUpper := by
  have hall : ∀ n < 16, hexadecimalDigit (.ofNat n) = byteOf (Nat.digitChar n).toUpper := by
    decide
  have hdigit := hall d.toNat h
  rwa [UInt8.ofNat_toNat] at hdigit

theorem toNat_defaultMinor (address : StaticRandomAddress) :
    (defaultMinor address).toNat =
      256 * (address.bytes.get 4).toNat + (address.bytes.get 5).toNat := by
  have hhigh := (address.bytes.get 4).toNat_lt
  have hlow := (address.bytes.get 5).toNat_lt
  rw [defaultMinor, fromBeBytes, UInt16.toNat_ofNat_of_lt' (by rw [UInt16.size]; omega)]

/-- Four hexadecimal digits show the two bytes of a number. -/
theorem hexadecimal_four {high low : ℕ} (hhigh : high < 256) (hlow : low < 256) :
    hexadecimal 4 (256 * high + low) = [(high / 16).digitChar, (high % 16).digitChar,
      (low / 16).digitChar, (low % 16).digitChar] := by
  have hfirst : (256 * high + low) / 16 / 16 / 16 = high / 16 := by omega
  have hsecond : (256 * high + low) / 16 / 16 % 16 = high % 16 := by omega
  have hthird : (256 * high + low) / 16 % 16 = low / 16 := by omega
  have hfourth : (256 * high + low) % 16 = low % 16 := by omega
  rw [hexadecimal_succ (by omega), hexadecimal_succ (by omega), hexadecimal_succ (by omega),
    hfirst, hsecond, hthird, hfourth, hexadecimal_one (by omega)]
  rfl

theorem byteOf_highDigit (b : UInt8) :
    byteOf (Nat.digitChar (b.toNat / 16)).toUpper = hexadecimalDigit (b >>> 4) := by
  have hshift : (b >>> 4).toNat = b.toNat / 16 := by
    simp [Nat.shiftRight_eq_div_pow]
  rw [hexadecimalDigit_eq (BeaconName.shiftRight_four_lt b), hshift]

theorem byteOf_lowDigit (b : UInt8) :
    byteOf (Nat.digitChar (b.toNat % 16)).toUpper = hexadecimalDigit (b &&& 0x0f) := by
  have hand : (b &&& 0x0f).toNat = b.toNat % 16 := by
    rw [UInt8.toNat_and]
    exact Nat.and_two_pow_sub_one_eq_mod b.toNat 4
  rw [hexadecimalDigit_eq (BeaconName.and_fifteen_lt b), hand]

theorem asBytes_generatedName (address : StaticRandomAddress) :
    (BeaconName.fromAddress address).asBytes =
      (generatedName (defaultMinor address)).toUTF8.data.toList := by
  have htext : (generatedName (defaultMinor address)).toList = "Beacon ".toList ++
      (hexadecimal 4 (defaultMinor address).toNat).map Char.toUpper := by
    rw [generatedName, String.toList_append]
    exact congrArg _ String.toList_ofList
  have hupper : ∀ d < 16, (Nat.digitChar d).toUpper.toNat < 128 := by decide
  have hbeacon : ∀ c ∈ "Beacon ".toList, c.toNat < 128 := by simp
  have hascii : ∀ c ∈ (generatedName (defaultMinor address)).toList, c.toNat < 128 := by
    rw [htext, List.forall_mem_append, List.forall_mem_map]
    refine ⟨hbeacon, ?_⟩
    intro c hc
    obtain ⟨d, hd, rfl⟩ := mem_hexadecimal hc
    exact hupper d hd
  rw [toUTF8_toList, flatMap_utf8EncodeChar hascii, htext, toNat_defaultMinor,
    hexadecimal_four (address.bytes.get 4).toNat_lt (address.bytes.get 5).toNat_lt,
    BeaconName.asBytes_fromAddress]
  simp only [List.map_append, List.map_cons, List.map_nil, byteOf_highDigit, byteOf_lowDigit]
  rfl

/-- The text that a beacon is named by: the one that it was given, or `Beacon ` with the
last two bytes of the address in hexadecimal. -/
def BeaconName.NamedBy (name : BeaconName) (text : String) : Prop :=
  fromStr text = some name ∨ ∃ address, name = fromAddress address ∧
    text = generatedName (.ofNat (256 * (address.bytes.get 4).toNat + (address.bytes.get 5).toNat))

theorem BeaconName.NamedBy.constructed {name : BeaconName} {text : String}
    (h : name.NamedBy text) : name.Constructed := by
  rcases h with htext | ⟨address, hname, -⟩
  · exact .inl ⟨text, htext⟩
  · exact .inr ⟨address, hname⟩

theorem BeaconName.NamedBy.asBytes_eq {name : BeaconName} {text : String} (h : name.NamedBy text) :
    name.asBytes = text.toUTF8.data.toList := by
  rcases h with htext | ⟨address, rfl, rfl⟩
  · exact (asBytes_fromStr htext).1
  · exact asBytes_generatedName address

def leGeneralDiscoverable : UInt8 := 0x02
def brEdrNotSupported : UInt8 := 0x04

/-- The structures that the beacon writes. -/
inductive Written
  | flags (flags : UInt8)
  | manufacturerSpecificData (companyIdentifier : UInt16) (payload : List UInt8)
  | completeLocalName (name : List UInt8)
  deriving DecidableEq

namespace Written

/-- The bytes of a structure in a packet: its length, its type and its data. -/
def size : Written → ℕ
  | flags _ => 2 + 1
  | manufacturerSpecificData _ payload => 2 + (2 + payload.length)
  | completeLocalName name => 2 + name.length

/-- A structure as the scanner sees it. -/
def decoded : Written → AdStructure
  | flags _ => .other
  | manufacturerSpecificData companyIdentifier payload =>
      .manufacturerSpecificData companyIdentifier payload
  | completeLocalName name => .completeLocalName name

/-- There is data behind the type. Only the name may lack it, if it is empty. -/
def HasData : Written → Prop
  | completeLocalName name => name ≠ []
  | _ => True

/-- The length of a packet with some structures. -/
def totalSize (structures : List Written) : ℕ := (structures.map size).sum

end Written

/-- The host stack's codec. Encoding fills the front of a buffer and gives the
number of bytes, or fails. -/
structure AdCodec where
  encodeSlice : List Written → Vector UInt8 packetCapacity →
    Option (Vector UInt8 packetCapacity × ℕ)
  decode : List UInt8 → List AdStructure

/-- Structures that fit into the buffer are encoded. -/
structure AdCodec.EncodesFitting (codec : AdCodec) : Prop where
  encodes : ∀ structures buffer, Written.totalSize structures ≤ packetCapacity →
    ∃ buffer', codec.encodeSlice structures buffer = some (buffer', Written.totalSize structures)

/-- What both firmware images rely on: what fits is encoded, and decoding gives exactly
the structures that were encoded. A structure without data is not decoded. -/
structure AdCodec.Documented (codec : AdCodec) : Prop extends codec.EncodesFitting where
  decodes : ∀ structures buffer buffer' length, (∀ w ∈ structures, w.HasData) →
    codec.encodeSlice structures buffer = some (buffer', length) →
      codec.decode (buffer'.toArray.extract 0 length).toList = structures.map Written.decoded

/-- The structures of the advertisement. -/
def advertisedStructures (frame : IBeacon) : List Written :=
  [.flags (leGeneralDiscoverable ||| brEdrNotSupported),
    .manufacturerSpecificData ibeaconCompanyIdentifier frame.manufacturerPayload.toList]

/-- The two packets that `advertise_forever` hands to the controller. It gives up
with a message if a packet cannot be encoded. -/
def advertisedPackets (codec : AdCodec) (name : BeaconName) (frame : IBeacon) :
    Option (Except String (List UInt8 × List UInt8)) :=
  match codec.encodeSlice (advertisedStructures frame) (.replicate _ 0) with
  | none => some (.error "embedded-sdk beacon payload encoding failed")
  | some (advertisingData, length) =>
      match codec.encodeSlice [.completeLocalName name.asBytes] (.replicate _ 0) with
      | none => some (.error "embedded-sdk beacon scan response encoding failed")
      | some (scanResponseData, scanResponseLength) => do
          let advertisement ← front? advertisingData length
          let scanResponse ← front? scanResponseData scanResponseLength
          some (.ok (advertisement.toList, scanResponse.toList))

theorem totalSize_advertised (frame : IBeacon) :
    Written.totalSize (advertisedStructures frame) = 30 := by
  have hpayload : frame.manufacturerPayload.toList.length = 23 := Vector.length_toList
  simp [Written.totalSize, advertisedStructures, Written.size, hpayload]

theorem totalSize_scanResponse (name : BeaconName) :
    Written.totalSize [.completeLocalName name.asBytes] = 2 + name.asBytes.length := by
  simp [Written.totalSize, Written.size]

/-- Encoding what fits and slicing the buffer gives a packet. -/
theorem AdCodec.EncodesFitting.packet {codec : AdCodec} (h : codec.EncodesFitting)
    (structures : List Written) (buffer : Vector UInt8 packetCapacity)
    (hsize : Written.totalSize structures ≤ packetCapacity) :
    ∃ buffer' packet, codec.encodeSlice structures buffer =
        some (buffer', Written.totalSize structures) ∧
      front? buffer' (Written.totalSize structures) = some packet ∧
      packet = buffer'.toArray.extract 0 (Written.totalSize structures) ∧
      packet.size = Written.totalSize structures := by
  obtain ⟨buffer', hencode⟩ := h.encodes structures buffer hsize
  refine ⟨buffer', _, hencode, if_pos hsize, rfl, ?_⟩
  simp [hsize]

/-- The packet is decoded into its structures. -/
theorem AdCodec.Documented.packet {codec : AdCodec} (h : codec.Documented)
    {structures : List Written} (hdata : ∀ w ∈ structures, w.HasData)
    (buffer : Vector UInt8 packetCapacity)
    (hsize : Written.totalSize structures ≤ packetCapacity) :
    ∃ buffer' packet, codec.encodeSlice structures buffer =
        some (buffer', Written.totalSize structures) ∧
      front? buffer' (Written.totalSize structures) = some packet ∧
      packet.size = Written.totalSize structures ∧
      codec.decode packet.toList = structures.map Written.decoded := by
  obtain ⟨buffer', packet, hencode, hfront, rfl, hpacket⟩ :=
    h.toEncodesFitting.packet structures buffer hsize
  exact ⟨buffer', _, hencode, hfront, hpacket,
    h.decodes structures buffer buffer' _ hdata hencode⟩

theorem AdCodec.Documented.decode_nil {codec : AdCodec} (h : codec.Documented) :
    codec.decode [] = [] := by
  obtain ⟨buffer, packet, -, -, hsize, hdecode⟩ :=
    h.packet (List.forall_mem_nil _) (.replicate _ 0) (Nat.zero_le _)
  rw [Array.eq_empty_of_size_eq_zero hsize] at hdecode
  exact hdecode

theorem hasData_advertised (frame : IBeacon) : ∀ w ∈ advertisedStructures frame, w.HasData := by
  simp [advertisedStructures, Written.HasData]

/-- Both packets of every beacon fit and are decoded into what was put into them. -/
theorem AdCodec.Documented.packets {codec : AdCodec} (h : codec.Documented) {name : BeaconName}
    (hname : name.Constructed) (frame : IBeacon) :
    ∃ advertisement scanResponse,
      advertisedPackets codec name frame = some (.ok (advertisement, scanResponse)) ∧
      advertisement.length ≤ 31 ∧ scanResponse.length ≤ 31 ∧
      codec.decode advertisement = (advertisedStructures frame).map Written.decoded ∧
      codec.decode scanResponse = [.completeLocalName name.asBytes] := by
  obtain ⟨-, -, hpos, hlength⟩ := hname.exists_text
  have hresponseData : ∀ w ∈ [Written.completeLocalName name.asBytes], w.HasData := by
    rw [List.forall_mem_singleton]
    exact List.ne_nil_of_length_pos hpos
  have hadvertised := totalSize_advertised frame
  have hresponse := totalSize_scanResponse name
  rw [maxBeaconNameLength] at hlength
  obtain ⟨buffer, advertisement, hencode, hfront, hsize, hdecode⟩ :=
    h.packet (hasData_advertised frame) (.replicate _ 0)
      (by rw [hadvertised, packetCapacity]; omega)
  obtain ⟨buffer', scanResponse, hencode', hfront', hsize', hdecode'⟩ :=
    h.packet hresponseData (.replicate _ 0)
      (by rw [hresponse, packetCapacity]; omega)
  refine ⟨advertisement.toList, scanResponse.toList, ?_, ?_, ?_, hdecode, hdecode'⟩
  · simp only [advertisedPackets, hencode, hencode', hfront, hfront', bind, Option.bind]
  · rw [Array.length_toList, hsize, hadvertised]
    omega
  · rw [Array.length_toList, hsize', hresponse]
    omega

/-- What the scanner reads off the advertisement: Apple's company and an iBeacon. -/
theorem parse_advertised (frame : IBeacon) :
    AdvertisementMetadata.parse ((advertisedStructures frame).map Written.decoded) =
      ⟨none, some 0x004c, ⟨false, beaconFormatIbeacon⟩⟩ := by
  have hlength : frame.manufacturerPayload.toList.length = 23 := Vector.length_toList
  have hibeacon : [0x02, 0x15].isPrefixOf frame.manufacturerPayload.toList = true := by
    rw [IBeacon.manufacturerPayload_toList]
    rfl
  simp [advertisedStructures, Written.decoded, AdvertisementMetadata.parse,
    AdvertisementMetadata.parseStructure, AdvertisementMetadata.addFormats,
    ibeaconCompanyIdentifier, hlength, hibeacon]

theorem parse_scanResponse (name : BeaconName) :
    AdvertisementMetadata.parse [.completeLocalName name.asBytes] =
      ⟨LocalName.fromBytes name.asBytes, none, {}⟩ := rfl

/-- An entry that shows a beacon named by this text. -/
structure ShowsBeacon (text : String) (entry : DeviceEntry) : Prop where
  name : ∃ localName, entry.name = some localName ∧
    localName.asBytes = text.toUTF8.data.toList
  manufacturer : entry.manufacturer = some 0x004c
  formats : entry.beacon.formats = beaconFormatIbeacon
  feasycom : entry.beacon.feasycom = false

theorem showsBeacon_of_metadata {text : String} {localName : LocalName} {e : DeviceEntry}
    (hname : localName.asBytes = text.toUTF8.data.toList)
    (h : e.metadata = ⟨some localName, some 0x004c, ⟨false, beaconFormatIbeacon⟩⟩) :
    ShowsBeacon text e where
  name := ⟨localName, congrArg AdvertisementMetadata.name h, hname⟩
  manufacturer := congrArg AdvertisementMetadata.manufacturer h
  formats := congrArg (fun m => m.beacon.formats) h
  feasycom := congrArg (fun m => m.beacon.feasycom) h

/-- Two reports that together hold the name and the frame of a beacon make the entry
of a new address show it. -/
theorem exists_showsBeacon {events : List Event} {a : Address}
    (hnew : ¬ (DeviceRegistry.after events).IsLive a) {text : String} {localName : LocalName}
    (hname : localName.asBytes = text.toUTF8.data.toList) {first second : AdvertisementMetadata}
    (htogether : first.accumulate second =
      ⟨some localName, some 0x004c, ⟨false, beaconFormatIbeacon⟩⟩)
    (rssi rssi' : Int8) (now now' : ℕ) :
    ∃ e, (((DeviceRegistry.after events).record a rssi first now).record a rssi' second
        now').entryOf a = some e ∧ ShowsBeacon text e := by
  have hd := DeviceRegistry.after_distinct events
  obtain ⟨e, he, hmetadata⟩ :=
    DeviceRegistry.entryOf_record_twice hd a rssi rssi' first second now now'
  rw [DeviceRegistry.known_of_not_isLive hnew, AdvertisementMetadata.empty_accumulate,
    htogether] at hmetadata
  exact ⟨e, he, showsBeacon_of_metadata hname hmetadata⟩

/-- Both packets of every beacon fit, and whichever the scanner hears first, it shows
the text that the beacon is named by, its company and its format. Different frames
have different payloads. -/
theorem scanner_agrees_with_beacon {codec : AdCodec} (hcodec : codec.Documented) :
    (∀ (name : BeaconName) (text : String) (frame : IBeacon), name.NamedBy text →
      ∃ advertisement scanResponse,
        advertisedPackets codec name frame = some (.ok (advertisement, scanResponse)) ∧
        advertisement.length ≤ 31 ∧ scanResponse.length ≤ 31 ∧
        ∀ (events : List Event) (a : Address), ¬ (DeviceRegistry.after events).IsLive a →
          ∀ (rssi rssi' : Int8) (now now' : ℕ),
            (∃ e, (((DeviceRegistry.after events).record a rssi
                (AdvertisementMetadata.parse (codec.decode advertisement)) now).record a rssi'
                (AdvertisementMetadata.parse (codec.decode scanResponse)) now').entryOf a = some e ∧
              ShowsBeacon text e) ∧
            ∃ e, (((DeviceRegistry.after events).record a rssi
                (AdvertisementMetadata.parse (codec.decode scanResponse)) now).record a rssi'
                (AdvertisementMetadata.parse (codec.decode advertisement)) now').entryOf a =
                  some e ∧
              ShowsBeacon text e) ∧
    ∀ frame other : IBeacon, frame.manufacturerPayload = other.manufacturerPayload →
      frame = other := by
  refine ⟨?_, fun _ _ => IBeacon.manufacturerPayload_inj⟩
  intro name text frame hname
  obtain ⟨localName, hlocal, hbytes⟩ := hname.constructed.localName
  rw [hname.asBytes_eq] at hbytes
  obtain ⟨advertisement, scanResponse, hpackets, hfits, hfits', hdecode, hdecode'⟩ :=
    hcodec.packets hname.constructed frame
  refine ⟨advertisement, scanResponse, hpackets, hfits, hfits', ?_⟩
  intro events a hnew rssi rssi' now now'
  rw [hdecode, hdecode', parse_advertised, parse_scanResponse, hlocal]
  constructor
  · apply exists_showsBeacon hnew hbytes
    simp [AdvertisementMetadata.accumulate]
  · apply exists_showsBeacon hnew hbytes
    simp [AdvertisementMetadata.accumulate]

section LengthTypeData

/-- A structure as its length, its type and its data. -/
def tlv : Written → List UInt8
  | .flags flags => [2, 0x01, flags]
  | .manufacturerSpecificData companyIdentifier payload =>
      .ofNat (3 + payload.length) :: 0xff :: companyIdentifier.toUInt8 ::
        (companyIdentifier >>> 8).toUInt8 :: payload
  | .completeLocalName name => .ofNat (1 + name.length) :: 0x09 :: name

def readTlv : UInt8 → List UInt8 → AdStructure
  | 0x08, name => .shortenedLocalName name
  | 0x09, name => .completeLocalName name
  | 0x16, low :: high :: data => .serviceData16 (low, high) data
  | 0xff, low :: high :: payload =>
      .manufacturerSpecificData (.ofNat (low.toNat + 256 * high.toNat)) payload
  | _, _ => .other

/-- Reads structures until the data ends or does not hold the next one. -/
def decodeTlv : ℕ → List UInt8 → List AdStructure
  | fuel + 1, length :: kind :: rest =>
      if length < 2 ∨ rest.length + 1 < length.toNat then []
      else readTlv kind (rest.take (length.toNat - 1)) ::
        decodeTlv fuel (rest.drop (length.toNat - 1))
  | _, _ => []

/-- The codec of the Bluetooth core specification. -/
def tlvCodec : AdCodec where
  encodeSlice structures buffer :=
    let bytes := (structures.flatMap tlv).toArray
    (copyFront? buffer bytes).map fun buffer => (buffer, bytes.size)
  decode bytes := decodeTlv bytes.length bytes

theorem length_tlv (w : Written) : (tlv w).length = w.size := by
  cases w with
  | flags flags => rfl
  | manufacturerSpecificData companyIdentifier payload =>
      simp [tlv, Written.size]
      omega
  | completeLocalName name =>
      simp [tlv, Written.size]
      omega

theorem length_flatMap_tlv (structures : List Written) :
    (structures.flatMap tlv).length = Written.totalSize structures := by
  induction structures with
  | nil => rfl
  | cons w structures ih =>
      rw [List.flatMap_cons, List.length_append, length_tlv, ih, Written.totalSize,
        Written.totalSize, List.map_cons, List.sum_cons]

theorem ofNat_lowHigh (companyIdentifier : UInt16) :
    UInt16.ofNat (companyIdentifier.toUInt8.toNat + 256 * (companyIdentifier >>> 8).toUInt8.toNat) =
      companyIdentifier := by
  have hlt := companyIdentifier.toNat_lt
  have hlow : companyIdentifier.toUInt8.toNat = companyIdentifier.toNat % 256 := by simp
  have hhigh : (companyIdentifier >>> 8).toUInt8.toNat = companyIdentifier.toNat / 256 % 256 := by
    simp [Nat.shiftRight_eq_div_pow]
  apply UInt16.toNat_inj.mp
  rw [UInt16.toNat_ofNat', hlow, hhigh]
  omega

/-- The length in front of a structure leads to the next one. -/
theorem decodeTlv_cons {data : List UInt8} (hdata : data ≠ []) (h : 1 + data.length < 256)
    (kind : UInt8) (fuel : ℕ) (rest : List UInt8) :
    decodeTlv (fuel + 1) (.ofNat (1 + data.length) :: kind :: (data ++ rest)) =
      readTlv kind data :: decodeTlv fuel rest := by
  have hlength : (UInt8.ofNat (1 + data.length)).toNat = 1 + data.length := Nat.mod_eq_of_lt h
  have hpos := List.length_pos_iff.mpr hdata
  have htwo : ¬ UInt8.ofNat (1 + data.length) < 2 := by
    rw [UInt8.lt_iff_toNat_lt, hlength]
    simp only [UInt8.reduceToNat]
    omega
  have hbehind : 1 + data.length - 1 = data.length := by omega
  rw [decodeTlv, hlength, hbehind, List.take_left, List.drop_left, if_neg]
  simp only [htwo, List.length_append, false_or]
  omega

/-- One structure in front of others is read as it was written. -/
theorem decodeTlv_append {w : Written} (hdata : w.HasData) (h : w.size ≤ packetCapacity)
    (fuel : ℕ) (rest : List UInt8) :
    decodeTlv (fuel + 1) (tlv w ++ rest) = w.decoded :: decodeTlv fuel rest := by
  cases w with
  | flags flags => exact decodeTlv_cons (List.cons_ne_nil flags []) (by simp) 0x01 fuel rest
  | manufacturerSpecificData companyIdentifier payload =>
      let data := companyIdentifier.toUInt8 :: (companyIdentifier >>> 8).toUInt8 :: payload
      have hcount : 1 + data.length = 3 + payload.length := by
        simp only [data, List.length_cons]
        omega
      have hlength : 1 + data.length < 256 := by
        rw [Written.size, packetCapacity] at h
        omega
      have hread := decodeTlv_cons (List.cons_ne_nil _ _) hlength 0xff fuel rest
      rw [hcount] at hread
      refine hread.trans ?_
      rw [Written.decoded, readTlv, ofNat_lowHigh]
  | completeLocalName name =>
      have hlength : 1 + name.length < 256 := by
        rw [Written.size, packetCapacity] at h
        omega
      exact decodeTlv_cons hdata hlength 0x09 fuel rest

theorem decodeTlv_flatMap {structures : List Written} (hdata : ∀ w ∈ structures, w.HasData)
    (h : Written.totalSize structures ≤ packetCapacity) {fuel : ℕ}
    (hfuel : structures.length ≤ fuel) :
    decodeTlv fuel (structures.flatMap tlv) = structures.map Written.decoded := by
  induction structures generalizing fuel with
  | nil => cases fuel <;> rfl
  | cons w structures ih =>
      rw [List.forall_mem_cons] at hdata
      rw [Written.totalSize, List.map_cons, List.sum_cons, ← Written.totalSize] at h
      cases fuel with
      | zero => simp at hfuel
      | succ fuel =>
          rw [List.flatMap_cons, decodeTlv_append hdata.1 (by omega), List.map_cons,
            ih hdata.2 (by omega) (by simpa using hfuel)]

theorem length_le_totalSize (structures : List Written) :
    structures.length ≤ Written.totalSize structures := by
  induction structures with
  | nil => exact Nat.zero_le _
  | cons w structures ih =>
      have hw : 1 ≤ w.size := by
        cases w <;> simp only [Written.size] <;> omega
      rw [Written.totalSize, List.map_cons, List.sum_cons, ← Written.totalSize, List.length_cons]
      omega

theorem size_flatMap_tlv (structures : List Written) :
    (structures.flatMap tlv).toArray.size = Written.totalSize structures := by
  rw [List.size_toArray, length_flatMap_tlv]

theorem tlvCodec_documented : tlvCodec.Documented where
  encodes := by
    intro structures buffer hsize
    rw [← size_flatMap_tlv] at hsize
    obtain ⟨buffer', hcopy, -⟩ := exists_copyFront? buffer hsize
    refine ⟨buffer', ?_⟩
    simp only [tlvCodec, hcopy, Option.map_some, size_flatMap_tlv]
  decodes := by
    intro structures buffer buffer' length hdata h
    obtain ⟨storage, hcopy, hpair⟩ := Option.map_eq_some_iff.mp h
    cases hpair
    have hsize := size_le_of_copyFront? hcopy
    obtain ⟨storage', hcopy', hfront⟩ := exists_copyFront? buffer hsize
    rw [hcopy, Option.some.injEq] at hcopy'
    subst hcopy'
    rw [(extract_of_front? hfront).2]
    rw [size_flatMap_tlv] at hsize
    apply decodeTlv_flatMap hdata hsize
    rw [List.toList_toArray, length_flatMap_tlv]
    exact length_le_totalSize structures

/-- A frame with the settings that a board has by default. -/
def sampleFrame : IBeacon where
  uuid := ⟨#v[0x7a, 0x1e, 0x10, 0x00, 0x4c, 0x2a, 0x4f, 0x66, 0xa1, 0xd4, 0x3f, 0x55, 0xb5, 0x5a,
    0x10, 0x00]⟩
  major := 1
  minor := 0x5060
  measuredPower := -59

def sampleName : BeaconName :=
  .fromAddress (.fromSeed #v[0x10, 0x20, 0x30, 0x40, 0x50, 0x60])

theorem sampleBeacon_shown :
    tlvCodec.Documented ∧ ∃ advertisement scanResponse e,
      advertisedPackets tlvCodec sampleName sampleFrame =
          some (.ok (advertisement, scanResponse)) ∧
      (((DeviceRegistry.after []).record ⟨1, #v[0x60, 0x50, 0x40, 0x30, 0x20, 0xd0]⟩ (-50)
          (AdvertisementMetadata.parse (tlvCodec.decode advertisement)) 0).record
          ⟨1, #v[0x60, 0x50, 0x40, 0x30, 0x20, 0xd0]⟩ (-50)
          (AdvertisementMetadata.parse (tlvCodec.decode scanResponse)) 1).entryOf
          ⟨1, #v[0x60, 0x50, 0x40, 0x30, 0x20, 0xd0]⟩ = some e ∧
      ShowsBeacon "Beacon 5060" e := by
  have hname : sampleName.NamedBy "Beacon 5060" := .inr ⟨_, rfl, by decide +kernel⟩
  obtain ⟨advertisement, scanResponse, hpackets, -, -, hshown⟩ :=
    (scanner_agrees_with_beacon tlvCodec_documented).1 sampleName _ sampleFrame hname
  obtain ⟨⟨e, he, hbeacon⟩, -⟩ :=
    hshown [] ⟨1, #v[0x60, 0x50, 0x40, 0x30, 0x20, 0xd0]⟩ (by decide) (-50) (-50) 0 1
  exact ⟨tlvCodec_documented, advertisement, scanResponse, e, hpackets, he, hbeacon⟩

end LengthTypeData

end EmbeddedSdk.Beacon
