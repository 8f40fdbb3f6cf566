import EmbeddedSdk.PaddedBytes

/-!
# What the beacon scanner reads off an advertisement

The host stack decodes an advertisement into structures and drops those that it
cannot decode. The scanner keeps a name, a company identifier and the beacon
formats that it recognises.
-/
namespace EmbeddedSdk.Scanner
open PaddedBytes

def localNameCapacity : ℕ := 29

def beaconFormatIbeacon : UInt8 := 1
def beaconFormatEddystoneUid : UInt8 := 2
def beaconFormatEddystoneUrl : UInt8 := 4
def beaconFormatEddystoneTlm : UInt8 := 8
def beaconFormatEddystoneEid : UInt8 := 16
def beaconFormatAltbeacon : UInt8 := 32

/-- The address of an advertiser, as the controller reports it. -/
structure Address where
  kind : UInt8
  addr : Vector UInt8 6
  deriving DecidableEq

/-- An advertised name in fixed storage. -/
structure LocalName where
  bytes : Vector UInt8 localNameCapacity
  len : UInt8
  deriving DecidableEq

namespace LocalName

/-- Copies a name that is UTF-8 text of one to 29 bytes. -/
def fromBytes (value : List UInt8) : Option LocalName :=
  if value.isEmpty || decide (value.length > localNameCapacity) ||
      (String.fromUTF8? ⟨value.toArray⟩).isNone then
    none
  else some ⟨Vector.ofFn fun i => value.getD i 0, .ofNat value.length⟩

/-- The stored prefix as text, or the empty string if it is not UTF-8. -/
def asStr (name : LocalName) : String :=
  (String.fromUTF8? ⟨name.bytes.toArray.extract 0 name.len.toNat⟩).getD ""

/-- The bytes that were stored. -/
def asBytes (name : LocalName) : List UInt8 :=
  (name.bytes.toArray.extract 0 name.len.toNat).toList

theorem padded_toArray (value : List UInt8) :
    padded localNameCapacity 0 value.toArray = Vector.ofFn fun i => value.getD i 0 := by
  ext i hi
  simp [padded]

/-- A name is usable when it is text of one to 29 bytes. -/
theorem fromBytes_eq_some_iff {value : List UInt8} {name : LocalName} :
    fromBytes value = some name ↔
      (value ≠ [] ∧ value.length ≤ localNameCapacity ∧
        (String.fromUTF8? ⟨value.toArray⟩).isSome = true) ∧
      name = ⟨padded localNameCapacity 0 value.toArray, .ofNat value.length⟩ := by
  unfold fromBytes
  rw [padded_toArray]
  constructor
  · intro h
    split at h
    · nomatch h
    · next hvalid =>
      simp only [Bool.or_eq_true, not_or, List.isEmpty_iff, decide_eq_true_eq, Nat.not_lt,
        Bool.not_eq_true, Option.isNone_eq_false_iff, and_assoc] at hvalid
      exact ⟨hvalid, (Option.some.inj h).symm⟩
  · rintro ⟨⟨hne, hlength, htext⟩, hname⟩
    rw [if_neg, hname]
    simp only [Bool.or_eq_true, not_or, List.isEmpty_iff, decide_eq_true_eq, Nat.not_lt,
      Bool.not_eq_true, Option.isNone_eq_false_iff, and_assoc]
    exact ⟨hne, hlength, htext⟩

theorem isCopy_fromBytes {value : List UInt8} {name : LocalName}
    (h : fromBytes value = some name) : IsCopy 0 value.toArray name.bytes name.len.toNat := by
  obtain ⟨⟨-, hlength, -⟩, hname⟩ := fromBytes_eq_some_iff.mp h
  have hcast : value.length < 256 := Nat.lt_of_le_of_lt hlength (by decide)
  have hlen : name.len.toNat = value.toArray.size := by
    rw [hname]
    exact Nat.mod_eq_of_lt hcast
  rw [hlen, hname]
  exact isCopy_padded hlength

/-- A name keeps its bytes. -/
theorem asBytes_fromBytes {value : List UInt8} {name : LocalName}
    (h : fromBytes value = some name) : name.asBytes = value := by
  rw [asBytes, (isCopy_fromBytes h).extract_eq]

/-- A name is shown as the text that its bytes are. -/
theorem toUTF8_asStr {value : List UInt8} {name : LocalName}
    (h : fromBytes value = some name) : name.asStr.toUTF8.data.toList = value := by
  obtain ⟨⟨-, -, htext⟩, -⟩ := fromBytes_eq_some_iff.mp h
  obtain ⟨text, htext⟩ := Option.isSome_iff_exists.mp htext
  rw [asStr, (isCopy_fromBytes h).extract_eq, htext, Option.getD_some, toUTF8_eq_of_read htext]

end LocalName

/-- The beacon formats seen in the advertisements of one device. -/
structure BeaconMetadata where
  feasycom : Bool := false
  formats : UInt8 := 0
  deriving DecidableEq

namespace BeaconMetadata

def merge (self other : BeaconMetadata) : BeaconMetadata where
  feasycom := self.feasycom || other.feasycom
  formats := self.formats ||| other.formats

def isBeacon (self : BeaconMetadata) : Bool := self.feasycom || self.formats != 0

@[simp] theorem empty_merge (b : BeaconMetadata) : merge {} b = b := by
  simp [merge]

end BeaconMetadata

/-- A decoded structure of an advertisement. -/
inductive AdStructure
  | completeLocalName (name : List UInt8)
  | shortenedLocalName (name : List UInt8)
  | serviceData16 (uuid : UInt8 × UInt8) (data : List UInt8)
  | manufacturerSpecificData (companyIdentifier : UInt16) (payload : List UInt8)
  | other

/-- What the scanner keeps of one advertisement. -/
structure AdvertisementMetadata where
  name : Option LocalName := none
  manufacturer : Option UInt16 := none
  beacon : BeaconMetadata := {}
  deriving DecidableEq

namespace AdvertisementMetadata

def addFormats (metadata : AdvertisementMetadata) (formats : UInt8) : AdvertisementMetadata :=
  { metadata with
    beacon := { metadata.beacon with formats := metadata.beacon.formats ||| formats } }

def setFeasycom (metadata : AdvertisementMetadata) : AdvertisementMetadata :=
  { metadata with beacon := { metadata.beacon with feasycom := true } }

/-- The Eddystone format that the first byte of service data stands for. -/
def eddystoneFormat (data : List UInt8) : UInt8 :=
  match data.head? with
  | some 0x00 => beaconFormatEddystoneUid
  | some 0x10 => beaconFormatEddystoneUrl
  | some 0x20 => beaconFormatEddystoneTlm
  | some 0x30 => beaconFormatEddystoneEid
  | _ => 0

/-- The body of the loop of `parse`. The service UUID 0xFFF0 is Feasycom's
general frame, 0xFEAA is Eddystone's; both are sent low byte first. -/
def parseStructure (metadata : AdvertisementMetadata) :
    AdStructure → AdvertisementMetadata
  | .completeLocalName name | .shortenedLocalName name =>
      { metadata with name := LocalName.fromBytes name }
  | .serviceData16 (0xf0, 0xff) data =>
      if data.length ≥ 11 then metadata.setFeasycom else metadata
  | .serviceData16 (0xaa, 0xfe) data => metadata.addFormats (eddystoneFormat data)
  | .manufacturerSpecificData companyIdentifier payload =>
      let metadata := { metadata with manufacturer := some companyIdentifier }
      let metadata :=
        if companyIdentifier = 0x004c ∧ payload.length ≥ 23 ∧
            [0x02, 0x15].isPrefixOf payload then
          metadata.addFormats beaconFormatIbeacon
        else metadata
      let metadata :=
        if payload.length ≥ 24 ∧ [0xbe, 0xac].isPrefixOf payload then
          metadata.addFormats beaconFormatAltbeacon
        else metadata
      if companyIdentifier = 0xfff0 then metadata.setFeasycom else metadata
  | _ => metadata

def parse (structures : List AdStructure) : AdvertisementMetadata :=
  structures.foldl parseStructure {}

end AdvertisementMetadata

end EmbeddedSdk.Scanner
