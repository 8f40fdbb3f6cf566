import EmbeddedSdk.BeaconFirmware
import EmbeddedSdk.CheckedInputs
import EmbeddedSdk.MqttFixture

/-!
# The settings of the beacon firmware

Seven optional inputs are fixed at build time. Each is a text that has to spell a
value; an absent one leaves a default, which may come from the address of the
radio. The first input that is not accepted decides the error, and the settings
mean what the texts say.
-/
namespace EmbeddedSdk.Beacon
open AsciiText Bluetooth CheckedInputs MqttFixture TextColumns

def defaultBeaconUuid : String := "7a1e1000-4c2a-4f66-a1d4-3f55b55a1000"
def defaultBeaconMajor : UInt16 := 1
def defaultMeasuredPowerDbm : Int8 := -59
def defaultRadioTxPowerDbm : Int8 := 9
def defaultAdvertisingIntervalMs : UInt16 := AdvertisingInterval.minMillis

/-- The controller's transmit powers, by their names in the radio driver. -/
inductive ControllerTxPower
  | N15 | N12 | N9 | N6 | N3 | N0 | P3 | P6 | P9 | P12 | P15 | P18 | P20
  deriving DecidableEq

/-- The inputs of `beacon_settings`. -/
structure BeaconInputs where
  name : Option String := none
  uuid : Option String := none
  major : Option String := none
  minor : Option String := none
  measuredPowerDbm : Option String := none
  intervalMs : Option String := none
  radioTxPowerDbm : Option String := none
  deriving DecidableEq

structure BeaconSettings where
  name : BeaconName
  frame : IBeacon
  interval : AdvertisingInterval
  radioTxPower : ControllerTxPower
  radioTxPowerDbm : Int8
  deriving DecidableEq

inductive SettingsError
  | invalidUuid
  | invalidName
  | invalidMajor
  | invalidMinor
  | invalidMeasuredPower
  | invalidAdvertisingInterval
  | unsupportedRadioTxPower
  deriving DecidableEq

def SettingsError.display : SettingsError → String
  | .invalidUuid => "BEACON_UUID must use canonical 8-4-4-4-12 hexadecimal UUID syntax"
  | .invalidName => "BEACON_NAME must contain between 1 and 29 UTF-8 bytes"
  | .invalidMajor => "BEACON_MAJOR must be an integer from 0 through 65535"
  | .invalidMinor => "BEACON_MINOR must be an integer from 0 through 65535"
  | .invalidMeasuredPower => "BEACON_MEASURED_POWER_DBM must be an integer from -128 through 127"
  | .invalidAdvertisingInterval => "BEACON_INTERVAL_MS must be an integer from 20 through 10240"
  | .unsupportedRadioTxPower =>
      "BEACON_RADIO_TX_POWER_DBM must be one of -15,-12,-9,-6,-3,0,3,6,9,12,15,18,20"

/-- One digit of a number in the loop of `i8::from_str`. The digits of a negative
number are subtracted. -/
def addDigitI8 (negative : Bool) (value : ℤ) (digit : Char) : Option ℤ :=
  if digit.isDigit then
    let digit := (digit.toNat - '0'.toNat : ℕ)
    let value := if negative then value * 10 - digit else value * 10 + digit
    if -128 ≤ value ∧ value ≤ 127 then some value else none
  else none

/-- `str::parse::<i8>`: an optional sign and at least one digit. -/
def parseI8 (text : String) : Option Int8 :=
  let (negative, digits) := match text.toList with
    | '-' :: digits => (true, digits)
    | '+' :: digits => (false, digits)
    | digits => (false, digits)
  if digits.isEmpty then none else (digits.foldlM (addDigitI8 negative) 0).map .ofInt

/-- A computation that panics, fails with a settings error, or goes on. -/
abbrev Checked := ExceptT SettingsError Option

/-- `map_err(|_| error)?`. -/
def orError {ε α : Type} (error : SettingsError) (result : Except ε α) : Checked α :=
  .mk (some (result.mapError fun _ => error))

def parseOptional {α : Type} (parse : String → Option α) (value : Option String) (default : α)
    (error : SettingsError) : Checked α :=
  match value with
  | some value => orError error ((parse value).elim (.error ()) .ok)
  | none => pure default

def controllerTxPower (dbm : Int8) : Except SettingsError ControllerTxPower :=
  if dbm = -15 then .ok .N15
  else if dbm = -12 then .ok .N12
  else if dbm = -9 then .ok .N9
  else if dbm = -6 then .ok .N6
  else if dbm = -3 then .ok .N3
  else if dbm = 0 then .ok .N0
  else if dbm = 3 then .ok .P3
  else if dbm = 6 then .ok .P6
  else if dbm = 9 then .ok .P9
  else if dbm = 12 then .ok .P12
  else if dbm = 15 then .ok .P15
  else if dbm = 18 then .ok .P18
  else if dbm = 20 then .ok .P20
  else .error .unsupportedRadioTxPower

/-- The configured name, or one from the address. -/
def selectedName (name : Option String) (address : StaticRandomAddress) : Checked BeaconName :=
  match name with
  | some name => orError .invalidName ((BeaconName.fromStr name).elim (.error ()) .ok)
  | none => pure (.fromAddress address)

def beaconSettings (inputs : BeaconInputs) (address : StaticRandomAddress) :
    Checked BeaconSettings := do
  let name ← selectedName inputs.name address
  let parsed ← ExceptT.lift (BeaconUuid.parse (inputs.uuid.getD defaultBeaconUuid))
  let uuid ← orError .invalidUuid parsed
  let major ← parseOptional parseU16 inputs.major defaultBeaconMajor .invalidMajor
  let minor ← parseOptional parseU16 inputs.minor (defaultMinor address) .invalidMinor
  let measuredPower ← parseOptional parseI8 inputs.measuredPowerDbm defaultMeasuredPowerDbm
    .invalidMeasuredPower
  let intervalMillis ← parseOptional parseU16 inputs.intervalMs defaultAdvertisingIntervalMs
    .invalidAdvertisingInterval
  let interval ← orError .invalidAdvertisingInterval (AdvertisingInterval.fromMillis intervalMillis)
  let radioTxPowerDbm ← parseOptional parseI8 inputs.radioTxPowerDbm defaultRadioTxPowerDbm
    .unsupportedRadioTxPower
  let radioTxPower ← ExceptT.mk (some (controllerTxPower radioTxPowerDbm))
  return ⟨name, ⟨uuid, major, minor, measuredPower⟩, interval, radioTxPower, radioTxPowerDbm⟩

section Numbers

theorem digitValue_of_isDigit {c : Char} (h : c.isDigit = true) :
    digitValue c = c.toNat - '0'.toNat := if_pos h

/-- The digits of a 16-bit number. -/
theorem foldlM_addDigit_eq_some_iff {digits : List Char} {v : UInt16} :
    (digits.foldlM addDigit 0).map UInt16.ofNat = some v ↔
      (∀ c ∈ digits, c.isDigit = true) ∧ (v.toNat : ℤ) = readDigits 10 digits := by
  have hfold : ∀ n, digits.foldlM addDigit 0 = some n ↔ (∀ c ∈ digits, c.isDigit = true) ∧
      n < 65536 ∧ n = digits.foldl (fun value c => value * 10 + (c.toNat - '0'.toNat)) 0 :=
    fun n => foldlM_guardedStep_eq_some_iff (fun n => n < 65536)
      (fun b a _ h => by omega) (by omega)
  have hread : (∀ c ∈ digits, c.isDigit = true) →
      digits.foldl (fun value c => value * 10 + (c.toNat - '0'.toNat)) 0 =
        readDigits 10 digits := by
    intro hall
    rw [foldl_eq_mul_readDigits 1 _ hall, one_mul, Nat.cast_id]
    intro value c hc
    rw [one_mul, Nat.cast_id, digitValue_of_isDigit hc]
  rw [Option.map_eq_some_iff]
  constructor
  · rintro ⟨n, hn, rfl⟩
    obtain ⟨hall, hlt, heq⟩ := (hfold n).mp hn
    refine ⟨hall, ?_⟩
    rw [← hread hall, ← heq, UInt16.toNat_ofNat_of_lt' hlt]
  · rintro ⟨hall, hv⟩
    refine ⟨v.toNat, (hfold v.toNat).mpr ⟨hall, v.toNat_lt, ?_⟩, UInt16.ofNat_toNat⟩
    rw [hread hall]
    exact_mod_cast hv

/-- `u16::from_str` accepts exactly the numerals without a minus sign whose value fits. -/
theorem parseU16_eq_some_iff {text : String} {v : UInt16} :
    parseU16 text = some v ↔ Numeral false text.toList v.toNat := by
  have hdigits : ∀ digits : List Char,
      (if digits.isEmpty then none else (digits.foldlM addDigit 0).map UInt16.ofNat) = some v ↔
        digits ≠ [] ∧ (∀ c ∈ digits, c.isDigit = true) ∧
          (v.toNat : ℤ) = readDigits 10 digits := by
    intro digits
    rw [← foldlM_addDigit_eq_some_iff]
    cases digits <;> simp
  unfold parseU16
  dsimp only
  split
  next digits htext => rw [htext, numeral_plus, hdigits]
  next htext => rw [numeral_unsigned htext (by simp), hdigits]

theorem digitValue_le {c : Char} (h : c.isDigit = true) : digitValue c ≤ 9 := by
  have hle : c.toNat ≤ '9'.toNat := (Char.isDigit_iff_toNat.mp h).2
  rw [digitValue_of_isDigit h]
  exact Nat.sub_le_sub_right hle _

/-- The digits of a signed 8-bit number behind its sign. -/
theorem foldlM_addDigitI8_eq_some_iff {negative : Bool} {digits : List Char} {v : Int8} :
    (digits.foldlM (addDigitI8 negative) 0).map Int8.ofInt = some v ↔
      (∀ c ∈ digits, c.isDigit = true) ∧
        v.toInt = (if negative then -1 else 1) * readDigits 10 digits := by
  let next : ℤ → Char → ℤ := fun value c =>
    if negative then value * 10 - (c.toNat - '0'.toNat : ℕ)
    else value * 10 + (c.toNat - '0'.toNat : ℕ)
  have hnext : ∀ value c, c.isDigit = true →
      next value c = value * 10 + (if negative then -1 else 1) * digitValue c := by
    intro value c hc
    cases negative <;> simp [next, digitValue_of_isDigit hc]
    omega
  have hback : ∀ value c, c.isDigit = true → -128 ≤ next value c ∧ next value c ≤ 127 →
      -128 ≤ value ∧ value ≤ 127 := by
    intro value c hc hrange
    have hdigit := digitValue_le hc
    rw [hnext value c hc] at hrange
    split at hrange <;> omega
  have hfold : ∀ n, digits.foldlM (addDigitI8 negative) 0 = some n ↔
      (∀ c ∈ digits, c.isDigit = true) ∧ (-128 ≤ n ∧ n ≤ 127) ∧ n = digits.foldl next 0 :=
    fun n => foldlM_guardedStep_eq_some_iff (fun n => -128 ≤ n ∧ n ≤ 127) hback (by omega)
  rw [Option.map_eq_some_iff]
  constructor
  · rintro ⟨n, hn, rfl⟩
    obtain ⟨hall, hrange, rfl⟩ := (hfold n).mp hn
    refine ⟨hall, ?_⟩
    rw [Int8.toInt_ofInt_of_le hrange.1 (by omega), foldl_eq_mul_readDigits _ hnext hall]
  · rintro ⟨hall, hv⟩
    have hlow := v.le_toInt
    have hhigh := v.toInt_lt
    refine ⟨v.toInt, (hfold v.toInt).mpr ⟨hall, ⟨hlow, by omega⟩, ?_⟩, Int8.ofInt_toInt v⟩
    rw [foldl_eq_mul_readDigits _ hnext hall, hv]

/-- `i8::from_str` accepts exactly the numerals whose value fits. -/
theorem parseI8_eq_some_iff {text : String} {v : Int8} :
    parseI8 text = some v ↔ Numeral true text.toList v.toInt := by
  have hdigits : ∀ (negative : Bool) (digits : List Char),
      (if digits.isEmpty then none
        else (digits.foldlM (addDigitI8 negative) 0).map Int8.ofInt) = some v ↔
        digits ≠ [] ∧ (∀ c ∈ digits, c.isDigit = true) ∧
          v.toInt = (if negative then -1 else 1) * readDigits 10 digits := by
    intro negative digits
    rw [← foldlM_addDigitI8_eq_some_iff]
    cases digits <;> simp
  unfold parseI8
  split
  next digits htext =>
    split at htext
    next digits' hminus =>
      obtain ⟨rfl, rfl⟩ := Prod.mk.inj htext
      rw [hminus, numeral_minus, hdigits]
      simp
    next digits' hplus =>
      obtain ⟨rfl, rfl⟩ := Prod.mk.inj htext
      rw [hplus, numeral_plus, hdigits]
      simp
    next hminus hplus =>
      obtain ⟨rfl, rfl⟩ := Prod.mk.inj htext
      rw [numeral_unsigned hplus (fun _ => hminus), hdigits]
      simp

end Numbers

/-- What the name of a setting says about its power. -/
def ControllerTxPower.dbm : ControllerTxPower → Int8
  | .N15 => -15
  | .N12 => -12
  | .N9 => -9
  | .N6 => -6
  | .N3 => -3
  | .N0 => 0
  | .P3 => 3
  | .P6 => 6
  | .P9 => 9
  | .P12 => 12
  | .P15 => 15
  | .P18 => 18
  | .P20 => 20

theorem ok_of_ite {ε α : Type} {p : Prop} [Decidable p] {a b : α} {x : Except ε α}
    (h : (if p then .ok a else x) = .ok b) : p ∧ a = b ∨ x = .ok b := by
  split at h
  next hp => exact .inl ⟨hp, Except.ok.inj h⟩
  next => exact .inr h

theorem error_of_ite {ε α : Type} {p : Prop} [Decidable p] {a : α} {e : ε} {x : Except ε α}
    (h : (if p then .ok a else x) = .error e) : x = .error e := by
  split at h
  next => cases h
  next => exact h

theorem controllerTxPower_eq_error {dbm : Int8} {e : SettingsError}
    (h : controllerTxPower dbm = .error e) : e = .unsupportedRadioTxPower := by
  unfold controllerTxPower at h
  iterate 13 replace h := error_of_ite h
  exact (Except.error.inj h).symm

/-- The powers in dBm. -/
theorem exists_dbm_iff (n : ℤ) : (∃ power : ControllerTxPower, power.dbm.toInt = n) ↔
    n ∈ [-15, -12, -9, -6, -3, 0, 3, 6, 9, 12, 15, 18, 20] := by
  constructor
  · rintro ⟨power, rfl⟩
    cases power <;> decide
  · intro h
    simp only [List.mem_cons, List.not_mem_nil, or_false] at h
    rcases h with rfl | rfl | rfl | rfl | rfl | rfl | rfl | rfl | rfl | rfl | rfl | rfl | rfl
    exacts [⟨.N15, rfl⟩, ⟨.N12, rfl⟩, ⟨.N9, rfl⟩, ⟨.N6, rfl⟩, ⟨.N3, rfl⟩, ⟨.N0, rfl⟩, ⟨.P3, rfl⟩,
      ⟨.P6, rfl⟩, ⟨.P9, rfl⟩, ⟨.P12, rfl⟩, ⟨.P15, rfl⟩, ⟨.P18, rfl⟩, ⟨.P20, rfl⟩]

theorem controllerTxPower_eq_ok_iff {dbm : Int8} {power : ControllerTxPower} :
    controllerTxPower dbm = .ok power ↔ power.dbm = dbm := by
  constructor
  · intro h
    unfold controllerTxPower at h
    iterate 13
      obtain ⟨rfl, rfl⟩ | h := ok_of_ite h
      · rfl
    cases h
  · rintro rfl
    cases power <;> rfl

/-- The text of an input spells an integer of a range, if there is a text. -/
def InRange (minus : Bool) (input : Option String) (low high : ℤ) : Prop :=
  ∀ text ∈ input, ∃ n, Numeral minus text.toList n ∧ low ≤ n ∧ n ≤ high

/-- The integer that an input stands for. -/
def Denotes (minus : Bool) (input : Option String) (default n : ℤ) : Prop :=
  match input with
  | some text => Numeral minus text.toList n
  | none => n = default

/-- What the inputs have to be, in the order of the checks. -/
def BeaconInputs.checks (inputs : BeaconInputs) : List (SettingsError × Prop) :=
  [(.invalidName, ∀ name ∈ inputs.name, 1 ≤ name.utf8ByteSize ∧ name.utf8ByteSize ≤ 29),
    (.invalidUuid, ∀ uuid ∈ inputs.uuid, IsCanonical uuid),
    (.invalidMajor, InRange false inputs.major 0 65535),
    (.invalidMinor, InRange false inputs.minor 0 65535),
    (.invalidMeasuredPower, InRange true inputs.measuredPowerDbm (-128) 127),
    (.invalidAdvertisingInterval, InRange false inputs.intervalMs 20 10240),
    (.unsupportedRadioTxPower, ∀ text ∈ inputs.radioTxPowerDbm,
      ∃ n ∈ [-15, -12, -9, -6, -3, 0, 3, 6, 9, 12, 15, 18, 20], Numeral true text.toList n)]

/-- All inputs are what they have to be. -/
def BeaconInputs.Accepted (inputs : BeaconInputs) : Prop := ∀ c ∈ inputs.checks, c.2

/-- The settings are what the inputs say, and the address where they say nothing. -/
structure Configured (inputs : BeaconInputs) (address : StaticRandomAddress)
    (settings : BeaconSettings) : Prop where
  name : settings.name.asBytes =
    (inputs.name.getD (generatedName (defaultMinor address))).toUTF8.data.toList
  constructed : settings.name.Constructed
  uuid : settings.frame.uuid.display =
    .ofList ((inputs.uuid.getD defaultBeaconUuid).toList.map lowerHex)
  major : Denotes false inputs.major 1 settings.frame.major.toNat
  minor : Denotes false inputs.minor (defaultMinor address).toNat settings.frame.minor.toNat
  measuredPower : Denotes true inputs.measuredPowerDbm (-59) settings.frame.measuredPower.toInt
  interval : Denotes false inputs.intervalMs 20 settings.interval.millis.toNat
  radioTxPowerDbm : Denotes true inputs.radioTxPowerDbm 9 settings.radioTxPowerDbm.toInt
  radioTxPower : settings.radioTxPower.dbm = settings.radioTxPowerDbm

/-- One input that is accepted exactly if it has a value. -/
theorem decides_orError {α : Type} {P : Prop} {Q : α → Prop} {value : Option α}
    (error : SettingsError) (hvalue : (∃ a, value = some a) ↔ P)
    (hQ : ∀ a, value = some a → Q a) :
    Decides [(error, P)] Q (orError error (value.elim (.error ()) .ok)) := by
  cases value with
  | none => exact decides_of_fails rfl fun hP => by simpa using hvalue.mpr hP
  | some a => exact decides_of_holds error rfl (hQ a rfl) (hvalue.mp ⟨a, rfl⟩)

theorem BeaconName.exists_fromStr_iff {text : String} :
    (∃ name, fromStr text = some name) ↔ 1 ≤ text.utf8ByteSize ∧ text.utf8ByteSize ≤ 29 := by
  constructor
  · rintro ⟨name, h⟩
    exact (asBytes_fromStr h).2
  · rintro ⟨hpos, hle⟩
    unfold fromStr
    rw [if_neg]
    · exact ⟨_, rfl⟩
    · rw [Bool.or_eq_true, String.isEmpty_iff_utf8ByteSize_eq_zero, decide_eq_true_eq,
        maxBeaconNameLength]
      omega

theorem decides_selectedName (name : Option String) (address : StaticRandomAddress) :
    Decides [(SettingsError.invalidName,
        ∀ text ∈ name, 1 ≤ text.utf8ByteSize ∧ text.utf8ByteSize ≤ 29)]
      (fun n => n.Constructed ∧
        n.asBytes = (name.getD (generatedName (defaultMinor address))).toUTF8.data.toList)
      (selectedName name address) := by
  cases name with
  | none =>
      exact decides_of_holds _ rfl ⟨.inr ⟨address, rfl⟩, asBytes_generatedName address⟩ (by simp)
  | some text =>
      refine decides_orError .invalidName ?_ ?_
      · simpa using BeaconName.exists_fromStr_iff
      · intro n hn
        exact ⟨.inl ⟨text, hn⟩, (BeaconName.asBytes_fromStr hn).1⟩

theorem isCanonical_default : IsCanonical defaultBeaconUuid := by
  obtain ⟨r, hr, hspec⟩ := BeaconUuid.parse_spec defaultBeaconUuid
  have hok : (BeaconUuid.parse defaultBeaconUuid).map Except.isOk = some true := by decide +kernel
  rw [hr, Option.map_some, Option.some.injEq] at hok
  cases r with
  | error e => cases hok
  | ok u => exact (BeaconUuid.exists_spells_iff _).mp ⟨u, (hspec u).mp rfl⟩

theorem decides_uuid (uuid : Option String) :
    Decides [(SettingsError.invalidUuid, ∀ text ∈ uuid, IsCanonical text)]
      (fun u => u.display = .ofList ((uuid.getD defaultBeaconUuid).toList.map lowerHex))
      ((ExceptT.lift (BeaconUuid.parse (uuid.getD defaultBeaconUuid)) : Checked _) >>=
        orError .invalidUuid) := by
  have hcheck : (∀ text ∈ uuid, IsCanonical text) ↔ IsCanonical (uuid.getD defaultBeaconUuid) := by
    cases uuid with
    | none => simpa using isCanonical_default
    | some text => simp
  obtain ⟨r, hr, hspec⟩ := BeaconUuid.parse_spec (uuid.getD defaultBeaconUuid)
  rw [hcheck, ← BeaconUuid.exists_spells_iff, hr]
  cases r with
  | error e =>
      refine decides_of_fails rfl ?_
      rintro ⟨u, hu⟩
      cases (hspec u).mpr hu
  | ok u =>
      have hspells := (hspec u).mp rfl
      refine decides_of_holds _ rfl ?_ ⟨u, hspells⟩
      obtain ⟨hbytes, hascii⟩ := hspells.ascii
      rw [hbytes] at hspells
      rw [BeaconUuid.display, hspells.displayFrom_eq hascii]

/-- A number of an optional input. -/
theorem decides_parseOptional {α : Type} {parse : String → Option α} {value : α → ℤ}
    {minus : Bool} {low high : ℤ}
    (hparse : ∀ text a, parse text = some a ↔ Numeral minus text.toList (value a))
    (hrange : ∀ n, (∃ a, value a = n) ↔ low ≤ n ∧ n ≤ high) (input : Option String)
    (default : α) (error : SettingsError) :
    Decides [(error, InRange minus input low high)]
      (fun a => Denotes minus input (value default) (value a))
      (parseOptional parse input default error) := by
  cases input with
  | none => exact decides_of_holds error rfl rfl (by simp [InRange])
  | some text =>
      refine decides_orError error ?_ fun a ha => (hparse text a).mp ha
      simp only [InRange, Option.mem_some_iff, forall_eq', hparse]
      constructor
      · rintro ⟨a, ha⟩
        exact ⟨value a, ha, (hrange _).mp ⟨a, rfl⟩⟩
      · rintro ⟨n, hn, hle⟩
        obtain ⟨a, rfl⟩ := (hrange n).mpr hle
        exact ⟨a, hn⟩

theorem exists_u16_iff (n : ℤ) : (∃ v : UInt16, (v.toNat : ℤ) = n) ↔ 0 ≤ n ∧ n ≤ 65535 := by
  constructor
  · rintro ⟨v, rfl⟩
    have hlt := v.toNat_lt
    omega
  · rintro ⟨hlow, hhigh⟩
    refine ⟨.ofNat n.toNat, ?_⟩
    rw [UInt16.toNat_ofNat_of_lt' (by rw [UInt16.size]; omega)]
    omega

theorem exists_i8_iff (n : ℤ) : (∃ v : Int8, v.toInt = n) ↔ -128 ≤ n ∧ n ≤ 127 := by
  constructor
  · rintro ⟨v, rfl⟩
    have hlow := v.le_toInt
    have hhigh := v.toInt_lt
    omega
  · rintro ⟨hlow, hhigh⟩
    exact ⟨.ofInt n, Int8.toInt_ofInt_of_le hlow (by omega)⟩

theorem decides_parseU16 (input : Option String) (default : UInt16) (error : SettingsError) :
    Decides [(error, InRange false input 0 65535)]
      (fun v => Denotes false input default.toNat v.toNat)
      (parseOptional parseU16 input default error) :=
  decides_parseOptional (fun _ _ => parseU16_eq_some_iff) exists_u16_iff input default error

theorem decides_parseI8 (input : Option String) (default : Int8) (error : SettingsError) :
    Decides [(error, InRange true input (-128) 127)]
      (fun v => Denotes true input default.toInt v.toInt)
      (parseOptional parseI8 input default error) :=
  decides_parseOptional (fun _ _ => parseI8_eq_some_iff) exists_i8_iff input default error

/-- A number that has to pass another check with the same error. -/
theorem decides_refined {ε α β : Type} {parse : String → Option α} {refined : α → Except ε β}
    {P : Prop} {Q : β → Prop} {text : String} (default : α) (error : SettingsError)
    (hP : (∃ a b, parse text = some a ∧ refined a = .ok b) ↔ P)
    (hQ : ∀ a b, parse text = some a → refined a = .ok b → Q b) :
    Decides [(error, P)] Q (parseOptional parse (some text) default error >>= fun a =>
      orError error (refined a)) := by
  cases hparse : parse text with
  | none =>
      have hfails : ¬ P := fun h => by simpa [hparse] using hP.mpr h
      refine decides_of_fails ?_ hfails
      rw [parseOptional, hparse]
      rfl
  | some a =>
      have hsome : parseOptional parse (some text) default error = pure a := by
        rw [parseOptional, hparse]
        rfl
      rw [hsome, pure_bind]
      cases hrefined : refined a with
      | error e =>
          have hfails : ¬ P := by
            intro h
            obtain ⟨a', b, ha', hb⟩ := hP.mpr h
            obtain rfl := Option.some.inj (hparse.symm.trans ha')
            rw [hrefined] at hb
            cases hb
          exact decides_of_fails rfl hfails
      | ok b =>
          exact decides_of_holds error rfl (hQ a b hparse hrefined)
            (hP.mp ⟨a, b, hparse, hrefined⟩)

theorem decides_interval (input : Option String) :
    Decides [(SettingsError.invalidAdvertisingInterval, InRange false input 20 10240)]
      (fun i => Denotes false input 20 i.millis.toNat)
      (parseOptional parseU16 input defaultAdvertisingIntervalMs .invalidAdvertisingInterval >>=
        fun millis =>
          orError .invalidAdvertisingInterval (AdvertisingInterval.fromMillis millis)) := by
  cases input with
  | none => exact decides_of_holds _ rfl rfl (by simp [InRange])
  | some text =>
      refine decides_refined _ _ ?_ ?_
      · simp only [InRange, Option.mem_some_iff, forall_eq', parseU16_eq_some_iff,
          AdvertisingInterval.fromMillis_eq_ok_iff]
        constructor
        · rintro ⟨-, ⟨millis, hlow, hhigh⟩, hnumeral, rfl⟩
          have hlow' := UInt16.le_iff_toNat_le.mp hlow
          have hhigh' := UInt16.le_iff_toNat_le.mp hhigh
          exact ⟨millis.toNat, hnumeral, by exact_mod_cast hlow', by exact_mod_cast hhigh'⟩
        · rintro ⟨n, hnumeral, hlow, hhigh⟩
          obtain ⟨millis, rfl⟩ := (exists_u16_iff n).mpr (by omega)
          refine ⟨millis, ⟨millis, ?_, ?_⟩, hnumeral, rfl⟩
          · exact UInt16.le_iff_toNat_le.mpr (by exact_mod_cast hlow)
          · exact UInt16.le_iff_toNat_le.mpr (by exact_mod_cast hhigh)
      · intro millis interval hparse hmillis
        rw [AdvertisingInterval.fromMillis_eq_ok_iff] at hmillis
        rw [hmillis]
        exact parseU16_eq_some_iff.mp hparse

theorem decides_radioTxPower (input : Option String) :
    Decides [(SettingsError.unsupportedRadioTxPower, ∀ text ∈ input,
        ∃ n ∈ [-15, -12, -9, -6, -3, 0, 3, 6, 9, 12, 15, 18, 20], Numeral true text.toList n)]
      (fun p => Denotes true input 9 p.1.toInt ∧ p.2.dbm = p.1)
      (parseOptional parseI8 input defaultRadioTxPowerDbm .unsupportedRadioTxPower >>= fun dbm =>
        ExceptT.mk (some (controllerTxPower dbm)) >>= fun power => pure (dbm, power)) := by
  cases input with
  | none => exact decides_of_holds _ rfl ⟨rfl, rfl⟩ (by simp)
  | some text =>
      have hpair : ∀ dbm, (ExceptT.mk (some (controllerTxPower dbm)) >>= fun power =>
          pure (dbm, power) : Checked _) = orError .unsupportedRadioTxPower
            ((controllerTxPower dbm).map fun power => (dbm, power)) := by
        intro dbm
        cases h : controllerTxPower dbm with
        | error e =>
            rw [controllerTxPower_eq_error h]
            rfl
        | ok power => rfl
      have hmap : ∀ dbm p, (controllerTxPower dbm).map (fun power => (dbm, power)) = .ok p ↔
          p.1 = dbm ∧ p.2.dbm = dbm := by
        intro dbm p
        rw [← controllerTxPower_eq_ok_iff]
        cases controllerTxPower dbm with
        | error e => simp [Except.map]
        | ok power => simp [Except.map, Prod.ext_iff, eq_comm]
      simp only [hpair]
      refine decides_refined _ _ ?_ ?_
      · simp only [Option.mem_some_iff, forall_eq', parseI8_eq_some_iff, hmap]
        constructor
        · rintro ⟨dbm, p, hnumeral, -, hpower⟩
          rw [← hpower] at hnumeral
          exact ⟨_, (exists_dbm_iff _).mp ⟨p.2, rfl⟩, hnumeral⟩
        · rintro ⟨n, hn, hnumeral⟩
          obtain ⟨power, rfl⟩ := (exists_dbm_iff n).mpr hn
          exact ⟨power.dbm, (power.dbm, power), hnumeral, rfl, rfl⟩
      · intro dbm p hparse hp
        obtain ⟨hdbm, hpower⟩ := (hmap dbm p).mp hp
        rw [hpower, hdbm]
        exact ⟨parseI8_eq_some_iff.mp hparse, rfl⟩

theorem decides_beaconSettings (inputs : BeaconInputs) (address : StaticRandomAddress) :
    Decides inputs.checks (Configured inputs address) (beaconSettings inputs address) := by
  have hpair : beaconSettings inputs address =
      selectedName inputs.name address >>= fun name =>
      ((ExceptT.lift (BeaconUuid.parse (inputs.uuid.getD defaultBeaconUuid)) : Checked _) >>=
        orError .invalidUuid) >>= fun uuid =>
      parseOptional parseU16 inputs.major defaultBeaconMajor .invalidMajor >>= fun major =>
      parseOptional parseU16 inputs.minor (defaultMinor address) .invalidMinor >>= fun minor =>
      parseOptional parseI8 inputs.measuredPowerDbm defaultMeasuredPowerDbm
        .invalidMeasuredPower >>= fun measuredPower =>
      (parseOptional parseU16 inputs.intervalMs defaultAdvertisingIntervalMs
        .invalidAdvertisingInterval >>= fun millis =>
        orError .invalidAdvertisingInterval (AdvertisingInterval.fromMillis millis)) >>=
      fun interval =>
      (parseOptional parseI8 inputs.radioTxPowerDbm defaultRadioTxPowerDbm
        .unsupportedRadioTxPower >>= fun dbm =>
        ExceptT.mk (some (controllerTxPower dbm)) >>= fun power => pure (dbm, power)) >>= fun p =>
      pure ⟨name, ⟨uuid, major, minor, measuredPower⟩, interval, p.2, p.1⟩ := by
    simp only [beaconSettings, bind_assoc, pure_bind]
  rw [hpair]
  refine (decides_selectedName _ _).bind (β := BeaconSettings) fun name hname => ?_
  refine (decides_uuid _).bind (β := BeaconSettings) fun uuid huuid => ?_
  refine (decides_parseU16 _ _ _).bind (β := BeaconSettings) fun major hmajor => ?_
  refine (decides_parseU16 _ _ _).bind (β := BeaconSettings) fun minor hminor => ?_
  refine (decides_parseI8 _ _ _).bind (β := BeaconSettings) fun power hpower => ?_
  refine (decides_interval _).bind (β := BeaconSettings) fun interval hinterval => ?_
  refine (decides_radioTxPower _).bind (β := BeaconSettings) fun radio hradio => ?_
  exact decides_pure ⟨hname.2, hname.1, huuid, hmajor, hminor, hpower, hinterval, hradio.1,
    hradio.2⟩

/-- For all inputs and every address, the settings are computed without a panic. They
are refused exactly if some input is not what it has to be, with the error of the first
such input in the order of the checks; otherwise they are what the inputs say. -/
theorem settings_follow_inputs (inputs : BeaconInputs) (address : StaticRandomAddress) :
    (beaconSettings inputs address).run ≠ none ∧
      ((∃ settings, (beaconSettings inputs address).run = some (.ok settings)) ↔
        inputs.Accepted) ∧
      (∀ error, (beaconSettings inputs address).run = some (.error error) ↔
        FirstFailure inputs.checks error) ∧
      ∀ settings, (beaconSettings inputs address).run = some (.ok settings) →
        Configured inputs address settings := by
  have hdecides := decides_beaconSettings inputs address
  refine ⟨?_, hdecides.exists_pure_iff, hdecides.throw_iff, fun _ => hdecides.of_pure⟩
  obtain ⟨settings, hok, -⟩ | ⟨error, herror, -⟩ := hdecides
  · rw [hok]
    exact Option.some_ne_none _
  · rw [herror]
    exact Option.some_ne_none _

end EmbeddedSdk.Beacon
