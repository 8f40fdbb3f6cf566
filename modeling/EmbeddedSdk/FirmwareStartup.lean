import EmbeddedSdk.BoundedCopies
import EmbeddedSdk.MqttFixture
import EmbeddedSdk.WifiAdapter

/-!
# Start of the reference firmware

`main` reads the credentials that were fixed at build time, hands them to the
radio driver and spawns its tasks. The driver's answers and the allocation of each
task may fail. A model of `main` is the list of the tasks that it leaves running,
each with the values it was started with.
-/
namespace EmbeddedSdk.FirmwareStartup
open Wifi WifiAdapter MqttFixture MqttTask PaddedBytes BoundedCopies

/-- The controlled TCP target of a build. -/
structure NetworkProbe where
  host : String
  port : UInt16
  deriving DecidableEq

/-- The optional inputs of a build. -/
structure Inputs where
  wifiSsid : Option String := none
  wifiPassword : Option String := none
  networkTestHost : Option String := none
  networkTestPort : Option String := none
  mqtt : MqttInputs := {}

/-- The arm of `development_station_config` for a network name alone. -/
def openStation (ssid : String) : Except ConfigError StationConfig := do
  let ssid ← Ssid.tryFrom ssid
  StationConfig.«open» ssid

/-- The arm of `development_station_config` for a network name and a password. -/
def personalStation (ssid password : String) : Except ConfigError StationConfig := do
  let ssid ← Ssid.tryFrom ssid
  let passphrase ← Passphrase.new password
  StationConfig.personal ssid passphrase .wpa2Wpa3Personal

def developmentStationConfig (inputs : Inputs) : Except ConfigError (Option StationConfig) :=
  match inputs.wifiSsid, inputs.wifiPassword with
  | none, none => .ok none
  | some ssid, none => (openStation ssid).map some
  | some ssid, some password => (personalStation ssid password).map some
  | none, some _ => .error .emptySsid

def developmentNetworkProbe (inputs : Inputs) : Except String (Option NetworkProbe) :=
  match inputs.networkTestHost, inputs.networkTestPort with
  | none, none => .ok none
  | some host, some port =>
      if !host.isEmpty then
        match parseU16 port with
        | none => .error "NETWORK_TEST_PORT must be an integer from 1 through 65535"
        | some port =>
            if port = 0 then .error "NETWORK_TEST_PORT must be an integer from 1 through 65535"
            else .ok (some ⟨host, port⟩)
      else .error "NETWORK_TEST_HOST must not be empty"
  | _, _ => .error "NETWORK_TEST_HOST and NETWORK_TEST_PORT must be set together"

section Credentials

/-- The texts that are a passphrase: 8 to 63 bytes, or 64 hexadecimal digits. -/
def IsPassphrase (text : String) : Prop :=
  (8 ≤ text.utf8ByteSize ∧ text.utf8ByteSize ≤ 63) ∨
    (text.utf8ByteSize = 64 ∧ ∀ byte ∈ text.toUTF8.data, isAsciiHexdigit byte = true)

/-- The network names that a station can be configured for. -/
def IsStationName (ssid : String) : Prop := 1 ≤ ssid.utf8ByteSize ∧ ssid.utf8ByteSize ≤ 32

/-- The inputs that select a network. -/
structure SelectStation (inputs : Inputs) : Prop where
  ssid : ∃ ssid, inputs.wifiSsid = some ssid ∧ IsStationName ssid
  password : ∀ password, inputs.wifiPassword = some password → IsPassphrase password

theorem passphrase_isOk (text : String) :
    (Passphrase.new text).isOk = true ↔ IsPassphrase text := by
  have hvalid : ((8 ≤ text.toUTF8.data.size && text.toUTF8.data.size < maxPassphraseLen) ||
      (text.toUTF8.data.size == maxPassphraseLen && text.toUTF8.data.all isAsciiHexdigit)) = true ↔
        IsPassphrase text := by
    simp only [Bool.or_eq_true, Bool.and_eq_true, decide_eq_true_eq, beq_iff_eq,
      Array.all_eq_true']
    exact or_congr (and_congr_right fun _ => Nat.lt_succ_iff) Iff.rfl
  rw [← hvalid]
  simp only [Passphrase.new]
  split
  next hinvalid =>
    rw [Bool.not_eq_true'] at hinvalid
    simp only [hinvalid, Except.isOk, Except.toBool]
  next hvalid' =>
    rw [Bool.not_eq_true', Bool.not_eq_false] at hvalid'
    simp only [hvalid', Except.isOk, Except.toBool]

theorem ssid_asStr {text : String} {ssid : Ssid} (h : Ssid.tryFrom text = .ok ssid) :
    ssid.asStr = some text :=
  (ssid_storesCopies.isCopy h).fromUTF8?_eq

/-- A name that was stored passes the check of the station configuration unless it is
empty. -/
theorem validateSsid_cases {text : String} {ssid : Ssid} (h : Ssid.tryFrom text = .ok ssid) :
    (IsStationName text ∧ StationConfig.validateSsid ssid = .ok ()) ∨
      (¬ IsStationName text ∧ StationConfig.validateSsid ssid = .error .emptySsid) := by
  have hlen : ssid.len.toNat = text.utf8ByteSize := (ssid_storesCopies.isCopy h).length
  have hle : text.utf8ByteSize ≤ 32 := (Ssid.tryFrom_isOk text).mp (congrArg Except.isOk h)
  unfold StationConfig.validateSsid Ssid.isEmpty IsStationName
  by_cases hzero : ssid.len = 0
  · rw [hzero] at hlen
    have hempty : text.utf8ByteSize = 0 := hlen.symm
    refine .inr ⟨by omega, if_pos ?_⟩
    rw [hzero]
    rfl
  · have hne : ssid.len.toNat ≠ 0 := fun h0 => hzero (UInt8.toNat_inj.mp h0)
    refine .inl ⟨by omega, if_neg ?_⟩
    rwa [beq_iff_eq]

/-- A name that is refused is too long for a station. -/
theorem not_isStationName {text : String} {error : ConfigError}
    (h : Ssid.tryFrom text = .error error) : ¬ IsStationName text :=
  fun hname => not_isOk_of_error h ((Ssid.tryFrom_isOk text).mpr hname.2)

/-- What the driver is given: the network name, the password if there is one, and
the authentication that goes with it. -/
def driverConfig (ssid : String) (password : Option String) : EspStationConfig :=
  ⟨ssid, if password.isSome then .wpa2Wpa3Personal else .none, password⟩

theorem openStation_cases {D : Driver} (text : String) :
    (IsStationName text ∧ ∃ station, openStation text = .ok station ∧
      espStationConfig (D := D) station = .ok (driverConfig text none)) ∨
    (¬ IsStationName text ∧ ∃ error, openStation text = .error error) := by
  unfold openStation
  cases htry : Ssid.tryFrom text with
  | error error => exact .inr ⟨not_isStationName htry, error, rfl⟩
  | ok ssid =>
      obtain ⟨hname, hvalid⟩ | ⟨hname, hvalid⟩ := validateSsid_cases htry
      · refine .inl ⟨hname, ⟨ssid, .«open», none⟩, ?_, ?_⟩
        · show StationConfig.«open» ssid = _
          rw [StationConfig.«open», hvalid]
          rfl
        · simp only [espStationConfig, ssid_asStr htry]
          rfl
      · refine .inr ⟨hname, .emptySsid, ?_⟩
        show StationConfig.«open» ssid = _
        rw [StationConfig.«open», hvalid]
        rfl

theorem personalStation_cases {D : Driver} (text password : String) :
    (IsStationName text ∧ IsPassphrase password ∧
      ∃ station, personalStation text password = .ok station ∧
        espStationConfig (D := D) station = .ok (driverConfig text (some password))) ∨
    (¬ (IsStationName text ∧ IsPassphrase password) ∧
      ∃ error, personalStation text password = .error error) := by
  unfold personalStation
  cases htry : Ssid.tryFrom text with
  | error error => exact .inr ⟨fun h => not_isStationName htry h.1, error, rfl⟩
  | ok ssid =>
      cases hnew : Passphrase.new password with
      | error error =>
          refine .inr ⟨?_, error, rfl⟩
          intro h
          exact not_isOk_of_error hnew ((passphrase_isOk password).mpr h.2)
      | ok passphrase =>
          have hpassphrase := (passphrase_isOk password).mp (congrArg Except.isOk hnew)
          have hstr : passphrase.asStr = password := passphrase_storesText.asStr_eq hnew
          obtain ⟨hname, hvalid⟩ | ⟨hname, hvalid⟩ := validateSsid_cases htry
          · refine .inl ⟨hname, hpassphrase, ⟨ssid, .wpa2Wpa3Personal, some passphrase⟩, ?_, ?_⟩
            · show StationConfig.personal ssid passphrase .wpa2Wpa3Personal = _
              rw [StationConfig.personal, hvalid]
              rfl
            · simp only [espStationConfig, ssid_asStr htry, Option.map_some, hstr]
              rfl
          · refine .inr ⟨fun h => hname h.1, .emptySsid, ?_⟩
            show StationConfig.personal ssid passphrase .wpa2Wpa3Personal = _
            rw [StationConfig.personal, hvalid]
            rfl

/-- The inputs select nothing, select a network whose texts reach the driver as they
are, or are refused. -/
theorem developmentStationConfig_cases (D : Driver) (inputs : Inputs) :
    (inputs.wifiSsid = none ∧ inputs.wifiPassword = none ∧
      developmentStationConfig inputs = .ok none) ∨
    (SelectStation inputs ∧ ∃ ssid station, inputs.wifiSsid = some ssid ∧
      developmentStationConfig inputs = .ok (some station) ∧
      espStationConfig (D := D) station = .ok (driverConfig ssid inputs.wifiPassword)) ∨
    (¬ (inputs.wifiSsid = none ∧ inputs.wifiPassword = none) ∧ ¬ SelectStation inputs ∧
      ∃ error, developmentStationConfig inputs = .error error) := by
  unfold developmentStationConfig
  cases hssid : inputs.wifiSsid with
  | none =>
      cases hpassword : inputs.wifiPassword with
      | none => exact .inl ⟨rfl, rfl, rfl⟩
      | some password =>
          refine .inr (.inr ⟨by simp, ?_, _, rfl⟩)
          intro h
          obtain ⟨ssid, hsome, -⟩ := h.ssid
          rw [hssid] at hsome
          cases hsome
  | some text =>
      have hname : SelectStation inputs → IsStationName text := by
        intro h
        obtain ⟨ssid, hsome, hlength⟩ := h.ssid
        rw [hssid, Option.some.injEq] at hsome
        rwa [hsome]
      right
      cases hpassword : inputs.wifiPassword with
      | none =>
          obtain ⟨hok, station, hopen, hdriver⟩ | ⟨hbad, error, hopen⟩ :=
            openStation_cases (D := D) text
          · refine .inl ⟨⟨⟨text, hssid, hok⟩, ?_⟩, text, station, rfl, ?_, hdriver⟩
            · intro password hsome
              rw [hpassword] at hsome
              cases hsome
            · simp only [hopen, Except.map]
          · refine .inr ⟨by simp, fun h => hbad (hname h), error, ?_⟩
            simp only [hopen, Except.map]
      | some password =>
          obtain ⟨hok, hpassphrase, station, hpersonal, hdriver⟩ | ⟨hbad, error, hpersonal⟩ :=
            personalStation_cases (D := D) text password
          · refine .inl ⟨⟨⟨text, hssid, hok⟩, ?_⟩, text, station, rfl, ?_, hdriver⟩
            · intro password' hsome
              rw [hpassword, Option.some.injEq] at hsome
              rwa [← hsome]
            · simp only [hpersonal, Except.map]
          · refine .inr ⟨by simp, ?_, error, ?_⟩
            · intro h
              exact hbad ⟨hname h, h.password password hpassword⟩
            · simp only [hpersonal, Except.map]

/-- There is no station configuration exactly when nothing is set, and one exactly for
the inputs that select a network. The driver is then given the texts of the build as
they are, so different texts never make the same configuration. -/
theorem credentials_reach_driver (D : Driver) :
    (∀ inputs, developmentStationConfig inputs = .ok none ↔
      inputs.wifiSsid = none ∧ inputs.wifiPassword = none) ∧
    (∀ inputs, (∃ station, developmentStationConfig inputs = .ok (some station)) ↔
      SelectStation inputs) ∧
    (∀ inputs station, developmentStationConfig inputs = .ok (some station) →
      ∃ ssid, inputs.wifiSsid = some ssid ∧
        espStationConfig (D := D) station = .ok (driverConfig ssid inputs.wifiPassword)) ∧
    ∀ inputs inputs' station, developmentStationConfig inputs = .ok (some station) →
      developmentStationConfig inputs' = .ok (some station) →
      inputs.wifiSsid = inputs'.wifiSsid ∧ inputs.wifiPassword = inputs'.wifiPassword := by
  have hdriver : ∀ inputs station, developmentStationConfig inputs = .ok (some station) →
      ∃ ssid, inputs.wifiSsid = some ssid ∧
        espStationConfig (D := D) station = .ok (driverConfig ssid inputs.wifiPassword) := by
    intro inputs station h
    obtain ⟨-, -, hnone⟩ | ⟨-, ssid, station', hssid, hsome, hdriver⟩ | ⟨-, -, e, herror⟩ :=
      developmentStationConfig_cases D inputs
    · rw [hnone] at h
      cases h
    · rw [hsome, Except.ok.injEq, Option.some.injEq] at h
      rw [← h]
      exact ⟨ssid, hssid, hdriver⟩
    · rw [herror] at h
      cases h
  refine ⟨?_, ?_, hdriver, ?_⟩
  · intro inputs
    obtain ⟨hssid, hpassword, hnone⟩ | ⟨-, ssid, station, hssid, hsome, -⟩ | ⟨hset, -, e, herror⟩ :=
      developmentStationConfig_cases D inputs
    · exact iff_of_true hnone ⟨hssid, hpassword⟩
    · exact iff_of_false (by simp [hsome]) (by simp [hssid])
    · exact iff_of_false (by simp [herror]) hset
  · intro inputs
    obtain ⟨hssid, -, hnone⟩ | ⟨hselect, ssid, station, -, hsome, -⟩ | ⟨-, hbad, e, herror⟩ :=
      developmentStationConfig_cases D inputs
    · refine iff_of_false (by simp [hnone]) ?_
      intro h
      obtain ⟨ssid, hsome, -⟩ := h.ssid
      rw [hssid] at hsome
      cases hsome
    · exact iff_of_true ⟨station, hsome⟩ hselect
    · exact iff_of_false (by simp [herror]) hbad
  · intro inputs inputs' station h h'
    obtain ⟨ssid, hssid, hgiven⟩ := hdriver inputs station h
    obtain ⟨ssid', hssid', hgiven'⟩ := hdriver inputs' station h'
    rw [hgiven, Except.ok.injEq] at hgiven'
    rw [hssid, hssid']
    exact ⟨congrArg (fun c => some c.ssid) hgiven', congrArg EspStationConfig.password hgiven'⟩

end Credentials

section Tasks

/-- The tasks of the firmware. -/
inductive TaskName
  | heartbeat
  | bluetoothTask
  | networkRunnerTask
  | wifiStationTask
  | networkMonitorTask
  | mqttTask
  | mqttTelemetryProducerTask
  deriving DecidableEq

/-- A task with the values it is started with. -/
inductive Task
  | heartbeat
  | bluetoothTask (name : Bluetooth.DeviceName) (address : Bluetooth.StaticRandomAddress)
  | networkRunnerTask
  | wifiStationTask (state : WifiState)
  | networkMonitorTask (probe : Option NetworkProbe)
  | mqttTask (config : MqttDevelopmentConfig)
  | mqttTelemetryProducerTask

def Task.name : Task → TaskName
  | .heartbeat => .heartbeat
  | .bluetoothTask _ _ => .bluetoothTask
  | .networkRunnerTask => .networkRunnerTask
  | .wifiStationTask _ => .wifiStationTask
  | .networkMonitorTask _ => .networkMonitorTask
  | .mqttTask _ => .mqttTask
  | .mqttTelemetryProducerTask => .mqttTelemetryProducerTask

/-- The address of the chip, the answers of the controllers, and the tasks for which
there is room. -/
structure Outcomes (D : Driver) where
  macAddress : Vector UInt8 6
  bluetooth : Bool
  wifi : Except D.WifiError Unit
  scan : ℕ → Except D.WifiError (List (AccessPointInfo D))
  setConfig : EspStationConfig → Except D.WifiError Unit
  allocates : TaskName → Bool

variable {D : Driver}

/-- Spawns a task, or reports that there is no room for it. -/
def Outcomes.spawn (o : Outcomes D) (task : Task) : List Task :=
  if o.allocates task.name then [task] else []

def startNetworking (o : Outcomes D) (controller : WifiState) (probe : Option NetworkProbe)
    (mqtt : Option MqttDevelopmentConfig) : List Task :=
  if !o.allocates .networkRunnerTask then []
  else if !o.allocates .wifiStationTask then [.networkRunnerTask]
  else
    [.networkRunnerTask, .wifiStationTask controller] ++ o.spawn (.networkMonitorTask probe) ++
      match mqtt with
      | some config => o.spawn (.mqttTask config) ++ o.spawn .mqttTelemetryProducerTask
      | none => []

/-- What `main` does with a station configuration. A probe or broker that is not
configured well is reported and left out. -/
def startStation (o : Outcomes D) (inputs : Inputs) (state : WifiState) (station : StationConfig) :
    Option (List Task) :=
  match configureStation state station o.setConfig with
  | (.error _, _) => some []
  | (.ok (), controller) =>
      let probe := match developmentNetworkProbe inputs with
        | .ok probe => probe
        | .error _ => none
      match (developmentMqttConfig inputs.mqtt).run with
      | none => none
      | some (.ok mqtt) => some (startNetworking o controller probe mqtt)
      | some (.error _) => some (startNetworking o controller probe none)

/-- Default GAP name of the board. -/
def bluetoothDeviceName : String := "XIAO ESP32C6 SDK"

/-- The tasks that `main` leaves running when it comes to its last loop, unless it
panics on the way. -/
def main (o : Outcomes D) (inputs : Inputs) : Option (List Task) :=
  let heartbeat := o.spawn .heartbeat
  match Bluetooth.DeviceName.new bluetoothDeviceName with
  | .error _ => some heartbeat
  | .ok name =>
      let address := Bluetooth.StaticRandomAddress.fromSeed o.macAddress
      let bluetooth := if o.bluetooth then o.spawn (.bluetoothTask name address) else []
      match Adapter.new o.wifi with
      | .error _ => some (heartbeat ++ bluetooth)
      | .ok _ =>
          let (_, state) := scan 20 o.scan
          match developmentStationConfig inputs with
          | .ok (some station) =>
              (startStation o inputs state station).map (heartbeat ++ bluetooth ++ ·)
          | .ok none => some (heartbeat ++ bluetooth)
          | .error _ => some (heartbeat ++ bluetooth)

/-- The inputs select a network and the driver takes them. -/
structure StationConfigured (o : Outcomes D) (inputs : Inputs) : Prop where
  wifi : o.wifi.isOk = true
  selected : SelectStation inputs
  accepted : ∀ ssid, inputs.wifiSsid = some ssid →
    (o.setConfig (driverConfig ssid inputs.wifiPassword)).isOk = true

/-- The probe that the monitor is started with. -/
def startedProbe (inputs : Inputs) : Option NetworkProbe :=
  match developmentNetworkProbe inputs with
  | .ok probe => probe
  | .error _ => none

/-- The tasks that need no network. -/
def localTasks (o : Outcomes D) (name : Bluetooth.DeviceName) : List Task :=
  o.spawn .heartbeat ++ if o.bluetooth then
    o.spawn (.bluetoothTask name (Bluetooth.StaticRandomAddress.fromSeed o.macAddress)) else []

/-- The broker part of the inputs is a configuration or none at all, never a panic. -/
theorem startStation_networking (o : Outcomes D) (inputs : Inputs) (state : WifiState)
    {station : StationConfig} {config : EspStationConfig}
    (hconfig : espStationConfig (D := D) station = .ok config)
    (hdriver : (o.setConfig config).isOk = true) :
    ∃ mqtt : Option MqttDevelopmentConfig,
      (∀ c, mqtt = some c ↔ (developmentMqttConfig inputs.mqtt).run = some (.ok (some c))) ∧
      startStation o inputs state station =
        some (startNetworking o .ready (startedProbe inputs) mqtt) := by
  have hconfigured : configureStation state station o.setConfig = (.ok (), .ready) := by
    obtain ⟨answer, hset⟩ := exists_of_isOk hdriver
    simp only [configureStation, hconfig, hset]
  simp only [startStation, hconfigured, startedProbe]
  obtain ⟨-, hrun⟩ | ⟨-, -, c, -, hrun, -⟩ | ⟨-, -, e, hrun⟩ :=
    developmentMqttConfig_cases inputs.mqtt
  · exact ⟨none, by simp [hrun], by rw [hrun]⟩
  · exact ⟨some c, by simp [hrun], by rw [hrun]⟩
  · exact ⟨none, by simp [hrun], by rw [hrun]⟩

/-- A configuration that the driver refuses starts nothing. -/
theorem startStation_refused (o : Outcomes D) (inputs : Inputs) (state : WifiState)
    {station : StationConfig} {config : EspStationConfig}
    (hconfig : espStationConfig (D := D) station = .ok config)
    (hdriver : (o.setConfig config).isOk ≠ true) :
    startStation o inputs state station = some [] := by
  cases hset : o.setConfig config with
  | ok u =>
      rw [hset] at hdriver
      exact absurd rfl hdriver
  | error e => simp only [startStation, configureStation, hconfig, hset]

/-- `main` starts the tasks that need no network, and those of the network exactly
when the station is configured. -/
theorem main_cases (o : Outcomes D) (inputs : Inputs) : ∃ name,
    (StationConfigured o inputs ∧ ∃ mqtt : Option MqttDevelopmentConfig,
      (∀ c, mqtt = some c ↔ (developmentMqttConfig inputs.mqtt).run = some (.ok (some c))) ∧
      main o inputs = some (localTasks o name ++
        startNetworking o .ready (startedProbe inputs) mqtt)) ∨
    (¬ StationConfigured o inputs ∧ main o inputs = some (localTasks o name)) := by
  obtain ⟨name, hname⟩ : ∃ name, Bluetooth.DeviceName.new bluetoothDeviceName = .ok name :=
    exists_of_isOk (by decide)
  refine ⟨name, ?_⟩
  cases hwifi : o.wifi with
  | error e =>
      refine .inr ⟨?_, ?_⟩
      · intro h
        exact not_isOk_of_error hwifi h.wifi
      · simp only [main, hname, hwifi, Adapter.new]
        rfl
  | ok u =>
      obtain ⟨hssid, -, hnone⟩ | ⟨hselect, ssid, station, hssid, hsome, hconfig⟩ | ⟨-, hbad, e, herror⟩ :=
        developmentStationConfig_cases D inputs
      · refine .inr ⟨?_, ?_⟩
        · intro h
          obtain ⟨text, htext, -⟩ := h.selected.ssid
          rw [hssid] at htext
          cases htext
        · simp only [main, hname, hwifi, Adapter.new, hnone]
          rfl
      · by_cases hdriver : (o.setConfig (driverConfig ssid inputs.wifiPassword)).isOk = true
        · obtain ⟨mqtt, hmqtt, hstart⟩ :=
            startStation_networking o inputs (scan 20 o.scan).2 hconfig hdriver
          refine .inl ⟨⟨by rw [hwifi]; rfl, hselect, ?_⟩, mqtt, hmqtt, ?_⟩
          · intro text htext
            rw [hssid, Option.some.injEq] at htext
            rwa [← htext]
          · simp only [main, hname, hwifi, Adapter.new, hsome, hstart]
            rfl
        · refine .inr ⟨fun h => hdriver (h.accepted ssid hssid), ?_⟩
          simp only [main, hname, hwifi, Adapter.new, hsome,
            startStation_refused o inputs _ hconfig hdriver, Option.map_some, List.append_nil]
          rfl
      · refine .inr ⟨fun h => hbad h.selected, ?_⟩
        simp only [main, hname, hwifi, Adapter.new, herror]
        rfl

theorem mem_spawn (o : Outcomes D) (task t : Task) :
    t ∈ o.spawn task ↔ t = task ∧ o.allocates task.name = true := by
  unfold Outcomes.spawn
  split <;> simp_all

/-- The tasks that need the network stack: its runner, the radio behind it, and those
that there is something to do for. -/
theorem mem_startNetworking (o : Outcomes D) (controller : WifiState)
    (probe : Option NetworkProbe) (mqtt : Option MqttDevelopmentConfig) (t : Task) :
    t ∈ startNetworking o controller probe mqtt ↔
      o.allocates t.name = true ∧ o.allocates .networkRunnerTask = true ∧
        (t = .networkRunnerTask ∨ o.allocates .wifiStationTask = true ∧
          (t = .wifiStationTask controller ∨ t = .networkMonitorTask probe ∨
            ∃ config, mqtt = some config ∧
              (t = .mqttTask config ∨ t = .mqttTelemetryProducerTask))) := by
  unfold startNetworking
  cases hrunner : o.allocates .networkRunnerTask with
  | false => simp
  | true =>
      cases hstation : o.allocates .wifiStationTask with
      | false =>
          simp only [Bool.not_true, Bool.false_eq_true, if_false, Bool.not_false, if_true,
            List.mem_singleton, false_and, or_false, true_and]
          exact ⟨fun h => ⟨by rw [h]; exact hrunner, h⟩, fun h => h.2⟩
      | true =>
          simp only [Bool.not_true, Bool.false_eq_true, if_false, List.mem_append, List.mem_cons,
            List.not_mem_nil, or_false, mem_spawn, true_and]
          cases mqtt with
          | none => grind [Task.name]
          | some config =>
              simp only [List.mem_append, mem_spawn]
              grind [Task.name]

/-- Tasks that only `start_networking` starts. -/
def Task.needsNetwork : Task → Bool
  | .heartbeat | .bluetoothTask _ _ => false
  | _ => true

theorem not_mem_localTasks (o : Outcomes D) (name : Bluetooth.DeviceName) {t : Task}
    (ht : t.needsNetwork = true) : t ∉ localTasks o name := by
  intro h
  unfold localTasks at h
  rw [List.mem_append, mem_spawn] at h
  obtain ⟨rfl, -⟩ | hbluetooth := h
  · cases ht
  · split at hbluetooth
    · rw [mem_spawn] at hbluetooth
      obtain ⟨rfl, -⟩ := hbluetooth
      cases ht
    · cases hbluetooth

theorem mem_localTasks_append (o : Outcomes D) (name : Bluetooth.DeviceName) (tasks : List Task)
    {t : Task} (ht : t.needsNetwork = true) :
    t ∈ localTasks o name ++ tasks ↔ t ∈ tasks := by
  rw [List.mem_append]
  exact or_iff_right (not_mem_localTasks o name ht)

/-- For every build and all answers of the hardware, `main` comes to its last loop. The
supervisor of the station runs exactly when the inputs select a network, the driver
takes their texts as they are, and there is room; it starts from a ready radio. The
broker and the probe each depend on their own inputs only: whatever is wrong with one
of them leaves the other tasks as they are. -/
theorem startup_isolates_parts (o : Outcomes D) (inputs : Inputs) :
    ∃ tasks, main o inputs = some tasks ∧
      (∀ state, .wifiStationTask state ∈ tasks ↔ StationConfigured o inputs ∧
        o.allocates .networkRunnerTask = true ∧ o.allocates .wifiStationTask = true ∧
        state = .ready) ∧
      (∀ probe, .networkMonitorTask probe ∈ tasks ↔
        .wifiStationTask .ready ∈ tasks ∧ o.allocates .networkMonitorTask = true ∧
        probe = startedProbe inputs) ∧
      (∀ config, .mqttTask config ∈ tasks ↔
        .wifiStationTask .ready ∈ tasks ∧ o.allocates .mqttTask = true ∧
        (developmentMqttConfig inputs.mqtt).run = some (.ok (some config))) ∧
      (.mqttTelemetryProducerTask ∈ tasks ↔
        .wifiStationTask .ready ∈ tasks ∧ o.allocates .mqttTelemetryProducerTask = true ∧
        SelectFixture inputs.mqtt) := by
  obtain ⟨name, ⟨hconfigured, mqtt, hmqtt, hmain⟩ | ⟨hnot, hmain⟩⟩ := main_cases o inputs
  · have hfixture : SelectFixture inputs.mqtt ↔ ∃ config, mqtt = some config := by
      rw [← config_present_iff]
      simp only [hmqtt]
    refine ⟨_, hmain, ?_, ?_, ?_, ?_⟩
    · intro state
      rw [mem_localTasks_append o name _ rfl, mem_startNetworking]
      simp only [Task.name, Task.wifiStationTask.injEq, reduceCtorEq, false_or, or_false,
        and_false, exists_false, hconfigured, true_and]
      grind
    · intro probe
      rw [mem_localTasks_append o name _ rfl, mem_localTasks_append o name _ rfl,
        mem_startNetworking, mem_startNetworking]
      simp only [Task.name, Task.networkMonitorTask.injEq, reduceCtorEq, false_or, or_false,
        and_false, exists_false, and_true]
      grind
    · intro config
      rw [mem_localTasks_append o name _ rfl, mem_localTasks_append o name _ rfl,
        mem_startNetworking, mem_startNetworking, ← hmqtt]
      simp only [Task.name, Task.mqttTask.injEq, reduceCtorEq, false_or, or_false, and_false,
        exists_false, and_true]
      grind
    · rw [mem_localTasks_append o name _ rfl, mem_localTasks_append o name _ rfl,
        mem_startNetworking, mem_startNetworking, hfixture]
      simp only [Task.name, reduceCtorEq, false_or, or_false, or_true, and_false, exists_false,
        and_true]
      grind
  · have hstation : .wifiStationTask .ready ∉ localTasks o name := not_mem_localTasks o name rfl
    refine ⟨_, hmain, ?_, ?_, ?_, ?_⟩
    · intro state
      exact iff_of_false (not_mem_localTasks o name rfl) fun h => hnot h.1
    · intro probe
      exact iff_of_false (not_mem_localTasks o name rfl) fun h => hstation h.1
    · intro config
      exact iff_of_false (not_mem_localTasks o name rfl) fun h => hstation h.1
    · exact iff_of_false (not_mem_localTasks o name rfl) fun h => hstation h.1

end Tasks

end EmbeddedSdk.FirmwareStartup
