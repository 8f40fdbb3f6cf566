import EmbeddedSdk.ErrorLoops
import EmbeddedSdk.Runs
import EmbeddedSdk.WifiConfig

/-!
# The ESP32-C6 Wi-Fi adapter

The adapter sets its lifecycle state around calls of the radio driver, which is
third-party code: a call comes with the driver's answer. The driver's network names
are turned into bounded ones, and the two places that do so leave by `?` when a name
is too long. Scanning and configuring need the whole adapter, connecting and waiting
the station controller that `into_station_parts` makes of it.
-/
namespace EmbeddedSdk.WifiAdapter
open ErrorLoops Runs Wifi

/-- What the adapter knows of the radio driver. -/
structure Driver where
  WifiError : Type
  Ssid : Type
  asStr : Ssid → String

/-- Authentication methods of the driver, `other` for those the adapter does not name. -/
inductive AuthenticationMethod
  | none
  | wep
  | wpa
  | wpaWpa2Personal
  | wpa2Personal
  | wpa2Enterprise
  | wpa3Personal
  | wpa2Wpa3Personal
  | other
  deriving DecidableEq, Repr

/-- A network that the driver has discovered. -/
structure AccessPointInfo (D : Driver) where
  ssid : D.Ssid
  bssid : Vector UInt8 6
  channel : UInt8
  signalStrength : Int8
  authMethod : Option AuthenticationMethod

/-- What the driver reports of an association. -/
structure ConnectedInfo (D : Driver) where
  ssid : D.Ssid
  bssid : Vector UInt8 6
  channel : UInt8
  authmode : AuthenticationMethod

/-- The driver's station configuration. -/
structure EspStationConfig where
  ssid : String
  authMethod : AuthenticationMethod
  password : Option String

/-- Error reported by the adapter. -/
inductive Error (D : Driver)
  | nonUtf8StationSsid
  | invalidDiscoveredSsid
  | unsupportedAuthentication
  | driver (error : D.WifiError)

variable {D : Driver}

/-- Every mode of the portable contract has a method of the driver. -/
def mapAuthentication : Authentication → Except (Error D) AuthenticationMethod
  | .«open» => .ok .none
  | .wpa2Personal => .ok .wpa2Personal
  | .wpa3Personal => .ok .wpa3Personal
  | .wpa2Wpa3Personal => .ok .wpa2Wpa3Personal

def mapSecurity : Option AuthenticationMethod → Security
  | none | some .none => .«open»
  | some .wep => .wep
  | some .wpa | some .wpaWpa2Personal => .wpa
  | some .wpa2Personal => .wpa2Personal
  | some .wpa3Personal | some .wpa2Wpa3Personal => .wpa3Personal
  | some .wpa2Enterprise => .enterprise
  | some .other => .unknown

/-- `Ssid::try_from(..).map_err(|_| Error::InvalidDiscoveredSsid)`. -/
def discoveredSsid (ssid : D.Ssid) : Except (Error D) Ssid :=
  (Ssid.tryFrom (D.asStr ssid)).mapError fun _ => .invalidDiscoveredSsid

/-- The body of the loop of `scan`. -/
def accessPoint (info : AccessPointInfo D) : Except (Error D) AccessPoint := do
  let ssid ← discoveredSsid info.ssid
  return {
    ssid
    bssid := info.bssid
    channel := info.channel
    signalStrengthDbm := info.signalStrength
    security := mapSecurity info.authMethod }

/-- The value that `connect` returns. -/
def connectedStation (info : ConnectedInfo D) : Except (Error D) ConnectedStation := do
  let ssid ← discoveredSsid info.ssid
  return {
    ssid
    bssid := info.bssid
    channel := info.channel
    security := mapSecurity (some info.authmode) }

/-- `scan`, with the state that it leaves. An error inside the loop leaves at once. -/
def scan (maximumResults : ℕ) (scanAsync : ℕ → Except D.WifiError (List (AccessPointInfo D))) :
    Except (Error D) (List AccessPoint) × WifiState :=
  let state := .scanning
  match scanAsync maximumResults with
  | .ok discovered =>
      match discovered.mapM accessPoint with
      | .ok accessPoints => (.ok accessPoints, .ready)
      | .error error => (.error error, state)
  | .error error => (.error (.driver error), .failed)

/-- The driver's configuration for a portable one. -/
def espStationConfig (station : StationConfig) : Except (Error D) EspStationConfig := do
  let ssid ← (station.ssid.asStr).elim (.error .nonUtf8StationSsid) .ok
  let authMethod ← mapAuthentication station.authentication
  return ⟨ssid, authMethod, station.passphrase.map Passphrase.asStr⟩

/-- `configure_station`, with the state that it leaves. -/
def configureStation (state : WifiState) (station : StationConfig)
    (setConfig : EspStationConfig → Except D.WifiError Unit) : Except (Error D) Unit × WifiState :=
  match espStationConfig station with
  | .error error => (.error error, state)
  | .ok config =>
      match setConfig config with
      | .error error => (.error (.driver error), state)
      | .ok () => (.ok (), .ready)

/-- `connect`, with the state that it leaves. The state is set before the value is
built, and building it may fail. -/
def connect (connectAsync : Except D.WifiError (ConnectedInfo D)) :
    Except (Error D) ConnectedStation × WifiState :=
  match connectAsync with
  | .ok connected => (connectedStation connected, .connected)
  | .error error => (.error (.driver error), .failed)

/-- `wait_for_disconnect`, with the state that it leaves. -/
def waitForDisconnect (waitAsync : Except D.WifiError Unit) : Except (Error D) Unit × WifiState :=
  match waitAsync with
  | .ok () => (.ok (), .disconnected)
  | .error error => (.error (.driver error), .disconnected)

/-- The whole adapter or its station controller, each with the state it shows. -/
inductive Adapter
  | wifi (state : WifiState)
  | station (state : WifiState)
  deriving DecidableEq

def Adapter.state : Adapter → WifiState
  | .wifi state | .station state => state

/-- `new`, with the driver's answer. -/
def Adapter.new (initialized : Except D.WifiError Unit) : Except (Error D) Adapter :=
  match initialized with
  | .ok () => .ok (.wifi .ready)
  | .error error => .error (.driver error)

/-- A call of the adapter and how the driver answers it. -/
inductive Call (D : Driver)
  | scan (maximumResults : ℕ)
      (scanAsync : ℕ → Except D.WifiError (List (AccessPointInfo D)))
  | configureStation (station : StationConfig)
      (setConfig : EspStationConfig → Except D.WifiError Unit)
  | intoStationParts
  | connect (connectAsync : Except D.WifiError (ConnectedInfo D))
  | waitForDisconnect (waitAsync : Except D.WifiError Unit)

/-- What a completed call returned. -/
inductive Reply (D : Driver)
  | scanned (result : Except (Error D) (List AccessPoint))
  | configured (result : Except (Error D) Unit)
  | parts
  | connected (result : Except (Error D) ConnectedStation)
  | disconnected (result : Except (Error D) Unit)

/-- A completed call. The types of the adapter and of the controller decide which
calls there are. -/
def exec : Adapter → Call D → Option (Reply D × Adapter)
  | .wifi _, .scan maximumResults scanAsync =>
      let (result, state) := scan maximumResults scanAsync
      some (.scanned result, .wifi state)
  | .wifi state, .configureStation station setConfig =>
      let (result, state) := configureStation state station setConfig
      some (.configured result, .wifi state)
  | .wifi state, .intoStationParts => some (.parts, .station state)
  | .station _, .connect connectAsync =>
      let (result, state) := connect connectAsync
      some (.connected result, .station state)
  | .station _, .waitForDisconnect waitAsync =>
      let (result, state) := waitForDisconnect waitAsync
      some (.disconnected result, .station state)
  | _, _ => none

def step (s : Adapter) (call : Call D) : Option Adapter := (exec s call).map Prod.snd

/-- The state after a call says what the call returned. -/
def Reply.Truthful (before after : WifiState) : Reply D → Prop
  | .scanned _ => after ≠ .scanning
  | .configured result => result.isOk = false → after = before
  | .parts => after = before
  | .connected result => after = .connected ↔ result.isOk = true
  | .disconnected _ => after = .disconnected

/-- A call that leaves a truthful state behind. -/
def Call.Truthful (call : Call D) (s : Adapter) : Prop :=
  ∀ reply t, exec s call = some (reply, t) → reply.Truthful s.state t.state

/-- Every network name that the driver hands over in a successful scan or
association fits into a bounded one. -/
def Call.SsidsFit : Call D → Prop
  | .scan maximumResults scanAsync =>
      ∀ discovered, scanAsync maximumResults = .ok discovered →
        ∀ info ∈ discovered, (D.asStr info.ssid).utf8ByteSize ≤ maxSsidLen
  | .connect connectAsync =>
      ∀ connected, connectAsync = .ok connected →
        (D.asStr connected.ssid).utf8ByteSize ≤ maxSsidLen
  | _ => True

theorem discoveredSsid_isOk (ssid : D.Ssid) :
    (discoveredSsid ssid).isOk = true ↔ (D.asStr ssid).utf8ByteSize ≤ maxSsidLen := by
  rw [← Ssid.tryFrom_isOk, discoveredSsid]
  cases Ssid.tryFrom (D.asStr ssid) with
  | error e => simp [Except.mapError, Except.isOk, Except.toBool]
  | ok s => simp [Except.mapError, Except.isOk, Except.toBool]

theorem accessPoint_isOk (info : AccessPointInfo D) :
    (accessPoint info).isOk = (discoveredSsid info.ssid).isOk := by
  unfold accessPoint
  cases discoveredSsid info.ssid with
  | error e => rfl
  | ok s => rfl

theorem connectedStation_isOk (info : ConnectedInfo D) :
    (connectedStation info).isOk = (discoveredSsid info.ssid).isOk := by
  unfold connectedStation
  cases discoveredSsid info.ssid with
  | error e => rfl
  | ok s => rfl

/-- A scan ends in another state unless a name that it found is too long. -/
theorem scan_truthful_iff (maximumResults : ℕ)
    (scanAsync : ℕ → Except D.WifiError (List (AccessPointInfo D))) :
    (scan maximumResults scanAsync).2 ≠ .scanning ↔
      (Call.scan maximumResults scanAsync).SsidsFit := by
  simp only [scan, Call.SsidsFit]
  cases hscan : scanAsync maximumResults with
  | error e => simp
  | ok discovered =>
      have hloop := mapM_isOk_iff accessPoint discovered
      simp only [accessPoint_isOk, discoveredSsid_isOk] at hloop
      simp only [Except.ok.injEq, forall_eq']
      rw [← hloop]
      cases discovered.mapM accessPoint with
      | error e => simp [Except.isOk, Except.toBool]
      | ok accessPoints => simp [Except.isOk, Except.toBool]

/-- A connection shows what it returned unless the name of its network is too long. -/
theorem connect_truthful_iff (connectAsync : Except D.WifiError (ConnectedInfo D)) :
    ((connect connectAsync).2 = .connected ↔ (connect connectAsync).1.isOk = true) ↔
      (Call.connect connectAsync).SsidsFit := by
  unfold connect Call.SsidsFit
  cases connectAsync with
  | error e => simp [Except.isOk, Except.toBool]
  | ok connected => simp [connectedStation_isOk, discoveredSsid_isOk]

theorem configureStation_truthful (state : WifiState) (station : StationConfig)
    (setConfig : EspStationConfig → Except D.WifiError Unit)
    (h : (configureStation state station setConfig).1.isOk = false) :
    (configureStation state station setConfig).2 = state := by
  unfold configureStation at h ⊢
  split at h
  · rfl
  · split at h
    · rfl
    · nomatch h

theorem waitForDisconnect_truthful (waitAsync : Except D.WifiError Unit) :
    (waitForDisconnect waitAsync).2 = .disconnected := by
  cases waitAsync with
  | error e => rfl
  | ok u => rfl

/-- An accepted call is truthful exactly when the driver's names fit. -/
theorem truthful_iff_ssidsFit {s t : Adapter} {call : Call D} (h : step s call = some t) :
    call.Truthful s ↔ call.SsidsFit := by
  unfold Call.Truthful
  cases s with
  | wifi state =>
      cases call with
      | scan maximumResults scanAsync =>
          simpa [exec, Reply.Truthful, Adapter.state] using
            scan_truthful_iff maximumResults scanAsync
      | configureStation station setConfig =>
          simpa [exec, Reply.Truthful, Adapter.state, Call.SsidsFit] using
            configureStation_truthful state station setConfig
      | intoStationParts => simp [exec, Reply.Truthful, Adapter.state, Call.SsidsFit]
      | connect connectAsync => nomatch h
      | waitForDisconnect waitAsync => nomatch h
  | station state =>
      cases call with
      | scan maximumResults scanAsync => nomatch h
      | configureStation station setConfig => nomatch h
      | intoStationParts => nomatch h
      | connect connectAsync =>
          simpa [exec, Reply.Truthful, Adapter.state] using connect_truthful_iff connectAsync
      | waitForDisconnect waitAsync =>
          simpa [exec, Reply.Truthful, Adapter.state, Call.SsidsFit] using
            waitForDisconnect_truthful waitAsync

/-- In every sequence of completed calls, from whatever state, each call leaves a
truthful state behind exactly when no network name of the driver is too long. -/
theorem calls_truthful_iff_ssidsFit {start t : Adapter} {calls : List (Call D)}
    (h : run step start calls = some t) :
    EachStep step start calls (fun _ s call => call.Truthful s) ↔
      ∀ call ∈ calls, call.SsidsFit := by
  have haccepted : ∀ past call, past ++ [call] <+: calls → ∀ s, run step start past = some s →
      (call.Truthful s ↔ call.SsidsFit) := by
    intro past call hp s hs
    obtain ⟨u, hu⟩ := run_prefix_some h hp
    obtain ⟨m, hm, hmu⟩ := run_concat_some hu
    rw [hs, Option.some.injEq] at hm
    subst hm
    exact truthful_iff_ssidsFit hmu
  constructor
  · intro htruthful call hcall
    obtain ⟨past, rest, rfl⟩ := List.append_of_mem hcall
    have hp : past ++ [call] <+: past ++ call :: rest := ⟨rest, by simp⟩
    obtain ⟨s, hs⟩ := run_prefix_some h ((List.prefix_append past [call]).trans hp)
    exact (haccepted past call hp s hs).mp (htruthful past call hp s hs)
  · intro hfit past call hp s hs
    exact (haccepted past call hp s hs).mpr (hfit call (hp.subset (by simp)))

/-- A driver that hands over names as text of any length. -/
def textDriver : Driver := ⟨Unit, String, id⟩

/-- A network of the driver with a given name. -/
def namedNetwork (name : String) : AccessPointInfo textDriver where
  ssid := name
  bssid := #v[2, 0, 0, 0, 0, 1]
  channel := 6
  signalStrength := -50
  authMethod := some .wpa2Personal

/-- An association of the driver with a network of a given name. -/
def namedAssociation (name : String) : ConnectedInfo textDriver where
  ssid := name
  bssid := #v[2, 0, 0, 0, 0, 1]
  channel := 6
  authmode := .wpa2Personal

/-- A scan, an association and its loss, with a name of the greatest length. -/
def namedCalls : List (Call textDriver) :=
  [.scan 8 fun _ => .ok [namedNetwork "abcdefghijklmnopqrstuvwxyz012345"], .intoStationParts,
    .connect (.ok (namedAssociation "abcdefghijklmnopqrstuvwxyz012345")),
    .waitForDisconnect (.error ())]

theorem namedCalls_truthful :
    (∃ t, run step (.wifi .ready) namedCalls = some t) ∧
      EachStep step (.wifi .ready) namedCalls fun _ s call => call.Truthful s := by
  have hrun : run step (.wifi .ready) namedCalls = some (.station .disconnected) := rfl
  refine ⟨⟨_, hrun⟩, (calls_truthful_iff_ssidsFit hrun).mpr ?_⟩
  have hlength : "abcdefghijklmnopqrstuvwxyz012345".utf8ByteSize ≤ maxSsidLen := by decide
  intro call hcall
  simp only [namedCalls, List.mem_cons, List.not_mem_nil, or_false] at hcall
  obtain rfl | rfl | rfl | rfl := hcall
  · intro discovered hdiscovered info hinfo
    rw [← Except.ok.inj hdiscovered, List.mem_singleton] at hinfo
    rw [hinfo]
    exact hlength
  · trivial
  · intro connected hconnected
    rw [← Except.ok.inj hconnected]
    exact hlength
  · trivial

/-- One byte more. -/
def longNamedCalls : List (Call textDriver) :=
  [.scan 8 fun _ => .ok [namedNetwork "abcdefghijklmnopqrstuvwxyz0123456"], .intoStationParts,
    .connect (.ok (namedAssociation "abcdefghijklmnopqrstuvwxyz0123456"))]

/-- A name that is too long leaves the adapter scanning after the scan and connected
after a connection that failed. -/
theorem longNamedCalls_stale :
    ∃ start, Adapter.new (.ok () : Except textDriver.WifiError Unit) = .ok start ∧
      run step start longNamedCalls = some (.station .connected) ∧
      ¬ EachStep step start longNamedCalls fun _ s call => call.Truthful s := by
  refine ⟨.wifi .ready, rfl, rfl, ?_⟩
  intro h
  have hscan := h [] _ ⟨_, rfl⟩ _ rfl _ _ rfl
  exact hscan rfl

end EmbeddedSdk.WifiAdapter
