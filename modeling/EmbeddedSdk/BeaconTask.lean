import EmbeddedSdk.BeaconSettings
import EmbeddedSdk.Runs

/-!
# The beacon firmware as a system

`main` reads the settings, hands the transmit power to the controller and starts
`beacon_task`, which joins two loops on one executor. One runs the host stack; the
other asks the controller to advertise, and again whenever it refuses or stops, after
a pause. The configuration is reported behind the first advertisement that the
controller has accepted. A run is any interleaving in which no timer fires early.
-/
namespace EmbeddedSdk.Beacon
open AsciiText Bluetooth CheckedInputs PaddedBytes Runs Scanner TextColumns

def bluetoothRecoveryRetryMs : ℕ := 100

/-- What `main` has done when it reaches its last loop. -/
structure Startup where
  console : List String
  controller : Option (ℕ × ControllerTxPower)
  task : Option BeaconSettings

/-- The controller is configured for one connection and a transmit power. The driver
may refuse the configuration, and there may be no room for the task. -/
def main (inputs : BeaconInputs) (address : StaticRandomAddress)
    (initialized : Except String Unit) (allocated : Bool) : Option Startup :=
  match (beaconSettings inputs address).run with
  | none => none
  | some (.error error) =>
      some ⟨["embedded-sdk beacon configuration failed: " ++ error.display], none, none⟩
  | some (.ok settings) =>
      let config := (1, settings.radioTxPower)
      match initialized with
      | .error error =>
          some ⟨["embedded-sdk beacon controller init failed: ESP BLE controller init failed: " ++
            error], some config, none⟩
      | .ok () =>
          if allocated then some ⟨[], some config, some settings⟩
          else some ⟨["embedded-sdk beacon task allocation failed"], some config, none⟩

/-- The text of a name, or nothing if it is not UTF-8. -/
def BeaconName.asStr (name : BeaconName) : String :=
  (String.fromUTF8? ⟨name.asBytes.toArray⟩).getD ""

/-- Two upper-case hexadecimal digits. -/
def upperHex (byte : UInt8) : String :=
  .ofList ((hexadecimal 2 byte.toNat).map Char.toUpper)

def displayAddress (address : StaticRandomAddress) : String :=
  ":".intercalate (address.bytes.toList.map upperHex)

namespace BeaconTask

/-- The arguments of `advertise`, with times in milliseconds. -/
structure Request where
  intervalMin : ℕ
  intervalMax : ℕ
  advData : List UInt8
  scanData : List UInt8
  deriving DecidableEq

/-- The awaits of `advertise_forever`, with the time at which a timer is due. -/
inductive AdvertisePoint
  | advertise
  | accept
  | retry (dueMs : ℕ)

/-- The awaits of `bluetooth_runner`. -/
inductive RunnerPoint
  | run
  | retry (dueMs : ℕ)

/-- What the two loops print. -/
inductive Message
  | broadcasting
  | boot
  | mac
  | identity
  | radio
  | advertisingFailed
  | advertisingStopped
  | hostRunnerFailed
  deriving DecidableEq

structure State where
  nowMs : ℕ
  request : Request
  advertising : AdvertisePoint
  reportConfiguration : Bool
  runner : RunnerPoint
  requests : List (ℕ × Request)
  console : List Message

/-- What can happen: the clock advances, the controller answers or stops, the host
stack returns, or the timer of one of the loops fires. -/
inductive Input
  | clock (elapsedMs : ℕ)
  | advertiseReturned (ok : Bool)
  | acceptReturned
  | advertiseTimer
  | runnerReturned (ok : Bool)
  | runnerTimer

def identityLine (name uuid : String) (major minor : ℕ) : String :=
  "embedded-sdk beacon identity: name=" ++ name ++ ", uuid=" ++ uuid ++ ", major=" ++
    .ofList (decimal major) ++ ", minor=" ++ .ofList (decimal minor)

/-- The line that a message prints. The addresses of the radio come from the chip. -/
def Message.line (stationMac bluetoothMac : String) (address : StaticRandomAddress)
    (settings : BeaconSettings) : Message → String
  | .broadcasting => "embedded-sdk beacon broadcasting"
  | .boot => "embedded-sdk beacon boot: board=xiao-esp32c6, chip=esp32c6"
  | .mac => "embedded-sdk beacon mac: station=" ++ stationMac ++ ", bluetooth=" ++ bluetoothMac ++
      ", advertising=" ++ displayAddress address
  | .identity => identityLine settings.name.asStr settings.frame.uuid.display
      settings.frame.major.toNat settings.frame.minor.toNat
  | .radio => "embedded-sdk beacon radio: interval_ms=" ++
      .ofList (decimal settings.interval.millis.toNat) ++ ", measured_power_dbm=" ++
      .ofList (signed settings.frame.measuredPower.toInt) ++ ", tx_power_dbm=" ++
      .ofList (signed settings.radioTxPowerDbm.toInt)
  | .advertisingFailed => "embedded-sdk beacon advertising failed; retrying"
  | .advertisingStopped => "embedded-sdk beacon advertising stopped; retrying"
  | .hostRunnerFailed => "embedded-sdk beacon host runner failed; retrying"

/-- The lines of the configuration report. -/
def report : List Message := [.boot, .mac, .identity, .radio]

/-- The head of the loop of `advertise_forever`. -/
def State.advertise (s : State) : State :=
  { s with advertising := .advertise, requests := s.requests ++ [(s.nowMs, s.request)] }

/-- The loop behind an advertisement that the controller has accepted. -/
def State.broadcast (s : State) : State :=
  { s with
    advertising := .accept
    reportConfiguration := false
    console := s.console ++ .broadcasting :: (if s.reportConfiguration then report else []) }

/-- A message and the sleep before the next request. -/
def State.pause (s : State) (message : Message) : State :=
  { s with
    advertising := .retry (s.nowMs + bluetoothRecoveryRetryMs)
    console := s.console ++ [message] }

/-- The two loops up to their first awaits. `advertise_forever` returns with a message
if a packet cannot be encoded. -/
def beaconTask (codec : AdCodec) (settings : BeaconSettings) (nowMs : ℕ) :
    Option (Except String State) :=
  match advertisedPackets codec settings.name settings.frame with
  | none => none
  | some (.error message) => some (.error message)
  | some (.ok (advData, scanData)) =>
      let interval := settings.interval.millis.toNat
      let s : State :=
        ⟨nowMs, ⟨interval, interval, advData, scanData⟩, .advertise, true, .run, [], []⟩
      some (.ok s.advertise)

def step (s : State) : Input → Option State
  | .clock elapsedMs => some { s with nowMs := s.nowMs + elapsedMs }
  | .advertiseReturned ok =>
      match s.advertising, ok with
      | .advertise, true => some s.broadcast
      | .advertise, false => some (s.pause .advertisingFailed)
      | _, _ => none
  | .acceptReturned =>
      match s.advertising with
      | .accept => some (s.pause .advertisingStopped)
      | _ => none
  | .advertiseTimer =>
      match s.advertising with
      | .retry dueMs => if dueMs ≤ s.nowMs then some s.advertise else none
      | _ => none
  | .runnerReturned ok =>
      match s.runner, ok with
      | .run, true => some s
      | .run, false =>
          some { s with
            runner := .retry (s.nowMs + bluetoothRecoveryRetryMs)
            console := s.console ++ [.hostRunnerFailed] }
      | .retry _, _ => none
  | .runnerTimer =>
      match s.runner with
      | .retry dueMs => if dueMs ≤ s.nowMs then some { s with runner := .run } else none
      | .run => none

/-- Everything that one input can do. -/
inductive Move (s t : State) : Prop
  | later (elapsedMs : ℕ) (h : t = { s with nowMs := s.nowMs + elapsedMs })
  | runner (point : RunnerPoint) (message : List Message)
      (hmessage : ∀ m ∈ message, m = .hostRunnerFailed)
      (h : t = { s with runner := point, console := s.console ++ message })
  | accepted (h : t = s.broadcast)
  | paused (message : Message)
      (hmessage : message = .advertisingFailed ∨ message = .advertisingStopped)
      (h : t = s.pause message)
  | requested (dueMs : ℕ) (hpoint : s.advertising = .retry dueMs) (hdue : dueMs ≤ s.nowMs)
      (h : t = s.advertise)

theorem step_move {s t : State} {input : Input} (h : step s input = some t) : Move s t := by
  cases input with
  | clock elapsedMs => exact .later elapsedMs (Option.some.inj h).symm
  | advertiseReturned ok =>
      simp only [step] at h
      split at h
      · exact .accepted (Option.some.inj h).symm
      · exact .paused .advertisingFailed (.inl rfl) (Option.some.inj h).symm
      · cases h
  | acceptReturned =>
      simp only [step] at h
      split at h
      · exact .paused .advertisingStopped (.inr rfl) (Option.some.inj h).symm
      · cases h
  | advertiseTimer =>
      simp only [step] at h
      split at h
      · next dueMs hpoint =>
        split at h
        · next hdue => exact .requested dueMs hpoint hdue (Option.some.inj h).symm
        · cases h
      · cases h
  | runnerReturned ok =>
      simp only [step] at h
      split at h
      · cases h
        exact .runner s.runner [] (by simp) (by simp)
      · cases h
        exact .runner _ [.hostRunnerFailed] (by simp) rfl
      · cases h
  | runnerTimer =>
      simp only [step] at h
      split at h
      · split at h
        · cases h
          exact .runner .run [] (by simp) (by simp)
        · cases h
      · cases h

/-- The requests are all the same, and the loop pauses between them. -/
structure Paced (request : Request) (s : State) : Prop where
  stored : s.request = request
  same : ∀ r ∈ s.requests, r.2 = request
  spaced : s.requests.Pairwise fun r r' => r.1 + bluetoothRecoveryRetryMs ≤ r'.1
  past : ∀ r ∈ s.requests, r.1 ≤ s.nowMs
  due : ∀ dueMs, s.advertising = .retry dueMs →
    ∀ r ∈ s.requests, r.1 + bluetoothRecoveryRetryMs ≤ dueMs

theorem Paced.advertise {request : Request} {s : State} (hs : Paced request s)
    (hpause : ∀ r ∈ s.requests, r.1 + bluetoothRecoveryRetryMs ≤ s.nowMs) :
    Paced request s.advertise where
  stored := hs.stored
  same := by
    rw [State.advertise, List.forall_mem_append, List.forall_mem_singleton]
    exact ⟨hs.same, hs.stored⟩
  spaced := by
    rw [State.advertise, List.pairwise_append]
    refine ⟨hs.spaced, List.pairwise_singleton _ _, ?_⟩
    intro r hr r' hr'
    rw [List.mem_singleton.mp hr']
    exact hpause r hr
  past := by
    rw [State.advertise, List.forall_mem_append, List.forall_mem_singleton]
    exact ⟨hs.past, le_rfl⟩
  due dueMs hdue := by cases hdue

theorem step_paced {request : Request} (s : State) (input : Input) (t : State)
    (hs : Paced request s) (h : step s input = some t) : Paced request t := by
  cases step_move h with
  | later elapsedMs ht =>
      rw [ht]
      exact ⟨hs.stored, hs.same, hs.spaced,
        fun r hr => (hs.past r hr).trans (Nat.le_add_right _ _), hs.due⟩
  | runner point message hmessage ht =>
      rw [ht]
      exact ⟨hs.stored, hs.same, hs.spaced, hs.past, hs.due⟩
  | accepted ht =>
      rw [ht]
      exact ⟨hs.stored, hs.same, hs.spaced, hs.past, fun dueMs hdue => by cases hdue⟩
  | paused message hmessage ht =>
      rw [ht]
      refine ⟨hs.stored, hs.same, hs.spaced, hs.past, ?_⟩
      intro dueMs hdue r hr
      obtain rfl := AdvertisePoint.retry.inj hdue
      exact Nat.add_le_add_right (hs.past r hr) _
  | requested dueMs hpoint hdue ht =>
      rw [ht]
      exact hs.advertise fun r hr => (hs.due dueMs hpoint r hr).trans hdue

/-- The report stands on the console once, behind the first advertisement. -/
def ReportedOnce (console : List Message) : Prop :=
  ∃ before after, console = before ++ .broadcasting :: (report ++ after) ∧
    (∀ m ∈ before, m ≠ .broadcasting ∧ m ∉ report) ∧ ∀ m ∈ after, m ∉ report

/-- What the console shows of the configuration so far. -/
def Reported (s : State) : Prop :=
  if s.reportConfiguration then ∀ m ∈ s.console, m ≠ .broadcasting ∧ m ∉ report
  else ReportedOnce s.console

theorem ReportedOnce.append {console : List Message} (h : ReportedOnce console)
    {messages : List Message} (hmessages : ∀ m ∈ messages, m ∉ report) :
    ReportedOnce (console ++ messages) := by
  obtain ⟨before, after, rfl, hbefore, hafter⟩ := h
  refine ⟨before, after ++ messages, by simp, hbefore, ?_⟩
  rw [List.forall_mem_append]
  exact ⟨hafter, hmessages⟩

/-- Messages that have nothing to do with the configuration. -/
theorem Reported.append {s t : State} (hs : Reported s) {messages : List Message}
    (hflag : t.reportConfiguration = s.reportConfiguration)
    (hconsole : t.console = s.console ++ messages)
    (hmessages : ∀ m ∈ messages, m ≠ .broadcasting ∧ m ∉ report) : Reported t := by
  rw [Reported, hflag, hconsole]
  rw [Reported] at hs
  split at hs
  next hfirst =>
    rw [if_pos hfirst, List.forall_mem_append]
    exact ⟨hs, hmessages⟩
  next hlater =>
    rw [if_neg hlater]
    exact hs.append fun m hm => (hmessages m hm).2

theorem Reported.broadcast {s : State} (hs : Reported s) : Reported s.broadcast := by
  rw [Reported] at hs
  show ReportedOnce _
  rw [State.broadcast]
  split at hs
  next hflag =>
    rw [if_pos hflag]
    exact ⟨s.console, [], by simp, hs, by simp⟩
  next hflag =>
    rw [if_neg hflag]
    exact hs.append (by simp [report])

theorem step_reported (s : State) (input : Input) (t : State) (hs : Reported s)
    (h : step s input = some t) : Reported t := by
  cases step_move h with
  | later elapsedMs ht =>
      rw [ht]
      exact hs
  | runner point message hmessage ht =>
      rw [ht]
      refine hs.append rfl rfl ?_
      intro m hm
      rw [hmessage m hm]
      decide
  | accepted ht =>
      rw [ht]
      exact hs.broadcast
  | paused message hmessage ht =>
      rw [ht]
      refine hs.append rfl rfl ?_
      rw [List.forall_mem_singleton]
      rcases hmessage with rfl | rfl <;> decide
  | requested dueMs hpoint hdue ht =>
      rw [ht]
      exact hs

theorem asStr_of_asBytes {name : BeaconName} {text : String}
    (h : name.asBytes = text.toUTF8.data.toList) : name.asStr = text := by
  rw [BeaconName.asStr, h, Array.toArray_toList]
  have hself : String.fromUTF8? ⟨text.toUTF8.data⟩ = some text := fromUTF8?_self text
  rw [hself, Option.getD_some]

/-- The identity on the console is the one that the inputs give. -/
theorem line_identity {inputs : BeaconInputs} {address : StaticRandomAddress}
    {settings : BeaconSettings} (h : Configured inputs address settings)
    (stationMac bluetoothMac : String) :
    Message.line stationMac bluetoothMac address settings .identity =
      identityLine (inputs.name.getD (generatedName (defaultMinor address)))
        (.ofList ((inputs.uuid.getD defaultBeaconUuid).toList.map lowerHex))
        settings.frame.major.toNat settings.frame.minor.toNat := by
  show identityLine settings.name.asStr settings.frame.uuid.display _ _ = _
  rw [asStr_of_asBytes h.name, h.uuid]

/-- A request that announces what the inputs say. -/
structure Announces (codec : AdCodec) (inputs : BeaconInputs) (address : StaticRandomAddress)
    (settings : BeaconSettings) (r : Request) : Prop where
  configured : Configured inputs address settings
  intervalMin : r.intervalMin = settings.interval.millis.toNat
  intervalMax : r.intervalMax = settings.interval.millis.toNat
  advData : codec.decode r.advData = [.other, .manufacturerSpecificData 0x004c
    ([0x02, 0x15] ++ (settings.frame.uuid.bytes.toList ++
      ((toBeBytes settings.frame.major).toList ++ ((toBeBytes settings.frame.minor).toList ++
        [settings.frame.measuredPower.toUInt8]))))]
  scanData : codec.decode r.scanData = [.completeLocalName settings.name.asBytes]

/-- Both packets are encoded, and the first request goes out at once. -/
theorem exists_beaconTask {codec : AdCodec} (hcodec : codec.Documented) {inputs : BeaconInputs}
    {address : StaticRandomAddress} {settings : BeaconSettings}
    (hsettings : Configured inputs address settings) (nowMs : ℕ) :
    ∃ s, beaconTask codec settings nowMs = some (.ok s) ∧
      Announces codec inputs address settings s.request ∧ Paced s.request s ∧ Reported s := by
  obtain ⟨advData, scanData, hpackets, -, -, hadv, hscan⟩ :=
    hcodec.packets hsettings.constructed settings.frame
  refine ⟨_, by rw [beaconTask, hpackets], ⟨hsettings, rfl, rfl, ?_, hscan⟩, ?_, ?_⟩
  · rw [← IBeacon.manufacturerPayload_toList]
    exact hadv
  · exact Paced.advertise ⟨rfl, by simp, .nil, by simp, by simp⟩ (by simp)
  · show ∀ m ∈ [], m ≠ Message.broadcasting ∧ m ∉ report
    simp

/-- What a run shows of the configuration. -/
theorem Reported.cases {s : State} (h : Reported s) :
    if .broadcasting ∈ s.console then ReportedOnce s.console else ∀ m ∈ s.console, m ∉ report := by
  rw [Reported] at h
  split at h
  · rw [if_neg fun hmem => (h _ hmem).1 rfl]
    exact fun m hm => (h m hm).2
  · have hmem : Message.broadcasting ∈ s.console := by
      obtain ⟨before, after, hconsole, -⟩ := h
      rw [hconsole]
      exact List.mem_append_right before List.mem_cons_self
    rw [if_pos hmem]
    exact h

theorem run_announces {codec : AdCodec} {inputs : BeaconInputs} {address : StaticRandomAddress}
    {settings : BeaconSettings} {start : State}
    (hstart : Announces codec inputs address settings start.request)
    (hpaced : Paced start.request start) (hreported : Reported start) {events : List Input}
    {s : State} (h : run step start events = some s) :
    (∀ r ∈ s.requests, Announces codec inputs address settings r.2) ∧
      s.requests.Pairwise (fun r r' => r.2 = r'.2 ∧ r.1 + 100 ≤ r'.1) ∧
      if .broadcasting ∈ s.console then ReportedOnce s.console
      else ∀ m ∈ s.console, m ∉ report := by
  have hs : Paced start.request s := run_invariant hpaced step_paced h
  have hshown : Reported s := run_invariant hreported step_reported h
  refine ⟨?_, ?_, hshown.cases⟩
  · intro r hr
    rw [hs.same r hr]
    exact hstart
  · refine hs.spaced.imp_of_mem ?_
    intro r r' hr hr' hspaced
    exact ⟨(hs.same r hr).trans (hs.same r' hr').symm, hspaced⟩

/-- Whatever the inputs, the radio driver, the controller and the timers do: `main` does
not panic, and it uses the radio only if all inputs are accepted, with the configured
power. A task that it starts asks for the same advertisement again and again, with
pauses of 100 ms. The two packets and the interval are what the inputs say, and the
configuration is reported once, when the controller accepts the first of them. -/
theorem broadcasts_follow_inputs {codec : AdCodec} (hcodec : codec.Documented)
    (inputs : BeaconInputs) (address : StaticRandomAddress) (initialized : Except String Unit)
    (allocated : Bool) :
    ∃ startup, main inputs address initialized allocated = some startup ∧
      (startup.controller.isSome = true ↔ inputs.Accepted) ∧
      (∀ config ∈ startup.controller,
        Denotes true inputs.radioTxPowerDbm 9 config.2.dbm.toInt) ∧
      (startup.task.isSome = true ↔
        inputs.Accepted ∧ initialized.isOk = true ∧ allocated = true) ∧
      ∀ settings ∈ startup.task, (∀ stationMac bluetoothMac,
        Message.line stationMac bluetoothMac address settings .identity =
          identityLine (inputs.name.getD (generatedName (defaultMinor address)))
            (.ofList ((inputs.uuid.getD defaultBeaconUuid).toList.map lowerHex))
            settings.frame.major.toNat settings.frame.minor.toNat) ∧
      ∀ bootMs, ∃ start,
        beaconTask codec settings bootMs = some (.ok start) ∧
        ∀ events s, run step start events = some s →
          (∀ r ∈ s.requests, Announces codec inputs address settings r.2) ∧
          s.requests.Pairwise (fun r r' => r.2 = r'.2 ∧ r.1 + 100 ≤ r'.1) ∧
          if .broadcasting ∈ s.console then ReportedOnce s.console
          else ∀ m ∈ s.console, m ∉ report := by
  obtain ⟨settings, hok, hconfigured, hvalid⟩ | ⟨error, herror, hfirst⟩ :=
    decides_beaconSettings inputs address
  · have hrun : (beaconSettings inputs address).run = some (.ok settings) := hok
    have hcontroller : ∀ config ∈ some (1, settings.radioTxPower),
        Denotes true inputs.radioTxPowerDbm 9 config.2.dbm.toInt := by
      intro config hconfig
      obtain rfl := Option.some.inj hconfig
      rw [hconfigured.radioTxPower]
      exact hconfigured.radioTxPowerDbm
    have hall : inputs.Accepted := hvalid
    rw [main, hrun]
    cases initialized with
    | error message =>
        exact ⟨_, rfl, by simp [hall], hcontroller, by simp [Except.isOk, Except.toBool], by simp⟩
    | ok =>
        cases allocated with
        | false =>
            exact ⟨_, rfl, by simp [hall], hcontroller, by simp, by simp⟩
        | true =>
            refine ⟨_, rfl, by simp [hall], hcontroller,
              by simp [hall, Except.isOk, Except.toBool], ?_⟩
            intro settings' hsettings
            obtain rfl := Option.some.inj hsettings
            refine ⟨line_identity hconfigured, fun bootMs => ?_⟩
            obtain ⟨start, hstart, hannounces, hpaced, hreported⟩ :=
              exists_beaconTask hcodec hconfigured bootMs
            exact ⟨start, hstart, fun _ _ h => run_announces hannounces hpaced hreported h⟩
  · have hrun : (beaconSettings inputs address).run = some (.error error) := herror
    have hrefused : ¬ inputs.Accepted := hfirst.exists_not
    rw [main, hrun]
    exact ⟨_, rfl, by simp [hrefused], by simp, by simp [hrefused], by simp⟩

def officeInputs : BeaconInputs where
  name := some "Office"
  minor := some "+42"
  intervalMs := some "250"
  radioTxPowerDbm := some "-3"

def officeAddress : StaticRandomAddress := .fromSeed (.replicate 6 0x5a)

/-- The controller refuses once, and later stops. -/
def officeEvents : List Input :=
  [.advertiseReturned false, .runnerReturned false, .clock 130, .advertiseTimer,
    .advertiseReturned true, .runnerTimer, .clock 5000, .acceptReturned, .clock 100,
    .advertiseTimer, .advertiseReturned true]

theorem office_broadcasts : ∃ startup settings start s,
    main officeInputs officeAddress (.ok ()) true = some startup ∧
      startup.task = some settings ∧ beaconTask tlvCodec settings 0 = some (.ok start) ∧
      run step start officeEvents = some s ∧ s.requests.length = 3 ∧
      (∀ r ∈ s.requests, Announces tlvCodec officeInputs officeAddress settings r.2) ∧
      ReportedOnce s.console := by
  obtain ⟨startup, hmain, -, -, -, hruns⟩ :=
    broadcasts_follow_inputs tlvCodec_documented officeInputs officeAddress (.ok ()) true
  have hall : (main officeInputs officeAddress (.ok ()) true).any (fun startup =>
      startup.task.any fun settings => (beaconTask tlvCodec settings 0).any fun result =>
        result.toOption.any fun start => (run step start officeEvents).any fun s =>
          decide (s.requests.length = 3) && decide (.broadcasting ∈ s.console)) = true := by
    decide +kernel
  rw [hmain, Option.any_some] at hall
  obtain ⟨settings, htask, hsettings⟩ := (Option.any_eq_true _ _).mp hall
  obtain ⟨start, hstart, hall'⟩ := (hruns settings htask).2 0
  rw [hstart, Option.any_some, Except.toOption, Option.any_some] at hsettings
  obtain ⟨s, hs, hshown⟩ := (Option.any_eq_true _ _).mp hsettings
  obtain ⟨hannounces, -, hreported⟩ := hall' officeEvents s hs
  rw [Bool.and_eq_true, decide_eq_true_eq, decide_eq_true_eq] at hshown
  rw [if_pos hshown.2] at hreported
  exact ⟨startup, settings, start, s, hmain, htask, hstart, hs, hshown.1, hannounces, hreported⟩

end BeaconTask

end EmbeddedSdk.Beacon
