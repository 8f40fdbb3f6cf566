import EmbeddedSdk.MqttTask
import EmbeddedSdk.TopicGrammar

/-!
# The MQTT fixture of the reference firmware

Six optional inputs are fixed at build time. They configure a client for a local
test broker, or nothing when all are absent. Topics are put together from the
client identifier in a buffer; a slice out of range would panic, and a call that
panics has no result.
-/
namespace EmbeddedSdk.MqttFixture
open Mqtt MqttTask PaddedBytes

/-- The inputs of `development_mqtt_config`. -/
structure MqttInputs where
  host : Option String := none
  port : Option String := none
  clientId : Option String := none
  plaintextFixture : Option String := none
  username : Option String := none
  password : Option String := none
  deriving DecidableEq

/-- One digit of a number in the loop of `u16::from_str`, which fails at another
character and at an overflow. -/
def addDigit (value : ℕ) (digit : Char) : Option ℕ :=
  if digit.isDigit then
    let value := value * 10 + (digit.toNat - '0'.toNat)
    if value < 65536 then some value else none
  else none

/-- `str::parse::<u16>`: an optional plus sign and at least one digit. -/
def parseU16 (text : String) : Option UInt16 :=
  let digits := match text.toList with
    | '+' :: digits => digits
    | digits => digits
  if digits.isEmpty then none else (digits.foldlM addDigit 0).map .ofNat

def fixtureTopicPrefix : String := "embedded-sdk/test/"

/-- Puts a topic together in the given storage. -/
def fixtureTopicText (storage : Vector UInt8 maxTopicLen) (clientId : ClientId) (suffix : String) :
    Option (Except String String) :=
  let head := fixtureTopicPrefix.toUTF8.data
  let client := clientId.asStr.toUTF8.data
  let suffix := suffix.toUTF8.data
  let len := head.size + client.size + suffix.size
  if len > maxTopicLen then some (.error "MQTT fixture topic exceeds its bounded capacity")
  else do
    let storage ← copyRange? storage 0 head.size head
    let storage ← copyRange? storage head.size (head.size + client.size) client
    let storage ← copyRange? storage (head.size + client.size) len suffix
    let written ← front? storage len
    match String.fromUTF8? ⟨written⟩ with
    | none => some (.error "MQTT fixture topic is not UTF-8")
    | some text => some (.ok text)

/-- A computation that panics, fails with a message, or goes on. -/
abbrev Fallible := ExceptT String Option

/-- `map_err(|_| message)?`. -/
def orFail {ε α : Type} (message : String) (result : Except ε α) : Fallible α :=
  .mk (some (result.mapError fun _ => message))

/-- The second half of `development_mqtt_config`, where host, port and client
identifier are present. -/
def configFromInputs (host port clientId : String) : Fallible MqttDevelopmentConfig := do
  let hostname ← orFail "MQTT_HOST is invalid" (BrokerHostname.new host)
  let port ← orFail "MQTT_PORT must be an integer from 1 through 65535"
    ((parseU16 port).elim (.error ()) .ok)
  let port ← orFail "MQTT_PORT must be an integer from 1 through 65535" (BrokerPort.new port)
  let clientId ← orFail "MQTT_CLIENT_ID is invalid" (ClientId.new clientId)
  let telemetryText ← ExceptT.mk (fixtureTopicText (.replicate _ 0) clientId "/telemetry")
  let telemetryTopic ← orFail "MQTT telemetry topic is invalid" (TopicName.new telemetryText)
  let commandText ← ExceptT.mk (fixtureTopicText (.replicate _ 0) clientId "/commands")
  let commandFilter ← orFail "MQTT command topic is invalid" (TopicFilter.new commandText)
  let session ← orFail "MQTT session limits are invalid"
    (Config.new hostname port clientId 30 300 (.ofNat mqttRxPacketBufferSize))
  return ⟨session, telemetryTopic, commandFilter⟩

def developmentMqttConfig (inputs : MqttInputs) : Fallible (Option MqttDevelopmentConfig) :=
  if inputs.host.isNone && inputs.port.isNone && inputs.clientId.isNone &&
      inputs.plaintextFixture.isNone && inputs.username.isNone && inputs.password.isNone then
    return none
  else if inputs.username.isSome || inputs.password.isSome then
    throw "credentials are unavailable until verified TLS is implemented"
  else
    match inputs.host, inputs.port, inputs.clientId with
    | some host, some port, some clientId =>
        if inputs.plaintextFixture ≠ some "1" then
          throw "set MQTT_PLAINTEXT_FIXTURE=1 for an isolated local test broker"
        else some <$> configFromInputs host port clientId
    | _, _, _ => throw "MQTT_HOST, MQTT_PORT, and MQTT_CLIENT_ID must be set together"

/-- The topic text of a client. -/
def fixtureTopic (clientId suffix : String) : String := fixtureTopicPrefix ++ clientId ++ suffix

theorem utf8ByteSize_fixtureTopic (clientId suffix : String) :
    (fixtureTopic clientId suffix).utf8ByteSize =
      18 + clientId.utf8ByteSize + suffix.utf8ByteSize := by
  have hprefix : fixtureTopicPrefix.utf8ByteSize = 18 := by decide
  rw [fixtureTopic, String.utf8ByteSize_append, String.utf8ByteSize_append, hprefix]

theorem toUTF8_fixtureTopic (clientId suffix : String) :
    (fixtureTopic clientId suffix).toUTF8.data =
      fixtureTopicPrefix.toUTF8.data ++ clientId.toUTF8.data ++ suffix.toUTF8.data := by
  simp [fixtureTopic, String.toUTF8_eq_toByteArray]

/-- The buffer holds the topic of every accepted client identifier, whatever it held
before. -/
theorem fixtureTopicText_eq {id : String} {clientId : ClientId} (h : ClientId.new id = .ok clientId)
    (storage : Vector UInt8 maxTopicLen) {suffix : String} (hsuffix : suffix.utf8ByteSize ≤ 174) :
    fixtureTopicText storage clientId suffix = some (.ok (fixtureTopic id suffix)) := by
  have hid : clientId.asStr = id :=
    (BoundedText.new_storesText (by decide) validateClientId).asStr_eq h
  have hhead : fixtureTopicPrefix.toUTF8.data.size = 18 := by decide
  have hclient : id.toUTF8.data.size ≤ 64 := (BoundedText.eq_of_new h).1
  have hsuffix' : suffix.toUTF8.data.size ≤ 174 := hsuffix
  have hempty : front? storage 0 = some #[] := by simp [front?]
  -- Each piece is written right behind the pieces before it.
  obtain ⟨storage₁, hcopy₁, hfront₁⟩ := front?_copyRange? hempty fixtureTopicPrefix.toUTF8.data
    (by rw [maxTopicLen]; omega)
  obtain ⟨storage₂, hcopy₂, hfront₂⟩ := front?_copyRange? hfront₁ id.toUTF8.data
    (by rw [maxTopicLen]; omega)
  obtain ⟨storage₃, hcopy₃, hfront₃⟩ := front?_copyRange? hfront₂ suffix.toUTF8.data
    (by rw [maxTopicLen]; omega)
  rw [Nat.zero_add] at hcopy₁ hcopy₂ hcopy₃ hfront₃
  have htext : (⟨#[] ++ fixtureTopicPrefix.toUTF8.data ++ id.toUTF8.data ++ suffix.toUTF8.data⟩ :
      ByteArray) = (fixtureTopic id suffix).toUTF8 := by
    apply ByteArray.ext
    rw [toUTF8_fixtureTopic, Array.empty_append]
  have hfits : ¬ 18 + id.toUTF8.data.size + suffix.toUTF8.data.size > maxTopicLen := by
    rw [maxTopicLen]
    omega
  simp only [fixtureTopicText, hid, hhead, if_neg hfits] at hcopy₁ hcopy₂ hcopy₃ hfront₃ ⊢
  simp only [hcopy₁, hcopy₂, hcopy₃, hfront₃, htext, fromUTF8?_self, bind, Option.bind]

/-- A character that stands in neither end of a topic comes from the client. -/
theorem mem_fixtureTopic {c : Char} {suffix : String} (hhead : c ∉ fixtureTopicPrefix.toList)
    (hsuffix : c ∉ suffix.toList) (clientId : String) :
    c ∈ (fixtureTopic clientId suffix).toList ↔ c ∈ clientId.toList := by
  simp [fixtureTopic, hhead, hsuffix]

/-- Client identifiers that leave their topics free of wildcards. -/
structure IsFixtureClient (clientId : String) : Prop where
  length : 1 ≤ clientId.utf8ByteSize ∧ clientId.utf8ByteSize ≤ 64
  noNull : '\x00' ∉ clientId.toList
  noPlus : '+' ∉ clientId.toList
  noHash : '#' ∉ clientId.toList

theorem clientId_isOk (id : String) :
    (ClientId.new id).isOk = true ↔
      (1 ≤ id.utf8ByteSize ∧ id.utf8ByteSize ≤ 64) ∧ '\x00' ∉ id.toList := by
  rw [ClientId.new, BoundedText.new_isOk, validateClientId]
  by_cases hnull : '\x00' ∈ id.toList
  · simp [hnull, Except.isOk, Except.toBool]
  · simp [hnull, Except.isOk, Except.toBool, maxClientIdLen]

/-- The telemetry topic is a topic name exactly when the client stays clear of
wildcards. -/
theorem telemetry_isOk {id : String} (hlength : id.utf8ByteSize ≤ 64)
    (hnull : '\x00' ∉ id.toList) :
    (TopicName.new (fixtureTopic id "/telemetry")).isOk = true ↔
      '+' ∉ id.toList ∧ '#' ∉ id.toList := by
  have hsize := utf8ByteSize_fixtureTopic id "/telemetry"
  have hsuffix : "/telemetry".utf8ByteSize = 10 := by decide
  have hbounds : 1 ≤ (fixtureTopic id "/telemetry").utf8ByteSize ∧
      (fixtureTopic id "/telemetry").utf8ByteSize ≤ maxTopicLen := by
    rw [hsize, hsuffix, maxTopicLen]
    omega
  rw [TopicName.new, BoundedText.new_isOk, validateTopicName_isOk,
    mem_fixtureTopic (by decide) (by decide), mem_fixtureTopic (by decide) (by decide),
    mem_fixtureTopic (by decide) (by decide)]
  simp [hbounds, hnull]

/-- Without wildcards the command topic is a filter, one that matches itself only. -/
theorem commands_isOk {id : String} (h : IsFixtureClient id) :
    (TopicFilter.new (fixtureTopic id "/commands")).isOk = true := by
  have hsize := utf8ByteSize_fixtureTopic id "/commands"
  have hsuffix : "/commands".utf8ByteSize = 9 := by decide
  have hlength := h.length
  have hplus : '+' ∉ (fixtureTopic id "/commands").toList := by
    rw [mem_fixtureTopic (by decide) (by decide)]
    exact h.noPlus
  have hhash : '#' ∉ (fixtureTopic id "/commands").toList := by
    rw [mem_fixtureTopic (by decide) (by decide)]
    exact h.noHash
  rw [topicFilter_isOk]
  constructor
  · rw [hsize, hsuffix]
    omega
  · rw [mem_fixtureTopic (by decide) (by decide)]
    exact h.noNull
  · intro before behind htext
    exact absurd (by simp [htext]) hplus
  · intro before behind htext
    exact absurd (by simp [htext]) hhash

section Results

variable {ε α β : Type}

theorem orFail_bind_ok (message : String) (a : α) (f : α → Fallible β) :
    (orFail message (.ok a : Except ε α) >>= f) = f a := rfl

theorem exists_of_isOk {result : Except ε α} (h : result.isOk = true) :
    ∃ a, result = .ok a := by
  cases result with
  | error e => nomatch h
  | ok a => exact ⟨a, rfl⟩

theorem not_isOk_of_error {result : Except ε α} {error : ε} (h : result = .error error) :
    ¬ result.isOk = true := by
  subst h
  simp [Except.isOk, Except.toBool]

theorem mk_ok_bind (a : α) (f : α → Fallible β) :
    (ExceptT.mk (some (.ok a)) >>= f) = f a := rfl

end Results

theorem session_eq (hostname : BrokerHostname) (port : BrokerPort) (clientId : ClientId) :
    Config.new hostname port clientId 30 300 (.ofNat mqttRxPacketBufferSize) =
      .ok ⟨hostname, port, clientId, 30, 300, .ofNat mqttRxPacketBufferSize⟩ :=
  if_neg (by decide)

theorem brokerPort_eq_ok {n : UInt16} (h : n ≠ 0) : BrokerPort.new n = .ok ⟨n, h⟩ := dif_neg h

/-- Host, port and client identifier for which there is a configuration. -/
structure AreFixtureValues (host port clientId : String) : Prop where
  host : (BrokerHostname.new host).isOk = true
  port : ∃ n, parseU16 port = some n ∧ n ≠ 0
  clientId : IsFixtureClient clientId

/-- A configuration whose topics are those of one client. -/
structure UsesTopicsOf (clientId : String) (config : MqttDevelopmentConfig) : Prop where
  telemetry : config.telemetryTopic.asStr = fixtureTopic clientId "/telemetry"
  commands : config.commandFilter.asStr = fixtureTopic clientId "/commands"

/-- The values are refused with a message or make a configuration for their client. -/
theorem configFromInputs_cases (host port id : String) :
    (AreFixtureValues host port id ∧
      ∃ c, (configFromInputs host port id).run = some (.ok c) ∧ UsesTopicsOf id c) ∨
    (¬ AreFixtureValues host port id ∧
      ∃ e, (configFromInputs host port id).run = some (.error e)) := by
  unfold configFromInputs
  cases hhost : BrokerHostname.new host with
  | error e =>
      refine .inr ⟨?_, _, rfl⟩
      intro h
      exact not_isOk_of_error hhost h.host
  | ok hostname =>
  rw [orFail_bind_ok]
  cases hport : parseU16 port with
  | none =>
      refine .inr ⟨?_, _, rfl⟩
      intro h
      obtain ⟨n, hn, -⟩ := h.port
      rw [hport] at hn
      nomatch hn
  | some n =>
  rw [Option.elim, orFail_bind_ok]
  by_cases hzero : n = 0
  · refine .inr ⟨?_, "MQTT_PORT must be an integer from 1 through 65535", ?_⟩
    · intro h
      obtain ⟨m, hm, hne⟩ := h.port
      rw [hport, Option.some.injEq] at hm
      exact hne (hm ▸ hzero)
    · rw [hzero]
      rfl
  rw [brokerPort_eq_ok hzero, orFail_bind_ok]
  cases hclient : ClientId.new id with
  | error e =>
      refine .inr ⟨?_, _, rfl⟩
      intro h
      have hok := (clientId_isOk id).mpr ⟨h.clientId.length, h.clientId.noNull⟩
      exact not_isOk_of_error hclient hok
  | ok clientId =>
  obtain ⟨hlength, hnull⟩ := (clientId_isOk id).mp (congrArg Except.isOk hclient)
  rw [orFail_bind_ok, fixtureTopicText_eq hclient _ (by decide), mk_ok_bind]
  have htelemetry := telemetry_isOk hlength.2 hnull
  cases hname : TopicName.new (fixtureTopic id "/telemetry") with
  | error e =>
      refine .inr ⟨?_, _, rfl⟩
      intro h
      have hok := htelemetry.mpr ⟨h.clientId.noPlus, h.clientId.noHash⟩
      exact not_isOk_of_error hname hok
  | ok telemetryTopic =>
  obtain ⟨hplus, hhash⟩ := htelemetry.mp (congrArg Except.isOk hname)
  have hfixture : IsFixtureClient id := ⟨hlength, hnull, hplus, hhash⟩
  obtain ⟨commandFilter, hfilter⟩ := exists_of_isOk (commands_isOk hfixture)
  rw [orFail_bind_ok, fixtureTopicText_eq hclient _ (by decide), mk_ok_bind, hfilter,
    orFail_bind_ok, session_eq, orFail_bind_ok]
  have hhost' : (BrokerHostname.new host).isOk = true := congrArg Except.isOk hhost
  refine .inl ⟨⟨hhost', ⟨n, hport, hzero⟩, hfixture⟩, _, rfl, ?_⟩
  exact ⟨(BoundedText.new_storesText (by decide) validateTopicName).asStr_eq hname,
    (BoundedText.new_storesText (by decide) validateTopicFilter).asStr_eq hfilter⟩

/-- The inputs of an isolated local test broker. -/
structure SelectFixture (inputs : MqttInputs) : Prop where
  username : inputs.username = none
  password : inputs.password = none
  switch : inputs.plaintextFixture = some "1"
  values : ∃ host port clientId, inputs.host = some host ∧ inputs.port = some port ∧
    inputs.clientId = some clientId ∧ AreFixtureValues host port clientId

/-- Every combination of inputs gives nothing, a configuration or a message. -/
theorem developmentMqttConfig_cases (inputs : MqttInputs) :
    (inputs = {} ∧ (developmentMqttConfig inputs).run = some (.ok none)) ∨
    (SelectFixture inputs ∧ ∃ clientId c, inputs.clientId = some clientId ∧
      (developmentMqttConfig inputs).run = some (.ok (some c)) ∧ UsesTopicsOf clientId c) ∨
    (inputs ≠ {} ∧ ¬ SelectFixture inputs ∧
      ∃ e, (developmentMqttConfig inputs).run = some (.error e)) := by
  unfold developmentMqttConfig
  split
  next hnone =>
    left
    obtain ⟨host, port, clientId, plaintextFixture, username, password⟩ := inputs
    simp only [Bool.and_eq_true, Option.isNone_iff_eq_none, and_assoc] at hnone
    obtain ⟨rfl, rfl, rfl, rfl, rfl, rfl⟩ := hnone
    exact ⟨rfl, rfl⟩
  next hsome =>
  have hne : inputs ≠ {} := by
    intro h
    rw [h] at hsome
    exact hsome rfl
  right
  split
  next hcredentials =>
    refine .inr ⟨hne, ?_, _, rfl⟩
    intro h
    rw [h.username, h.password] at hcredentials
    nomatch hcredentials
  next hcredentials =>
  simp only [Bool.or_eq_true, not_or, Bool.not_eq_true, Option.isSome_eq_false_iff,
    Option.isNone_iff_eq_none] at hcredentials
  split
  next host port clientId hhost hport hclientId =>
    split
    next hswitch => exact .inr ⟨hne, fun h => hswitch h.switch, _, rfl⟩
    next hswitch =>
    have hswitch' : inputs.plaintextFixture = some "1" := Decidable.of_not_not hswitch
    obtain ⟨hvalues, c, hrun, htopics⟩ | ⟨hvalues, e, hrun⟩ :=
      configFromInputs_cases host port clientId
    · left
      have hselect : SelectFixture inputs := ⟨hcredentials.1, hcredentials.2, hswitch',
        host, port, clientId, hhost, hport, hclientId, hvalues⟩
      refine ⟨hselect, clientId, c, hclientId, ?_, htopics⟩
      rw [ExceptT.run_map, hrun]
      rfl
    · right
      refine ⟨hne, ?_, e, ?_⟩
      · intro h
        obtain ⟨host', port', clientId', hhost', hport', hclientId', hvalues'⟩ := h.values
        rw [hhost, Option.some.injEq] at hhost'
        rw [hport, Option.some.injEq] at hport'
        rw [hclientId, Option.some.injEq] at hclientId'
        subst hhost' hport' hclientId'
        exact hvalues hvalues'
      · rw [ExceptT.run_map, hrun]
        rfl
  next hmissing =>
    refine .inr ⟨hne, ?_, _, rfl⟩
    intro h
    obtain ⟨host, port, clientId, hhost, hport, hclientId, -⟩ := h.values
    exact hmissing host port clientId hhost hport hclientId

/-- A configuration comes from the inputs of a fixture client and uses its topics. -/
theorem exists_client_of_config {inputs : MqttInputs} {c : MqttDevelopmentConfig}
    (h : (developmentMqttConfig inputs).run = some (.ok (some c))) :
    SelectFixture inputs ∧ ∃ clientId, inputs.clientId = some clientId ∧
      IsFixtureClient clientId ∧ UsesTopicsOf clientId c := by
  obtain ⟨-, hrun⟩ | ⟨hselect, clientId, c', hclientId, hrun, htopics⟩ | ⟨-, -, e, hrun⟩ :=
    developmentMqttConfig_cases inputs
  · rw [hrun] at h
    nomatch h
  · rw [hrun, Option.some.injEq, Except.ok.injEq, Option.some.injEq] at h
    subst h
    obtain ⟨host, port, clientId', -, -, hclientId', hvalues⟩ := hselect.values
    rw [hclientId, Option.some.injEq] at hclientId'
    subst hclientId'
    exact ⟨hselect, clientId, hclientId, hvalues.clientId, htopics⟩
  · rw [hrun] at h
    nomatch h

theorem config_absent_iff (inputs : MqttInputs) :
    (developmentMqttConfig inputs).run = some (.ok none) ↔ inputs = {} := by
  constructor
  · intro h
    obtain ⟨hinputs, -⟩ | ⟨-, -, c, -, hrun, -⟩ | ⟨-, -, e, hrun⟩ :=
      developmentMqttConfig_cases inputs
    · exact hinputs
    · rw [hrun] at h
      nomatch h
    · rw [hrun] at h
      nomatch h
  · intro h
    rw [h]
    rfl

theorem config_present_iff (inputs : MqttInputs) :
    (∃ c, (developmentMqttConfig inputs).run = some (.ok (some c))) ↔ SelectFixture inputs := by
  constructor
  · intro h
    obtain ⟨c, hrun⟩ := h
    exact (exists_client_of_config hrun).1
  · intro h
    obtain ⟨hinputs, -⟩ | ⟨-, -, c, -, hrun, -⟩ | ⟨-, hnot, -⟩ :=
      developmentMqttConfig_cases inputs
    · rw [hinputs] at h
      nomatch h.switch
    · exact ⟨c, hrun⟩
    · exact absurd h hnot

theorem fixtureTopic_inj {id id' suffix : String}
    (h : fixtureTopic id suffix = fixtureTopic id' suffix) : id = id' := by
  have hlist := congrArg String.toList h
  simp only [fixtureTopic, String.toList_append, List.append_assoc, List.append_cancel_left_eq,
    List.append_cancel_right_eq] at hlist
  exact String.toList_inj.mp hlist

/-- The topics of a command and of telemetry end with different characters. -/
theorem commands_ne_telemetry (id id' : String) :
    fixtureTopic id "/commands" ≠ fixtureTopic id' "/telemetry" := by
  intro h
  have hlast := congrArg (fun s : String => s.toList.getLast?) h
  simp [fixtureTopic] at hlast

/-- The configuration is absent exactly when nothing is set, present exactly for the
inputs of a fixture, and refused with a message otherwise. The topics of different
clients are different, and no client receives what another one sends. -/
theorem fixture_fails_closed_and_isolates :
    (∀ inputs, (developmentMqttConfig inputs).run = some (.ok none) ↔ inputs = {}) ∧
    (∀ inputs, (∃ c, (developmentMqttConfig inputs).run = some (.ok (some c))) ↔
      SelectFixture inputs) ∧
    (∀ inputs, inputs ≠ {} → ¬ SelectFixture inputs →
      ∃ e, (developmentMqttConfig inputs).run = some (.error e)) ∧
    (∀ inputs c, (developmentMqttConfig inputs).run = some (.ok (some c)) →
      ∃ clientId, inputs.clientId = some clientId ∧
        c.telemetryTopic.asStr = "embedded-sdk/test/" ++ clientId ++ "/telemetry" ∧
        c.commandFilter.asStr = "embedded-sdk/test/" ++ clientId ++ "/commands" ∧
        '+' ∉ c.commandFilter.asStr.toList ∧ '#' ∉ c.commandFilter.asStr.toList) ∧
    (∀ inputs inputs' c c', (developmentMqttConfig inputs).run = some (.ok (some c)) →
      (developmentMqttConfig inputs').run = some (.ok (some c')) →
      (inputs.clientId ≠ inputs'.clientId →
        c.telemetryTopic.asStr ≠ c'.telemetryTopic.asStr ∧
          c.commandFilter.asStr ≠ c'.commandFilter.asStr) ∧
        c.commandFilter.asStr ≠ c'.telemetryTopic.asStr) ∧
    ∀ id clientId storage suffix, ClientId.new id = .ok clientId →
      suffix = "/telemetry" ∨ suffix = "/commands" →
      fixtureTopicText storage clientId suffix =
        some (.ok ("embedded-sdk/test/" ++ id ++ suffix)) := by
  refine ⟨config_absent_iff, config_present_iff, ?_, ?_, ?_, ?_⟩
  · intro inputs hne hnot
    obtain ⟨hinputs, -⟩ | ⟨hselect, -⟩ | ⟨-, -, hrun⟩ := developmentMqttConfig_cases inputs
    · exact absurd hinputs hne
    · exact absurd hselect hnot
    · exact hrun
  · intro inputs c h
    obtain ⟨-, clientId, hclientId, hclient, htopics⟩ := exists_client_of_config h
    refine ⟨clientId, hclientId, htopics.telemetry, htopics.commands, ?_, ?_⟩
    · rw [htopics.commands, mem_fixtureTopic (by decide) (by decide)]
      exact hclient.noPlus
    · rw [htopics.commands, mem_fixtureTopic (by decide) (by decide)]
      exact hclient.noHash
  · intro inputs inputs' c c' h h'
    obtain ⟨-, clientId, hclientId, -, htopics⟩ := exists_client_of_config h
    obtain ⟨-, clientId', hclientId', -, htopics'⟩ := exists_client_of_config h'
    rw [htopics.telemetry, htopics.commands, htopics'.telemetry, htopics'.commands, hclientId,
      hclientId']
    refine ⟨?_, commands_ne_telemetry clientId clientId'⟩
    intro hne
    have hdistinct : clientId ≠ clientId' := fun heq => hne (congrArg some heq)
    exact ⟨fun htopic => hdistinct (fixtureTopic_inj htopic),
      fun htopic => hdistinct (fixtureTopic_inj htopic)⟩
  · intro id clientId storage suffix h hsuffix
    apply fixtureTopicText_eq h
    obtain rfl | rfl := hsuffix
    · decide
    · decide

end EmbeddedSdk.MqttFixture
