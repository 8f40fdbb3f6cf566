import EmbeddedSdk.Networking
import EmbeddedSdk.PaddedBytes
import EmbeddedSdk.PolledLoops
import EmbeddedSdk.Runs

/-!
# Portable state of the IP stack

The stack is third-party code. At each moment it shows whether its link is up and
which IPv4 configuration it has, and the adapter turns both into a portable
snapshot. `wait_ip_ready` goes back and forth between two waits of the stack until
one snapshot shows link and configuration together.
-/
namespace EmbeddedSdk.Networking
open PaddedBytes PolledLoops Runs

namespace DnsServers

/-- Copies a bounded list of IPv4 DNS server addresses. -/
def new (addresses : Array Ipv4Addr) : Except ConfigError DnsServers :=
  if addresses.size > maxDnsServers then .error .tooManyDnsServers
  else .ok ⟨padded maxDnsServers .unspecified addresses, .ofNat addresses.size⟩

def asSlice (servers : DnsServers) : Array Ipv4Addr :=
  servers.addresses.toArray.extract 0 servers.len.toNat

theorem eq_of_new {addresses : Array Ipv4Addr} {servers : DnsServers}
    (h : new addresses = .ok servers) : addresses.size ≤ maxDnsServers ∧
      servers = ⟨padded maxDnsServers .unspecified addresses, .ofNat addresses.size⟩ := by
  unfold new at h
  by_cases hlong : addresses.size > maxDnsServers
  · rw [if_pos hlong] at h
    cases h
  · rw [if_neg hlong] at h
    exact ⟨Nat.le_of_not_lt hlong, (Except.ok.inj h).symm⟩

theorem new_storesCopies :
    StoresCopies .unspecified id new (fun v => v.addresses) (fun v => v.len.toNat) := by
  apply storesCopies
  · intro i j h
    exact h
  · intro addresses servers h
    obtain ⟨hsize, hservers⟩ := eq_of_new h
    subst hservers
    have hcast : addresses.size < 256 := Nat.lt_of_le_of_lt hsize (by decide)
    exact ⟨hsize, rfl, Nat.mod_eq_of_lt hcast⟩

theorem asSlice_of_new {addresses : Array Ipv4Addr} {servers : DnsServers}
    (h : new addresses = .ok servers) : servers.asSlice = addresses :=
  (new_storesCopies.isCopy h).extract_eq

theorem isEmpty_of_new {addresses : Array Ipv4Addr} {servers : DnsServers}
    (h : new addresses = .ok servers) : servers.isEmpty = true ↔ addresses = #[] := by
  have hlen : servers.len.toNat = addresses.size := (new_storesCopies.isCopy h).length
  have hzero : servers.len = 0 ↔ servers.len.toNat = 0 := by
    rw [← UInt8.toNat_inj]
    rfl
  rw [isEmpty, beq_iff_eq, hzero, hlen, Array.size_eq_zero_iff]

end DnsServers

/-- Validates and creates an IPv4 configuration snapshot. -/
def Ipv4Configuration.new (address : Ipv4Addr) (prefixLen : UInt8) (gateway : Option Ipv4Addr)
    (dnsServers : DnsServers) : Except ConfigError Ipv4Configuration :=
  if prefixLen > 32 then .error .invalidIpv4PrefixLength
  else .ok ⟨address, prefixLen, gateway, dnsServers⟩

/-- An IPv4 configuration as the stack shows it. -/
structure StaticConfigV4 where
  address : Ipv4Addr
  prefixLen : UInt8
  gateway : Option Ipv4Addr
  dnsServers : Array Ipv4Addr
  deriving DecidableEq

/-- What the stack shows at one moment. -/
structure Stack where
  linkUp : Bool
  configV4 : Option StaticConfigV4
  deriving DecidableEq

def convertIpv4Configuration (configuration : StaticConfigV4) :
    Except ConfigError Ipv4Configuration := do
  let dnsServers ← DnsServers.new configuration.dnsServers
  Ipv4Configuration.new configuration.address configuration.prefixLen configuration.gateway
    dnsServers

def snapshotFromParts (linkUp : Bool) (configuration : Option StaticConfigV4) :
    Except ConfigError NetworkSnapshot :=
  let link := if linkUp then .up else .down
  match configuration with
  | none => .ok ⟨link, none⟩
  | some configuration =>
      (convertIpv4Configuration configuration).map fun ipv4 => ⟨link, some ipv4⟩

def Stack.snapshot (stack : Stack) : Except ConfigError NetworkSnapshot :=
  snapshotFromParts stack.linkUp stack.configV4

section Snapshot

/-- The configurations that the portable one has room for. -/
structure IsPortable (c : StaticConfigV4) : Prop where
  servers : c.dnsServers.size ≤ maxDnsServers
  width : c.prefixLen ≤ 32

/-- A portable configuration with the values of one of the stack. -/
structure Copies (c : StaticConfigV4) (ipv4 : Ipv4Configuration) : Prop where
  address : ipv4.address = c.address
  width : ipv4.prefixLen = c.prefixLen
  gateway : ipv4.gateway = c.gateway
  servers : ipv4.dnsServers.asSlice = c.dnsServers
  count : ipv4.dnsServers.len.toNat = c.dnsServers.size

/-- A configuration is copied as a whole, or refused for the first of its two
limits that it breaks. -/
theorem convertIpv4Configuration_cases (c : StaticConfigV4) :
    (IsPortable c ∧ ∃ ipv4, convertIpv4Configuration c = .ok ipv4 ∧ Copies c ipv4 ∧
      (ipv4.dnsServers.isEmpty = true ↔ c.dnsServers = #[])) ∨
    (¬ IsPortable c ∧ convertIpv4Configuration c =
      .error (if c.dnsServers.size > maxDnsServers then .tooManyDnsServers
        else .invalidIpv4PrefixLength)) := by
  unfold convertIpv4Configuration
  by_cases hlong : c.dnsServers.size > maxDnsServers
  · refine .inr ⟨fun h => absurd h.servers (Nat.not_le_of_lt hlong), ?_⟩
    rw [DnsServers.new, if_pos hlong, if_pos hlong]
    rfl
  · have hnew : DnsServers.new c.dnsServers =
        .ok ⟨padded maxDnsServers .unspecified c.dnsServers, .ofNat c.dnsServers.size⟩ :=
      if_neg hlong
    by_cases hwide : c.prefixLen > 32
    · refine .inr ⟨fun h => absurd h.width (UInt8.not_le.mpr hwide), ?_⟩
      rw [hnew, if_neg hlong]
      exact if_pos hwide
    · refine .inl ⟨⟨Nat.le_of_not_lt hlong, UInt8.not_lt.mp hwide⟩, ?_⟩
      rw [hnew]
      refine ⟨_, if_neg hwide, ⟨rfl, rfl, rfl, ?_, ?_⟩, ?_⟩
      · exact DnsServers.asSlice_of_new hnew
      · exact (DnsServers.new_storesCopies.isCopy hnew).length
      · exact DnsServers.isEmpty_of_new hnew

/-- Link and configuration are both up. -/
def Stack.isIpReady (stack : Stack) : Bool := stack.linkUp && stack.configV4.isSome

/-- A snapshot with the values of the stack. -/
structure Shows (stack : Stack) (s : NetworkSnapshot) : Prop where
  link : s.link = .up ↔ stack.linkUp = true
  absent : stack.configV4 = none → s.ipv4 = none
  present : ∀ c, stack.configV4 = some c → ∃ ipv4, s.ipv4 = some ipv4 ∧ Copies c ipv4
  ipReady : s.isIpReady = stack.isIpReady
  dnsReady : s.isDnsReady = true ↔
    stack.linkUp = true ∧ ∃ c, stack.configV4 = some c ∧ c.dnsServers ≠ #[]

theorem snapshot_of_none {stack : Stack} (h : stack.configV4 = none) :
    ∃ s, stack.snapshot = .ok s ∧ Shows stack s := by
  refine ⟨⟨if stack.linkUp then .up else .down, none⟩, by simp only [Stack.snapshot,
    snapshotFromParts, h], ?_, fun _ => rfl, ?_, ?_, ?_⟩
  · cases stack.linkUp <;> simp
  · intro c hc
    rw [h] at hc
    cases hc
  · simp [NetworkSnapshot.isIpReady, Stack.isIpReady, h]
  · simp [NetworkSnapshot.isDnsReady, h]

theorem snapshot_of_portable {stack : Stack} {c : StaticConfigV4} (h : stack.configV4 = some c)
    (hc : IsPortable c) : ∃ s, stack.snapshot = .ok s ∧ Shows stack s := by
  obtain ⟨-, ipv4, hconvert, hcopies, hempty⟩ | ⟨hnot, -⟩ := convertIpv4Configuration_cases c
  · refine ⟨⟨if stack.linkUp then .up else .down, some ipv4⟩, ?_, ?_, ?_, ?_, ?_, ?_⟩
    · simp only [Stack.snapshot, snapshotFromParts, h, hconvert, Except.map]
    · cases stack.linkUp <;> simp
    · intro hnone
      rw [h] at hnone
      cases hnone
    · intro c' hc'
      rw [h, Option.some.injEq] at hc'
      exact ⟨ipv4, rfl, hc' ▸ hcopies⟩
    · cases hlink : stack.linkUp <;> simp [NetworkSnapshot.isIpReady, Stack.isIpReady, h, hlink]
    · have hne : ipv4.dnsServers.isEmpty = false ↔ c.dnsServers ≠ #[] := by
        rw [← Bool.not_eq_true, hempty]
      cases hlink : stack.linkUp <;>
        simp [NetworkSnapshot.isDnsReady, NetworkSnapshot.isIpReady, h, hne]
  · exact absurd hc hnot

theorem snapshot_of_not_portable {stack : Stack} {c : StaticConfigV4}
    (h : stack.configV4 = some c) (hc : ¬ IsPortable c) :
    stack.snapshot = .error (if c.dnsServers.size > maxDnsServers then .tooManyDnsServers
      else .invalidIpv4PrefixLength) := by
  obtain ⟨hyes, -⟩ | ⟨-, hconvert⟩ := convertIpv4Configuration_cases c
  · exact absurd hyes hc
  · simp only [Stack.snapshot, snapshotFromParts, h, hconvert, Except.map]

/-- The stack has no configuration, or one that is portable. -/
def Stack.IsPortable (stack : Stack) : Prop := ∀ c, stack.configV4 = some c → Networking.IsPortable c

theorem snapshot_cases (stack : Stack) :
    (stack.IsPortable ∧ ∃ s, stack.snapshot = .ok s ∧ Shows stack s) ∨
      (¬ stack.IsPortable ∧ ∃ c, stack.configV4 = some c ∧ stack.snapshot =
        .error (if c.dnsServers.size > maxDnsServers then .tooManyDnsServers
          else .invalidIpv4PrefixLength)) := by
  cases h : stack.configV4 with
  | none =>
      refine .inl ⟨?_, snapshot_of_none h⟩
      intro c hc
      rw [h] at hc
      cases hc
  | some c =>
      have hiff : stack.IsPortable ↔ Networking.IsPortable c := by
        simp [Stack.IsPortable, h]
      by_cases hc : Networking.IsPortable c
      · exact .inl ⟨hiff.mpr hc, snapshot_of_portable h hc⟩
      · exact .inr ⟨fun hp => hc (hiff.mp hp), c, rfl, snapshot_of_not_portable h hc⟩

/-- Two stacks with the same snapshot show the same. -/
theorem Shows.stack_eq {stack other : Stack} {s : NetworkSnapshot} (h : Shows stack s)
    (h' : Shows other s) : stack = other := by
  have hlink : stack.linkUp = other.linkUp := Bool.eq_iff_iff.mpr (h.link.symm.trans h'.link)
  have hconfig : stack.configV4 = other.configV4 := by
    cases hc : stack.configV4 with
    | none =>
        cases hc' : other.configV4 with
        | none => rfl
        | some c' =>
            obtain ⟨ipv4, hipv4, -⟩ := h'.present c' hc'
            rw [h.absent hc] at hipv4
            cases hipv4
    | some c =>
        obtain ⟨ipv4, hipv4, hcopies⟩ := h.present c hc
        cases hc' : other.configV4 with
        | none =>
            rw [h'.absent hc'] at hipv4
            cases hipv4
        | some c' =>
            obtain ⟨ipv4', hipv4', hcopies'⟩ := h'.present c' hc'
            rw [hipv4, Option.some.injEq] at hipv4'
            subst hipv4'
            obtain ⟨address, width, gateway, servers⟩ := c
            obtain ⟨address', width', gateway', servers'⟩ := c'
            have ha := hcopies.address.symm.trans hcopies'.address
            have hw := hcopies.width.symm.trans hcopies'.width
            have hg := hcopies.gateway.symm.trans hcopies'.gateway
            have hs := hcopies.servers.symm.trans hcopies'.servers
            simp_all
  obtain ⟨link, config⟩ := stack
  obtain ⟨link', config'⟩ := other
  simp_all

/-- A snapshot exists exactly for a stack whose configuration has at most three DNS
servers and a prefix of at most 32 bits. It shows link, addresses and DNS servers as
they are, is ready exactly when link and configuration are up, can be used for DNS
exactly when there is a server as well, and tells different stacks apart. -/
theorem snapshot_faithful (stack : Stack) :
    (stack.snapshot.isOk = true ↔ stack.IsPortable) ∧
      (∀ s, stack.snapshot = .ok s → Shows stack s) ∧
      ∀ other s, stack.snapshot = .ok s → other.snapshot = .ok s → stack = other := by
  have hshows : ∀ stack s, Stack.snapshot stack = .ok s → Shows stack s := by
    intro stack s h
    obtain ⟨-, s', hs', hshows⟩ | ⟨-, c, -, herror⟩ := snapshot_cases stack
    · rw [hs', Except.ok.injEq] at h
      exact h ▸ hshows
    · rw [herror] at h
      cases h
  refine ⟨?_, hshows stack, ?_⟩
  · obtain ⟨hyes, s, hs, -⟩ | ⟨hnot, c, -, herror⟩ := snapshot_cases stack
    · exact iff_of_true (by rw [hs]; rfl) hyes
    · exact iff_of_false (by rw [herror]; simp [Except.isOk, Except.toBool]) hnot
  · intro other s h h'
    exact (hshows stack s h).stack_eq (hshows other s h')

end Snapshot

section WaitIpReady

/-- The waits of `wait_ip_ready`, and its return. -/
inductive ReadyWait
  | linkUp
  | configUp
  | returned (result : Except ConfigError NetworkSnapshot)
  deriving DecidableEq

/-- What follows a wait that is over while the stack shows `stack`. -/
def ReadyWait.advance (stack : Stack) : ReadyWait → Option ReadyWait
  | .linkUp => if stack.linkUp then some .configUp else none
  | .configUp =>
      if stack.configV4.isSome then
        match stack.snapshot with
        | .error error => some (.returned (.error error))
        | .ok snapshot => some (if snapshot.isIpReady then .returned (.ok snapshot) else .linkUp)
      else none
  | .returned _ => none

/-- One poll of `wait_ip_ready`. Three waits are the most that a poll goes through. -/
def waitIpReady (p : ReadyWait) (stack : Stack) : Option ReadyWait := poll (ReadyWait.advance stack) 3 p

variable {stack : Stack}

theorem advance_configUp_of_ready {s : NetworkSnapshot} (hs : stack.snapshot = .ok s)
    (hshows : Shows stack s) (h : stack.isIpReady = true) :
    ReadyWait.advance stack .configUp = some (.returned (.ok s)) := by
  have hsome : stack.configV4.isSome = true := (Bool.and_eq_true_iff.mp h).2
  simp only [ReadyWait.advance, hsome, if_true, hs, hshows.ipReady, h]

/-- A stack that is ready ends the wait, wherever it stands. -/
theorem waitIpReady_of_ready {s : NetworkSnapshot} (hs : stack.snapshot = .ok s)
    (hshows : Shows stack s) (h : stack.isIpReady = true) {p : ReadyWait}
    (hwait : p = .linkUp ∨ p = .configUp) : waitIpReady p stack = some (.returned (.ok s)) := by
  have hlink : stack.linkUp = true := (Bool.and_eq_true_iff.mp h).1
  have hconfig := advance_configUp_of_ready hs hshows h
  have hfirst : ReadyWait.advance stack .linkUp = some .configUp := if_pos hlink
  have hlast : ReadyWait.advance stack (.returned (.ok s)) = none := rfl
  obtain rfl | rfl := hwait
  · rw [waitIpReady, poll_of_ready hfirst, poll_of_ready hconfig, poll_of_pending hlast]
  · rw [waitIpReady, poll_of_ready hconfig, poll_of_pending hlast]

/-- A stack that is not ready leaves the poll at one of the waits. -/
theorem waitIpReady_of_not_ready {s : NetworkSnapshot} (hs : stack.snapshot = .ok s)
    (hshows : Shows stack s) (h : stack.isIpReady = false) {p : ReadyWait}
    (hwait : p = .linkUp ∨ p = .configUp) :
    ∃ q, waitIpReady p stack = some q ∧ (q = .linkUp ∨ q = .configUp) := by
  cases hlink : stack.linkUp with
  | false =>
      have hfirst : ReadyWait.advance stack .linkUp = none := by
        simp [ReadyWait.advance, hlink]
      obtain rfl | rfl := hwait
      · exact ⟨.linkUp, poll_of_pending hfirst 2, .inl rfl⟩
      · cases hconfig : stack.configV4.isSome with
        | false =>
            have hsecond : ReadyWait.advance stack .configUp = none := by
              simp [ReadyWait.advance, hconfig]
            exact ⟨.configUp, poll_of_pending hsecond 2, .inr rfl⟩
        | true =>
            -- a configuration without a link sends the loop back to its first wait
            have hback : ReadyWait.advance stack .configUp = some .linkUp := by
              simp [ReadyWait.advance, hconfig, hs, hshows.ipReady, h]
            refine ⟨.linkUp, ?_, .inl rfl⟩
            rw [waitIpReady, poll_of_ready hback, poll_of_pending hfirst]
  | true =>
      have hfirst : ReadyWait.advance stack .linkUp = some .configUp := if_pos hlink
      have hconfig : stack.configV4.isSome = false := by
        rwa [Stack.isIpReady, hlink, Bool.true_and] at h
      have hsecond : ReadyWait.advance stack .configUp = none := by
        simp [ReadyWait.advance, hconfig]
      refine ⟨.configUp, ?_, .inr rfl⟩
      obtain rfl | rfl := hwait
      · rw [waitIpReady, poll_of_ready hfirst, poll_of_pending hsecond]
      · exact poll_of_pending hsecond 2

/-- `wait_ip_ready`, polled while the stack shows one thing after another, returns the
snapshot of the first stack that was ready when it was polled, and waits as long as
there was none. -/
theorem waitIpReady_returns_first_ready (shown : List Stack)
    (hportable : ∀ stack ∈ shown, stack.IsPortable) :
    ∃ p, run waitIpReady .linkUp shown = some p ∧
      (shown.find? Stack.isIpReady = none → p = .linkUp ∨ p = .configUp) ∧
      ∀ stack, shown.find? Stack.isIpReady = some stack →
        ∃ s, stack.snapshot = .ok s ∧ s.isIpReady = true ∧ p = .returned (.ok s) := by
  induction shown using List.reverseRecOn with
  | nil => exact ⟨.linkUp, rfl, fun _ => .inl rfl, by simp⟩
  | append_singleton past stack ih =>
      obtain ⟨p, hrun, hwaiting, hreturned⟩ := ih fun other h => hportable other (by simp [h])
      obtain ⟨-, s, hs, hshows⟩ | ⟨hnot, -⟩ := snapshot_cases stack
      · cases hfind : past.find? Stack.isIpReady with
        | some first =>
            obtain ⟨s', hs', hready, rfl⟩ := hreturned first hfind
            refine ⟨_, by rw [run_concat, hrun]; rfl, ?_, ?_⟩
            · simp [hfind]
            · intro stack' h
              rw [List.find?_append, hfind, Option.some_or, Option.some.injEq] at h
              subst h
              exact ⟨s', hs', hready, rfl⟩
        | none =>
            have hwait := hwaiting hfind
            cases hready : stack.isIpReady with
            | false =>
                obtain ⟨q, hq, hwait'⟩ := waitIpReady_of_not_ready hs hshows hready hwait
                refine ⟨q, by rw [run_concat, hrun]; exact hq, fun _ => hwait', ?_⟩
                intro stack' h
                rw [List.find?_append, hfind, Option.none_or, List.find?_singleton, hready] at h
                cases h
            | true =>
                refine ⟨_, by rw [run_concat, hrun]; exact waitIpReady_of_ready hs hshows hready hwait,
                  ?_, ?_⟩
                · simp [hfind, hready]
                · intro stack' h
                  rw [List.find?_append, hfind, Option.none_or, List.find?_singleton, hready,
                    if_pos rfl, Option.some.injEq] at h
                  subst h
                  exact ⟨s, hs, hshows.ipReady.trans hready, rfl⟩
      · exact absurd (hportable stack (by simp)) hnot

/-- A lease with one DNS server. -/
def leasedConfig : StaticConfigV4 := ⟨⟨0xc0a80102⟩, 24, some ⟨0xc0a80101⟩, #[⟨0xc0a80101⟩]⟩

/-- A stack that loses its link for a moment before it is ready. -/
def flakyLink : List Stack := [⟨true, none⟩, ⟨false, some leasedConfig⟩, ⟨true, some leasedConfig⟩]

theorem flakyLink_returns_ready :
    ∃ s, run waitIpReady .linkUp flakyLink = some (.returned (.ok s)) ∧ s.isIpReady = true := by
  have hleased : IsPortable leasedConfig := ⟨by decide, by decide⟩
  have hportable : ∀ stack ∈ flakyLink, stack.IsPortable := by
    intro stack hstack c hc
    simp only [flakyLink, List.mem_cons, List.not_mem_nil, or_false] at hstack
    obtain rfl | rfl | rfl := hstack
    · cases hc
    · exact Option.some.inj hc ▸ hleased
    · exact Option.some.inj hc ▸ hleased
  obtain ⟨p, hrun, -, hreturned⟩ := waitIpReady_returns_first_ready flakyLink hportable
  obtain ⟨s, -, hready, rfl⟩ := hreturned ⟨true, some leasedConfig⟩ rfl
  exact ⟨s, hrun, hready⟩

end WaitIpReady

end EmbeddedSdk.Networking
