import Mathlib.Data.List.Basic

/-!
# Network readiness and DNS results

What the MQTT task reads of the IP stack: a snapshot of link and address state,
and the copy of a DNS answer into a buffer of the caller. The DNS client and
the stack themselves are not part of the repository.
-/
namespace EmbeddedSdk.Networking

/-- Maximum number of DNS servers retained in a portable IPv4 configuration. -/
def maxDnsServers : ℕ := 3

structure Ipv4Addr where
  bits : UInt32
  deriving DecidableEq, Repr

def Ipv4Addr.unspecified : Ipv4Addr := ⟨0⟩

inductive ConfigError
  | invalidIpv4PrefixLength
  | tooManyDnsServers
  deriving DecidableEq, Repr

inductive LinkState
  | down
  | up
  deriving DecidableEq, Repr

/-- Bounded collection of IPv4 DNS server addresses. -/
structure DnsServers where
  addresses : Vector Ipv4Addr maxDnsServers
  len : UInt8
  deriving DecidableEq

def DnsServers.isEmpty (servers : DnsServers) : Bool := servers.len == 0

/-- Portable snapshot of an active IPv4 configuration. -/
structure Ipv4Configuration where
  address : Ipv4Addr
  prefixLen : UInt8
  gateway : Option Ipv4Addr
  dnsServers : DnsServers
  deriving DecidableEq

/-- Link and address state observed at one instant. -/
structure NetworkSnapshot where
  link : LinkState
  ipv4 : Option Ipv4Configuration
  deriving DecidableEq

def NetworkSnapshot.isIpReady (s : NetworkSnapshot) : Bool := s.link == .up && s.ipv4.isSome

/-- IP is ready and at least one DNS server is configured. -/
def NetworkSnapshot.isDnsReady (s : NetworkSnapshot) : Bool :=
  match s.ipv4 with
  | some configuration => s.isIpReady && !configuration.dnsServers.isEmpty
  | none => false

/-- Only the IPv4 variant exists in this build of the stack. -/
inductive IpAddress
  | ipv4 (address : Ipv4Addr)
  deriving DecidableEq, Repr

namespace Dns

inductive Error
  | invalidName
  | nameTooLong
  | failed
  deriving DecidableEq, Repr

end Dns

inductive ResolveError
  | invalidName
  | nameTooLong
  | failed
  | outputTooSmall (required : ℕ)
  deriving DecidableEq, Repr

def ResolveError.ofDns : Dns.Error → ResolveError
  | .invalidName => .invalidName
  | .nameTooLong => .nameTooLong
  | .failed => .failed

/-- The copying loop; `none` is the panic of an index out of range. -/
def copyLoop : List IpAddress → ℕ → List Ipv4Addr → Option (ℕ × List Ipv4Addr)
  | [], len, output => some (len, output)
  | .ipv4 address :: rest, len, output =>
      if len < output.length then copyLoop rest (len + 1) (output.set len address) else none

/-- Result and final buffer of `copy_ipv4_addresses`. -/
def copyIpv4Addresses (addresses : List IpAddress) (output : List Ipv4Addr) :
    Option (Except ResolveError ℕ × List Ipv4Addr) :=
  let required := (addresses.filter fun address => match address with | .ipv4 _ => true).length
  if required = 0 then some (.error .failed, output)
  else if required > output.length then some (.error (.outputTooSmall required), output)
  else (copyLoop addresses 0 output).map fun (len, output) => (.ok len, output)

/-- Resolves all A records into a buffer of the caller. -/
def resolveIpv4 (answer : Except Dns.Error (List IpAddress)) (output : List Ipv4Addr) :
    Option (Except ResolveError ℕ × List Ipv4Addr) :=
  match answer with
  | .error error => some (.error (.ofDns error), output)
  | .ok addresses => copyIpv4Addresses addresses output

/-- The address in the variant that exists. -/
def IpAddress.toIpv4 : IpAddress → Ipv4Addr
  | ipv4 address => address

/-- The filter of the counting pass lets every address pass. -/
theorem required_eq_length (addresses : List IpAddress) :
    (addresses.filter fun address => match address with | .ipv4 _ => true).length =
      addresses.length := by
  congr 1
  apply List.filter_eq_self.mpr
  intro address _
  cases address
  rfl

/-- With room for all addresses the loop stays inside the buffer and writes them one
behind the other. -/
theorem copyLoop_eq {addresses : List IpAddress} {len : ℕ} {output : List Ipv4Addr}
    (h : len + addresses.length ≤ output.length) :
    copyLoop addresses len output = some (len + addresses.length,
      output.take len ++ addresses.map IpAddress.toIpv4 ++
        output.drop (len + addresses.length)) := by
  induction addresses generalizing len output with
  | nil => simp [copyLoop]
  | cons address rest ih =>
      obtain ⟨address⟩ := address
      rw [List.length_cons] at h
      have hlt : len < output.length := by omega
      have hroom : len + 1 + rest.length ≤ (output.set len address).length := by
        rw [List.length_set]
        omega
      have hlen : len + (rest.length + 1) = len + 1 + rest.length := by omega
      have htake : (output.set len address).take (len + 1) = output.take len ++ [address] := by
        rw [List.take_succ_eq_append_getElem (by rw [List.length_set]; omega),
          List.getElem_set_self, List.take_set_of_le (Nat.le_refl len)]
      have hdrop : (output.set len address).drop (len + 1 + rest.length) =
          output.drop (len + 1 + rest.length) := List.drop_set_of_lt (by omega)
      rw [copyLoop, if_pos hlt, ih hroom, htake, hdrop, List.length_cons, hlen, List.map_cons,
        IpAddress.toIpv4, List.append_assoc (output.take len), List.singleton_append]

theorem copyIpv4Addresses_nil (output : List Ipv4Addr) :
    copyIpv4Addresses [] output = some (.error .failed, output) := rfl

theorem copyIpv4Addresses_of_lt {addresses : List IpAddress} {output : List Ipv4Addr}
    (h : output.length < addresses.length) :
    copyIpv4Addresses addresses output =
      some (.error (.outputTooSmall addresses.length), output) := by
  unfold copyIpv4Addresses
  rw [required_eq_length, if_neg (by omega), if_pos h]

theorem copyIpv4Addresses_of_le {addresses : List IpAddress} {output : List Ipv4Addr}
    (hpos : 0 < addresses.length) (h : addresses.length ≤ output.length) :
    copyIpv4Addresses addresses output = some (.ok addresses.length,
      addresses.map IpAddress.toIpv4 ++ output.drop addresses.length) := by
  unfold copyIpv4Addresses
  rw [required_eq_length, if_neg (by omega), if_neg (by omega), copyLoop_eq (by omega)]
  simp

/-- DNS results are copied completely or not at all. No index is out of range; an
answer is as long as the list and starts the buffer, and an error leaves the buffer
alone. -/
theorem copyIpv4Addresses_complete (addresses : List IpAddress) (output : List Ipv4Addr) :
    ∃ result buffer, copyIpv4Addresses addresses output = some (result, buffer) ∧
      (∀ n, result = .ok n ↔ n = addresses.length ∧ 1 ≤ n ∧ n ≤ output.length) ∧
      (∀ n, result = .ok n → buffer.take n = addresses.map IpAddress.toIpv4 ∧
        buffer.drop n = output.drop n ∧ buffer.head? = addresses.head?.map IpAddress.toIpv4) ∧
      (result = .error .failed ↔ addresses = []) ∧
      (∀ required, result = .error (.outputTooSmall required) ↔
        required = addresses.length ∧ output.length < addresses.length) ∧
      ∀ error, result = .error error → buffer = output := by
  by_cases hlong : output.length < addresses.length
  · have hne : addresses ≠ [] := List.length_pos_iff.mp (by omega)
    refine ⟨_, _, copyIpv4Addresses_of_lt hlong, ?_, ?_, ?_, ?_, ?_⟩
    · intro n
      simp only [reduceCtorEq, false_iff]
      omega
    · intro n hn
      simp at hn
    · simp [hne]
    · intro required
      simp [hlong, eq_comm]
    · intro error _
      rfl
  · cases addresses with
    | nil =>
        refine ⟨_, _, copyIpv4Addresses_nil output, ?_, ?_, ?_, ?_, ?_⟩
        · intro n
          simp only [reduceCtorEq, false_iff, List.length_nil]
          omega
        · intro n hn
          simp at hn
        · simp
        · intro required
          simp
        · intro error _
          rfl
    | cons address rest =>
        have hcopy := copyIpv4Addresses_of_le (by simp) (Nat.le_of_not_lt hlong)
        refine ⟨_, _, hcopy, ?_, ?_, ?_, ?_, ?_⟩
        · intro n
          rw [List.length_cons] at hlong
          rw [Except.ok.injEq, List.length_cons]
          omega
        · intro n hn
          rw [Except.ok.injEq] at hn
          subst hn
          exact ⟨List.take_left' (List.length_map _), List.drop_left' (List.length_map _), rfl⟩
        · simp
        · intro required
          simp only [reduceCtorEq, false_iff]
          omega
        · intro error herror
          simp at herror

end EmbeddedSdk.Networking
