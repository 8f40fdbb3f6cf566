import EmbeddedSdk.FirmwareStartup
import EmbeddedSdk.NetworkReadiness

/-!
# The network monitor of the reference firmware

`network_monitor_task` reports what becomes of the link and of the IPv4
configuration, and tries the configured target once for each configuration. It is
polled when something changes, so a state is the await at which it stands, whether
the timer of that await has run out, and what was reported. The stack, the timers
and the network are found as they are at the time of a poll.
-/
namespace EmbeddedSdk.NetworkMonitor
open Networking FirmwareStartup PolledLoops Runs

/-- The lines that the monitor and its probe print. -/
inductive Report
  | linkUp
  | dhcpPending
  | conversionFailed (error : ConfigError)
  | linkDown
  | configured (dnsServers : ℕ)
  | probeSkipped
  | dnsProbeFailed (error : ResolveError)
  | dnsProbeTimedOut
  | probeSucceeded (resolvedAddresses : ℕ)
  | tcpProbeFailed
  | tcpProbeTimedOut
  | configurationLost
  deriving DecidableEq

/-- The awaits of `network_monitor_task`, with those of `run_network_probe` in between. -/
inductive Point
  | waitLinkUp
  | select
  | resolve
  | connect (address : Ipv4Addr) (addressCount : ℕ)
  | flush
  | waitIpDown
  | panicked
  deriving DecidableEq

structure State where
  point : Point
  timedOut : Bool
  reports : List Report
  deriving DecidableEq

/-- What a poll finds: the stack, whether the timer of the present await has run
out, and what the operations of the probe have come to. -/
structure Moment where
  stack : Stack
  timedOut : Bool
  dns : Option (Except Dns.Error (List IpAddress))
  tcp : Option (Except Unit Unit)
  flushed : Bool

namespace State

/-- Goes to another await, whose timer starts anew. -/
def goto (s : State) (point : Point) (reports : List Report) : State :=
  ⟨point, false, s.reports ++ reports⟩

/-- The body of the outer loop behind `configured`. -/
def configured (s : State) (probe : Option NetworkProbe) (stack : Stack) : State :=
  match stack.snapshot with
  | .error error => s.goto .waitLinkUp [.conversionFailed error]
  | .ok snapshot =>
      let dnsServers := snapshot.ipv4.elim 0 fun ipv4 => ipv4.dnsServers.len.toNat
      match probe with
      | some _ =>
          if snapshot.isDnsReady then s.goto .resolve [.configured dnsServers]
          else s.goto .waitIpDown [.configured dnsServers, .probeSkipped]
      | none => s.goto .waitIpDown [.configured dnsServers]

/-- The body of the inner loop, and of the outer one if the inner one is left. -/
def configUp (s : State) (probe : Option NetworkProbe) (stack : Stack) : State :=
  match stack.snapshot with
  | .ok snapshot => if snapshot.isIpReady then s.configured probe stack else s.goto .select []
  | .error error => s.goto .waitLinkUp [.conversionFailed error]

/-- `run_network_probe` behind its DNS query. -/
def resolved (s : State) (answer : Except Dns.Error (List IpAddress)) : State :=
  match resolveIpv4 answer (List.replicate 4 .unspecified) with
  | none => s.goto .panicked []
  | some (.error error, _) => s.goto .waitIpDown [.dnsProbeFailed error]
  | some (.ok addressCount, addresses) =>
      s.goto (.connect (addresses.getD 0 .unspecified) addressCount) []

/-- `run_network_probe` behind its connection attempt. -/
def connected (s : State) (addressCount : ℕ) : Except Unit Unit → State
  | .ok () => s.goto .flush [.probeSucceeded addressCount]
  | .error () => s.goto .waitIpDown [.tcpProbeFailed]

/-- The end of the outer loop. -/
def ipDown (s : State) (stack : Stack) : State :=
  match stack.snapshot with
  | .ok _ => s.goto .waitLinkUp [.configurationLost]
  | .error error => s.goto .waitLinkUp [.conversionFailed error]

/-- What follows the await at which the task stands, if the await is ready. A timeout
is looked at behind the operation that it bounds, and the first arm of a select before
the second. -/
def advance (probe : Option NetworkProbe) (m : Moment) (s : State) : Option State :=
  match s.point with
  | .waitLinkUp => if m.stack.linkUp then some (s.goto .select [.linkUp]) else none
  | .select =>
      if m.stack.configV4.isSome then some (s.configUp probe m.stack)
      else if s.timedOut then some (s.goto .select [.dhcpPending])
      else if !m.stack.linkUp then some (s.goto .waitLinkUp [.linkDown])
      else none
  | .resolve =>
      match m.dns with
      | some answer => some (s.resolved answer)
      | none => if s.timedOut then some (s.goto .waitIpDown [.dnsProbeTimedOut]) else none
  | .connect _ addressCount =>
      match m.tcp with
      | some answer => some (s.connected addressCount answer)
      | none => if s.timedOut then some (s.goto .waitIpDown [.tcpProbeTimedOut]) else none
  | .flush => if m.flushed || s.timedOut then some (s.goto .waitIpDown []) else none
  | .waitIpDown => if m.stack.configV4.isNone then some (s.ipDown m.stack) else none
  | .panicked => none

end State

/-- `network_monitor_task` up to its first await. -/
def networkMonitorTask : State := ⟨.waitLinkUp, false, []⟩

/-- One poll. Eight awaits are the most that a poll which ends goes through. -/
def step (probe : Option NetworkProbe) (s : State) (m : Moment) : Option State :=
  poll (State.advance probe m) 9 { s with timedOut := m.timedOut }

/-- How a probe can end before it has a connection. -/
def Report.isProbeFailure : Report → Bool
  | .dnsProbeFailed _ | .dnsProbeTimedOut | .tcpProbeFailed | .tcpProbeTimedOut => true
  | _ => false

/-- Everything that can follow an await. -/
inductive Move (probe : Option NetworkProbe) (m : Moment) (s t : State) : Prop
  | linkUp (hs : s.point = .waitLinkUp) (hlink : m.stack.linkUp = true)
      (ht : t = s.goto .select [.linkUp])
  | linkless (c : StaticConfigV4) (hs : s.point = .select) (hconfig : m.stack.configV4 = some c)
      (hlink : m.stack.linkUp = false) (hc : IsPortable c) (ht : t = s.goto .select [])
  | refused (c : StaticConfigV4) (error : ConfigError) (hs : s.point = .select)
      (hconfig : m.stack.configV4 = some c) (hc : ¬ IsPortable c)
      (ht : t = s.goto .waitLinkUp [.conversionFailed error])
  | probing (c : StaticConfigV4) (hs : s.point = .select) (hconfig : m.stack.configV4 = some c)
      (hlink : m.stack.linkUp = true) (hc : IsPortable c) (hprobe : probe.isSome = true)
      (hdns : 0 < c.dnsServers.size)
      (ht : t = s.goto .resolve [.configured c.dnsServers.size])
  | skipped (c : StaticConfigV4) (hs : s.point = .select) (hconfig : m.stack.configV4 = some c)
      (hlink : m.stack.linkUp = true) (hc : IsPortable c) (hprobe : probe.isSome = true)
      (ht : t = s.goto .waitIpDown [.configured 0, .probeSkipped])
  | unprobed (c : StaticConfigV4) (hs : s.point = .select) (hconfig : m.stack.configV4 = some c)
      (hlink : m.stack.linkUp = true) (hc : IsPortable c) (hprobe : probe = none)
      (ht : t = s.goto .waitIpDown [.configured c.dnsServers.size])
  | dhcpPending (hs : s.point = .select) (hconfig : m.stack.configV4 = none)
      (htimer : s.timedOut = true) (ht : t = s.goto .select [.dhcpPending])
  | linkDown (hs : s.point = .select) (hconfig : m.stack.configV4 = none)
      (hlink : m.stack.linkUp = false) (ht : t = s.goto .waitLinkUp [.linkDown])
  | resolved (address : Ipv4Addr) (addressCount : ℕ) (hs : s.point = .resolve)
      (ht : t = s.goto (.connect address addressCount) [])
  | failed (report : Report) (hs : s.point = .resolve ∨ ∃ address n, s.point = .connect address n)
      (hreport : report.isProbeFailure = true) (ht : t = s.goto .waitIpDown [report])
  | succeeded (address : Ipv4Addr) (addressCount : ℕ) (hs : s.point = .connect address addressCount)
      (ht : t = s.goto .flush [.probeSucceeded addressCount])
  | flushed (hs : s.point = .flush) (ht : t = s.goto .waitIpDown [])
  | lost (hs : s.point = .waitIpDown) (hconfig : m.stack.configV4 = none)
      (ht : t = s.goto .waitLinkUp [.configurationLost])

variable {probe : Option NetworkProbe} {m : Moment} {s t : State}

/-- A usable configuration is read twice within one poll, so the second reading finds
what the first one found. -/
theorem configUp_move {c : StaticConfigV4} (hs : s.point = .select)
    (hconfig : m.stack.configV4 = some c) : Move probe m s (s.configUp probe m.stack) := by
  obtain ⟨hportable, snapshot, hsnapshot, hshows⟩ | ⟨hnot, c', hc', herror⟩ :=
    snapshot_cases m.stack
  · have hc := hportable c hconfig
    obtain ⟨ipv4, hipv4, hcopies⟩ := hshows.present c hconfig
    cases hlink : m.stack.linkUp with
    | false =>
        refine .linkless c hs hconfig hlink hc ?_
        have hready : snapshot.isIpReady = false := by
          rw [hshows.ipReady, Stack.isIpReady, hlink]
          rfl
        simp [State.configUp, hsnapshot, hready]
    | true =>
        have hready : snapshot.isIpReady = true := by
          rw [hshows.ipReady, Stack.isIpReady, hlink, hconfig]
          rfl
        have hlen : (snapshot.ipv4.elim 0 fun ipv4 => ipv4.dnsServers.len.toNat) =
            c.dnsServers.size := by
          rw [hipv4]
          exact hcopies.count
        have hdns : snapshot.isDnsReady = true ↔ 0 < c.dnsServers.size := by
          rw [hshows.dnsReady, Array.size_pos_iff]
          simp [hlink, hconfig]
        simp only [State.configUp, State.configured, hsnapshot, hready, if_true, hlen]
        cases hprobe : probe with
        | none => exact .unprobed c hs hconfig hlink hc rfl rfl
        | some target =>
            cases hready' : snapshot.isDnsReady with
            | true => exact .probing c hs hconfig hlink hc rfl (hdns.mp hready') rfl
            | false =>
                have hzero : c.dnsServers.size = 0 := by
                  by_contra hne
                  rw [hdns.mpr (Nat.pos_of_ne_zero hne)] at hready'
                  cases hready'
                rw [hzero]
                exact .skipped c hs hconfig hlink hc rfl rfl
  · rw [hconfig, Option.some.injEq] at hc'
    subst hc'
    have hc : ¬ IsPortable c := by
      intro h
      refine hnot fun c' hc' => ?_
      rw [hconfig, Option.some.injEq] at hc'
      exact hc' ▸ h
    simp only [State.configUp, herror]
    exact .refused c _ hs hconfig hc rfl

/-- The answer of a query is copied or refused, so a probe never panics. -/
theorem resolved_move (hs : s.point = .resolve) (answer : Except Dns.Error (List IpAddress)) :
    Move probe m s (s.resolved answer) := by
  unfold State.resolved
  cases answer with
  | error error => exact .failed _ (.inl hs) rfl rfl
  | ok addresses =>
      obtain ⟨result, buffer, hcopy⟩ : ∃ result buffer,
          resolveIpv4 (.ok addresses) (List.replicate 4 .unspecified) = some (result, buffer) := by
        by_cases hlong : 4 < addresses.length
        · exact ⟨_, _, copyIpv4Addresses_of_lt hlong⟩
        · cases addresses with
          | nil => exact ⟨_, _, copyIpv4Addresses_nil _⟩
          | cons address rest =>
              have hle : (address :: rest).length ≤ (List.replicate 4 Ipv4Addr.unspecified).length :=
                Nat.le_of_not_lt hlong
              exact ⟨_, _, copyIpv4Addresses_of_le (by simp) hle⟩
      rw [hcopy]
      cases result with
      | error error => exact .failed _ (.inl hs) rfl rfl
      | ok addressCount => exact .resolved _ addressCount hs rfl

/-- The inversion of `advance`. -/
theorem advance_move (h : s.advance probe m = some t) : Move probe m s t := by
  unfold State.advance at h
  split at h
  next hs =>
    split at h
    next hlink => exact .linkUp hs hlink (Option.some.inj h).symm
    next => cases h
  next hs =>
    split at h
    next hconfig =>
      obtain ⟨c, hc⟩ := Option.isSome_iff_exists.mp hconfig
      rw [← Option.some.inj h]
      exact configUp_move hs hc
    next hconfig =>
      rw [Option.not_isSome_iff_eq_none] at hconfig
      split at h
      next htimer => exact .dhcpPending hs hconfig htimer (Option.some.inj h).symm
      next =>
        split at h
        next hlink => exact .linkDown hs hconfig (by simpa using hlink) (Option.some.inj h).symm
        next => cases h
  next hs =>
    split at h
    next answer _ =>
      rw [← Option.some.inj h]
      exact resolved_move hs answer
    next =>
      split at h
      next => exact .failed _ (.inl hs) rfl (Option.some.inj h).symm
      next => cases h
  next address addressCount hs =>
    split at h
    next answer _ =>
      rw [← Option.some.inj h]
      cases answer with
      | error => exact .failed _ (.inr ⟨address, addressCount, hs⟩) rfl rfl
      | ok => exact .succeeded address addressCount hs rfl
    next =>
      split at h
      next => exact .failed _ (.inr ⟨address, addressCount, hs⟩) rfl (Option.some.inj h).symm
      next => cases h
  next hs =>
    split at h
    next => exact .flushed hs (Option.some.inj h).symm
    next => cases h
  next hs =>
    split at h
    next hconfig =>
      rw [Option.isNone_iff_eq_none] at hconfig
      obtain ⟨snapshot, hsnapshot, -⟩ := snapshot_of_none hconfig
      refine .lost hs hconfig ?_
      rw [← Option.some.inj h, State.ipDown, hsnapshot]
    next => cases h
  next => cases h

section Yields

/-- A poll that finds a configuration which leads nowhere: one without a link, or one
that cannot be converted although the link is up. -/
def Spins (m : Moment) (s : State) : Prop :=
  ∃ c, m.stack.configV4 = some c ∧
    ((s.point = .select ∧ m.stack.linkUp = false ∧ IsPortable c) ∨
      ((s.point = .select ∨ s.point = .waitLinkUp) ∧ m.stack.linkUp = true ∧ ¬ IsPortable c))

/-- How far a poll can still get. -/
def rank (m : Moment) (s : State) : ℕ :=
  match s.point with
  | .resolve => 6
  | .connect _ _ => 5
  | .flush => 4
  | .waitIpDown => 3
  | .panicked => 0
  | .select =>
      if m.stack.configV4.isSome then 7
      else if m.stack.linkUp then (if s.timedOut then 1 else 0)
      else if s.timedOut then 2 else 1
  | .waitLinkUp =>
      if m.stack.linkUp then (if m.stack.configV4.isSome then 8 else 2) else 0

theorem not_spins_of_point (hselect : s.point ≠ .select) (hlink : s.point ≠ .waitLinkUp) :
    ¬ Spins m s := by
  rintro ⟨c, -, ⟨hs, -⟩ | ⟨hs | hs, -⟩⟩
  · exact hselect hs
  · exact hselect hs
  · exact hlink hs

theorem not_spins_of_none (h : m.stack.configV4 = none) : ¬ Spins m s := by
  rintro ⟨c, hc, -⟩
  rw [h] at hc
  cases hc

/-- Each await of a poll that does not spin brings it closer to its end. -/
theorem rank_lt_of_move (hspins : ¬ Spins m s) (hm : Move probe m s t) :
    ¬ Spins m t ∧ rank m t < rank m s := by
  cases hm with
  | linkUp hs hlink ht =>
      subst ht
      refine ⟨?_, ?_⟩
      · rintro ⟨c, hc, ⟨-, hdown, -⟩ | ⟨-, -, hnot⟩⟩
        · rw [hlink] at hdown
          cases hdown
        · exact hspins ⟨c, hc, .inr ⟨.inr hs, hlink, hnot⟩⟩
      · simp only [rank, hs, State.goto, hlink]
        split <;> simp
  | linkless c hs hconfig hlink hc ht => exact absurd ⟨c, hconfig, .inl ⟨hs, hlink, hc⟩⟩ hspins
  | refused c error hs hconfig hc ht =>
      subst ht
      have hlink : m.stack.linkUp = false := by
        cases hlink : m.stack.linkUp with
        | false => rfl
        | true => exact absurd ⟨c, hconfig, .inr ⟨.inl hs, hlink, hc⟩⟩ hspins
      refine ⟨?_, ?_⟩
      · rintro ⟨c', hc', ⟨hpoint, -, -⟩ | ⟨-, hup, -⟩⟩
        · cases hpoint
        · rw [hlink] at hup
          cases hup
      · simp [rank, hs, State.goto, hlink, hconfig]
  | probing c hs hconfig hlink hc hprobe hdns ht =>
      subst ht
      exact ⟨not_spins_of_point (by simp [State.goto]) (by simp [State.goto]),
        by simp [rank, hs, State.goto, hconfig]⟩
  | skipped c hs hconfig hlink hc hprobe ht | unprobed c hs hconfig hlink hc hprobe ht =>
      subst ht
      exact ⟨not_spins_of_point (by simp [State.goto]) (by simp [State.goto]),
        by simp [rank, hs, State.goto, hconfig]⟩
  | dhcpPending hs hconfig htimer ht =>
      subst ht
      refine ⟨not_spins_of_none hconfig, ?_⟩
      simp only [rank, hs, State.goto, hconfig, htimer]
      cases m.stack.linkUp <;> simp
  | linkDown hs hconfig hlink ht =>
      subst ht
      refine ⟨not_spins_of_none hconfig, ?_⟩
      simp only [rank, hs, State.goto, hconfig, hlink]
      cases s.timedOut <;> simp
  | resolved address addressCount hs ht | succeeded address addressCount hs ht =>
      subst ht
      exact ⟨not_spins_of_point (by simp [State.goto]) (by simp [State.goto]),
        by simp [rank, hs, State.goto]⟩
  | flushed hs ht =>
      subst ht
      exact ⟨not_spins_of_point (by simp [State.goto]) (by simp [State.goto]),
        by simp [rank, hs, State.goto]⟩
  | failed report hs hreport ht =>
      subst ht
      refine ⟨not_spins_of_point (by simp [State.goto]) (by simp [State.goto]), ?_⟩
      obtain hs | ⟨address, n, hs⟩ := hs <;> simp [rank, hs, State.goto]
  | lost hs hconfig ht =>
      subst ht
      refine ⟨not_spins_of_none hconfig, ?_⟩
      simp only [rank, hs, State.goto, hconfig]
      cases m.stack.linkUp <;> simp

/-- A poll that spins goes on spinning. -/
theorem spins_advance (h : Spins m s) : ∃ t, s.advance probe m = some t ∧ Spins m t := by
  obtain ⟨c, hconfig, ⟨hs, hlink, hc⟩ | ⟨hs | hs, hlink, hc⟩⟩ := h
  · have hadvance : s.advance probe m = some (s.configUp probe m.stack) := by
      simp [State.advance, hs, hconfig]
    refine ⟨_, hadvance, ?_⟩
    cases advance_move hadvance with
    | linkless c' _ _ _ _ ht => exact ht ▸ ⟨c, hconfig, .inl ⟨rfl, hlink, hc⟩⟩
    | refused c' error _ hconfig' hc' =>
        rw [hconfig, Option.some.injEq] at hconfig'
        exact absurd (hconfig' ▸ hc) hc'
    | probing _ _ _ hlink' | skipped _ _ _ hlink' | unprobed _ _ _ hlink' | linkUp _ hlink' =>
        rw [hlink] at hlink'
        cases hlink'
    | dhcpPending _ hconfig' | linkDown _ hconfig' | lost _ hconfig' =>
        rw [hconfig] at hconfig'
        cases hconfig'
    | resolved _ _ hs' | succeeded _ _ hs' | flushed hs' =>
        rw [hs] at hs'
        cases hs'
    | failed _ hs' =>
        rw [hs] at hs'
        simp at hs'
  · have hadvance : s.advance probe m = some (s.configUp probe m.stack) := by
      simp [State.advance, hs, hconfig]
    refine ⟨_, hadvance, ?_⟩
    cases advance_move hadvance with
    | refused c' error _ _ _ ht => exact ht ▸ ⟨c, hconfig, .inr ⟨.inr rfl, hlink, hc⟩⟩
    | linkless c' _ hconfig' _ hc' | probing c' _ hconfig' _ hc' | skipped c' _ hconfig' _ hc'
    | unprobed c' _ hconfig' _ hc' =>
        rw [hconfig, Option.some.injEq] at hconfig'
        exact absurd (hconfig' ▸ hc') hc
    | dhcpPending _ hconfig' | linkDown _ hconfig' | lost _ hconfig' =>
        rw [hconfig] at hconfig'
        cases hconfig'
    | linkUp hs' | resolved _ _ hs' | succeeded _ _ hs' | flushed hs' =>
        rw [hs] at hs'
        cases hs'
    | failed _ hs' =>
        rw [hs] at hs'
        simp at hs'
  · refine ⟨s.goto .select [.linkUp], by simp [State.advance, hs, hlink], ?_⟩
    exact ⟨c, hconfig, .inr ⟨.inl rfl, hlink, hc⟩⟩

theorem rank_le (m : Moment) (s : State) : rank m s ≤ 8 := by
  unfold rank
  split
  all_goals first
    | omega
    | split_ifs <;> omega

/-- A poll of the monitor gives the processor back, at the latest after eight awaits,
unless it finds a configuration which leads nowhere: one without a link while it waits
for a configuration, or one that cannot be converted although the link is up. Then it
never does. -/
theorem monitor_yields_iff (probe : Option NetworkProbe) (m : Moment) (s : State) :
    (Yields (State.advance probe m) s ↔ ¬ Spins m s) ∧
      (Yields (State.advance probe m) s ↔ ∃ t, poll (State.advance probe m) 9 s = some t) := by
  have hends : ¬ Spins m s → ∃ t, poll (State.advance probe m) 9 s = some t := by
    intro h
    obtain ⟨t, ht⟩ := exists_poll_of_rank (P := fun s => ¬ Spins m s) (rank m)
      (fun p q hp hq => rank_lt_of_move hp (advance_move hq)) h
    have hle := rank_le m s
    exact ⟨t, poll_mono ht (by omega)⟩
  have hspins : Yields (State.advance probe m) s → ¬ Spins m s := by
    intro hyields h
    exact not_yields_of_invariant (P := Spins m) (fun p hp => spins_advance hp) h hyields
  refine ⟨⟨hspins, ?_⟩, ⟨fun h => hends (hspins h), ?_⟩⟩
  · intro h
    obtain ⟨t, ht⟩ := hends h
    exact yields_of_poll ht
  · rintro ⟨t, ht⟩
    exact yields_of_poll ht

end Yields

section Reports

/-- What the reports so far say about the network. -/
inductive Phase
  | down
  | up
  | online (dnsServers : ℕ)
  | probed
  deriving DecidableEq

/-- The order of the reports. A configuration is reported while the link is up and is
lost before the next one. With a target, every configuration has exactly one outcome
of a probe, which is to skip it exactly without a DNS server. Without a target there is
none. -/
def Phase.next (probe : Option NetworkProbe) : Phase → Report → Option Phase
  | .down, .linkUp => some .up
  | .up, .dhcpPending => some .up
  | .up, .linkDown => some .down
  | .up, .conversionFailed _ => some .down
  | .up, .configured dnsServers => some (.online dnsServers)
  | .online dnsServers, .probeSkipped =>
      if probe.isSome ∧ dnsServers = 0 then some .probed else none
  | .online dnsServers, .probeSucceeded _ =>
      if probe.isSome ∧ 0 < dnsServers then some .probed else none
  | .online _, .configurationLost => if probe.isNone then some .down else none
  | .online dnsServers, report =>
      if report.isProbeFailure ∧ probe.isSome ∧ 0 < dnsServers then some .probed else none
  | .probed, .configurationLost => some .down
  | _, _ => none

/-- The phase that an await belongs to. -/
def Point.InPhase (probe : Option NetworkProbe) : Point → Phase → Prop
  | .waitLinkUp, phase => phase = .down
  | .select, phase => phase = .up
  | .resolve, phase | .connect _ _, phase =>
      ∃ dnsServers, phase = .online dnsServers ∧ 0 < dnsServers ∧ probe.isSome = true
  | .flush, phase => phase = .probed
  | .waitIpDown, phase => phase = .probed ∨ probe = none ∧ ∃ dnsServers, phase = .online dnsServers
  | .panicked, _ => False

/-- The reports come in order and lead to the phase of the present await, which is no
panic. -/
def Ordered (probe : Option NetworkProbe) (s : State) : Prop :=
  ∃ phase, run (Phase.next probe) .down s.reports = some phase ∧ s.point.InPhase probe phase

theorem Phase.next_failure {report : Report} (h : report.isProbeFailure = true)
    (hprobe : probe.isSome = true) {dnsServers : ℕ} (hdns : 0 < dnsServers) :
    Phase.next probe (.online dnsServers) report = some .probed := by
  cases report with
  | dnsProbeFailed | dnsProbeTimedOut | tcpProbeFailed | tcpProbeTimedOut =>
      simp [Phase.next, Report.isProbeFailure, hprobe, hdns]
  | linkUp | dhcpPending | conversionFailed | linkDown | configured | probeSkipped
  | probeSucceeded | configurationLost => cases h

/-- A step keeps the order if its reports lead from phase to phase. -/
theorem ordered_goto {phase phase' : Phase} {reports : List Report} {point : Point}
    (hrun : run (Phase.next probe) .down s.reports = some phase)
    (hreports : run (Phase.next probe) phase reports = some phase')
    (hpoint : point.InPhase probe phase') : Ordered probe (s.goto point reports) := by
  refine ⟨phase', ?_, hpoint⟩
  show run (Phase.next probe) .down (s.reports ++ reports) = some phase'
  rw [run_append, hrun]
  exact hreports

theorem ordered_move (h : Ordered probe s) (hm : Move probe m s t) : Ordered probe t := by
  obtain ⟨phase, hrun, hphase⟩ := h
  cases hm with
  | linkUp hs _ ht | dhcpPending hs _ _ ht | linkDown hs _ _ ht =>
      subst ht
      rw [hs] at hphase
      cases hphase
      exact ordered_goto hrun rfl rfl
  | linkless c hs _ _ _ ht | refused c error hs _ _ ht =>
      subst ht
      rw [hs] at hphase
      cases hphase
      exact ordered_goto hrun rfl rfl
  | probing c hs _ _ _ hprobe hdns ht =>
      subst ht
      rw [hs] at hphase
      cases hphase
      exact ordered_goto hrun rfl ⟨_, rfl, hdns, hprobe⟩
  | skipped c hs _ _ _ hprobe ht =>
      subst ht
      rw [hs] at hphase
      cases hphase
      refine ordered_goto hrun ?_ (.inl rfl)
      simp [run_cons, Phase.next, hprobe]
  | unprobed c hs _ _ _ hprobe ht =>
      subst ht
      rw [hs] at hphase
      cases hphase
      exact ordered_goto hrun rfl (.inr ⟨hprobe, _, rfl⟩)
  | resolved address addressCount hs ht =>
      subst ht
      rw [hs] at hphase
      exact ordered_goto hrun rfl hphase
  | failed report hs hreport ht =>
      subst ht
      have honline : ∃ dnsServers, phase = .online dnsServers ∧ 0 < dnsServers ∧
          probe.isSome = true := by
        obtain hs | ⟨address, n, hs⟩ := hs
        · rwa [hs] at hphase
        · rwa [hs] at hphase
      obtain ⟨dnsServers, rfl, hdns, hprobe⟩ := honline
      refine ordered_goto hrun ?_ (.inl rfl)
      rw [run_cons, Phase.next_failure hreport hprobe hdns]
      rfl
  | succeeded address addressCount hs ht =>
      subst ht
      rw [hs] at hphase
      obtain ⟨dnsServers, rfl, hdns, hprobe⟩ := hphase
      refine ordered_goto hrun ?_ rfl
      simp [run_cons, Phase.next, hprobe, hdns]
  | flushed hs ht =>
      subst ht
      rw [hs] at hphase
      exact ordered_goto hrun rfl (.inl hphase)
  | lost hs _ ht =>
      subst ht
      rw [hs] at hphase
      obtain rfl | ⟨hprobe, dnsServers, rfl⟩ := hphase
      · exact ordered_goto hrun rfl rfl
      · refine ordered_goto hrun ?_ rfl
        simp [run_cons, Phase.next, hprobe]

theorem start_ordered (probe : Option NetworkProbe) : Ordered probe networkMonitorTask :=
  ⟨.down, rfl, rfl⟩

/-- In every run, whatever the stack and the network do, the reports of the monitor
come in order: link and configuration go up and down in turn, each configuration is
probed exactly once if there is a target and a DNS server for it, and no probe panics.
A run consists of polls that end; the second part is about the awaits within a poll,
also of one that never ends. -/
theorem monitor_reports_ordered (probe : Option NetworkProbe) (moments : List Moment) (s : State)
    (h : run (step probe) networkMonitorTask moments = some s) :
    Ordered probe s ∧ ∀ m t,
      StateTransition.Reaches (State.advance probe m) { s with timedOut := m.timedOut } t →
        Ordered probe t := by
  have hwithin : ∀ m p q, Ordered probe p → State.advance probe m p = some q → Ordered probe q :=
    fun _ _ _ hp hq => ordered_move hp (advance_move hq)
  have hordered : Ordered probe s := by
    refine run_invariant (I := Ordered probe) (start_ordered probe) ?_ h
    intro s m t hs ht
    have hpolled : Ordered probe { s with timedOut := m.timedOut } := hs
    exact (poll_invariant (hwithin m) hpolled ht).1
  refine ⟨hordered, ?_⟩
  intro m t hreaches
  have hpolled : Ordered probe { s with timedOut := m.timedOut } := hordered
  exact reaches_invariant (hwithin m) hpolled hreaches

/-- A configuration comes up and is probed, then the link is lost. -/
def leaseAndLoss : List Moment :=
  [⟨⟨true, none⟩, false, none, none, false⟩,
    ⟨⟨true, some leasedConfig⟩, false, some (.ok [.ipv4 ⟨0xc0a80103⟩]), some (.ok ()), true⟩,
    ⟨⟨false, none⟩, false, none, none, false⟩]

theorem leaseAndLoss_ordered :
    ∃ s, run (step (some ⟨"broker.test", 1883⟩)) networkMonitorTask leaseAndLoss = some s ∧
      s.reports = [.linkUp, .configured 1, .probeSucceeded 1, .configurationLost] ∧
      Ordered (some ⟨"broker.test", 1883⟩) s :=
  ⟨_, rfl, rfl, (monitor_reports_ordered (some ⟨"broker.test", 1883⟩) leaseAndLoss _ rfl).1⟩

end Reports

end EmbeddedSdk.NetworkMonitor
