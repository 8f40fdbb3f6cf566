import EmbeddedSdk.MinimqAdapter
import EmbeddedSdk.Runs

/-!
# The adapter snapshot as a summary of its history

A caller drives one client and, while a connection is alive, that connection.
The log keeps each call with what it returned. The specification reads events
off the log and never looks at the snapshot; the main theorem says that the
snapshot holds exactly their saturated counts and the latest open failure.
-/
namespace EmbeddedSdk.MqttMinimq
open Mqtt MachineInt Runs

/-- One call with the answer of `minimq`. A missing answer means that the
caller dropped the future before `minimq` gave one. -/
inductive Call (B : Backend)
  | connect (answer : Option (Except (Minimq.Error B) Minimq.ConnectEvent))
  | transition (state : ConnectionState)
  | recordExternalFailure (error : ErrorKind)
  | recordQueueDrops (count : ℕ)
  | publish (topic : TopicName) (payload : List UInt8) (qos : QoS)
      (inner : Option (Minimq.Publication → Except (Minimq.PubError B) Unit))
  | subscribe (filter : TopicFilter) (qos : QoS)
      (inner : Option (Minimq.Subscription → Except (Minimq.Error B) Unit))
  | unsubscribe (filter : TopicFilter) (inner : Option (String → Except (Minimq.Error B) Unit))
  | drive (answer : Option (Except (Minimq.Error B) (Option Minimq.InboundPublish)))
  | receive (answer : Option (Except (Minimq.Error B) Minimq.InboundPublish))
  | disconnect (answer : Option (Except (Minimq.Error B) Unit))
  | dropConnection

/-- What the caller gets back. -/
inductive Reply
  | connected (event : Minimq.ConnectEvent)
  | delivered (message : InboundPublish)
  | done
  | error (kind : ErrorKind)
  | cancelled
  deriving DecidableEq

variable {B : Backend}

/-- A client and, while it is borrowed, the event that made its connection. -/
structure Adapter where
  client : Client := {}
  live : Option Minimq.ConnectEvent := none

def Reply.ofResult {α : Type} (success : α → Reply) : Except (Error B) α → Reply
  | .ok value => success value
  | .error e => .error e.kind

namespace Adapter

/-- A method of the client itself, possible only while nothing borrows it. -/
def onClient (a : Adapter) (f : Client → Client × Reply) : Option (Adapter × Reply) :=
  match a.live with
  | none => some ({ a with client := (f a.client).1 }, (f a.client).2)
  | some _ => none

/-- A method of the live connection; it writes through to the client. -/
def onConnection {α : Type} (a : Adapter) (success : α → Reply)
    (f : Connection → Connection × Except (Error B) α) : Option (Adapter × Reply) :=
  match a.live with
  | none => none
  | some event =>
      let result := f (a.client.connection event)
      some ({ a with client := ⟨result.1.snapshot⟩ }, .ofResult success result.2)

/-- A future of the live connection that is dropped before it completes. -/
def cancel (a : Adapter) : Option (Adapter × Reply) :=
  match a.live with
  | none => none
  | some _ => some (a, .cancelled)

/-- One call. Rust's borrow rules refuse a client method while a connection is
alive and a connection method while none is. -/
def exec (a : Adapter) : Call B → Option (Adapter × Reply)
  | .connect none => a.onClient fun c => (c.beginConnect, .cancelled)
  | .connect (some answer) =>
      match a.live with
      | some _ => none
      | none =>
          match a.client.connect answer with
          | (c, .ok event) => some (⟨c, some event⟩, .connected event)
          | (c, .error error) => some (⟨c, none⟩, .error error.kind)
  | .transition state => a.onClient fun c => (c.transition state, .done)
  | .recordExternalFailure error => a.onClient fun c => (c.recordExternalFailure error, .done)
  | .recordQueueDrops count =>
      a.onConnection (B := B) (fun _ => .done) fun c => (c.recordQueueDrops count, .ok ())
  | .publish topic payload qos (some inner) =>
      a.onConnection (fun _ => .done) fun c => c.publish topic payload qos inner
  | .subscribe filter qos (some inner) =>
      a.onConnection (fun _ => .done) fun c => c.subscribe filter qos inner
  | .unsubscribe filter (some inner) =>
      a.onConnection (fun _ => .done) fun c => c.unsubscribe filter inner
  | .drive (some answer) =>
      a.onConnection (fun message => message.elim .done .delivered) fun c => c.drive answer
  | .receive (some answer) => a.onConnection .delivered fun c => c.receive answer
  | .disconnect (some answer) => a.onConnection (fun _ => .done) fun c => c.disconnect answer
  | .publish _ _ _ none | .subscribe _ _ none | .unsubscribe _ none | .drive none
  | .receive none | .disconnect none => a.cancel
  | .dropConnection => some ({ a with live := none }, .done)

end Adapter

/-- A call and what it returned. -/
structure Entry (B : Backend) where
  call : Call B
  reply : Reply

/-- An adapter with the log of everything done with it so far. -/
structure Recorded (B : Backend) where
  adapter : Adapter := {}
  log : List (Entry B) := []

def Recorded.step (r : Recorded B) (call : Call B) : Option (Recorded B) :=
  (r.adapter.exec call).map fun (adapter, reply) => ⟨adapter, r.log ++ [⟨call, reply⟩]⟩

/-- What the lifecycle counters are about. -/
inductive Event
  | freshConnect
  | resumedConnect
  | failure (kind : ErrorKind)
  | published
  | received
  | queueDrops (count : ℕ)
  | refused (kind : ErrorKind)
  | other
  deriving DecidableEq

/-- An operation on a live connection that returned an error is a failure when
the error is of kind transport, protocol or disconnected. Otherwise it was only
refused, and the connection goes on. -/
def operationFailure : ErrorKind → Event
  | .transport => .failure .transport
  | .protocol => .failure .protocol
  | .disconnected => .failure .disconnected
  | .configuration => .refused .configuration
  | .capacity => .refused .capacity
  | .notReady => .refused .notReady

/-- The event that a log entry stands for. Every failed connect and every
external failure is a failure, of whatever kind. -/
def Entry.event (entry : Entry B) : Event :=
  match entry.call, entry.reply with
  | .connect _, .connected .connected => .freshConnect
  | .connect _, .connected .reconnected => .resumedConnect
  | .connect _, .error kind => .failure kind
  | .recordExternalFailure kind, _ => .failure kind
  | .recordQueueDrops count, _ => .queueDrops count
  | .publish .., .done => .published
  | .drive _, .delivered _ => .received
  | .receive _, .delivered _ => .received
  | _, .error kind => operationFailure kind
  | _, _ => .other

namespace Event

def isFailure : Event → Bool
  | failure _ => true
  | _ => false

def failureKind : Event → Option ErrorKind
  | failure kind => some kind
  | _ => none

def connectEvent : Event → Option Minimq.ConnectEvent
  | freshConnect => some .connected
  | resumedConnect => some .reconnected
  | _ => none

def drops : Event → ℕ
  | queueDrops count => count
  | _ => 0

end Event

/-- The latest failure with no successful connect after it. -/
def openFailure (events : List Event) : Option ErrorKind :=
  (events.reverse.takeWhile fun e => e.connectEvent.isNone).findSome? Event.failureKind

/-- The latest successful connect. -/
def latestConnect (events : List Event) : Option Minimq.ConnectEvent :=
  events.reverse.findSome? Event.connectEvent

/-- The snapshot says exactly what happened. -/
structure Summarizes (events : List Event) (s : Snapshot) : Prop where
  connections : s.connections = min (events.count .freshConnect) u32Max
  resumptions : s.resumptions = min (events.count .resumedConnect) u32Max
  failures : s.failures = min (events.countP Event.isFailure) u32Max
  publishes : s.publishes = min (events.count .published) u32Max
  received : s.received = min (events.count .received) u32Max
  queueDrops : s.queueDrops = min (events.map Event.drops).sum u32Max
  lastError : s.lastError = openFailure events
  connected : s.state = .connected → s.lastError = none ∧ latestConnect events = some .connected
  resumed : s.state = .resumed → s.lastError = none ∧ latestConnect events = some .reconnected

theorem summarizes_nil : Summarizes [] {} := by
  constructor <;> simp [openFailure, u32Max]

/-- Everything that an event may do to the snapshot. A refused operation leaves
it alone, and an event outside the counters may only move to a state that is
not a connected one. -/
def Event.Moves (s t : Snapshot) : Event → Prop
  | freshConnect => t = s.recordConnected
  | resumedConnect => t = s.recordResumed
  | failure kind => t = s.recordFailure kind
  | published => t = s.recordPublish
  | received => t = s.recordReceive
  | queueDrops count => t = s.recordQueueDrops count
  | refused _ => t = s
  | other => t = s ∨ ∃ state, state ≠ .connected ∧ state ≠ .resumed ∧ t = s.transition state

@[simp] theorem openFailure_concat (events : List Event) (e : Event) :
    openFailure (events ++ [e]) =
      if e.connectEvent.isSome then none else e.failureKind.or (openFailure events) := by
  simp only [openFailure, List.reverse_append, List.reverse_singleton, List.singleton_append,
    List.takeWhile_cons]
  cases e <;> simp [Event.connectEvent, Event.failureKind, List.findSome?_cons]

@[simp] theorem latestConnect_concat (events : List Event) (e : Event) :
    latestConnect (events ++ [e]) = e.connectEvent.or (latestConnect events) := by
  simp only [latestConnect, List.reverse_append, List.reverse_singleton, List.singleton_append]
  cases e <;> simp [Event.connectEvent, List.findSome?_cons]

theorem count_concat (events : List Event) (e f : Event) :
    (events ++ [e]).count f = events.count f + if e = f then 1 else 0 := by
  simp only [List.count_append, List.count_singleton, beq_iff_eq]

theorem countP_isFailure_concat (events : List Event) (e : Event) :
    (events ++ [e]).countP Event.isFailure =
      events.countP Event.isFailure + if e.isFailure then 1 else 0 := by
  simp only [List.countP_append, List.countP_singleton]

theorem sum_drops_concat (events : List Event) (e : Event) :
    ((events ++ [e]).map Event.drops).sum = (events.map Event.drops).sum + e.drops := by
  simp only [List.map_append, List.map_singleton, List.sum_append, List.sum_singleton]

/-- One event keeps the summary exact. -/
theorem Summarizes.concat {events : List Event} {s t : Snapshot} {e : Event}
    (h : Summarizes events s) (hm : e.Moves s t) : Summarizes (events ++ [e]) t := by
  have hl := h.lastError
  have hc := h.connected
  have hr := h.resumed
  rw [hl] at hc hr
  cases e with
  | other =>
      obtain rfl | ⟨state, hnc, hnr, rfl⟩ := hm
      · constructor <;>
          simp only [count_concat, countP_isFailure_concat, sum_drops_concat, openFailure_concat,
            latestConnect_concat, Event.connectEvent, Event.failureKind, Event.isFailure,
            Event.drops, h.connections, h.resumptions, h.failures, h.publishes, h.received,
            h.queueDrops, hl, reduceCtorEq, Bool.false_eq_true, if_false, add_zero,
            Option.isSome_none, Option.none_or]
        · exact hc
        · exact hr
      · constructor <;>
          simp only [Snapshot.transition, count_concat, countP_isFailure_concat, sum_drops_concat,
            openFailure_concat, latestConnect_concat, Event.connectEvent, Event.failureKind,
            Event.isFailure, Event.drops, h.connections, h.resumptions, h.failures, h.publishes,
            h.received, h.queueDrops, hl, reduceCtorEq, Bool.false_eq_true, if_false, add_zero,
            Option.isSome_none, Option.none_or, hnc, hnr, false_implies]
  | freshConnect | resumedConnect | failure _ | published | received | queueDrops _ | refused _ =>
      rw [Event.Moves] at hm
      subst hm
      constructor <;>
        simp only [Snapshot.recordConnected, Snapshot.recordResumed, Snapshot.recordFailure,
          Snapshot.recordPublish, Snapshot.recordReceive, Snapshot.recordQueueDrops,
          count_concat, countP_isFailure_concat, sum_drops_concat, openFailure_concat,
          latestConnect_concat, Event.connectEvent, Event.failureKind, Event.isFailure,
          Event.drops, h.connections, h.resumptions, h.failures, h.publishes, h.received,
          h.queueDrops, saturatingAdd_min, hl, reduceCtorEq, Bool.false_eq_true, if_false, if_true,
          add_zero, Option.isSome_none, Option.isSome_some, Option.none_or, Option.some_or,
          false_implies, and_self, implies_true]
      all_goals first | exact hc | exact hr

/-- The two filters on error kinds agree with the specification. -/
theorem observeError_moves (s : Snapshot) (e : Error B) :
    (operationFailure e.kind).Moves s (observeError s e) := by
  cases hk : e.kind <;> simp [operationFailure, observeError, isRecorded, hk, Event.Moves]

/-- Callers move the client themselves only to states without a session. -/
def Call.Composable : Call B → Prop
  | .transition state => state ≠ .connected ∧ state ≠ .resumed
  | _ => True

theorem onClient_some {a a' : Adapter} {f : Client → Client × Reply} {reply : Reply}
    (h : a.onClient f = some (a', reply)) :
    a'.client = (f a.client).1 ∧ reply = (f a.client).2 := by
  unfold Adapter.onClient at h
  split at h
  · cases h
    exact ⟨rfl, rfl⟩
  · cases h

theorem onConnection_some {α : Type} {a a' : Adapter} {success : α → Reply}
    {f : Connection → Connection × Except (Error B) α} {reply : Reply}
    (h : a.onConnection success f = some (a', reply)) :
    ∃ c : Connection, c.snapshot = a.client.snapshot ∧
      a'.client.snapshot = (f c).1.snapshot ∧ reply = .ofResult success (f c).2 := by
  unfold Adapter.onConnection at h
  split at h
  · cases h
  · cases h
    exact ⟨_, rfl, rfl, rfl⟩

theorem cancel_some {a a' : Adapter} {reply : Reply} (h : a.cancel = some (a', reply)) :
    a' = a ∧ reply = .cancelled := by
  unfold Adapter.cancel at h
  split at h
  · cases h
  · cases h
    exact ⟨rfl, rfl⟩

/-- A connection operation moves the snapshot as its log entry says. -/
theorem Observes.moves {α : Type} {f : Connection → Connection × Except (Error B) α}
    {ok : α → Snapshot → Snapshot} (hf : Observes f ok) {a a' : Adapter} {call : Call B}
    {reply : Reply} {success : α → Reply}
    (hlive : ∀ kind, Entry.event ⟨call, .error kind⟩ = operationFailure kind)
    (hok : ∀ value s, (Entry.event ⟨call, success value⟩).Moves s (ok value s))
    (h : a.onConnection success f = some (a', reply)) :
    (Entry.event ⟨call, reply⟩).Moves a.client.snapshot a'.client.snapshot := by
  obtain ⟨c, hc, ha, rfl⟩ := onConnection_some h
  have hs := hf c
  rw [← hc, ha]
  cases hr : (f c).2 with
  | ok value =>
      rw [hr] at hs
      rw [hs]
      exact hok value c.snapshot
  | error e =>
      rw [hr] at hs
      rw [hs, Reply.ofResult, hlive]
      exact observeError_moves c.snapshot e

theorem connect_moves {a a' : Adapter} {reply : Reply}
    {answer : Except (Minimq.Error B) Minimq.ConnectEvent}
    (h : a.exec (.connect (some answer)) = some (a', reply)) :
    (Entry.event (B := B) ⟨.connect (some answer), reply⟩).Moves a.client.snapshot
      a'.client.snapshot := by
  simp only [Adapter.exec] at h
  split at h
  · cases h
  · rcases answer with e | event
    · cases h
      rfl
    · cases event <;> cases h <;> rfl

theorem cancel_moves {a a' : Adapter} {call : Call B} {reply : Reply}
    (hcall : Entry.event ⟨call, .cancelled⟩ = .other) (h : a.cancel = some (a', reply)) :
    (Entry.event ⟨call, reply⟩).Moves a.client.snapshot a'.client.snapshot := by
  obtain ⟨rfl, rfl⟩ := cancel_some h
  rw [hcall]
  exact .inl rfl

/-- Every call moves the snapshot as its log entry says. -/
theorem exec_moves {a a' : Adapter} {call : Call B} {reply : Reply} (hc : call.Composable)
    (h : a.exec call = some (a', reply)) :
    (Entry.event ⟨call, reply⟩).Moves a.client.snapshot a'.client.snapshot := by
  cases call with
  | connect answer =>
      cases answer with
      | none =>
          rw [Adapter.exec] at h
          obtain ⟨ha, rfl⟩ := onClient_some h
          rw [ha]
          exact .inr ⟨.connectingSession, by decide, by decide, rfl⟩
      | some answer => exact connect_moves h
  | transition state =>
      rw [Adapter.exec] at h
      obtain ⟨ha, rfl⟩ := onClient_some h
      rw [ha]
      exact .inr ⟨state, hc.1, hc.2, rfl⟩
  | recordExternalFailure error =>
      rw [Adapter.exec] at h
      obtain ⟨ha, rfl⟩ := onClient_some h
      rw [ha]
      rfl
  | recordQueueDrops count =>
      rw [Adapter.exec] at h
      obtain ⟨c, hc, ha, rfl⟩ := onConnection_some h
      rw [ha, ← hc]
      rfl
  | publish topic payload qos inner =>
      cases inner with
      | none => exact cancel_moves rfl (by simpa only [Adapter.exec] using h)
      | some inner =>
          rw [Adapter.exec] at h
          refine (publish_observes topic payload qos inner).moves (fun _ => rfl) ?_ h
          exact fun _ _ => rfl
  | subscribe filter qos inner =>
      cases inner with
      | none => exact cancel_moves rfl (by simpa only [Adapter.exec] using h)
      | some inner =>
          rw [Adapter.exec] at h
          refine (subscribe_observes filter qos inner).moves (fun _ => rfl) ?_ h
          exact fun _ _ => .inl rfl
  | unsubscribe filter inner =>
      cases inner with
      | none => exact cancel_moves rfl (by simpa only [Adapter.exec] using h)
      | some inner =>
          rw [Adapter.exec] at h
          refine (unsubscribe_observes filter inner).moves (fun _ => rfl) ?_ h
          exact fun _ _ => .inl rfl
  | drive answer =>
      cases answer with
      | none => exact cancel_moves rfl (by simpa only [Adapter.exec] using h)
      | some answer =>
          rw [Adapter.exec] at h
          refine (drive_observes answer).moves (fun _ => rfl) ?_ h
          intro message s
          cases message with
          | none => exact .inl rfl
          | some message => rfl
  | receive answer =>
      cases answer with
      | none => exact cancel_moves rfl (by simpa only [Adapter.exec] using h)
      | some answer =>
          rw [Adapter.exec] at h
          refine (receive_observes answer).moves (fun _ => rfl) ?_ h
          exact fun _ _ => rfl
  | disconnect answer =>
      cases answer with
      | none => exact cancel_moves rfl (by simpa only [Adapter.exec] using h)
      | some answer =>
          rw [Adapter.exec] at h
          refine (disconnect_observes answer).moves (fun _ => rfl) ?_ h
          exact fun _ _ => .inr ⟨.waitingForNetwork, by decide, by decide, rfl⟩
  | dropConnection =>
      cases h
      exact .inl rfl

/-- The entry is a poll on which `minimq` handed over a QoS 2 message. -/
def Entry.IsQos2 (entry : Entry B) : Prop :=
  ∃ message : Minimq.InboundPublish, message.qos = .exactlyOnce ∧
    (entry.call = .receive (some (.ok message)) ∨ entry.call = .drive (some (.ok (some message))))

theorem deliver_qos2 (c : Connection) {message : Minimq.InboundPublish}
    (hq : message.qos = .exactlyOnce) :
    (c.deliver message).2 = .error (.peer B.invalidPacket : Error B) := by
  simp [Connection.deliver, fromMinimqPublish, fromMinimqQos, hq]

theorem exec_qos2 {a a' : Adapter} {call : Call B} {reply : Reply}
    (h : a.exec call = some (a', reply)) (hq : Entry.IsQos2 ⟨call, reply⟩) :
    Entry.event ⟨call, reply⟩ = .failure .protocol := by
  obtain ⟨message, hm, hcall | hcall⟩ := hq
  · dsimp only at hcall
    subst hcall
    rw [Adapter.exec] at h
    obtain ⟨c, _, _, rfl⟩ := onConnection_some h
    simp only [Connection.receive, deliver_qos2 c hm]
    rfl
  · dsimp only at hcall
    subst hcall
    rw [Adapter.exec] at h
    obtain ⟨c, _, _, rfl⟩ := onConnection_some h
    simp only [Connection.drive, deliver_qos2 c hm]
    rfl

theorem step_some {r t : Recorded B} {call : Call B} (h : r.step call = some t) :
    ∃ reply, r.adapter.exec call = some (t.adapter, reply) ∧ t.log = r.log ++ [⟨call, reply⟩] := by
  unfold Recorded.step at h
  obtain ⟨⟨a, reply⟩, he, rfl⟩ := Option.map_eq_some_iff.mp h
  exact ⟨reply, he, rfl⟩

/-- Whatever `minimq` answers, the lifecycle snapshot is the exact summary of
everything done with the client so far. A QoS 2 message counts as a protocol
failure and not as received, and an operation that is only refused leaves the
whole snapshot as it was. -/
theorem snapshot_summarizes_history (calls : List (Call B))
    (hcalls : ∀ call ∈ calls, call.Composable) (r : Recorded B)
    (h : run Recorded.step {} calls = some r) :
    Summarizes (r.log.map Entry.event) r.adapter.client.snapshot ∧
      (∀ entry ∈ r.log, entry.IsQos2 → entry.event = .failure .protocol) ∧
      EachStep Recorded.step {} calls fun _ before call =>
        ∀ a reply kind, before.adapter.exec call = some (a, reply) →
          Entry.event ⟨call, reply⟩ = .refused kind →
            a.client.snapshot = before.adapter.client.snapshot := by
  have hcalls : EachStep Recorded.step {} calls fun _ _ call => call.Composable :=
    EachStep.of_forall hcalls
  have hsummary : Summarizes (r.log.map Entry.event) r.adapter.client.snapshot := by
    refine EachStep.history (R := fun _ r => Summarizes (r.log.map Entry.event)
      r.adapter.client.snapshot) summarizes_nil ?_ hcalls h
    intro _ r call t _ hr hcall ht
    obtain ⟨reply, he, hlog⟩ := step_some ht
    simpa [hlog] using hr.concat (exec_moves hcall he)
  have hqos2 : ∀ entry ∈ r.log, entry.IsQos2 → entry.event = .failure .protocol := by
    refine run_invariant (I := fun r : Recorded B => ∀ entry ∈ r.log,
      entry.IsQos2 → entry.event = .failure .protocol) (by simp) ?_ h
    intro r call t hr ht entry hentry
    obtain ⟨reply, he, hlog⟩ := step_some ht
    rw [hlog, List.mem_append, List.mem_singleton] at hentry
    rcases hentry with hold | rfl
    · exact hr entry hold
    · exact exec_qos2 he
  refine ⟨hsummary, hqos2, ?_⟩
  intro past call hp before hbefore a reply kind he hrefused
  have hm := exec_moves (hcalls past call hp before hbefore) he
  rw [hrefused] at hm
  exact hm

/-- A session with one publish of each outcome and a QoS 2 message, dropped,
then a failure outside MQTT. -/
def sampleCalls (topic : TopicName) : List (Call plainBackend) :=
  [.transition .waitingForNetwork, .connect (some (.ok .connected)),
    .publish topic [] .atLeastOnce (some fun _ => .ok ()),
    .publish topic [] .atLeastOnce (some fun _ => .error .payload), .recordQueueDrops 3,
    .receive (some (.ok ⟨"commands", [], .exactlyOnce, false⟩)), .dropConnection,
    .recordExternalFailure .transport]

theorem sampleCalls_summarized :
    ∃ topic, TopicName.new "telemetry" = .ok topic ∧
      ∃ r : Recorded plainBackend, run Recorded.step {} (sampleCalls topic) = some r ∧
        r.log.map Entry.event = [.other, .freshConnect, .published, .refused .capacity,
          .queueDrops 3, .failure .protocol, .other, .failure .transport] ∧
        Summarizes (r.log.map Entry.event) r.adapter.client.snapshot := by
  obtain ⟨topic, htopic⟩ : ∃ topic, TopicName.new "telemetry" = .ok topic := ⟨_, rfl⟩
  refine ⟨topic, htopic, _, rfl, rfl, ?_⟩
  exact (snapshot_summarizes_history (sampleCalls topic) (by simp [sampleCalls, Call.Composable]) _
    rfl).1

end EmbeddedSdk.MqttMinimq
