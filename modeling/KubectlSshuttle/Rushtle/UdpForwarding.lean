import KubectlSshuttle.Lib.Registry
import KubectlSshuttle.Rushtle.ServerRuns

/-!
# Which socket a UDP channel forwards for

The task that reads a UDP socket forwards each datagram first and then asks
whether the map has an entry for its channel.  It never asks whether that entry
is its own, and a datagram that it took is forwarded whatever became of the
channel meanwhile.
-/

namespace KubectlSshuttle.Rushtle

open KubectlSshuttle.Lib
open KubectlSshuttle.Lib.RustText
open KubectlSshuttle.Lib.Address
open KubectlSshuttle.Lib.Transition
open KubectlSshuttle.Rushtle.Ssnet
open KubectlSshuttle.Rushtle.OutQueue
open KubectlSshuttle.Rushtle.UdpFlows

/-! ## One flow -/

/-- A flow keeps its channel, and holds a datagram only once it took one. -/
theorem UdpFlow.step_spec {flow next : UdpFlow} {listed : Bool}
    {event : FlowEvent} (taken : flow.step listed event = some next) :
    next.channel = flow.channel ∧
      ∀ peer body, next.receiver = .forwarding peer body →
        flow.receiver = .forwarding peer body ∨
          ∃ whole, event = .datagram peer whole ∧
            body = whole.take datagramSize := by
  cases event with
  | datagram peer whole =>
      simp only [UdpFlow.step, Option.ite_none_right_eq_some,
        Option.some.injEq] at taken
      rcases taken with ⟨_, rfl⟩
      refine ⟨rfl, fun other body forwarding => Or.inr ?_⟩
      rcases ReceiveTask.forwarding.inj forwarding with ⟨rfl, rfl⟩
      exact ⟨whole, rfl, rfl⟩
  | receiveError =>
      simp only [UdpFlow.step, Option.ite_none_right_eq_some,
        Option.some.injEq] at taken
      rcases taken with ⟨_, rfl⟩
      exact ⟨rfl, fun peer body forwarding => by cases forwarding⟩
  | sent frame =>
      simp only [UdpFlow.step, Option.ite_none_right_eq_some,
        Option.some.injEq] at taken
      rcases taken with ⟨_, rfl⟩
      exact ⟨rfl, fun peer body forwarding => by cases forwarding⟩
  | sendFailed =>
      simp only [UdpFlow.step, Option.ite_none_right_eq_some,
        Option.some.injEq] at taken
      rcases taken with ⟨_, rfl⟩
      exact ⟨rfl, fun peer body forwarding => by cases forwarding⟩
  | checked =>
      simp only [UdpFlow.step, Option.ite_none_right_eq_some,
        Option.some.injEq] at taken
      rcases taken with ⟨_, rfl⟩
      refine ⟨rfl, fun peer body forwarding => ?_⟩
      cases listed <;> cases forwarding
  | sendTo address body =>
      simp only [UdpFlow.step] at taken
      split at taken
      · simp only [Option.ite_none_right_eq_some,
          Option.some.injEq] at taken
        rcases taken with ⟨_, rfl⟩
        exact ⟨rfl, fun peer body forwarding => Or.inl forwarding⟩
      · cases taken
  | queueClosed =>
      simp only [UdpFlow.step, Option.ite_none_right_eq_some,
        Option.some.injEq] at taken
      rcases taken with ⟨_, rfl⟩
      exact ⟨rfl, fun peer body forwarding => Or.inl forwarding⟩

/-! ## The holder of a channel by the history -/

/-- What a step of the table does to its registry. -/
def udpRegistryEvent : UdpEvent → Option (RegistryEvent UInt16)
  | .opened channel _ => some (.opened channel)
  | .closed channel => some (.closed channel)
  | _ => none

/-- The registry of a run. -/
def udpRegistry (trace : List UdpEvent) : Registry UInt16 :=
  registered (trace.filterMap udpRegistryEvent)

/-- The socket of the latest `UDP_OPEN` on the channel with no close since. -/
def udpHolder (channel : UInt16) (trace : List UdpEvent) : Option Nat :=
  (udpRegistry trace).owner channel

theorem udpRegistry_snoc (trace : List UdpEvent) (event : UdpEvent) :
    udpRegistry (trace ++ [event]) =
      match udpRegistryEvent event with
      | none => udpRegistry trace
      | some event => (udpRegistry trace).step event := by
  cases concerned : udpRegistryEvent event with
  | none => simp [udpRegistry, concerned]
  | some inner => simp [udpRegistry, concerned, registered_snoc]

/-- The map of UDP channels follows the history. -/
theorem owner_eq_udpHolder {trace : List UdpEvent} {table : UdpTable}
    (run : Run UdpTable.step .empty trace table) :
    (udpRegistry trace).count = table.flows.length ∧
      table.owner = (udpRegistry trace).owner := by
  refine run.invariant
    (motive := fun trace table =>
      (udpRegistry trace).count = table.flows.length ∧
        table.owner = (udpRegistry trace).owner) ⟨rfl, rfl⟩ ?_
  rintro trace table event next _ ⟨count, owner⟩ taken
  cases UdpMoves.of_step taken with
  | opened free =>
      simp [udpRegistry_snoc, udpRegistryEvent, Registry.step, count, owner]
  | closed free =>
      simp [udpRegistry_snoc, udpRegistryEvent, Registry.step, count, owner]
  | data free =>
      simp [udpRegistry_snoc, udpRegistryEvent, count, owner]
  | admitted waiting present =>
      simp [udpRegistry_snoc, udpRegistryEvent, count, owner]
  | dropped waiting =>
      simp [udpRegistry_snoc, udpRegistryEvent, count, owner]
  | flow present permitted taken =>
      simp [udpRegistry_snoc, udpRegistryEvent, count, owner]

/-- The server's map of UDP channels names the holder of each channel. -/
theorem owner_of_serverRun {resolvers : List Lib.Address.SocketAddr}
    {trace : List ServerAction} {server : Server}
    (run : Run Server.step (.start resolvers) trace server) :
    server.udp.owner = (udpRegistry (udpEvents trace)).owner :=
  (owner_eq_udpHolder (run_udp run)).2

/-! ## Forwarding for the current socket -/

/--
A datagram is taken only from the socket that holds its channel, and no
channel is closed or reopened while a task has a datagram of it in hand.
-/
def TakesForHolder (trace : List UdpEvent) (table : UdpTable) :
    UdpEvent → Prop
  | .flow member (.datagram _ _) => ∀ flow,
      table.flows[member]? = some flow →
        udpHolder flow.channel trace = some member
  | .opened channel _ | .closed channel =>
      ∀ (member : Nat) (flow : UdpFlow),
        table.flows[member]? = some flow → flow.channel = channel →
          ∀ peer body, flow.receiver ≠ .forwarding peer body
  | _ => True

/-- Every datagram in hand was received by the holder of its channel. -/
def HoldsCurrent (trace : List UdpEvent) (table : UdpTable) : Prop :=
  ∀ (member : Nat) (flow : UdpFlow) (peer : SocketAddr) (body : Bytes),
    table.flows[member]? = some flow →
    flow.receiver = .forwarding peer body →
      udpHolder flow.channel trace = some member ∧
        ∃ whole, .flow member (.datagram peer whole) ∈ trace ∧
          body = whole.take datagramSize

/-- An event that leaves the flows alone. -/
theorem HoldsCurrent.keep {trace : List UdpEvent} {table next : UdpTable}
    {event : UdpEvent} (current : HoldsCurrent trace table)
    (source : ∀ (member : Nat) (flow : UdpFlow) (peer : SocketAddr)
      (body : Bytes), next.flows[member]? = some flow →
      flow.receiver = .forwarding peer body →
        ∃ earlier : UdpFlow, table.flows[member]? = some earlier ∧
          earlier.receiver = .forwarding peer body ∧
          earlier.channel = flow.channel ∧
          udpHolder flow.channel (trace ++ [event]) =
            udpHolder flow.channel trace) :
    HoldsCurrent (trace ++ [event]) next := by
  intro member flow peer body present forwarding
  rcases source member flow peer body present forwarding with
    ⟨earlier, before, same, channel, holder⟩
  rcases current member earlier peer body before same with
    ⟨held, whole, taken, cut⟩
  refine ⟨?_, whole, List.mem_append_left _ taken, cut⟩
  rw [holder, ← channel, held]

theorem HoldsCurrent.step {trace : List UdpEvent} {table next : UdpTable}
    {event : UdpEvent} (current : HoldsCurrent trace table)
    (takes : TakesForHolder trace table event)
    (moved : UdpMoves table event next) :
    HoldsCurrent (trace ++ [event]) next := by
  have unregistered : udpRegistryEvent event = none → ∀ channel,
      udpHolder channel (trace ++ [event]) = udpHolder channel trace := by
    intro none channel
    rw [udpHolder, udpRegistry_snoc, none]
    rfl
  cases moved with
  | @opened channel family free =>
      refine current.keep ?_
      intro member flow peer body present forwarding
      rcases Nat.lt_or_ge member table.flows.length with old | new
      · dsimp only at present
        rw [List.getElem?_append_left old] at present
        have apart : flow.channel ≠ channel := by
          intro same
          exact takes member flow present same peer body forwarding
        refine ⟨flow, present, forwarding, rfl, ?_⟩
        simp [udpHolder, udpRegistry_snoc, udpRegistryEvent, Registry.step,
          Function.update_of_ne apart]
      · have bound := (List.getElem?_eq_some_iff.mp present).1
        rw [List.length_append, List.length_singleton] at bound
        obtain rfl : member = table.flows.length := by omega
        simp only [List.getElem?_concat_length, Option.some.injEq]
          at present
        subst present
        cases forwarding
  | @closed channel free =>
      refine current.keep ?_
      intro member flow peer body present forwarding
      have apart : flow.channel ≠ channel := by
        intro same
        exact takes member flow present same peer body forwarding
      refine ⟨flow, present, forwarding, rfl, ?_⟩
      simp [udpHolder, udpRegistry_snoc, udpRegistryEvent, Registry.step,
        Function.update_of_ne apart]
  | data free =>
      refine current.keep ?_
      intro member flow peer body present forwarding
      exact ⟨flow, present, forwarding, rfl, unregistered rfl _⟩
  | dropped waiting =>
      refine current.keep ?_
      intro member flow peer body present forwarding
      exact ⟨flow, present, forwarding, rfl, unregistered rfl _⟩
  | @admitted target datagram earlier waiting found =>
      refine current.keep ?_
      intro member flow peer body present forwarding
      by_cases same : target = member
      · subst same
        have bound := (List.getElem?_eq_some_iff.mp found).1
        simp only [List.getElem?_set_self bound, Option.some.injEq]
          at present
        subst present
        exact ⟨earlier, found, forwarding, rfl, unregistered rfl _⟩
      · simp only [List.getElem?_set_ne same] at present
        exact ⟨flow, present, forwarding, rfl, unregistered rfl _⟩
  | @flow target inner earlier later found permitted taken =>
      rcases UdpFlow.step_spec taken with ⟨sameChannel, source⟩
      intro member flow peer body present forwarding
      rw [unregistered rfl]
      by_cases same : target = member
      · subst same
        have bound := (List.getElem?_eq_some_iff.mp found).1
        simp only [List.getElem?_set_self bound, Option.some.injEq]
          at present
        subst present
        rw [sameChannel]
        rcases source peer body forwarding with before | ⟨whole, rfl, cut⟩
        · rcases current target earlier peer body found before with
            ⟨held, whole, member, cut⟩
          exact ⟨held, whole, List.mem_append_left _ member, cut⟩
        · exact ⟨takes earlier found, whole, by simp, cut⟩
      · simp only [List.getElem?_set_ne same] at present
        rcases current member flow peer body present forwarding with
          ⟨held, whole, received, cut⟩
        exact ⟨held, whole, List.mem_append_left _ received, cut⟩

/-! ## Runs of the server -/

/-- The condition of a step of the server. -/
def ServerTakesForHolder (trace : List ServerAction) (server : Server)
    (action : ServerAction) : Prop :=
  ∀ event, action.udp? = some event →
    TakesForHolder (udpEvents trace) server.udp event

theorem udpEvents_snoc (trace : List ServerAction) (action : ServerAction) :
    udpEvents (trace ++ [action]) =
      udpEvents trace ++ action.udp?.toList := by
  cases h : action.udp? <;> simp [udpEvents, h]

section Runs

variable {resolvers : List SocketAddr} {trace : List ServerAction}
  {server : Server}

theorem holdsCurrent_of_run
    (run : Run Server.step (.start resolvers) trace server)
    (takes : Meets Server.step (.start resolvers) ServerTakesForHolder
      trace) : HoldsCurrent (udpEvents trace) server.udp := by
  refine run.invariant_of_meets
    (motive := fun trace server =>
      HoldsCurrent (udpEvents trace) server.udp) ?_ ?_ takes
  · intro member flow peer body present
    simp [Server.start, UdpTable.empty] at present
  · intro trace server action next earlier current takes taken
    have projected := (ServerMoves.of_step taken).projects_udp
    rw [udpEvents_snoc]
    rcases projected.kept_or_step with
      ⟨unconcerned, same⟩ | ⟨event, concerned, stepped⟩
    · rw [unconcerned, same]
      simpa using current
    · rw [concerned]
      exact current.step (takes event concerned) (UdpMoves.of_step stepped)

/-- Only the receiving task of a flow emits `UDP_DATA`. -/
theorem flow_of_pending {source : Source} {frame : Frame}
    (pending : server.pendingFrame source = some frame)
    (command : frame.cmd = cmdUdpData) :
    ∃ member flow, source = .udp member ∧
      server.udp.flows[member]? = some flow ∧
        flow.pendingFrame = some frame := by
  have listed := Server.cmd_of_pending pending
  rw [command] at listed
  cases source with
  | udp member =>
      rcases Option.bind_eq_some_iff.mp pending with ⟨flow, present, pending⟩
      exact ⟨member, flow, rfl, present, pending⟩
  | main =>
      exact absurd listed (by simp only [Source.commands]; decide)
  | conn member =>
      exact absurd listed (by simp only [Source.commands]; decide)
  | dns member =>
      exact absurd listed (by simp only [Source.commands]; decide)

/-- A flow takes a datagram by an action of its own. -/
theorem mem_of_datagram {member : Nat} {peer : SocketAddr} {whole : Bytes}
    (received : .flow member (.datagram peer whole) ∈ udpEvents trace) :
    .udp (.flow member (.datagram peer whole)) ∈ trace := by
  rcases List.mem_filterMap.mp received with ⟨action, inTrace, concerned⟩
  unfold ServerAction.udp? at concerned
  split at concerned
  · next frame =>
      unfold udpCommand at concerned
      split at concerned
      · split at concerned <;> cases concerned
      · cases concerned
      · cases concerned
  · cases concerned
  · cases concerned
  · cases concerned
  · rcases Option.some.inj concerned with rfl
    exact inTrace
  · cases concerned

/--
If datagrams are taken only from the socket that holds its channel, and no
channel is closed or reopened with a datagram in hand, then every `UDP_DATA`
carries a datagram that the socket of the latest `UDP_OPEN` has received, with
no `UDP_CLOSE` since.
-/
theorem server_forwards_for_holder
    (run : Run Server.step (.start resolvers) trace server)
    (takes : Meets Server.step (.start resolvers) ServerTakesForHolder
      trace) :
    ∀ before source frame after,
      trace = before ++ .enqueued source frame :: after →
        frame.cmd = cmdUdpData →
      ∃ member peer whole, source = .udp member ∧
        udpHolder frame.channel (udpEvents before) = some member ∧
        .udp (.flow member (.datagram peer whole)) ∈ before ∧
        frame.data = encodeUdpData peer.ip.toText peer.port
          (whole.take datagramSize) := by
  rintro before source frame after rfl command
  rcases run.step_at with ⟨state, next, reached, taken, _⟩
  rcases flow_of_pending (Server.pending_of_enqueued taken) command with
    ⟨member, flow, rfl, present, pending⟩
  unfold UdpFlow.pendingFrame at pending
  split at pending
  · next peer body forwarding =>
      rcases Option.some.inj pending with rfl
      rcases holdsCurrent_of_run reached takes.take member flow peer body
          present forwarding with
        ⟨held, whole, received, rfl⟩
      exact ⟨member, peer, whole, rfl, held, mem_of_datagram received, rfl⟩
  · cases pending

end Runs

/-! ## A channel that is reopened -/

/-- A peer of a UDP socket. -/
def somePeer : SocketAddr := ⟨.v4 ⟨10, 0, 0, 2⟩, 53⟩

/-- The `UDP_DATA` for a datagram of that peer. -/
def forwardedFrame (channel : UInt16) (body : Bytes) : Frame :=
  ⟨channel, cmdUdpData, encodeUdpData somePeer.ip.toText somePeer.port body⟩

/-- Channel 5 is opened, closed and opened again. -/
def reopening : List ServerAction :=
  greeting ++
    [.recv ⟨5, cmdUdpOpen, []⟩, .bound 5 afInet, .recv ⟨5, cmdUdpClose, []⟩,
      .recv ⟨5, cmdUdpOpen, []⟩, .bound 5 afInet]

/-- The first socket of a channel forwards what it receives. -/
theorem server_forwards_for_holder_once :
    udpHolder 5 (udpEvents (greeting ++ [.recv ⟨5, cmdUdpOpen, []⟩] ++
      [.bound 5 afInet] ++ [.udp (.flow 0 (.datagram somePeer [1]))])) =
        some 0 := by
  have asked : Run Server.step (.start [])
      (greeting ++ [.recv ⟨5, cmdUdpOpen, []⟩])
      { Server.greeted [] with main := .binding 5 afInet } :=
    (run_greeting []).extend rfl
  have bound : Run Server.step (.start []) (_ ++ [.bound 5 afInet]) _ :=
    asked.extend rfl
  have taken : Run Server.step (.start [])
      (_ ++ [.udp (.flow 0 (.datagram somePeer [1]))]) _ :=
    bound.extend rfl
  have sent : Run Server.step (.start [])
      (_ ++ [.enqueued (.udp 0) (forwardedFrame 5 [1])]) _ :=
    taken.extend rfl
  have quiet : Meets Server.step (.start []) ServerTakesForHolder
      (greeting ++ [.recv ⟨5, cmdUdpOpen, []⟩]) := by
    refine Meets.of_forall ?_
    intro action member before state event concerned
    have none : ∀ action ∈ greeting ++ [.recv ⟨5, cmdUdpOpen, []⟩],
        action.udp? = none := by decide
    rw [none action member] at concerned
    cases concerned
  have opened : Meets Server.step (.start []) ServerTakesForHolder
      (greeting ++ [.recv ⟨5, cmdUdpOpen, []⟩] ++ [.bound 5 afInet]) := by
    refine quiet.extend asked ?_
    intro event concerned
    rcases Option.some.inj concerned with rfl
    intro member flow present
    simp [Server.greeted, Server.start, UdpTable.empty] at present
  have received : Meets Server.step (.start []) ServerTakesForHolder
      (greeting ++ [.recv ⟨5, cmdUdpOpen, []⟩] ++ [.bound 5 afInet] ++
        [.udp (.flow 0 (.datagram somePeer [1]))]) := by
    refine opened.extend bound ?_
    intro event concerned
    rcases Option.some.inj concerned with rfl
    intro flow present
    rcases Option.some.inj present with rfl
    decide
  have whole : Meets Server.step (.start []) ServerTakesForHolder
      (greeting ++ [.recv ⟨5, cmdUdpOpen, []⟩] ++ [.bound 5 afInet] ++
        [.udp (.flow 0 (.datagram somePeer [1]))] ++
        [.enqueued (.udp 0) (forwardedFrame 5 [1])]) := by
    refine received.extend taken ?_
    intro event concerned
    rcases Option.some.inj concerned with rfl
    trivial
  rcases server_forwards_for_holder sent whole _ (.udp 0) (forwardedFrame 5 [1])
      [] rfl rfl with
    ⟨member, peer, datagram, same, held, _⟩
  rcases Source.udp.inj same with rfl
  exact held

/--
A datagram that reaches the first socket after the channel was closed and
reopened is forwarded on the channel, which belongs to the second socket.
-/
theorem reopened_channel_forwards_old_socket :
    ∃ server,
      Run Server.step (.start [])
        (reopening ++ [.udp (.flow 0 (.datagram somePeer [1])),
          .enqueued (.udp 0) (forwardedFrame 5 [1])]) server ∧
      udpHolder 5 (udpEvents
        (reopening ++ [.udp (.flow 0 (.datagram somePeer [1]))])) =
          some 1 := by
  obtain ⟨server, run, _⟩ := run_of_execute_any Server.step (.start [])
    (reopening ++ [.udp (.flow 0 (.datagram somePeer [1])),
      .enqueued (.udp 0) (forwardedFrame 5 [1])])
    (fun _ => true) (by decide +kernel)
  exact ⟨server, run, by decide⟩

end KubectlSshuttle.Rushtle
