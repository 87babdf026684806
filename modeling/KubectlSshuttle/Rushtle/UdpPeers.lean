import KubectlSshuttle.Lib.AddressParser
import KubectlSshuttle.Rushtle.UdpForwarding

/-!
# Whom a UDP channel answers

The server writes the address of a datagram's source as text into `UDP_DATA`.
A client that answers returns this text, and the sending task joins it with
the port and parses the result as a socket address.  This gets back to the
source of an IPv4 datagram; an IPv6 address would need brackets, so that every
answer to an IPv6 peer is rejected.
-/

namespace KubectlSshuttle.Rushtle

open KubectlSshuttle.Lib
open KubectlSshuttle.Lib.RustText
open KubectlSshuttle.Lib.Address
open KubectlSshuttle.Lib.Transition
open KubectlSshuttle.Rushtle.Ssnet
open KubectlSshuttle.Rushtle.UdpFlows

/-! ## The address that is parsed -/

/-- A colon stands before every dot of an IPv6 address. -/
theorem colon_before_dot (address : Ipv6Addr) (rest : Text) :
    ∃ front after, address.toText ++ ':' :: rest = front ++ ':' :: after ∧
      '.' ∉ front ∧ '[' ∉ front := by
  cases mapped : address.toIpv4Mapped with
  | none =>
      have allowed {other : Char}
          (hexadecimals : ∀ digit < 16, Nat.digitChar digit ≠ other)
          (colon : ':' ≠ other) : other ∉ address.toText := by
        intro member
        have apart : ∀ char ∈ address.toText, char ≠ other :=
          Ipv6Addr.forall_toText_of_not_mapped hexadecimals colon mapped
        exact apart other member rfl
      refine ⟨address.toText, rest, rfl, ?_, ?_⟩
      · exact allowed (by decide) (by decide)
      · exact allowed (by decide) (by decide)
  | some ipv4 =>
      refine ⟨[], ":ffff:".toList ++ ipv4.toText ++ ':' :: rest, ?_,
        by simp, by simp⟩
      have letters : "::ffff:".toList = ':' :: ":ffff:".toList := by decide
      simp [Ipv6Addr.toText, mapped, letters]

/-- Of an address written without brackets only an IPv4 one is read back. -/
theorem parseSocketAddr_sendAddress (peer : SocketAddr) :
    parseSocketAddr (sendAddress peer.ip.toText peer.port) =
      if peer.ip.isIpv4 then some peer else none := by
  rcases peer with ⟨ip, port⟩
  cases ip with
  | v4 address => exact parseSocketAddr_v4 address port
  | v6 address =>
      rcases colon_before_dot address (decimal port.toNat) with
        ⟨front, after, whole, noDot, noBracket⟩
      change parseSocketAddr (address.toText ++ ':' :: _) = none
      rw [whole]
      exact parseSocketAddr_eq_none noDot noBracket

/-- The peer fields of a `UDP_DATA` payload. -/
def peerFields (data : Bytes) : Except Error (Text × UInt16) :=
  (parseUdpData data).map fun (ip, port, _) => (ip, port)

theorem peerFields_encodeUdpData (peer : SocketAddr) (body : Bytes) :
    peerFields (encodeUdpData peer.ip.toText peer.port body) =
      .ok (peer.ip.toText, peer.port) := by
  rw [peerFields, parseUdpData_encodeUdpData peer.ip.comma_notMem_toText]
  rfl

/-! ## The queue of a socket -/

/-- The datagrams that were put in a socket's queue. -/
def queuedFor (member : Nat) (trace : List UdpEvent) : List Outgoing :=
  trace.filterMap fun
    | .admitted target datagram =>
        if target = member then some datagram else none
    | _ => none

/-- The addresses and bodies that the sending task of a socket took. -/
def sentBy (member : Nat) (trace : List UdpEvent) : List (Text × Bytes) :=
  trace.filterMap fun
    | .flow target (.sendTo address body) =>
        if target = member then some (address, body) else none
    | _ => none

/-- What the sending task makes of a queued datagram. -/
def rendered (datagram : Outgoing) : Text × Bytes :=
  (sendAddress datagram.1 datagram.2.1, datagram.2.2)

/-- The datagrams waiting in a socket's queue. -/
def waitingFor (member : Nat) (table : UdpTable) : List Outgoing :=
  (table.flows[member]?.map UdpFlow.inbound).getD []

/-- What an event takes from the queue of its flow. -/
def takenOff : FlowEvent → List (Text × Bytes)
  | .sendTo address body => [(address, body)]
  | _ => []

theorem inbound_of_step {flow next : UdpFlow} {listed : Bool}
    {event : FlowEvent} (moved : flow.step listed event = some next) :
    flow.inbound.map rendered =
      takenOff event ++ next.inbound.map rendered := by
  cases event with
  | sendTo address body =>
      simp only [UdpFlow.step] at moved
      split at moved
      · next ip port queued rest inbound =>
          simp only [Option.ite_none_right_eq_some,
            Option.some.injEq] at moved
          rcases moved with ⟨⟨_, rfl, rfl⟩, rfl⟩
          simp [inbound, takenOff, rendered]
      · cases moved
  | _ =>
      simp only [UdpFlow.step, Option.ite_none_right_eq_some,
        Option.some.injEq] at moved
      rcases moved with ⟨_, rfl⟩
      rfl

theorem sentBy_flow (member : Nat) (event : FlowEvent) :
    sentBy member [.flow member event] = takenOff event := by
  cases event <;> simp [sentBy, takenOff]

theorem sentBy_flow_of_ne {member target : Nat} (other : target ≠ member)
    (event : FlowEvent) : sentBy member [.flow target event] = [] := by
  cases event <;> simp [sentBy, other]

theorem waitingFor_set {member : Nat} {table : UdpTable} {flow : UdpFlow}
    (present : table.flows[member]? = some flow) (next : UdpFlow)
    (delivering : Option (Nat × Outgoing)) :
    waitingFor member
        { table with
          flows := table.flows.set member next
          delivering := delivering } =
      next.inbound := by
  have bound := (List.getElem?_eq_some_iff.mp present).1
  simp [waitingFor, bound]

theorem waitingFor_set_of_ne {member target : Nat} (other : target ≠ member)
    (table : UdpTable) (next : UdpFlow)
    (delivering : Option (Nat × Outgoing)) :
    waitingFor member
        { table with
          flows := table.flows.set target next
          delivering := delivering } =
      waitingFor member table := by
  simp [waitingFor, List.getElem?_set_ne other]

/-- A new channel starts with an empty queue. -/
theorem waitingFor_opened (member : Nat) (table : UdpTable)
    (channel family : UInt16) :
    waitingFor member
        { table with
          owner := Function.update table.owner channel
            (some table.flows.length)
          flows := table.flows ++ [UdpFlow.fresh channel family] } =
      waitingFor member table := by
  rcases Nat.lt_trichotomy member table.flows.length with old | rfl | later
  · simp [waitingFor, List.getElem?_append_left old]
  · simp [waitingFor, UdpFlow.fresh]
  · have beyond : (table.flows ++ [UdpFlow.fresh channel family])[
        member]? = none := by
      apply List.getElem?_eq_none
      rw [List.length_append]
      exact later
    rw [waitingFor, waitingFor, beyond,
      List.getElem?_eq_none (Nat.le_of_lt later)]

/-- A step puts datagrams at the end of a queue and takes them off its front. -/
theorem waitingFor_of_step (member : Nat) {table next : UdpTable}
    {event : UdpEvent} (taken : table.step event = some next) :
    (waitingFor member table).map rendered ++
        (queuedFor member [event]).map rendered =
      sentBy member [event] ++ (waitingFor member next).map rendered := by
  cases UdpMoves.of_step taken with
  | opened free =>
      rw [waitingFor_opened]
      exact List.append_nil _
  | data free | closed free | dropped waiting => exact List.append_nil _
  | @admitted target datagram flow waiting present =>
      by_cases same : target = member
      · subst same
        rw [waitingFor_set present, waitingFor, present]
        simp [queuedFor, sentBy]
      · rw [waitingFor_set_of_ne same]
        simp [queuedFor, sentBy, same]
  | @flow target event flow next present permitted moved =>
      have unqueued : queuedFor member [.flow target event] = [] := rfl
      rw [unqueued, List.map_nil, List.append_nil]
      by_cases same : target = member
      · subst same
        have before : waitingFor target table = flow.inbound := by
          rw [waitingFor, present]
          rfl
        rw [waitingFor_set present, before, sentBy_flow]
        exact inbound_of_step moved
      · rw [waitingFor_set_of_ne same, sentBy_flow_of_ne same]
        rfl

/-- The queue of a socket loses nothing and keeps the order. -/
theorem queuedFor_eq (member : Nat) {trace : List UdpEvent}
    {table : UdpTable} (run : Run UdpTable.step .empty trace table) :
    (queuedFor member trace).map rendered =
      sentBy member trace ++ (waitingFor member table).map rendered := by
  refine run.invariant
    (motive := fun trace table =>
      (queuedFor member trace).map rendered =
        sentBy member trace ++ (waitingFor member table).map rendered)
    rfl ?_
  intro trace table event next _ whole taken
  have put : queuedFor member (trace ++ [event]) =
      queuedFor member trace ++ queuedFor member [event] :=
    List.filterMap_append
  have sent : sentBy member (trace ++ [event]) =
      sentBy member trace ++ sentBy member [event] :=
    List.filterMap_append
  rw [put, sent, List.map_append, whole, List.append_assoc,
    waitingFor_of_step member taken, List.append_assoc]

/-! ## The frames behind the queue -/

/--
The frame loop read the datagram off a `UDP_DATA`, at a time when the socket
held the channel of the frame.
-/
def ReadFor (trace : List ServerAction) (member : Nat)
    (datagram : Outgoing) (answer : Frame) : Prop :=
  ∃ before after, trace = before ++ .recv answer :: after ∧
    answer.command = .udpData ∧
    udpHolder answer.channel (udpEvents before) = some member ∧
    parseUdpData answer.data = .ok datagram

/-- The run emits the frame for a datagram from the peer. -/
def EmittedFor (resolvers : List SocketAddr) (trace : List ServerAction)
    (peer : SocketAddr) (emitted : Frame) : Prop :=
  ∃ before forwarder after state flow body,
    trace = before ++ .enqueued (.udp forwarder) emitted :: after ∧
    Run Server.step (.start resolvers) before state ∧
    state.udp.flows[forwarder]? = some flow ∧
    flow.receiver = .forwarding peer body

theorem ReadFor.extend {trace : List ServerAction} {member : Nat}
    {datagram : Outgoing} {answer : Frame}
    (read : ReadFor trace member datagram answer) (action : ServerAction) :
    ReadFor (trace ++ [action]) member datagram answer := by
  rcases read with ⟨before, after, whole, rest⟩
  exact ⟨before, after ++ [action], by simp [whole], rest⟩

/-- A delivery to the map of UDP channels comes from a frame. -/
theorem parse_of_udpCommand {frame : Frame} {channel : UInt16}
    {datagram : Outgoing}
    (asked : udpCommand frame = some (.data channel datagram)) :
    channel = frame.channel ∧ frame.command = .udpData ∧
      parseUdpData frame.data = .ok datagram := by
  unfold udpCommand at asked
  split at asked
  · next command =>
      split at asked
      · cases asked
      · next found parsed =>
          rcases UdpEvent.data.inj (Option.some.inj asked) with ⟨rfl, rfl⟩
          exact ⟨rfl, command, parsed⟩
  · cases asked
  · cases asked

/-- The frame loop alone delivers to the map of UDP channels. -/
theorem ServerMoves.frame_of_udpData {server next : Server}
    {action : ServerAction} (moved : ServerMoves server action next)
    {channel : UInt16} {datagram : Outgoing}
    (concerned : action.udp? = some (.data channel datagram)) :
    ∃ frame, action = .recv frame ∧
      udpCommand frame = some (.data channel datagram) := by
  cases moved with
  | @recv frame next idle dispatched => exact ⟨frame, rfl, concerned⟩
  | udp own taken =>
      rcases Option.some.inj concerned with rfl
      cases own
  | _ => cases concerned

section Runs

variable {resolvers : List SocketAddr} {trace : List ServerAction}
  {server : Server}

/-- Whatever is or was delivered to a socket was read off a frame. -/
theorem readFor_of_run
    (run : Run Server.step (.start resolvers) trace server) :
    ∀ member datagram,
      server.udp.delivering = some (member, datagram) ∨
        datagram ∈ queuedFor member (udpEvents trace) →
      ∃ answer, ReadFor trace member datagram answer := by
  refine run.invariant
    (motive := fun trace server => ∀ member datagram,
      server.udp.delivering = some (member, datagram) ∨
        datagram ∈ queuedFor member (udpEvents trace) →
      ∃ answer, ReadFor trace member datagram answer) ?_ ?_
  · intro member datagram delivered
    simp [Server.start, UdpTable.empty, queuedFor, udpEvents] at delivered
  · intro trace server action next earlier known taken member datagram
      delivered
    have old (before : server.udp.delivering = some (member, datagram) ∨
        datagram ∈ queuedFor member (udpEvents trace)) :
        ∃ answer, ReadFor (trace ++ [action]) member datagram answer := by
      rcases known member datagram before with ⟨answer, read⟩
      exact ⟨answer, read.extend action⟩
    have moved := ServerMoves.of_step taken
    have projected := moved.projects_udp
    rw [udpEvents_snoc] at delivered
    rcases projected.kept_or_step with
      ⟨unconcerned, same⟩ | ⟨event, concerned, stepped⟩
    · rw [unconcerned, same] at delivered
      exact old (by simpa using delivered)
    · rw [concerned] at delivered
      generalize next.udp = table at stepped delivered
      cases UdpMoves.of_step stepped with
      | opened free =>
          exact old (delivered.imp id (by simp [queuedFor]))
      | closed free =>
          exact old (delivered.imp id (by simp [queuedFor]))
      | dropped waiting =>
          rcases delivered with never | queued
          · cases never
          · exact old (.inr (by simpa [queuedFor] using queued))
      | flow present permitted taken =>
          exact old (delivered.imp id (by simp [queuedFor]))
      | @admitted target added flow waiting present =>
          rcases delivered with never | queued
          · cases never
          · by_cases same : target = member
            · subst same
              rcases (by simpa [queuedFor] using queued :
                datagram ∈ queuedFor target (udpEvents trace) ∨
                  datagram = added) with before | rfl
              · exact old (.inr before)
              · exact old (.inl waiting)
            · exact old (.inr (by simpa [queuedFor, same] using queued))
      | @data channel brought free =>
          rcases delivered with here | queued
          · rcases Option.map_eq_some_iff.mp here with
              ⟨holder, held, pair⟩
            rcases Prod.mk.inj pair with ⟨rfl, rfl⟩
            rcases moved.frame_of_udpData concerned with
              ⟨frame, rfl, asked⟩
            rcases parse_of_udpCommand asked with ⟨rfl, command, parsed⟩
            rw [owner_of_serverRun earlier] at held
            exact ⟨frame, trace, [], rfl, command, held, parsed⟩
          · exact old (.inr (by simpa [queuedFor] using queued))

/-- A frame emitted for a datagram carries the fields of its source. -/
theorem peerFields_of_emitted {peer : SocketAddr} {emitted : Frame}
    (run : Run Server.step (.start resolvers) trace server)
    (emission : EmittedFor resolvers trace peer emitted) :
    peerFields emitted.data = .ok (peer.ip.toText, peer.port) := by
  rcases emission with
    ⟨before, forwarder, after, state, flow, body, rfl, reached, present,
      forwarding⟩
  rcases run.step_at with ⟨state', next, reached', taken, _⟩
  rcases reached.deterministic reached' with rfl
  have pending := Server.pending_of_enqueued taken
  simp only [Server.pendingFrame, present, Option.bind_some,
    UdpFlow.pendingFrame, forwarding, Option.some.injEq] at pending
  rw [← pending]
  exact peerFields_encodeUdpData peer body

/--
What a socket sends out, in the order of the frames that asked for it: the
address parsed for an answer that carries the peer fields of an emitted
`UDP_DATA` is the source of its datagram exactly if that is an IPv4 address.
-/
theorem answer_sent_to_peer_iff
    (run : Run Server.step (.start resolvers) trace server)
    {peer : SocketAddr} {emitted : Frame}
    (emission : EmittedFor resolvers trace peer emitted)
    {member n : Nat} {address : Text} {body : Bytes}
    (sent : (sentBy member (udpEvents trace))[n]? = some (address, body)) :
    ∃ datagram,
      (queuedFor member (udpEvents trace))[n]? = some datagram ∧
      rendered datagram = (address, body) ∧
      (∃ answer, ReadFor trace member datagram answer) ∧
      ∀ answer, ReadFor trace member datagram answer →
        peerFields answer.data = peerFields emitted.data →
          (parseSocketAddr address = some peer ↔ peer.ip.isIpv4 = true) := by
  have whole := queuedFor_eq member (run_udp run)
  have nth := congrArg (·[n]?) whole
  have early : n < (sentBy member (udpEvents trace)).length :=
    (List.getElem?_eq_some_iff.mp sent).1
  simp only [List.getElem?_map, List.getElem?_append_left early, sent]
    at nth
  rcases Option.map_eq_some_iff.mp nth with ⟨datagram, queued, made⟩
  have read := readFor_of_run run member datagram
    (.inr (List.mem_of_getElem? queued))
  refine ⟨datagram, queued, made, read, ?_⟩
  rintro answer ⟨before, after, _, _, _, parsed⟩ fields
  rw [peerFields_of_emitted run emission, peerFields, parsed] at fields
  rcases Prod.mk.inj (Except.ok.inj fields) with ⟨ip, port⟩
  have text : address = sendAddress peer.ip.toText peer.port := by
    rw [← (Prod.mk.inj made).1, ip, port]
  rw [text, parseSocketAddr_sendAddress]
  simp

end Runs

/-! ## An answer to an IPv4 and to an IPv6 peer -/

/-- The `UDP_DATA` on channel 5 with the fields of a peer. -/
def peerFrame (peer : SocketAddr) (body : Bytes) : Frame :=
  ⟨5, cmdUdpData, encodeUdpData peer.ip.toText peer.port body⟩

/-- A dual-stack socket is bound for channel 5 and receives a datagram. -/
def receiving (peer : SocketAddr) : List ServerAction :=
  greeting ++
    [.recv ⟨5, cmdUdpOpen, utf8 (decimal afInet6.toNat)⟩, .bound 5 afInet6,
      .udp (.flow 0 (.datagram peer [1]))]

/-- The datagram is forwarded, and the client answers its source. -/
def answering (peer : SocketAddr) : List ServerAction :=
  [.recv (peerFrame peer [2]),
    .udp (.admitted 0 (peer.ip.toText, peer.port, [2])),
    .udp (.flow 0 (.sendTo (sendAddress peer.ip.toText peer.port) [2]))]

/-- A datagram comes in, and another one goes back. -/
def exchange (peer : SocketAddr) : List ServerAction :=
  receiving peer ++ .enqueued (.udp 0) (peerFrame peer [1]) :: answering peer

/-- `[::1]:5353` -/
def someV6Peer : SocketAddr := ⟨.v6 ⟨[0, 0, 0, 0, 0, 0, 0, 1], rfl⟩, 5353⟩

/-- The datagram is in the hands of the task that reads the socket. -/
theorem emittedFor_exchange {peer : SocketAddr}
    (reached : (execute Server.step (.start []) (receiving peer)).any
      (fun server => decide (server.udp.flows[0]?.map UdpFlow.receiver =
        some (.forwarding peer [1]))) = true) :
    EmittedFor [] (exchange peer) peer (peerFrame peer [1]) := by
  rcases run_of_execute_any Server.step (.start []) _ _ reached with
    ⟨state, run, test⟩
  rcases Option.map_eq_some_iff.mp (of_decide_eq_true test) with
    ⟨flow, present, forwarding⟩
  exact ⟨receiving peer, 0, answering peer, state, flow, [1], rfl, run,
    present, forwarding⟩

/-- The answer to an IPv4 peer goes to this peer. -/
theorem answer_sent_to_v4_peer :
    parseSocketAddr (sendAddress somePeer.ip.toText somePeer.port) =
      some somePeer := by
  rcases run_of_execute_any Server.step (.start []) (exchange somePeer)
    (fun _ => true) (by decide +kernel) with ⟨server, run, _⟩
  have emission : EmittedFor [] (exchange somePeer) somePeer
      (peerFrame somePeer [1]) := emittedFor_exchange (by decide +kernel)
  have sent : (sentBy 0 (udpEvents (exchange somePeer)))[0]? =
      some (sendAddress somePeer.ip.toText somePeer.port, [2]) := by
    decide +kernel
  rcases answer_sent_to_peer_iff run emission sent with
    ⟨datagram, queued, _, ⟨answer, read⟩, reached⟩
  have fields : peerFields answer.data =
      peerFields (peerFrame somePeer [1]).data := by
    have asked : datagram = (somePeer.ip.toText, somePeer.port, [2]) :=
      Option.some.inj (queued.symm.trans (by decide +kernel))
    rcases read with ⟨before, after, _, _, _, parsed⟩
    rw [peerFields, parsed, asked, peerFrame, peerFields_encodeUdpData]
    rfl
  exact (reached answer read fields).mpr rfl

/-- The answer to an IPv6 peer is rejected. -/
theorem answer_to_v6_peer_rejected :
    (∃ server, Run Server.step (.start []) (exchange someV6Peer) server) ∧
      EmittedFor [] (exchange someV6Peer) someV6Peer
        (peerFrame someV6Peer [1]) ∧
      ReadFor (exchange someV6Peer) 0
        (someV6Peer.ip.toText, someV6Peer.port, [2])
        (peerFrame someV6Peer [2]) ∧
      peerFields (peerFrame someV6Peer [2]).data =
        peerFields (peerFrame someV6Peer [1]).data ∧
      (sentBy 0 (udpEvents (exchange someV6Peer)))[0]? =
        some (sendAddress someV6Peer.ip.toText someV6Peer.port, [2]) ∧
      parseSocketAddr
        (sendAddress someV6Peer.ip.toText someV6Peer.port) = none := by
  refine ⟨?_, emittedFor_exchange (by decide +kernel), ?_, ?_, ?_, ?_⟩
  · rcases run_of_execute_any Server.step (.start []) (exchange someV6Peer)
      (fun _ => true) (by decide +kernel) with ⟨server, run, _⟩
    exact ⟨server, run⟩
  · refine ⟨receiving someV6Peer ++
      [.enqueued (.udp 0) (peerFrame someV6Peer [1])],
      (answering someV6Peer).tail, by simp [exchange, answering],
      by decide, by decide +kernel, ?_⟩
    exact parseUdpData_encodeUdpData
      someV6Peer.ip.comma_notMem_toText _ _
  · rw [peerFrame, peerFrame, peerFields_encodeUdpData,
      peerFields_encodeUdpData]
  · decide +kernel
  · exact parseSocketAddr_sendAddress someV6Peer

end KubectlSshuttle.Rushtle
