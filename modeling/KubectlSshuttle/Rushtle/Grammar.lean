import KubectlSshuttle.Rushtle.Traffic

/-!
# What is on the wire

The link probe and its answers apart, each channel carries one conversation.
On the identifier of an accepted connection the client asks for a connection,
sends its bytes and closes; on that of a query it sends the query.  The server
opens with the synchronization header and two frames; on a channel it refuses,
or it sends bytes and closes, but only after it has been asked; and it answers
the `PING` frames in order.
-/

namespace KubectlSshuttle.Rushtle

open KubectlSshuttle.Lib
open KubectlSshuttle.Lib.RustText
open KubectlSshuttle.Lib.Address
open KubectlSshuttle.Lib.Transition
open KubectlSshuttle.Rushtle.Ssnet
open KubectlSshuttle.Rushtle.Connection
open KubectlSshuttle.Rushtle.Channels
open KubectlSshuttle.Rushtle.OutQueue
open KubectlSshuttle.Rushtle.UdpFlows

/-! ## The traffic of a channel -/

/-- The frame is a `PING` or a `PONG`. -/
def isPingPong (frame : Frame) : Bool :=
  decide (frame.cmd = cmdPing ∨ frame.cmd = cmdPong)

/-- The frames on the channel, `PING` and `PONG` left aside. -/
def traffic (channel : UInt16) (frames : List Frame) : List Frame :=
  frames.filter fun frame =>
    decide (frame.channel = channel) && !isPingPong frame

/-- `TCP_DATA` frames with payloads of 1 to `CHUNK` bytes. -/
def DataFrames (channel : UInt16) (frames : List Frame) : Prop :=
  ∃ chunks : List Bytes,
    (∀ data ∈ chunks, 1 ≤ data.length ∧ data.length ≤ chunk) ∧
      frames = chunks.map (dataFrame channel)

/-- What the client sends for an accepted connection, so far. -/
def ClientTalk (channel : UInt16) (frames : List Frame) : Prop :=
  ∃ target datas, DataFrames channel datas ∧
    frames <+: connectFrame channel target :: datas ++ [eofFrame channel]

/-- What the server sends on the channel of a connection, so far. -/
inductive ServerTalk (channel : UInt16) : List Frame → Prop where
  | refused : ServerTalk channel [stopFrame channel]
  | streaming {datas : List Frame} (sized : DataFrames channel datas) :
      ServerTalk channel datas
  | ended {datas : List Frame} (sized : DataFrames channel datas) :
      ServerTalk channel (datas ++ [eofFrame channel])

theorem DataFrames.nil (channel : UInt16) : DataFrames channel [] :=
  ⟨[], by simp, rfl⟩

theorem DataFrames.of_chunks {channel : UInt16} {chunks : List Bytes}
    (sized : ∀ data ∈ chunks, data ≠ [] ∧ data.length ≤ chunk) :
    DataFrames channel (chunks.map (dataFrame channel)) := by
  refine ⟨chunks, ?_, rfl⟩
  intro data member
  rcases sized data member with ⟨nonempty, small⟩
  exact ⟨List.length_pos_iff.mpr nonempty, small⟩

theorem DataFrames.of_part {channel : UInt16} {frames part : List Frame}
    (datas : DataFrames channel frames) (within : part <+: frames) :
    DataFrames channel part := by
  rcases datas with ⟨chunks, sized, same⟩
  rw [same] at within
  rcases List.prefix_map_iff.mp within with ⟨few, early, rfl⟩
  exact ⟨few, fun data member => sized data (early.subset member), rfl⟩

theorem ClientTalk.of_part {channel : UInt16} {frames part : List Frame}
    (talk : ClientTalk channel frames) (within : part <+: frames) :
    ClientTalk channel part := by
  rcases talk with ⟨target, datas, sized, early⟩
  exact ⟨target, datas, sized, within.trans early⟩

theorem ServerTalk.of_part {channel : UInt16} {frames part : List Frame}
    (talk : ServerTalk channel frames) (within : part <+: frames) :
    ServerTalk channel part := by
  cases talk with
  | refused =>
      rcases List.prefix_cons_iff.mp within with none | ⟨rest, all, after⟩
      · rw [none]
        exact .streaming (.nil channel)
      · rw [all, List.prefix_nil.mp after]
        exact .refused
  | streaming sized => exact .streaming (sized.of_part within)
  | ended sized =>
      rcases List.prefix_concat_iff.mp within with all | before
      · rw [all]
        exact .ended sized
      · exact .streaming (sized.of_part before)

theorem traffic_append (channel : UInt16) (left right : List Frame) :
    traffic channel (left ++ right) =
      traffic channel left ++ traffic channel right :=
  List.filter_append left right

theorem traffic_isPrefix {part frames : List Frame} (within : part <+: frames)
    (channel : UInt16) : traffic channel part <+: traffic channel frames :=
  within.filter _

/-- The link probe is left aside. -/
theorem traffic_probes {frames : List Frame}
    (probes : ∀ frame ∈ frames, frame ∈ probeFrames) (channel : UInt16) :
    traffic channel frames = [] := by
  apply List.filter_eq_nil_iff.mpr
  intro frame member
  have ping := (probe_frame (probes frame member)).1
  simp [isPingPong, ping]

/-- Frames for TCP are no `PING` and no `PONG`. -/
theorem isPingPong_of_forTcp {frame : Frame}
    (tcp : forTcp frame.command = true) : isPingPong frame = false := by
  apply decide_eq_false
  rintro (ping | pong)
  · rw [Frame.command, ping] at tcp
    cases tcp
  · rw [Frame.command, pong] at tcp
    cases tcp

/-- Where all frames are for TCP, the traffic is that of the connections. -/
theorem traffic_eq_tcpOn {channel : UInt16} {frames : List Frame}
    (known : ∀ frame ∈ frames, frame.channel = channel →
      isPingPong frame = true ∨ forTcp frame.command = true) :
    traffic channel frames = tcpOn channel frames := by
  apply List.filter_congr
  intro frame member
  by_cases onChannel : frame.channel = channel
  · rcases known frame member onChannel with aside | tcp
    · cases tcp : forTcp frame.command with
      | true =>
          rw [isPingPong_of_forTcp tcp] at aside
          cases aside
      | false => simp [isTcpOn, aside, tcp]
    · simp [isTcpOn, onChannel, tcp, isPingPong_of_forTcp tcp]
  · simp [isTcpOn, onChannel]

/-! ## The client's traffic -/

section Client

variable {dnsEnabled : Bool} {trace : List ClientAction} {client : Client}

/-- The client's frames are for TCP, for a query, or aside. -/
theorem sorted_clientFrames
    (run : Run Client.step (.start dnsEnabled) trace client) :
    ∀ frame ∈ clientFrames trace, isPingPong frame = true ∨
      forTcp frame.command = true ∨ frame.cmd = cmdDnsReq := by
  refine forall_clientFrames run ?_
  intro before source frame state reached sends
  cases sends with
  | pong busy => exact Or.inl rfl
  | query busy => exact Or.inr (Or.inr rfl)
  | conn present sends =>
      cases sends with
      | stop server => cases server
      | _ => exact Or.inr (Or.inl rfl)

/-- An identifier that no query has taken carries no `DNS_REQ`. -/
theorem notRequest_of_accepted
    (run : Run Client.step (.start dnsEnabled) trace client)
    (few : (ledgerOf trace).taken ≤ idCycle) {channel : UInt16}
    (accepted : 0 < acceptedOn channel trace) :
    ∀ frame ∈ clientFrames trace, isRequest channel frame = false := by
  have once := takenOn_le_one run few channel
  have uses := (Uses.of_run run channel).dns
  have none : (clientFrames trace).countP (isRequest channel) = 0 := by
    omega
  intro frame member
  exact Bool.eq_false_iff.mpr (List.countP_eq_zero.mp none frame member)

/-- An identifier that no accept loop has taken has no connection. -/
theorem unused_of_notAccepted
    (run : Run Client.step (.start dnsEnabled) trace client)
    (few : (ledgerOf trace).taken ≤ idCycle) {channel : UInt16}
    (notAccepted : acceptedOn channel trace = 0) :
    ∀ conn ∈ client.channels.conns, conn.channel ≠ channel := by
  intro conn inConns same
  have accepted := (acceptedOn_conn run few inConns).1
  rw [same] at accepted
  omega

theorem clientTalk_of_outgoing {conn : Conn} {events : List ConnEvent}
    (outgoing : Outgoing .client conn events)
    (noStop : ∀ frame ∈ sentFrames events, frame.cmd ≠ cmdTcpStopSending) :
    ClientTalk conn.channel (sentFrames events) := by
  cases outgoing with
  | silent nothing =>
      rw [nothing]
      exact ⟨conn.target, [], .nil _, List.nil_prefix⟩
  | stopped stop nothing =>
      rw [stop] at noStop
      exact (noStop _ (List.mem_singleton_self _) rfl).elim
  | streaming lost =>
      rcases lost with ⟨part, within, chunks, sized, frames, bytes⟩
      refine ⟨conn.target, _, .of_chunks sized, [eofFrame conn.channel], ?_⟩
      rw [frames]
      simp [opening]
  | ended isOver carries =>
      rcases carries with ⟨chunks, sized, frames, bytes⟩
      refine ⟨conn.target, _, .of_chunks sized, [], ?_⟩
      rw [frames]
      simp [opening]

/-- An identifier that no accept loop has taken carries queries only. -/
theorem traffic_notAccepted
    (run : Run Client.step (.start dnsEnabled) trace client)
    (few : (ledgerOf trace).taken ≤ idCycle) {channel : UInt16}
    (notAccepted : acceptedOn channel trace = 0) :
    traffic channel (clientFrames trace) =
      (clientFrames trace).filter (isRequest channel) := by
  have silent := tcpOn_clientFrames_unused run
    (unused_of_notAccepted run few notAccepted)
  have notTcp := List.filter_eq_nil_iff.mp silent
  apply List.filter_congr
  intro frame member
  have noTcp := notTcp frame member
  by_cases onChannel : frame.channel = channel
  · rcases sorted_clientFrames run frame member with aside | tcp | request
    · have other : frame.cmd ≠ cmdDnsReq := by
        intro request
        rw [isPingPong, request] at aside
        cases aside
      simp [isRequest, aside, other]
    · simp [isTcpOn, onChannel, tcp] at noTcp
    · have kept : isPingPong frame = false := by
        rw [isPingPong, request]
        rfl
      simp [isRequest, onChannel, kept, request]
  · simp [isRequest, onChannel]

/-- The identifier of a query carries that query. -/
theorem traffic_queried
    (run : Run Client.step (.start dnsEnabled) trace client)
    (few : (ledgerOf trace).taken ≤ idCycle) {channel : UInt16}
    (queried : 0 < queriedOn channel trace) :
    traffic channel (clientFrames trace) = [] ∨
      ∃ query, traffic channel (clientFrames trace) =
        [⟨channel, cmdDnsReq, query⟩] := by
  have once := takenOn_le_one run few channel
  have uses := (Uses.of_run run channel).dns
  have notAccepted : acceptedOn channel trace = 0 := by omega
  rw [traffic_notAccepted run few notAccepted]
  cases requests : (clientFrames trace).filter (isRequest channel) with
  | nil => exact Or.inl rfl
  | cons frame rest =>
      right
      have count : (frame :: rest).length ≤ 1 := by
        rw [← requests, ← List.countP_eq_length_filter]
        omega
      have single : rest = [] := by
        apply List.eq_nil_of_length_eq_zero
        simp only [List.length_cons] at count
        omega
      have request : frame ∈ (clientFrames trace).filter
          (isRequest channel) := by
        rw [requests]
        exact List.mem_cons_self
      have known := List.of_mem_filter request
      simp only [isRequest, decide_eq_true_eq] at known
      refine ⟨frame.data, ?_⟩
      rw [single, ← known.1, ← known.2]

/-- An identifier that was not taken carries nothing. -/
theorem traffic_notTaken
    (run : Run Client.step (.start dnsEnabled) trace client)
    (few : (ledgerOf trace).taken ≤ idCycle) {channel : UInt16}
    (notAccepted : acceptedOn channel trace = 0)
    (notQueried : queriedOn channel trace = 0) :
    traffic channel (clientFrames trace) = [] := by
  have uses := (Uses.of_run run channel).dns
  rw [traffic_notAccepted run few notAccepted]
  apply List.length_eq_zero_iff.mp
  rw [← List.countP_eq_length_filter]
  omega

end Client

/-! ## The server's traffic -/

/-- The query of a task stays what it is. -/
theorem DnsQuery.keeps_query {query next : DnsQuery} {event : DnsEvent}
    (taken : query.step event = some next) :
    next.channel = query.channel ∧ next.query = query.query := by
  cases event with
  | datagram source body =>
      simp only [DnsQuery.step] at taken
      split at taken
      · simp [← Option.some.inj taken]
      · cases taken
  | attemptFailed =>
      simp only [DnsQuery.step] at taken
      split at taken
      · simp [← Option.some.inj taken]
      · cases taken
  | sent frame =>
      simp only [DnsQuery.step, Option.ite_none_right_eq_some,
        Option.some.injEq] at taken
      simp [← taken.2]
  | sendFailed =>
      simp only [DnsQuery.step, Option.ite_none_right_eq_some,
        Option.some.injEq] at taken
      simp [← taken.2]

/-- The server was asked for every query on the channel. -/
def Requested (channel : UInt16) (reads : List Frame) : Prop :=
  ∃ frame ∈ reads, frame.command = .dnsReq ∧ frame.channel = channel

theorem Requested.append {channel : UInt16} {reads : List Frame}
    (requested : Requested channel reads) (more : List Frame) :
    Requested channel (reads ++ more) := by
  rcases requested with ⟨frame, member, request, same⟩
  exact ⟨frame, List.mem_append_left _ member, request, same⟩

theorem requested_of_run {resolvers : List SocketAddr}
    {trace : List ServerAction} {server : Server}
    (run : Run Server.step (.start resolvers) trace server) :
    ∀ query ∈ server.dns, Requested query.channel (serverReads trace) := by
  apply run.invariant (motive := fun trace server =>
    ∀ query ∈ server.dns, Requested query.channel (serverReads trace))
  · intro query member
    cases member
  · intro trace server action next earlier known taken
    rw [serverReads_snoc]
    have kept : ∀ query ∈ server.dns, Requested query.channel
        (serverReads trace ++ action.received?.toList) :=
      fun query member => (known query member).append _
    have changed : ∀ (member : Nat) (event : DnsEvent) (found after : DnsQuery),
        server.dns[member]? = some found → found.step event = some after →
          ∀ query ∈ server.dns.set member after, Requested query.channel
            (serverReads trace ++ action.received?.toList) := by
      intro member event found after present moved query inQueries
      rcases List.mem_or_eq_of_mem_set inQueries with before | now
      · exact kept query before
      · rw [now, (DnsQuery.keeps_query moved).1]
        exact kept found (List.mem_of_getElem? present)
    cases ServerMoves.of_step taken with
    | @recv frame next idle dispatched =>
        cases dispatched with
        | dns noMain noTcp noUdp request =>
            intro query member
            rcases List.mem_append.mp member with before | now
            · exact kept query before
            · rw [List.mem_singleton.mp now]
              exact ⟨frame, by simp [ServerAction.received?], request, rfl⟩
        | _ => exact kept
    | dnsSent queued found moved => exact changed _ _ _ _ found moved
    | dnsRefused refused found moved => exact changed _ _ _ _ found moved
    | dns own found moved => exact changed _ _ _ _ found moved
    | _ => exact kept

theorem serverTalk_of_outgoing {conn : Conn} {events : List ConnEvent}
    (outgoing : Outgoing .server conn events) :
    ServerTalk conn.channel (sentFrames events) := by
  cases outgoing with
  | silent nothing =>
      rw [nothing]
      exact .streaming (.nil _)
  | stopped stop nothing =>
      rw [stop]
      exact .refused
  | streaming lost =>
      rcases lost with ⟨part, within, chunks, sized, frames, bytes⟩
      rw [frames, opening, List.append_nil, List.nil_append]
      exact .streaming (.of_chunks sized)
  | ended isOver carries =>
      rcases carries with ⟨chunks, sized, frames, bytes⟩
      rw [frames, opening, List.nil_append]
      exact .ended (.of_chunks sized)

section Runs

variable {dnsEnabled : Bool} {resolvers : List SocketAddr}
  {trace : List SystemAction} {system : System} {channel : UInt16}

/-- The identifier of an accepted connection carries its conversation. -/
theorem clientTalk_of_run
    (run : Run System.step (.start dnsEnabled resolvers) trace system)
    (few : (ledgerOf (clientTrace trace)).taken ≤ idCycle)
    (accepted : 0 < acceptedOn channel (clientTrace trace)) :
    ClientTalk channel (traffic channel (clientFrames (clientTrace trace))) := by
  have clientRun := run_client run
  have noRequest := notRequest_of_accepted clientRun few accepted
  have onlyTcp : traffic channel (clientFrames (clientTrace trace)) =
      tcpOn channel (clientFrames (clientTrace trace)) := by
    apply traffic_eq_tcpOn
    intro frame member onChannel
    rcases sorted_clientFrames clientRun frame member with
      aside | tcp | request
    · exact Or.inl aside
    · exact Or.inr tcp
    · have none := noRequest frame member
      simp [isRequest, onChannel, request] at none
  rw [onlyTcp]
  by_cases used : ∃ conn ∈ system.client.channels.conns,
      conn.channel = channel
  · rcases used with ⟨conn, inConns, same⟩
    subst same
    rcases List.mem_iff_getElem?.mp inConns with ⟨member, present⟩
    have carried := tcpOn_clientFrames_conn clientRun few present
    have outgoing := (ReadInv.of_run
      (run_conn (run_channels clientRun) present)
      (clientSendFailed_notMem run member)).outgoing
    rw [carried]
    apply clientTalk_of_outgoing outgoing
    intro frame sent stop
    rw [← carried] at sent
    have known := cmd_of_clientFrames clientRun frame
      (List.mem_of_mem_filter sent)
    rw [stop] at known
    exact absurd known (by decide)
  · rw [tcpOn_clientFrames_unused clientRun
      (fun conn inConns same => used ⟨conn, inConns, same⟩)]
    exact ⟨([], 0), [], .nil channel, List.nil_prefix⟩

/-- The server's frames are for TCP, for a query, or on channel 0, or aside. -/
theorem sorted_serverFrames
    (run : Run System.step (.start dnsEnabled resolvers) trace system) :
    ∀ frame ∈ serverFrames (serverTrace trace), isPingPong frame = true ∨
      forTcp frame.command = true ∨ frame.channel = 0 ∨
        Requested frame.channel (serverReads (serverTrace trace)) := by
  apply run.invariant (motive := fun trace _ =>
    ∀ frame ∈ serverFrames (serverTrace trace), isPingPong frame = true ∨
      forTcp frame.command = true ∨ frame.channel = 0 ∨
        Requested frame.channel (serverReads (serverTrace trace)))
  · intro frame member
    cases member
  · intro trace system action next earlier known taken frame member
    cases SystemMoves.of_step taken with
    | client drained moved =>
        rw [serverTrace_client] at member ⊢
        exact known frame member
    | @server action server up drained moved =>
        rw [serverTrace_server, serverFrames_snoc moved] at member
        rw [serverTrace_server, serverReads_snoc]
        rcases List.mem_append.mp member with before | now
        · rcases known frame before with aside | tcp | zero | requested
          · exact Or.inl aside
          · exact Or.inr (Or.inl tcp)
          · exact Or.inr (Or.inr (Or.inl zero))
          · exact Or.inr (Or.inr (Or.inr (requested.append _)))
        · cases action <;> simp only [ServerAction.enqueued?,
            Option.toList_none, Option.toList_some, List.not_mem_nil,
            List.mem_singleton] at now
          subst now
          have serverRun := run_server earlier
          cases ServerSends.of_run serverRun moved with
          | reply main =>
              rcases (LoopState.of_run earlier).sends main with
                ping | pong | routes
              · exact Or.inl (decide_eq_true (Or.inl ping))
              · exact Or.inl (decide_eq_true (Or.inr pong))
              · rw [routes]
                exact Or.inr (Or.inr (Or.inl rfl))
          | conn present sends =>
              right
              left
              cases sends <;> rfl
          | dns present task =>
              have requested := requested_of_run serverRun _
                (List.mem_of_getElem? present)
              exact Or.inr (Or.inr (Or.inr (requested.append _)))
          | udp present pending =>
              rw [(capped_of_run earlier).server.flows] at present
              cases present

/-- On the identifier of an accepted connection the server was not queried. -/
theorem notRequested_of_accepted
    (run : Run System.step (.start dnsEnabled resolvers) trace system)
    (few : (ledgerOf (clientTrace trace)).taken ≤ idCycle)
    (accepted : 0 < acceptedOn channel (clientTrace trace)) :
    ¬ Requested channel (serverReads (serverTrace trace)) := by
  rintro ⟨frame, read, request, onChannel⟩
  have notAside : isPingPong frame = false := by
    apply decide_eq_false
    rintro (ping | pong)
    · rw [Frame.command, ping] at request
      exact absurd request (by decide)
    · rw [Frame.command, pong] at request
      exact absurd request (by decide)
  have clientRun := run_client run
  rcases List.mem_append.mp ((serverReads_isPrefix run).subset read) with
    probe | sent
  · have ping := (probe_frame
      ((ClientStream.of_run clientRun).probes frame probe)).1
    rw [isPingPong, ping] at notAside
    cases notAside
  · have none := notRequest_of_accepted clientRun few accepted frame sent
    rcases sorted_clientFrames clientRun frame sent with
      aside | tcp | query
    · rw [notAside] at aside
      cases aside
    · rw [request] at tcp
      cases tcp
    · simp [isRequest, onChannel, query] at none

theorem ne_zero_of_accepted
    (run : Run System.step (.start dnsEnabled resolvers) trace system)
    (accepted : 0 < acceptedOn channel (clientTrace trace)) :
    channel ≠ 0 := by
  intro zero
  have uses := (Uses.of_run (run_client run) channel).taken
  rw [zero, allocatedOn_zero] at uses
  rw [zero] at accepted
  omega

/-- What the server says on a connection's channel is for TCP. -/
theorem serverTraffic_eq_tcpOn
    (run : Run System.step (.start dnsEnabled resolvers) trace system)
    (few : (ledgerOf (clientTrace trace)).taken ≤ idCycle)
    (accepted : 0 < acceptedOn channel (clientTrace trace)) :
    traffic channel (serverFrames (serverTrace trace)) =
      tcpOn channel (serverFrames (serverTrace trace)) := by
  apply traffic_eq_tcpOn
  intro frame member onChannel
  rcases sorted_serverFrames run frame member with
    aside | tcp | zero | requested
  · exact Or.inl aside
  · exact Or.inr tcp
  · exact (ne_zero_of_accepted run accepted (onChannel.symm.trans zero)).elim
  · rw [onChannel] at requested
    exact (notRequested_of_accepted run few accepted requested).elim

theorem serverTalk_of_run
    (run : Run System.step (.start dnsEnabled resolvers) trace system)
    (few : (ledgerOf (clientTrace trace)).taken ≤ idCycle)
    (accepted : 0 < acceptedOn channel (clientTrace trace)) :
    ServerTalk channel (traffic channel (serverFrames (serverTrace trace))) := by
  rw [serverTraffic_eq_tcpOn run few accepted]
  by_cases used : ∃ conn ∈ system.server.tcp.conns, conn.channel = channel
  · rcases used with ⟨conn, inConns, same⟩
    subst same
    rcases List.mem_iff_getElem?.mp inConns with ⟨member, present⟩
    rw [tcpOn_serverFrames_conn run few present]
    apply serverTalk_of_outgoing
    exact (ReadInv.of_run (run_conn (run_tcp (run_server run)) present)
      (serverSendFailed_notMem run member)).outgoing
  · rw [tcpOn_serverFrames_unused run
      (fun conn inConns same => used ⟨conn, inConns, same⟩)]
    exact .streaming (.nil channel)

/-- Only a `TCP_CONNECT` opens a channel. -/
theorem connect_of_heardOn {frame : Frame} {target : Text × UInt16}
    (said : heardOn channel frame = some (.opened target)) :
    frame.command = .tcpConnect ∧ frame.channel = channel := by
  unfold heardOn tcpCommand at said
  split at said
  · next connect =>
      split at said
      · cases said
      · simp only [Option.bind_some, TableEvent.onChannel,
          Option.ite_none_right_eq_some] at said
        exact ⟨connect, said.1⟩
  · simp [TableEvent.onChannel] at said
  · simp [TableEvent.onChannel] at said
  · simp [TableEvent.onChannel] at said
  · cases said

/-- The server says nothing on a channel before it was asked to connect. -/
theorem connect_of_serverTraffic
    (run : Run System.step (.start dnsEnabled resolvers) trace system)
    (few : (ledgerOf (clientTrace trace)).taken ≤ idCycle)
    (accepted : 0 < acceptedOn channel (clientTrace trace))
    (said : traffic channel (serverFrames (serverTrace trace)) ≠ []) :
    ∃ target, connectFrame channel target ∈
      serverReads (serverTrace trace) := by
  rw [serverTraffic_eq_tcpOn run few accepted] at said
  by_cases used : ∃ conn ∈ system.server.tcp.conns, conn.channel = channel
  · rcases used with ⟨conn, inConns, same⟩
    rcases List.mem_iff_getElem?.mp inConns with ⟨member, present⟩
    have opened := opened_mem_channelEvents (run_tcp (run_server run)) present
    rw [channelEvents_tcpEvents (run_server run), same] at opened
    rcases List.mem_filterMap.mp opened with ⟨frame, read, heardIt⟩
    rcases connect_of_heardOn heardIt with ⟨connect, onChannel⟩
    rcases List.mem_append.mp ((serverReads_isPrefix run).subset read) with
      probe | sent
    · have ping := (probe_frame ((ClientStream.of_run
        (run_client run)).probes frame probe)).1
      rw [Frame.command, ping] at connect
      exact absurd connect (by decide)
    · rcases tcpCommand_of_clientFrames (run_client run) frame sent connect
        with ⟨address, isConnect, _⟩
      rw [isConnect, onChannel] at read
      exact ⟨originalDst address, read⟩
  · rw [tcpOn_serverFrames_unused run
      (fun conn inConns same => used ⟨conn, inConns, same⟩)] at said
    exact (said rfl).elim

/-! ## The two streams -/

/-- Behind its lead the stream carries the frames, up to the last byte. -/
structure OnWire (lead stream : Bytes) (frames : List Frame) : Prop where
  fits : ∀ frame ∈ frames, Fits frame
  carried : lead ++ framesBytes frames <+: stream

/-- What the server writes before anything else. -/
def openingBytes : Bytes :=
  syncHeader ++ framesBytes openingFrames

/-- The frames on the client's stream were sent, after the link probe. -/
theorem OnWire.client_isPrefix {frames : List Frame}
    (run : Run System.step (.start dnsEnabled resolvers) trace system)
    (wire : OnWire [] (clientStream (clientTrace trace)) frames) :
    frames <+: probesSent (clientTrace trace) ++
      clientFrames (clientTrace trace) := by
  rcases clientStream_isPrefix (run_client run) with
    ⟨accepted, fits, within, bytes⟩
  apply List.IsPrefix.trans _ within
  apply frameCode.isPrefix_of_encodeAll_isPrefix wire.fits fits
  exact wire.carried.trans bytes

/-- The frames on the server's stream were sent. -/
theorem OnWire.server_isPrefix {frames : List Frame}
    (run : Run System.step (.start dnsEnabled resolvers) trace system)
    (wire : OnWire syncHeader (serverStream (serverTrace trace)) frames) :
    frames <+: serverFrames (serverTrace trace) := by
  rcases serverStream_isPrefix (run_server run) with
    ⟨accepted, fits, within, bytes⟩
  apply List.IsPrefix.trans _ within
  apply frameCode.isPrefix_of_encodeAll_isPrefix wire.fits fits
  exact (List.prefix_append_right_inj _).mp (wire.carried.trans bytes)

/-- The link probe apart, the traffic of the client's stream was sent. -/
theorem OnWire.client_traffic {frames : List Frame}
    (run : Run System.step (.start dnsEnabled resolvers) trace system)
    (wire : OnWire [] (clientStream (clientTrace trace)) frames) :
    traffic channel frames <+:
      traffic channel (clientFrames (clientTrace trace)) := by
  have probes := traffic_probes
    (ClientStream.of_run (run_client run)).probes channel
  have sent := traffic_isPrefix (wire.client_isPrefix run) channel
  rw [traffic_append, probes, List.nil_append] at sent
  exact sent

theorem serverStream_opens
    (run : Run System.step (.start dnsEnabled resolvers) trace system) :
    serverStream (serverTrace trace) <+: openingBytes ∨
      openingBytes <+: serverStream (serverTrace trace) := by
  rcases serverStream_isPrefix (run_server run) with
    ⟨accepted, fits, within, bytes⟩
  have bytesOf : ∀ {left right : List Frame}, left <+: right →
      syncHeader ++ framesBytes left <+: syncHeader ++ framesBytes right := by
    rintro left right ⟨rest, rfl⟩
    rw [framesBytes, framesBytes, SelfDelimiting.encodeAll_append]
    exact (List.prefix_append_right_inj _).mpr (List.prefix_append _ _)
  have compared : accepted <+: openingFrames ∨ openingFrames <+: accepted := by
    rcases (LoopState.of_run run).opens with early | opened
    · exact Or.inl (within.trans early)
    · exact List.prefix_or_prefix_of_prefix within opened
  rcases compared with early | opened
  · exact Or.inl (bytes.trans (bytesOf early))
  · exact List.prefix_or_prefix_of_prefix bytes (bytesOf opened)

/-- The grammar of the two streams, at some point of a run. -/
structure WireGrammar (trace : List SystemAction) : Prop where
  clientTcp : ∀ channel frames, 0 < acceptedOn channel (clientTrace trace) →
    OnWire [] (clientStream (clientTrace trace)) frames →
      ClientTalk channel (traffic channel frames)
  clientDns : ∀ channel frames, 0 < queriedOn channel (clientTrace trace) →
    OnWire [] (clientStream (clientTrace trace)) frames →
      traffic channel frames = [] ∨
        ∃ query, traffic channel frames = [⟨channel, cmdDnsReq, query⟩]
  clientOther : ∀ channel frames,
    acceptedOn channel (clientTrace trace) = 0 →
      queriedOn channel (clientTrace trace) = 0 →
        OnWire [] (clientStream (clientTrace trace)) frames →
          traffic channel frames = []
  serverOpening : serverStream (serverTrace trace) <+: openingBytes ∨
    openingBytes <+: serverStream (serverTrace trace)
  serverTcp : ∀ channel frames, 0 < acceptedOn channel (clientTrace trace) →
    OnWire syncHeader (serverStream (serverTrace trace)) frames →
      ServerTalk channel (traffic channel frames)
  /-- after the client's `TCP_CONNECT` only -/
  serverAsked : ∀ channel frames,
    0 < acceptedOn channel (clientTrace trace) →
      OnWire syncHeader (serverStream (serverTrace trace)) frames →
        traffic channel frames ≠ [] →
          ∃ target, connectFrame channel target ∈
            serverReads (serverTrace trace)
  serverPongs : ∀ frames,
    OnWire syncHeader (serverStream (serverTrace trace)) frames →
      frames.filter isPong <+:
        (serverReads (serverTrace trace)).filterMap pongFor

theorem wire_grammar
    (run : Run System.step (.start dnsEnabled resolvers) trace system)
    (few : (ledgerOf (clientTrace trace)).taken ≤ idCycle) :
    WireGrammar trace := by
  have clientRun := run_client run
  constructor
  · intro channel frames accepted wire
    exact (clientTalk_of_run run few accepted).of_part
      (wire.client_traffic run)
  · intro channel frames queried wire
    have sent : traffic channel frames <+: _ := wire.client_traffic run
    rcases traffic_queried clientRun few queried with none | ⟨query, one⟩
    · rw [none] at sent
      exact Or.inl (List.prefix_nil.mp sent)
    · rw [one] at sent
      rcases List.prefix_cons_iff.mp sent with none | ⟨rest, all, after⟩
      · exact Or.inl none
      · rw [List.prefix_nil.mp after] at all
        exact Or.inr ⟨query, all⟩
  · intro channel frames notAccepted notQueried wire
    have sent : traffic channel frames <+: _ := wire.client_traffic run
    rw [traffic_notTaken clientRun few notAccepted notQueried] at sent
    exact List.prefix_nil.mp sent
  · exact serverStream_opens run
  · intro channel frames accepted wire
    exact (serverTalk_of_run run few accepted).of_part
      (traffic_isPrefix (wire.server_isPrefix run) channel)
  · intro channel frames accepted wire said
    apply connect_of_serverTraffic run few accepted
    intro none
    have sent := traffic_isPrefix (wire.server_isPrefix run) channel
    rw [none] at sent
    exact said (List.prefix_nil.mp sent)
  · intro frames wire
    exact ((wire.server_isPrefix run).filter isPong).trans
      (LoopState.of_run run).answers

end Runs

theorem wire_grammar_talk :
    (∃ system, Run System.step (.start false []) talk system) ∧
    OnWire [] (clientStream (clientTrace talk))
      [connectFrame 1 (originalDst someAddress),
        connectFrame 2 (originalDst otherAddress), dataFrame 1 [1, 2],
        dataFrame 2 [9], dataFrame 1 [3],
        ⟨0, cmdPong, MainReply.chicken.frame.data⟩] ∧
    OnWire syncHeader (serverStream (serverTrace talk))
      [MainReply.chicken.frame, MainReply.routes.frame,
        dataFrame 2 [8, 7]] ∧
    WireGrammar talk := by
  rcases run_talk with ⟨system, run, _, few⟩
  exact ⟨⟨system, run⟩, ⟨by decide +kernel, by decide +kernel⟩,
    ⟨by decide +kernel, by decide +kernel⟩, wire_grammar run few⟩

end KubectlSshuttle.Rushtle
