import KubectlSshuttle.Rushtle.Allocations
import KubectlSshuttle.Rushtle.Conversations
import KubectlSshuttle.Rushtle.ServerLoop

/-!
# Who talks on a channel

While no identifier is used twice, a channel has at most one connection at
each end.  The server's connection hears what the client's has said, the
client's connection hears what the server's has said, and the server says
nothing on a channel before the client has opened it.
-/

namespace KubectlSshuttle.Rushtle

open KubectlSshuttle.Lib.RustText
open KubectlSshuttle.Lib.Address
open KubectlSshuttle.Lib.Transition
open KubectlSshuttle.Rushtle.Ssnet
open KubectlSshuttle.Rushtle.Connection
open KubectlSshuttle.Rushtle.Channels
open KubectlSshuttle.Rushtle.OutQueue
open KubectlSshuttle.Rushtle.UdpFlows

/-! ## Frames of connections and other frames -/

theorem isTcpOn_of_command {channel : UInt16} {frame : Frame}
    (other : forTcp frame.command = false) :
    isTcpOn channel frame = false := by
  rw [isTcpOn, other, Bool.and_false]

/-- A frame of another kind is not for a connection. -/
theorem tcpOn_singleton {channel : UInt16} {frame : Frame}
    (other : forTcp frame.command = false) :
    tcpOn channel [frame] = [] := by
  apply List.filter_eq_nil_iff.mpr
  intro same member
  rw [List.mem_singleton.mp member, isTcpOn_of_command other]
  exact Bool.false_ne_true

theorem isTcpOn_of_heardOn {channel : UInt16} {frame : Frame}
    (said : heardOn channel frame ≠ none) :
    isTcpOn channel frame = true := by
  cases onChannel : isTcpOn channel frame with
  | true => rfl
  | false => exact (said (heardOn_eq_none onChannel)).elim

theorem sent_of_own {event : TableEvent} (own : ownTableEvent event = true) :
    event.sent? = none := by
  cases event with
  | conn member event =>
      cases event with
      | sent frame => cases own
      | _ => rfl
  | _ => rfl

theorem onChannel_of_own {event : TableEvent}
    (own : ownTableEvent event = true) (channel : UInt16) :
    event.onChannel channel = none := by
  cases event with
  | opened id target => cases own
  | data id bytes => cases own
  | closed id cause => cases own
  | _ => rfl

/-! ## The client -/

section Client

variable {dnsEnabled : Bool} {trace : List ClientAction} {client : Client}

/-- For TCP the client sends what its connections send. -/
theorem tcpOn_clientFrames
    (run : Run Client.step (.start dnsEnabled) trace client)
    (channel : UInt16) :
    tcpOn channel (clientFrames trace) =
      tcpOn channel (tableSent (channelTrace trace)) := by
  apply run.invariant (motive := fun trace _ =>
    tcpOn channel (clientFrames trace) =
      tcpOn channel (tableSent (channelTrace trace)))
  · rfl
  · intro trace client action next earlier same taken
    have step : tcpOn channel action.enqueued?.toList =
        tcpOn channel
          (action.channels?.toList.filterMap TableEvent.sent?) := by
      cases ClientMoves.of_step taken with
      | link down taken =>
          cases LinkMoves.of_stepLink taken <;> rfl
      | @recv frame next up idle free dispatched =>
          simp only [ClientAction.enqueued?, ClientAction.channels?]
          unfold channelCommand
          split <;> rfl
      | pongSent up busy queued => exact tcpOn_singleton rfl
      | querySent up busy queued => exact tcpOn_singleton rfl
      | channels up own taken =>
          simp [ClientAction.enqueued?, ClientAction.channels?,
            sent_of_own own]
      | _ => rfl
    rw [clientFrames_snoc taken, tcpOn_append, same, step, ← tcpOn_append]
    simp only [channelTrace, tableSent, List.filterMap_append,
      List.filterMap_cons, List.filterMap_nil]
    cases action.channels? <;> rfl

/-- A channel of a connection carries what that connection sends. -/
theorem tcpOn_clientFrames_conn
    (run : Run Client.step (.start dnsEnabled) trace client)
    (few : (ledgerOf trace).taken ≤ idCycle) {member : Nat} {conn : Conn}
    (present : client.channels.conns[member]? = some conn) :
    tcpOn conn.channel (clientFrames trace) =
      sentFrames (connEvents member (channelTrace trace)) := by
  rw [tcpOn_clientFrames run]
  apply tcpOn_tableSent (run_channels run)
  · intro other conn' present' same
    exact conn_unique run few present present' same
  · intro conn' present'
    rw [Option.some.inj (present'.symm.trans present)]

/-- A channel without a connection carries nothing for TCP. -/
theorem tcpOn_clientFrames_unused
    (run : Run Client.step (.start dnsEnabled) trace client)
    {channel : UInt16}
    (unused : ∀ conn ∈ client.channels.conns, conn.channel ≠ channel) :
    tcpOn channel (clientFrames trace) = [] := by
  rw [tcpOn_clientFrames run]
  exact tcpOn_tableSent_unused (run_channels run) unused

end Client

/-! ## The server -/

/-- The server's channels are told what the frame loop reads. -/
theorem channelEvents_tcpEvents {resolvers : List SocketAddr}
    {trace : List ServerAction} {server : Server}
    (run : Run Server.step (.start resolvers) trace server)
    (channel : UInt16) :
    channelEvents channel (tcpEvents trace) =
      heard channel (serverReads trace) := by
  apply run.invariant (motive := fun trace _ =>
    channelEvents channel (tcpEvents trace) =
      heard channel (serverReads trace))
  · rfl
  · intro trace server action next earlier same taken
    have step : channelEvents channel action.tcp?.toList =
        heard channel action.received?.toList := by
      cases ServerMoves.of_step taken with
      | @recv frame next idle dispatched =>
          simp only [ServerAction.tcp?, ServerAction.received?,
            Option.toList_some, heard_cons, heardOn]
          cases tcpCommand frame with
          | none => rfl
          | some event =>
              cases said : event.onChannel channel <;>
                simp [channelEvents, said, heard]
      | tcp own taken =>
          simp [ServerAction.tcp?, ServerAction.received?, channelEvents,
            onChannel_of_own own channel, heard]
      | _ => rfl
    have events : tcpEvents (trace ++ [action]) =
        tcpEvents trace ++ action.tcp?.toList := by
      cases asked : action.tcp? <;> simp [tcpEvents, asked]
    rw [events, channelEvents, List.filterMap_append, serverReads_snoc,
      heard_append, ← step, ← same]
    rfl

section Runs

variable {dnsEnabled : Bool} {resolvers : List SocketAddr}
  {trace : List SystemAction} {system : System}

/-- For TCP the server sends what its connections send. -/
theorem tcpOn_serverFrames
    (run : Run System.step (.start dnsEnabled resolvers) trace system)
    (channel : UInt16) :
    tcpOn channel (serverFrames (serverTrace trace)) =
      tcpOn channel (tableSent (tcpEvents (serverTrace trace))) := by
  apply run.invariant (motive := fun trace _ =>
    tcpOn channel (serverFrames (serverTrace trace)) =
      tcpOn channel (tableSent (tcpEvents (serverTrace trace))))
  · rfl
  · intro trace system action next earlier same taken
    cases SystemMoves.of_step taken with
    | client drained moved => simpa using same
    | @server action server up drained moved =>
        have step : tcpOn channel action.enqueued?.toList =
            tcpOn channel
              (action.tcp?.toList.filterMap TableEvent.sent?) := by
          cases ServerMoves.of_step moved with
          | @recv frame next idle dispatched =>
              simp only [ServerAction.enqueued?, ServerAction.tcp?]
              unfold tcpCommand
              split
              · split <;> rfl
              all_goals rfl
          | replySent main queued =>
              apply tcpOn_singleton
              rcases (LoopState.of_run earlier).sends main with
                ping | pong | routes
              · rw [Frame.command, ping]
                rfl
              · rw [Frame.command, pong]
                rfl
              · rw [routes]
                rfl
          | dnsSent queued found taken =>
              have known := List.mem_singleton.mp
                (Server.cmd_of_pending (Server.pending_of_enqueued moved))
              apply tcpOn_singleton
              rw [Frame.command, known]
              rfl
          | udpSent queued taken =>
              have known := List.mem_singleton.mp
                (Server.cmd_of_pending (Server.pending_of_enqueued moved))
              apply tcpOn_singleton
              rw [Frame.command, known]
              rfl
          | tcp own taken =>
              simp [ServerAction.enqueued?, ServerAction.tcp?,
                sent_of_own own]
          | _ => rfl
        rw [serverTrace_server, serverFrames_snoc moved, tcpOn_append, same,
          step, ← tcpOn_append]
        simp only [tcpEvents, tableSent, List.filterMap_append,
          List.filterMap_cons, List.filterMap_nil]
        cases action.tcp? <;> rfl

/-- The server hears a part of what the client has said. -/
theorem serverHeard_isPrefix
    (run : Run System.step (.start dnsEnabled resolvers) trace system)
    (channel : UInt16) :
    channelEvents channel (tcpEvents (serverTrace trace)) <+:
      heard channel (clientFrames (clientTrace trace)) := by
  have probes : heard channel (probesSent (clientTrace trace)) = [] := by
    rw [heard, List.filterMap_eq_nil_iff]
    intro frame member
    have ping := (probe_frame
      ((ClientStream.of_run (run_client run)).probes frame member)).1
    apply heardOn_eq_none
    apply isTcpOn_of_command
    rw [Frame.command, ping]
    rfl
  have reads := (serverReads_isPrefix run).filterMap (heardOn channel)
  have split := heard_append channel (probesSent (clientTrace trace))
    (clientFrames (clientTrace trace))
  rw [probes, List.nil_append] at split
  rw [channelEvents_tcpEvents (run_server run), ← split]
  exact reads

/-- The server's end of a channel follows the client's connection. -/
theorem server_follows
    (run : Run System.step (.start dnsEnabled resolvers) trace system)
    (few : (ledgerOf (clientTrace trace)).taken ≤ idCycle) {member : Nat}
    {conn : Conn}
    (present : system.client.channels.conns[member]? = some conn) :
    Follows conn.target (connEvents member (channelTrace (clientTrace trace)))
      (channelEvents conn.channel (tcpEvents (serverTrace trace))) := by
  have clientRun := run_client run
  have carried := tcpOn_clientFrames_conn clientRun few present
  rcases (knownTargets_of_run clientRun).conns conn
    (List.mem_of_getElem? present) with ⟨address, target⟩
  have follows : Follows conn.target
      (connEvents member (channelTrace (clientTrace trace)))
      (heard conn.channel (sentFrames
        (connEvents member (channelTrace (clientTrace trace))))) := by
    apply Follows.of_client (run_conn (run_channels clientRun) present)
      (clientSendFailed_notMem run member)
    · rw [target]
      exact comma_notMem_originalDst address
    · intro frame sent stop
      rw [← carried] at sent
      have known := cmd_of_clientFrames clientRun frame
        (List.mem_of_mem_filter sent)
      rw [stop] at known
      exact absurd known (by decide)
  apply follows.of_part
  rw [← carried, heard_tcpOn]
  exact serverHeard_isPrefix run conn.channel

/-- A connection of the server belongs to one of the client. -/
theorem client_of_serverConn
    (run : Run System.step (.start dnsEnabled resolvers) trace system)
    {member : Nat} {conn : Conn}
    (present : system.server.tcp.conns[member]? = some conn) :
    ∃ (other : Nat) (conn' : Conn),
      system.client.channels.conns[other]? = some conn' ∧
        conn'.channel = conn.channel := by
  by_contra missing
  have unused : ∀ conn' ∈ system.client.channels.conns,
      conn'.channel ≠ conn.channel := by
    intro conn' inConns same
    rcases List.mem_iff_getElem?.mp inConns with ⟨other, present'⟩
    exact missing ⟨other, conn', present', same⟩
  have opened := opened_mem_channelEvents (run_tcp (run_server run)) present
  have said := (serverHeard_isPrefix run conn.channel).subset opened
  rw [← heard_tcpOn, tcpOn_clientFrames_unused (run_client run) unused]
    at said
  cases said

/-- The only connection of the server on its channel says all that is said. -/
theorem tcpOn_serverFrames_conn
    (run : Run System.step (.start dnsEnabled resolvers) trace system)
    (few : (ledgerOf (clientTrace trace)).taken ≤ idCycle) {member : Nat}
    {conn : Conn}
    (present : system.server.tcp.conns[member]? = some conn) :
    tcpOn conn.channel (serverFrames (serverTrace trace)) =
      sentFrames (connEvents member (tcpEvents (serverTrace trace))) := by
  have serverRun := run_tcp (run_server run)
  rcases client_of_serverConn run present with ⟨other, conn', present', same⟩
  have once := (server_follows run few present').usedOnce
  rw [same] at once
  have delivery := Delivered.of_run serverRun member conn present once
  rw [tcpOn_serverFrames run]
  apply tcpOn_tableSent serverRun delivery.alone
  intro conn' present'
  rw [Option.some.inj (present'.symm.trans present)]

/-- Nothing is said for TCP on a channel without a connection of the server. -/
theorem tcpOn_serverFrames_unused
    (run : Run System.step (.start dnsEnabled resolvers) trace system)
    {channel : UInt16}
    (unused : ∀ conn ∈ system.server.tcp.conns, conn.channel ≠ channel) :
    tcpOn channel (serverFrames (serverTrace trace)) = [] := by
  rw [tcpOn_serverFrames run]
  exact tcpOn_tableSent_unused (run_tcp (run_server run)) unused

/-- What the server says for TCP is said on a channel of the client. -/
theorem client_of_serverFrame
    (run : Run System.step (.start dnsEnabled resolvers) trace system)
    {channel : UInt16} {frame : Frame}
    (sent : frame ∈ serverFrames (serverTrace trace))
    (onChannel : isTcpOn channel frame = true) :
    ∃ (member : Nat) (conn : Conn),
      system.client.channels.conns[member]? = some conn ∧
        conn.channel = channel := by
  by_cases used : ∃ conn ∈ system.server.tcp.conns, conn.channel = channel
  · rcases used with ⟨conn, inConns, same⟩
    rcases List.mem_iff_getElem?.mp inConns with ⟨member, present⟩
    rcases client_of_serverConn run present with
      ⟨other, conn', present', same'⟩
    exact ⟨other, conn', present', same'.trans same⟩
  · have unused : ∀ conn ∈ system.server.tcp.conns,
        conn.channel ≠ channel :=
      fun conn inConns same => used ⟨conn, inConns, same⟩
    have carried : frame ∈ tcpOn channel (serverFrames (serverTrace trace)) :=
      List.mem_filter.mpr ⟨sent, onChannel⟩
    rw [tcpOn_serverFrames_unused run unused] at carried
    cases carried

/-! ## The client hears the server -/

/-- Before the link is up there are no connections. -/
theorem conns_of_down {dnsEnabled : Bool} {trace : List ClientAction}
    {client : Client}
    (run : Run Client.step (.start dnsEnabled) trace client)
    (down : client.link ≠ .up) : client.channels.conns = [] := by
  refine run.invariant (motive := fun _ client =>
    client.link ≠ .up → client.channels.conns = []) (fun _ => rfl) ?_ down
  intro trace client action next earlier before taken stillDown
  have moved := ClientMoves.of_step taken
  have wasDown : client.link ≠ .up := fun up => stillDown (moved.up up).1
  rw [Client.step, if_neg wasDown] at taken
  rcases Client.stepLink_spec taken with ⟨link, rfl⟩
  exact before wasDown

/-- A frame of the client's demux task and what it says on a channel. -/
theorem onChannel_channelCommand {channel : UInt16} {frame : Frame}
    (other : frame.command ≠ .tcpConnect) :
    (channelCommand frame).bind (TableEvent.onChannel channel) =
      heardOn channel frame := by
  unfold channelCommand heardOn tcpCommand
  cases command : frame.command with
  | tcpConnect => exact (other command).elim
  | _ => rfl

/-- The server sends no `TCP_CONNECT`. -/
theorem command_of_serverFrames
    (run : Run System.step (.start dnsEnabled resolvers) trace system) :
    ∀ frame ∈ serverFrames (serverTrace trace),
      frame.command ≠ .tcpConnect := by
  intro frame sent connect
  have onChannel : isTcpOn frame.channel frame = true := by
    simp [isTcpOn, connect, forTcp]
  have carried :
      frame ∈ tcpOn frame.channel (serverFrames (serverTrace trace)) :=
    List.mem_filter.mpr ⟨sent, onChannel⟩
  rw [tcpOn_serverFrames run] at carried
  rcases List.mem_filterMap.mp (List.mem_of_mem_filter carried) with
    ⟨event, inEvents, said⟩
  rcases List.append_of_mem inEvents with ⟨before, after, split⟩
  have tableRun := run_tcp (run_server run)
  rw [split] at tableRun
  rcases tableRun.step_at with ⟨table, next, reached, taken, _⟩
  cases event with
  | conn member event =>
      cases event with
      | sent other =>
          rcases Option.some.inj said with rfl
          rcases ConnSends.of_table reached taken with ⟨conn, _, sends⟩
          cases sends with
          | connect client => cases client
          | stop server =>
              exact absurd connect
                (show Command.ofCode cmdTcpStopSending ≠ .tcpConnect
                  by decide)
          | data nonempty small =>
              exact absurd connect
                (show Command.ofCode cmdTcpData ≠ .tcpConnect by decide)
          | eof =>
              exact absurd connect
                (show Command.ofCode cmdTcpEof ≠ .tcpConnect by decide)
      | _ => cases said
  | _ => cases said

end Runs

/-- Without a registration the connections and their channels stay. -/
theorem ClientMoves.keeps_conns {client next : Client}
    {action : ClientAction} (moved : ClientMoves client action next)
    (unopened : ∀ channel target,
      action.channels? ≠ some (.opened channel target)) :
    (∀ conn' ∈ next.channels.conns, ∃ conn ∈ client.channels.conns,
        conn'.channel = conn.channel ∧ conn'.target = conn.target) ∧
      ∀ conn ∈ client.channels.conns, ∃ conn' ∈ next.channels.conns,
        conn'.channel = conn.channel := by
  rcases moved.projects_channels.kept_or_step with
    ⟨_, same⟩ | ⟨event, concerned, stepped⟩
  · rw [same]
    exact ⟨fun conn inConns => ⟨conn, inConns, rfl, rfl⟩,
      fun conn inConns => ⟨conn, inConns, rfl⟩⟩
  · rw [concerned] at unopened
    have tableMoved := TableMoves.of_step stepped
    constructor
    · intro conn' inConns
      rcases List.mem_iff_getElem?.mp inConns with ⟨member, present'⟩
      cases present : client.channels.conns[member]? with
      | none =>
          rcases tableMoved.conn_of_absent present present' with
            ⟨channel, target, opened, _⟩
          exact (unopened channel target (congrArg some opened)).elim
      | some conn =>
          rcases tableMoved.keeps_channel present with
            ⟨later, found, sameChannel, sameTarget⟩
          rcases Option.some.inj (present'.symm.trans found) with rfl
          exact ⟨conn, List.mem_of_getElem? present, sameChannel,
            sameTarget⟩
    · intro conn inConns
      rcases List.mem_iff_getElem?.mp inConns with ⟨member, present⟩
      rcases tableMoved.keeps_channel present with
        ⟨later, found, sameChannel, _⟩
      exact ⟨later, List.mem_of_getElem? found, sameChannel⟩

/-- A registration adds one connection. -/
theorem ClientMoves.conns_of_registered {client next : Client}
    {family : Family} {channel : UInt16} {target : Text × UInt16}
    (moved : ClientMoves client (.registered family channel target) next) :
    next.channels.conns =
      client.channels.conns ++ [Conn.fresh .client channel target] := by
  have taken : client.channels.step .client (.opened channel target) =
      some next.channels := moved.projects_channels
  generalize next.channels = channels at taken ⊢
  cases TableMoves.of_step taken with
  | opened free => rfl

/-- What the client's channel has been told, by the frames read so far. -/
structure Hearing (channel : UInt16) (trace : List ClientAction)
    (client : Client) : Prop where
  unused : (∀ conn ∈ client.channels.conns, conn.channel ≠ channel) →
    channelEvents channel (channelTrace trace) = [] ∧
      heard channel (clientReads trace) = []
  used : ∀ conn ∈ client.channels.conns, conn.channel = channel →
    channelEvents channel (channelTrace trace) =
      .opened conn.target :: heard channel (clientReads trace)

section Hearing

variable {channel : UInt16} {trace : List ClientAction}
  {client next : Client} {action : ClientAction}

theorem channelEvents_channelTrace_snoc :
    channelEvents channel (channelTrace (trace ++ [action])) =
      channelEvents channel (channelTrace trace) ++
        channelEvents channel action.channels?.toList := by
  have split : channelTrace (trace ++ [action]) =
      channelTrace trace ++ action.channels?.toList := by
    cases asked : action.channels? <;> simp [channelTrace, asked]
  rw [split]
  exact List.filterMap_append

/-- A step that registers no connection on the channel. -/
theorem Hearing.still (hearing : Hearing channel trace client)
    (sources : ∀ conn' ∈ next.channels.conns, conn'.channel = channel →
      ∃ conn ∈ client.channels.conns,
        conn'.channel = conn.channel ∧ conn'.target = conn.target)
    (stays : ∀ conn ∈ client.channels.conns, ∃ conn' ∈ next.channels.conns,
      conn'.channel = conn.channel)
    (told : channelEvents channel action.channels?.toList =
      heard channel action.read?.toList)
    (known : heard channel action.read?.toList ≠ [] →
      ∃ conn ∈ client.channels.conns, conn.channel = channel) :
    Hearing channel (trace ++ [action]) next := by
  have events : channelEvents channel (channelTrace (trace ++ [action])) =
      channelEvents channel (channelTrace trace) ++
        channelEvents channel action.channels?.toList :=
    channelEvents_channelTrace_snoc
  have reads : heard channel (clientReads (trace ++ [action])) =
      heard channel (clientReads trace) ++
        heard channel action.read?.toList := by
    rw [clientReads_snoc, heard_append]
  constructor
  · intro unused
    have before : ∀ conn ∈ client.channels.conns,
        conn.channel ≠ channel := by
      intro conn inConns same
      rcases stays conn inConns with ⟨conn', inNext, same'⟩
      exact unused conn' inNext (same'.trans same)
    have silent : heard channel action.read?.toList = [] := by
      by_contra said
      rcases known said with ⟨conn, inConns, same⟩
      exact before conn inConns same
    rcases hearing.unused before with ⟨noEvents, noReads⟩
    rw [events, reads, told, silent, noEvents, noReads]
    exact ⟨rfl, rfl⟩
  · intro conn' inNext same
    rcases sources conn' inNext same with
      ⟨conn, inConns, sameChannel, sameTarget⟩
    rw [events, reads, told,
      hearing.used conn inConns (sameChannel.symm.trans same), sameTarget]
    rfl

/-- The step that registers the connection of the channel. -/
theorem Hearing.opened (hearing : Hearing channel trace client)
    {family : Family} {target : Text × UInt16}
    (unused : ∀ conn ∈ client.channels.conns, conn.channel ≠ channel)
    (conns : next.channels.conns =
      client.channels.conns ++ [Conn.fresh .client channel target]) :
    Hearing channel (trace ++ [.registered family channel target])
      next := by
  rcases hearing.unused unused with ⟨noEvents, noReads⟩
  constructor
  · intro none
    rw [conns] at none
    exact (none _ (List.mem_append_right _ (List.mem_singleton_self _))
      rfl).elim
  · intro conn inNext same
    rw [conns] at inNext
    rcases List.mem_append.mp inNext with before | now
    · exact (unused conn before same).elim
    · rw [List.mem_singleton.mp now, clientReads_snoc, heard_append,
        noReads, channelEvents_channelTrace_snoc, noEvents]
      simp [ClientAction.channels?, ClientAction.read?, channelEvents,
        TableEvent.onChannel, Conn.fresh, heard]

end Hearing

/-- Only the accept loops register connections. -/
theorem ClientMoves.registered_of_opened {client next : Client}
    {action : ClientAction} (moved : ClientMoves client action next)
    {channel : UInt16} {target : Text × UInt16}
    (opened : action.channels? = some (.opened channel target)) :
    ∃ family, action = .registered family channel target := by
  cases plain : action.handlesId with
  | false => exact ((moved.keepsIds plain).unopened _ _ opened).elim
  | true =>
      cases action with
      | registered family id target' =>
          cases Option.some.inj opened
          exact ⟨family, rfl⟩
      | accepted family id address => cases opened
      | queried id peer query => cases opened
      | inflight id peer => cases opened
      | _ => cases plain

section Runs

variable {dnsEnabled : Bool} {resolvers : List SocketAddr}
  {trace : List SystemAction} {system next : System}

/-- Who is heard on a channel has a connection there to talk to. -/
theorem known_of_read {action : ClientAction} {channel : UInt16}
    (run : Run System.step (.start dnsEnabled resolvers) trace system)
    (taken : system.step (.client action) = some next)
    (said : heard channel action.read?.toList ≠ []) :
    ∃ conn ∈ system.client.channels.conns, conn.channel = channel := by
  cases read : action.read? with
  | none =>
      rw [read] at said
      exact (said rfl).elim
  | some frame =>
      have spoken : heardOn channel frame ≠ none := by
        intro none
        rw [read, Option.toList_some, heard_cons, none] at said
        exact said rfl
      rcases client_of_serverFrame run (serverFrame_of_read run taken read)
        (isTcpOn_of_heardOn spoken) with ⟨member, conn, present, same⟩
      exact ⟨conn, List.mem_of_getElem? present, same⟩

/-- The channels are told what the demux task reads. -/
theorem told_of_read {action : ClientAction} {channel : UInt16}
    (run : Run System.step (.start dnsEnabled resolvers) trace system)
    (taken : system.step (.client action) = some next)
    (unopened : ∀ target,
      action.channels? ≠ some (.opened channel target)) :
    channelEvents channel action.channels?.toList =
      heard channel action.read?.toList := by
  cases SystemMoves.of_step taken with
  | @client action client down drained moved =>
      cases ClientMoves.of_step moved with
      | link stillDown linked =>
          have silent : heard channel action.read?.toList = [] := by
            by_contra said
            rcases known_of_read run taken said with ⟨conn, inConns, _⟩
            rw [conns_of_down (run_client run) stillDown] at inConns
            cases inConns
          rw [silent]
          cases LinkMoves.of_stepLink linked <;> rfl
      | @recv frame next up idle free dispatched =>
          have command := command_of_serverFrames run frame
            (serverFrame_of_read run taken rfl)
          simp only [ClientAction.channels?, ClientAction.read?,
            Option.toList_some, heard_cons,
            ← onChannel_channelCommand command]
          cases channelCommand frame with
          | none => rfl
          | some event =>
              cases said : event.onChannel channel <;>
                simp [channelEvents, said, heard]
      | @registered family id target channels up waits opened =>
          have apart : id ≠ channel := by
            rintro rfl
            exact unopened target rfl
          simp [ClientAction.channels?, ClientAction.read?, channelEvents,
            TableEvent.onChannel, apart, heard]
      | channels up own tableTaken =>
          simp [ClientAction.channels?, ClientAction.read?, channelEvents,
            onChannel_of_own own channel, heard]
      | _ => rfl

theorem Hearing.of_run
    (run : Run System.step (.start dnsEnabled resolvers) trace system)
    (few : (ledgerOf (clientTrace trace)).taken ≤ idCycle)
    (channel : UInt16) :
    Hearing channel (clientTrace trace) system.client := by
  refine run.invariant (motive := fun trace system =>
    (ledgerOf (clientTrace trace)).taken ≤ idCycle →
      Hearing channel (clientTrace trace) system.client) ?_ ?_ few
  · intro _
    constructor
    · exact fun _ => ⟨rfl, rfl⟩
    · intro conn inConns
      cases inConns
  · intro trace system action next earlier before taken few
    have nextRun := earlier.extend taken
    cases SystemMoves.of_step taken with
    | server drained moved =>
        rw [clientTrace_server] at few ⊢
        exact before few
    | @client action after down drained moved =>
        rw [clientTrace_client] at few ⊢
        have hearing := before ((taken_le_snoc _ action).trans few)
        have clientMoved := ClientMoves.of_step moved
        have known : heard channel action.read?.toList ≠ [] →
            ∃ conn ∈ system.client.channels.conns, conn.channel = channel :=
          known_of_read earlier taken
        by_cases registers :
            ∃ id target, action.channels? = some (.opened id target)
        · rcases registers with ⟨id, target, opened⟩
          rcases clientMoved.registered_of_opened opened with ⟨family, rfl⟩
          have clientRun := run_client nextRun
          rw [clientTrace_client] at clientRun
          have conns := clientMoved.conns_of_registered
          by_cases here : id = channel
          · rw [here] at conns ⊢
            apply hearing.opened _ conns
            intro conn inConns same
            rcases List.mem_iff_getElem?.mp inConns with ⟨member, present⟩
            have bound := (List.getElem?_eq_some_iff.mp present).1
            have old : after.channels.conns[member]? = some conn := by
              rw [conns, List.getElem?_append_left bound]
              exact present
            have new :
                after.channels.conns[system.client.channels.conns.length]? =
                  some (Conn.fresh .client channel target) := by
              rw [conns, List.getElem?_concat_length]
            have clash := conn_unique clientRun few old new same.symm
            omega
          · have elsewhere : ∀ other, ClientAction.channels?
                (.registered family id target) ≠
                  some (.opened channel other) := by
              intro other same
              cases same
              exact here rfl
            apply hearing.still _ _ (told_of_read earlier taken elsewhere)
              known
            · intro conn' inNext same
              rw [conns] at inNext
              rcases List.mem_append.mp inNext with before | now
              · exact ⟨conn', before, rfl, rfl⟩
              · rw [List.mem_singleton.mp now] at same
                exact (here same).elim
            · intro conn inConns
              rw [conns]
              exact ⟨conn, List.mem_append_left _ inConns, rfl⟩
        · have unopened : ∀ id target,
              action.channels? ≠ some (.opened id target) :=
            fun id target opened => registers ⟨id, target, opened⟩
          rcases clientMoved.keeps_conns unopened with ⟨sources, stays⟩
          exact hearing.still (fun conn' inNext _ => sources conn' inNext)
            stays (told_of_read earlier taken (unopened channel)) known

/-- What the client hears on a channel is a part of what the server says. -/
theorem clientHeard_isPrefix
    (run : Run System.step (.start dnsEnabled resolvers) trace system)
    (channel : UInt16) :
    heard channel (clientReads (clientTrace trace)) <+:
      heard channel (tcpOn channel (serverFrames (serverTrace trace))) := by
  rw [heard_tcpOn]
  exact (clientReads_isPrefix run).filterMap (heardOn channel)

/-- The client's end of a channel follows the server's connection. -/
theorem client_follows
    (run : Run System.step (.start dnsEnabled resolvers) trace system)
    (few : (ledgerOf (clientTrace trace)).taken ≤ idCycle)
    {near far : Nat} {here there : Conn}
    (present : system.client.channels.conns[near]? = some here)
    (remote : system.server.tcp.conns[far]? = some there)
    (same : there.channel = here.channel) :
    Follows here.target (connEvents far (tcpEvents (serverTrace trace)))
      (channelEvents here.channel (channelTrace (clientTrace trace))) := by
  have hearing := Hearing.of_run run few here.channel
  have said := tcpOn_serverFrames_conn run few remote
  have follows := Follows.of_server here.target
    (run_conn (run_tcp (run_server run)) remote)
    (serverSendFailed_notMem run far)
  rw [hearing.used here (List.mem_of_getElem? present) rfl]
  apply follows.of_part
  apply (List.prefix_cons_inj _).mpr
  rw [← said, same]
  exact clientHeard_isPrefix run here.channel

/-- While the server has no connection on it, the channel hears nothing. -/
theorem client_follows_nobody
    (run : Run System.step (.start dnsEnabled resolvers) trace system)
    (few : (ledgerOf (clientTrace trace)).taken ≤ idCycle)
    {near : Nat} {here : Conn}
    (present : system.client.channels.conns[near]? = some here)
    (nobody : ∀ there ∈ system.server.tcp.conns,
      there.channel ≠ here.channel) :
    Follows here.target []
      (channelEvents here.channel (channelTrace (clientTrace trace))) := by
  have hearing := Hearing.of_run run few here.channel
  have silent := clientHeard_isPrefix run here.channel
  rw [tcpOn_serverFrames_unused run nobody] at silent
  rw [hearing.used here (List.mem_of_getElem? present) rfl,
    List.prefix_nil.mp silent]
  exact .streaming [] (by simp) List.nil_prefix

end Runs

/-! ## Two connections through the tunnel -/

/-- A frame on its way from a task of the client to the server. -/
def carriedUp (source : ClientSource) (frame : Frame) : List SystemAction :=
  [.client (.enqueued source frame), .client (.writer .take),
    .client (.writer (.write (frameBytes frame))), .server (.recv frame)]

/-- A frame on its way from a task of the server to the client. -/
def carriedDown (source : Source) (frame : Frame) : List SystemAction :=
  [.server (.enqueued source frame), .server (.writer .take),
    .server (.writer (.write (frameBytes frame))), .client (.recv frame)]

/-- A connection through the tunnel, up to the target's `accept`. -/
def dialActions (family : Family) (member : Nat) (channel : UInt16)
    (address : SocketAddr) : List SystemAction :=
  [.client (.accepted family channel address),
    .client (.registered family channel (originalDst address))] ++
  carriedUp (.conn member) (connectFrame channel (originalDst address)) ++
  [.server (.tcp (.conn member .connected))]

/-- A buffer of the application, up to the queue of its target. -/
def outwardActions (member : Nat) (channel : UInt16) (data : Bytes) :
    List SystemAction :=
  [.client (.channels (.conn member (.read (.bytes data))))] ++
  carriedUp (.conn member) (dataFrame channel data) ++
  [.server (.tcp (.admitted member data))]

/-- A buffer of the target, up to the queue of its application. -/
def homewardActions (member : Nat) (channel : UInt16) (data : Bytes) :
    List SystemAction :=
  [.server (.tcp (.conn member (.read (.bytes data))))] ++
  carriedDown (.conn member) (dataFrame channel data) ++
  [.client (.channels (.admitted member data))]

/-- The opening frames of the server, and the answer of the client. -/
def openingActions : List SystemAction :=
  [.server (.writer .take),
    .server (.writer (.write (frameBytes MainReply.chicken.frame))),
    .server (.writer .take),
    .server (.writer (.write (frameBytes MainReply.routes.frame))),
    .client (.recv MainReply.chicken.frame)] ++
  carriedUp .demux ⟨0, cmdPong, MainReply.chicken.frame.data⟩ ++
  [.client (.recv MainReply.routes.frame)]

/-- Another target, of the other family. -/
def otherAddress : SocketAddr :=
  ⟨.v6 ⟨[0xFD12, 0, 0, 0, 0, 0, 0, 7], rfl⟩, 443⟩

/--
Two applications send three buffers, and one of them gets an answer.  One
buffer is still in its queue, and another one is half written.
-/
def talk : List SystemAction :=
  greeting.map .server ++ [.client (.synced false)] ++
  dialActions .v4 0 1 someAddress ++ dialActions .v6 1 2 otherAddress ++
  outwardActions 0 1 [1, 2] ++ outwardActions 1 2 [9] ++
  outwardActions 0 1 [3] ++
  [.server (.tcp (.conn 0 .take)), .server (.tcp (.conn 0 (.write [1]))),
    .server (.tcp (.conn 0 (.write [2]))), .server (.tcp (.conn 1 .take)),
    .server (.tcp (.conn 1 (.write [9])))] ++
  openingActions ++ homewardActions 1 2 [8, 7] ++
  [.client (.channels (.conn 1 .take)),
    .client (.channels (.conn 1 (.write [8])))]

/-- Both targets are connected. -/
theorem run_talk :
    ∃ system, Run System.step (.start false []) talk system ∧
      system.server.tcp.conns.length = 2 ∧
        (ledgerOf (clientTrace talk)).taken ≤ idCycle := by
  rcases run_of_execute_any System.step (.start false []) talk
    (fun system => system.server.tcp.conns.length = 2)
    (by decide +kernel) with ⟨system, run, two⟩
  exact ⟨system, run, of_decide_eq_true two, by decide⟩

end KubectlSshuttle.Rushtle
