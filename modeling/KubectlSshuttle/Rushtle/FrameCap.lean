import KubectlSshuttle.Rushtle.Emissions
import KubectlSshuttle.Rushtle.Streams

/-!
# The sizes of the frames

A client and a server that are joined send frames of at most `CHUNK` bytes,
except that a DNS query or reply goes into one frame whatever its size.  Since
the client asks for nothing else, a server behind it sends no host list and
opens no UDP channel.
-/

namespace KubectlSshuttle.Rushtle

open KubectlSshuttle.Lib
open KubectlSshuttle.Lib.RustText
open KubectlSshuttle.Lib.Address
open KubectlSshuttle.Lib.Transition
open KubectlSshuttle.Rushtle.Ssnet
open KubectlSshuttle.Rushtle.Connection
open KubectlSshuttle.Rushtle.Channels
open KubectlSshuttle.Rushtle.OutQueue
open KubectlSshuttle.Rushtle.UdpFlows

/-! ## The frames of a run, one by one -/

theorem clientFrames_snoc {trace : List ClientAction}
    {client next : Client} {action : ClientAction}
    (taken : client.step action = some next) :
    clientFrames (trace ++ [action]) =
      clientFrames trace ++ action.enqueued?.toList := by
  have same : action.out?.toList.filterMap OutEvent.enqueued? =
      action.enqueued?.toList := by
    cases ClientMoves.of_step taken with
    | link down taken =>
        cases LinkMoves.of_stepLink taken <;> rfl
    | writer up own unclosed moved =>
        simp [ClientAction.out?, ClientAction.enqueued?,
          ownOutEvent_enqueued own]
    | _ => rfl
  rw [clientFrames, clientOutEvents_snoc, enqueuedFrames,
    List.filterMap_append, same]
  rfl

theorem serverFrames_snoc {trace : List ServerAction}
    {server next : Server} {action : ServerAction}
    (taken : server.step action = some next) :
    serverFrames (trace ++ [action]) =
      serverFrames trace ++ action.enqueued?.toList := by
  have same : action.out?.toList.filterMap OutEvent.enqueued? =
      action.enqueued?.toList := by
    cases ServerMoves.of_step taken with
    | writer own senders moved =>
        simp [ServerAction.out?, ServerAction.enqueued?,
          ownOutEvent_enqueued own]
    | _ => rfl
  rw [serverFrames, outEvents_snoc, enqueuedFrames,
    List.filterMap_append, same]
  rfl

/-- What holds of every frame when it is sent holds of all frames sent. -/
theorem forall_clientFrames {dnsEnabled : Bool} {trace : List ClientAction}
    {client : Client} {holds : Frame → Prop}
    (run : Run Client.step (.start dnsEnabled) trace client)
    (each : ∀ before source frame state,
      Run Client.step (.start dnsEnabled) before state →
        ClientSends state source frame → holds frame) :
    ∀ frame ∈ clientFrames trace, holds frame := by
  refine run.invariant
    (motive := fun trace _ => ∀ frame ∈ clientFrames trace, holds frame)
    ?_ ?_
  · intro frame member
    cases member
  · intro trace client action next earlier known taken frame member
    rw [clientFrames_snoc taken] at member
    rcases List.mem_append.mp member with before | now
    · exact known frame before
    · cases action <;> simp only [ClientAction.enqueued?,
        Option.toList_none, Option.toList_some, List.not_mem_nil,
        List.mem_singleton] at now
      subst now
      exact each _ _ _ _ earlier (ClientSends.of_run earlier taken)

/-! ## What the client asks for -/

/-- The commands of the frames that the client sends. -/
def clientCommands : List UInt16 :=
  [cmdPing, cmdPong, cmdDnsReq, cmdTcpConnect, cmdTcpData, cmdTcpEof]

theorem cmd_of_clientFrames {dnsEnabled : Bool} {trace : List ClientAction}
    {client : Client}
    (run : Run Client.step (.start dnsEnabled) trace client) :
    ∀ frame ∈ clientFrames trace, frame.cmd ∈ clientCommands := by
  refine forall_clientFrames run ?_
  intro before source frame state reached sends
  cases sends with
  | pong busy => simp [clientCommands]
  | query busy => simp [clientCommands]
  | conn present sends =>
      cases sends with
      | stop server => cases server
      | connect client => simp [clientCommands, connectFrame]
      | data nonempty small => simp [clientCommands, dataFrame]
      | eof => simp [clientCommands, eofFrame]

theorem clientCommands_cases {cmd : UInt16} (known : cmd ∈ clientCommands) :
    cmd = cmdPing ∨ cmd = cmdPong ∨ cmd = cmdDnsReq ∨
      cmd = cmdTcpConnect ∨ cmd = cmdTcpData ∨ cmd = cmdTcpEof := by
  simpa [clientCommands] using known

/-- The client's commands are not those that need a bind or a file. -/
theorem command_of_clientCommands {frame : Frame}
    (known : frame.cmd ∈ clientCommands) :
    frame.command ≠ .hostReq ∧ frame.command ≠ .udpOpen ∧
      frame.command ≠ .tcpStopSending ∧ frame.command ≠ .exit := by
  rw [Frame.command]
  rcases clientCommands_cases known with
    same | same | same | same | same | same <;>
    rw [same] <;> decide

/-! ## Bounds that the tasks keep -/

/-- What the client's tasks hold to be sent is within the bound. -/
structure ClientCapped (cap : Nat) (client : Client) : Prop where
  demux : ∀ channel data, client.demux = .ponging channel data →
    data.length ≤ cap
  registering : ∀ channel peer query,
    client.listener = .registering channel peer query → query.length ≤ cap
  sending : ∀ channel query, client.listener = .sending channel query →
    query.length ≤ cap

/-- What the server's tasks hold to be sent is within the bound. -/
structure ServerCapped (cap : Nat) (server : Server) : Prop where
  main : ∀ reply more, server.main = .sending reply more →
    ∀ other ∈ reply :: more, other.frame.data.length ≤ cap
  hosts : server.main ≠ .readingHosts
  binding : ∀ channel family, server.main ≠ .binding channel family
  dns : ∀ query ∈ server.dns, ∀ reply, query.task = .responding reply →
    reply.length ≤ cap
  flows : server.udp.flows = []

section Bounds

variable {cap : Nat}

theorem ClientCapped.step {client next : Client} {action : ClientAction}
    (capped : ClientCapped cap client)
    (moved : ClientMoves client action next)
    (received : ∀ frame, action = .recv frame → frame.data.length ≤ cap)
    (queried : ∀ channel peer query, action = .queried channel peer query →
      (query.take 4096).length ≤ cap) :
    ClientCapped cap next := by
  cases moved with
  | link down taken =>
      rcases Client.stepLink_spec taken with ⟨link, rfl⟩
      exact ⟨capped.demux, capped.registering, capped.sending⟩
  | queried up free =>
      refine ⟨capped.demux, ?_, by simp⟩
      intro channel peer query registering
      simp only [ListenTask.registering.injEq] at registering
      rcases registering with ⟨_, _, rfl⟩
      exact queried _ _ _ rfl
  | inflight up waits =>
      refine ⟨capped.demux, by simp, ?_⟩
      intro channel query sending
      simp only [ListenTask.sending.injEq] at sending
      rcases sending with ⟨_, rfl⟩
      exact capped.registering _ _ _ waits
  | recv up idle free dispatched =>
      cases dispatched with
      | ping command noCommand =>
          refine ⟨?_, capped.registering, capped.sending⟩
          intro channel data ponging
          simp only [DemuxTask.ponging.injEq] at ponging
          rcases ponging with ⟨_, rfl⟩
          exact received _ rfl
      | answered command noCommand noPong =>
          refine ⟨?_, capped.registering, capped.sending⟩
          intro channel data ponging
          exact (noPong channel data ponging).elim
      | ignored noCommand noPing =>
          exact capped
      | channels asked noPing taken =>
          exact ⟨capped.demux, capped.registering, capped.sending⟩
  | demuxEnded up idle =>
      exact ⟨by simp, capped.registering, capped.sending⟩
  | replied up busy =>
      exact ⟨by simp, capped.registering, capped.sending⟩
  | pongSent up busy queued =>
      exact ⟨by simp, capped.registering, capped.sending⟩
  | pongRefused up refused =>
      exact ⟨by simp, capped.registering, capped.sending⟩
  | querySent up busy queued => exact ⟨capped.demux, by simp, by simp⟩
  | queryRefused up refused => exact ⟨capped.demux, by simp, by simp⟩
  | _ => exact ⟨capped.demux, capped.registering, capped.sending⟩

theorem ClientSends.capped {dnsEnabled : Bool} {trace : List ClientAction}
    {client : Client} {source : ClientSource} {frame : Frame}
    (run : Run Client.step (.start dnsEnabled) trace client)
    (sends : ClientSends client source frame)
    (capped : ClientCapped cap client) (room : chunk ≤ cap) :
    frame.data.length ≤ cap := by
  cases sends with
  | pong busy => exact capped.demux _ _ busy
  | query busy => exact capped.sending _ _ busy
  | conn present sends =>
      cases sends with
      | connect client =>
          rcases (knownTargets_of_run run).conns _
            (List.mem_of_getElem? present) with
            ⟨address, target⟩
          rw [target]
          exact (length_connectFrame_le _ address).trans room
      | stop server => exact Nat.zero_le cap
      | data nonempty small => exact small.trans room
      | eof => exact Nat.zero_le cap

/-- The queries keep their replies within the bound. -/
theorem dns_capped {queries : List DnsQuery} {member : Nat}
    {event : DnsEvent} {query next : DnsQuery}
    (capped : ∀ query ∈ queries, ∀ reply, query.task = .responding reply →
      reply.length ≤ cap)
    (taken : query.step event = some next)
    (answered : ∀ source body, event = .datagram source body →
      (body.take datagramSize).length ≤ cap) :
    ∀ query ∈ queries.set member next, ∀ reply,
      query.task = .responding reply → reply.length ≤ cap := by
  have own : ∀ reply, next.task = .responding reply →
      reply.length ≤ cap := by
    intro reply responding
    cases event with
    | datagram source body =>
        simp only [DnsQuery.step] at taken
        split at taken
        · rcases Option.some.inj taken with rfl
          simp only [DnsTask.responding.injEq] at responding
          subst responding
          exact answered source body rfl
        · cases taken
    | attemptFailed =>
        simp only [DnsQuery.step] at taken
        split at taken
        · next nameserver untried asking =>
            rcases Option.some.inj taken with rfl
            cases untried with
            | nil =>
                simp only [DnsTask.tryNext, DnsTask.responding.injEq]
                  at responding
                simp [← responding]
            | cons first rest => cases responding
        · cases taken
    | sent frame =>
        simp only [DnsQuery.step, Option.ite_none_right_eq_some,
          Option.some.injEq] at taken
        rcases taken with ⟨_, rfl⟩
        cases responding
    | sendFailed =>
        simp only [DnsQuery.step, Option.ite_none_right_eq_some,
          Option.some.injEq] at taken
        rcases taken with ⟨_, rfl⟩
        cases responding
  intro query member reply responding
  rcases List.mem_or_eq_of_mem_set member with kept | rfl
  · exact capped query kept reply responding
  · exact own reply responding

/-- A short reply to one frame keeps the bounds. -/
theorem ServerCapped.answer {server : Server} {reply : MainReply}
    (capped : ServerCapped cap server)
    (small : reply.frame.data.length ≤ cap) :
    ServerCapped cap { server with main := .sending reply [] } := by
  refine ⟨?_, MainTask.noConfusion, fun _ _ => MainTask.noConfusion,
    capped.dns, capped.flows⟩
  intro reply' more sending other member
  simp only [MainTask.sending.injEq] at sending
  rcases sending with ⟨rfl, rfl⟩
  rcases List.mem_singleton.mp member with rfl
  exact small

/-- A frame that the client sends, within the bound, keeps the bounds. -/
theorem ServerCapped.recv {server next : Server} {frame : Frame}
    (capped : ServerCapped cap server)
    (dispatched : Dispatched server frame next)
    (known : frame.cmd ∈ clientCommands) (small : frame.data.length ≤ cap) :
    ServerCapped cap next := by
  rcases command_of_clientCommands known with ⟨noHosts, noUdp, _⟩
  cases dispatched with
  | ignored noMain noTcp noUdp => exact capped
  | tcp asked noMain noUdp taken =>
      exact ⟨capped.main, capped.hosts, capped.binding, capped.dns,
        capped.flows⟩
  | udp asked noMain noTcp taken =>
      refine ⟨capped.main, capped.hosts, capped.binding, capped.dns, ?_⟩
      refine (UdpMoves.of_step taken).no_flows capped.flows ?_
      rintro channel family rfl
      unfold udpCommand at asked
      split at asked
      · split at asked <;> cases asked
      all_goals cases asked
  | dns noMain noTcp noUdp request =>
      refine ⟨capped.main, capped.hosts, capped.binding, ?_, capped.flows⟩
      intro query member reply responding
      rcases List.mem_append.mp member with before | now
      · exact capped.dns query before reply responding
      · rcases List.mem_singleton.mp now with rfl
        simp only [DnsQuery.spawn] at responding
        unfold DnsTask.tryNext at responding
        split at responding
        · simp [← DnsTask.responding.inj responding]
        · cases responding
  | @main task asked noTcp noUdp' =>
      unfold mainCommand at asked
      split at asked
      · rcases Option.some.inj asked with rfl
        exact capped.answer small
      · rcases Option.some.inj asked with rfl
        exact ⟨fun _ _ => MainTask.noConfusion, MainTask.noConfusion,
          fun _ _ => MainTask.noConfusion, capped.dns, capped.flows⟩
      · split at asked
        · rcases Option.some.inj asked with rfl
          exact capped.answer (Nat.zero_le cap)
        · cases asked
      · next command => exact (noUdp command).elim
      · next command => exact (noHosts command).elim
      · cases asked

/-- Going on to the next reply keeps the bounds. -/
theorem ServerCapped.replied {server : Server} {reply : MainReply}
    {more : List MainReply} (capped : ServerCapped cap server)
    (main : server.main = .sending reply more) (out : Outbound) :
    ServerCapped cap { server with out := out, main := .sendAll more } := by
  cases more with
  | nil =>
      exact ⟨fun _ _ => MainTask.noConfusion, MainTask.noConfusion,
        fun _ _ => MainTask.noConfusion, capped.dns, capped.flows⟩
  | cons next rest =>
      refine ⟨?_, MainTask.noConfusion, fun _ _ => MainTask.noConfusion,
        capped.dns, capped.flows⟩
      intro reply' more' sending other member
      simp only [MainTask.sendAll, MainTask.sending.injEq] at sending
      rcases sending with ⟨rfl, rfl⟩
      exact capped.main reply _ main other (List.mem_cons_of_mem _ member)

theorem ServerCapped.step {server next : Server} {action : ServerAction}
    (capped : ServerCapped cap server)
    (moved : ServerMoves server action next) (room : chunk ≤ cap)
    (received : ∀ frame, action = .recv frame →
      frame.cmd ∈ clientCommands ∧ frame.data.length ≤ cap)
    (answered : ∀ member source body,
      action = .dns member (.datagram source body) →
        (body.take datagramSize).length ≤ cap) :
    ServerCapped cap next := by
  cases moved with
  | @header bytes rest main nonempty =>
      by_cases done : rest = []
      · refine ⟨?_, by simp [done], by simp [done], capped.dns,
          capped.flows⟩
        intro reply more sending other member
        simp only [done, if_true, MainTask.sending.injEq] at sending
        rcases sending with ⟨rfl, rfl⟩
        refine le_trans ?_ room
        simp only [List.mem_cons, List.not_mem_nil, or_false] at member
        rcases member with rfl | rfl <;> decide
      · exact ⟨by simp [done], by simp [done], by simp [done], capped.dns,
          capped.flows⟩
  | recv idle dispatched =>
      rcases received _ rfl with ⟨known, small⟩
      exact capped.recv dispatched known small
  | replySent main queued => exact capped.replied main _
  | replyRefused main refused => exact capped.replied main _
  | dnsSent queued found taken =>
      exact ⟨capped.main, capped.hosts, capped.binding,
        dns_capped capped.dns taken (by simp), capped.flows⟩
  | dnsRefused refused found taken =>
      exact ⟨capped.main, capped.hosts, capped.binding,
        dns_capped capped.dns taken (by simp), capped.flows⟩
  | dns own found taken =>
      refine ⟨capped.main, capped.hosts, capped.binding,
        dns_capped capped.dns taken ?_, capped.flows⟩
      rintro source body rfl
      exact answered _ source body rfl
  | udpSent queued taken =>
      exact ⟨capped.main, capped.hosts, capped.binding, capped.dns,
        (UdpMoves.of_step taken).no_flows capped.flows (by simp)⟩
  | udpRefused refused taken =>
      exact ⟨capped.main, capped.hosts, capped.binding, capped.dns,
        (UdpMoves.of_step taken).no_flows capped.flows (by simp)⟩
  | @udp event udp own taken =>
      refine ⟨capped.main, capped.hosts, capped.binding, capped.dns,
        (UdpMoves.of_step taken).no_flows capped.flows ?_⟩
      rintro channel family rfl
      cases own
  | bound main taken => exact (capped.binding _ _ main).elim
  | bindFailed main => exact (capped.binding _ _ main).elim
  | hosts main => exact (capped.hosts main).elim
  | headerFailed main | stop idle | exited main ended =>
      exact ⟨fun _ _ => MainTask.noConfusion, MainTask.noConfusion,
        fun _ _ => MainTask.noConfusion, capped.dns, capped.flows⟩
  | _ =>
      exact ⟨capped.main, capped.hosts, capped.binding, capped.dns,
        capped.flows⟩

theorem ServerSends.capped {server : Server} {source : Source}
    {frame : Frame} (sends : ServerSends server source frame)
    (capped : ServerCapped cap server) (room : chunk ≤ cap) :
    frame.data.length ≤ cap := by
  cases sends with
  | reply main => exact capped.main _ _ main _ List.mem_cons_self
  | conn present sends =>
      cases sends with
      | connect client => cases client
      | stop server => exact Nat.zero_le cap
      | data nonempty small => exact small.trans room
      | eof => exact Nat.zero_le cap
  | dns present task =>
      exact capped.dns _ (List.mem_of_getElem? present) _ task
  | udp present pending =>
      rw [capped.flows] at present
      cases present

end Bounds

/-! ## Both processes -/

/-- The datagrams that the two ends take fit into the bound. -/
def DatagramsWithin (cap : Nat) (_ : List SystemAction) (_ : System) :
    SystemAction → Prop
  | .client (.queried _ _ query) => (query.take 4096).length ≤ cap
  | .server (.dns _ (.datagram _ body)) =>
      (body.take datagramSize).length ≤ cap
  | _ => True

/-- No payload anywhere is longer than the cap. -/
structure Capped (cap : Nat) (trace : List SystemAction) (system : System) :
    Prop where
  client : ClientCapped cap system.client
  server : ServerCapped cap system.server
  up : ∀ frame ∈ clientFrames (clientTrace trace), frame.data.length ≤ cap
  down : ∀ frame ∈ serverFrames (serverTrace trace), frame.data.length ≤ cap

section System

variable {dnsEnabled : Bool} {resolvers : List SocketAddr} {cap : Nat}
  {trace : List SystemAction} {system : System}

/-- What the server reads next is a frame that the client sends. -/
theorem clientFrame_of_recv {frame : Frame} {next : System}
    (run : Run System.step (.start dnsEnabled resolvers) trace system)
    (taken : system.step (.server (.recv frame)) = some next) :
    frame ∈ probesSent (clientTrace trace) ++
      clientFrames (clientTrace trace) := by
  have reads := serverReads_isPrefix (run.extend taken)
  rw [clientTrace_server, serverTrace_server, serverReads_snoc] at reads
  exact reads.subset (by simp [ServerAction.received?])

/-- What the client reads next is a frame that the server sends. -/
theorem serverFrame_of_read {action : ClientAction} {frame : Frame}
    {next : System}
    (run : Run System.step (.start dnsEnabled resolvers) trace system)
    (taken : system.step (.client action) = some next)
    (read : action.read? = some frame) :
    frame ∈ serverFrames (serverTrace trace) := by
  have reads := clientReads_isPrefix (run.extend taken)
  rw [clientTrace_client, serverTrace_client, clientReads_snoc] at reads
  exact reads.subset (by simp [read])

theorem cmd_of_recv {frame : Frame} {next : System}
    (run : Run System.step (.start dnsEnabled resolvers) trace system)
    (taken : system.step (.server (.recv frame)) = some next) :
    frame.cmd ∈ clientCommands := by
  rcases List.mem_append.mp (clientFrame_of_recv run taken) with
    probe | sent
  · have ping := (probe_frame ((ClientStream.of_run (run_client run)).probes
      frame probe)).1
    simp [ping, clientCommands]
  · exact cmd_of_clientFrames (run_client run) frame sent

theorem Capped.of_run (room : chunk ≤ cap)
    (run : Run System.step (.start dnsEnabled resolvers) trace system)
    (within : Meets System.step (.start dnsEnabled resolvers)
      (DatagramsWithin cap) trace) :
    Capped cap trace system := by
  refine run.invariant_of_meets (motive := Capped cap) ?_ ?_ within
  · refine ⟨⟨?_, ?_, ?_⟩, ⟨?_, ?_, ?_, ?_, rfl⟩, ?_, ?_⟩
    · exact fun _ _ => DemuxTask.noConfusion
    · exact fun _ _ _ => ListenTask.noConfusion
    · exact fun _ _ => ListenTask.noConfusion
    · exact fun _ _ => MainTask.noConfusion
    · exact MainTask.noConfusion
    · exact fun _ _ => MainTask.noConfusion
    · intro query member
      cases member
    · intro frame member
      cases member
    · intro frame member
      cases member
  · intro trace system action next earlier capped within taken
    cases SystemMoves.of_step taken with
    | @client action client down drained moved =>
        refine ⟨?_, capped.server, ?_, by simpa using capped.down⟩
        · refine capped.client.step (ClientMoves.of_step moved) ?_ ?_
          · rintro frame rfl
            exact capped.down frame (serverFrame_of_read earlier taken rfl)
          · rintro channel peer query rfl
            exact within
        · intro frame member
          rw [clientTrace_client, clientFrames_snoc moved] at member
          rcases List.mem_append.mp member with before | now
          · exact capped.up frame before
          · cases action <;> simp only [ClientAction.enqueued?,
              Option.toList_none, Option.toList_some, List.not_mem_nil,
              List.mem_singleton] at now
            subst now
            have clientRun := run_client earlier
            exact (ClientSends.of_run clientRun moved).capped clientRun
              capped.client room
    | @server action server up drained moved =>
        refine ⟨capped.client, ?_, by simpa using capped.up, ?_⟩
        · refine capped.server.step (ServerMoves.of_step moved) room ?_ ?_
          · rintro frame rfl
            refine ⟨cmd_of_recv earlier taken, ?_⟩
            rcases List.mem_append.mp (clientFrame_of_recv earlier taken)
              with probe | sent
            · have size := (probe_frame
                ((ClientStream.of_run (run_client earlier)).probes frame
                  probe)).2
              rw [size]
              exact le_trans (by decide) room
            · exact capped.up frame sent
          · rintro member source body rfl
            exact within
        · intro frame member
          rw [serverTrace_server, serverFrames_snoc moved] at member
          rcases List.mem_append.mp member with before | now
          · exact capped.down frame before
          · cases action <;> simp only [ServerAction.enqueued?,
              Option.toList_none, Option.toList_some, List.not_mem_nil,
              List.mem_singleton] at now
            subst now
            exact (ServerSends.of_run (run_server earlier) moved).capped
              capped.server room

/-! ## The cap of 768 bytes -/

/-- A frame that is handed to `write_frame` is within the cap. -/
def HandsCapped (_ : List SystemAction) (system : System) :
    SystemAction → Prop
  | .client (.probeSent frame) => frame.data.length ≤ chunk
  | .client (.writer .take) => ∀ frame queue,
      system.client.out.queue = frame :: queue → frame.data.length ≤ chunk
  | .server (.writer .take) => ∀ frame queue,
      system.server.out.queue = frame :: queue → frame.data.length ≤ chunk
  | _ => True

/-- No DNS query and no DNS reply is longer than the cap. -/
def SmallDatagrams (_ : List SystemAction) (_ : System) :
    SystemAction → Prop
  | .client (.queried _ _ query) => query.length ≤ chunk
  | .server (.dns _ (.datagram _ body)) => body.length ≤ chunk
  | _ => True

theorem SmallDatagrams.within
    (small : Meets System.step (.start dnsEnabled resolvers) SmallDatagrams
      trace) :
    Meets System.step (.start dnsEnabled resolvers) (DatagramsWithin chunk)
      trace := by
  intro before action after state split reached
  have bound := small before action after state split reached
  unfold SmallDatagrams at bound
  unfold DatagramsWithin
  split at bound
  · rw [List.length_take]
    omega
  · rw [List.length_take]
    omega
  · trivial

/-- What waits for the writer was put on `out_tx`. -/
theorem mem_enqueued_of_queue {events : List OutEvent} {out next : Outbound}
    {frame : Frame} {queue : List Frame}
    (run : Run Outbound.step .empty events out)
    (taken : out.step .take = some next) (waiting : out.queue = frame :: queue) :
    frame ∈ enqueuedFrames events := by
  have running : out.writer.inLoop = true := by
    cases OutMoves.of_step taken with
    | take idle waits fits => simp [idle, WriterTask.inLoop]
    | takeLong idle waits long => simp [idle, WriterTask.inLoop]
  rcases (OutInv.of_run run).running running with ⟨accepted, _, queued, _⟩
  simp [queued, waiting]

/-- With small datagrams every frame that is written is within the cap. -/
theorem frames_capped
    (run : Run System.step (.start dnsEnabled resolvers) trace system)
    (small : Meets System.step (.start dnsEnabled resolvers) SmallDatagrams
      trace) :
    Meets System.step (.start dnsEnabled resolvers) HandsCapped trace := by
  rintro before action after middle rfl reached
  rcases run.step_at with ⟨state, next, again, taken, _⟩
  rcases again.deterministic reached with rfl
  have capped := Capped.of_run le_rfl reached (SmallDatagrams.within small.take)
  cases SystemMoves.of_step taken with
  | @client action client down drained moved =>
      have clientRun := run_client reached
      cases action with
      | probeSent frame =>
          have probes := (ClientStream.of_run (clientRun.extend moved)).probes
          rw [probesSent_snoc] at probes
          have probe := probes frame (by simp [ClientAction.probe?])
          simp only [HandsCapped, (probe_frame probe).2]
          decide
      | writer event =>
          cases event with
          | take =>
              intro frame queue waiting
              cases ClientMoves.of_step moved with
              | link down taken => cases taken
              | writer up own unclosed stepped =>
                  exact capped.up frame
                    (mem_enqueued_of_queue (run_clientOut clientRun)
                      stepped waiting)
          | _ => trivial
      | _ => trivial
  | @server action server up drained moved =>
      have serverRun := run_server reached
      cases action with
      | writer event =>
          cases event with
          | take =>
              intro frame queue waiting
              cases ServerMoves.of_step moved with
              | writer own senders stepped =>
                  exact capped.down frame
                    (mem_enqueued_of_queue (run_out serverRun) stepped
                      waiting)
          | _ => trivial
      | _ => trivial

end System

/-- A DNS query comes in and goes out in one frame. -/
def queryActions (query : Bytes) : List SystemAction :=
  [.server (.header syncHeader), .client (.synced false),
    .client (.queried 1 ⟨.v4 ⟨127, 0, 0, 1⟩, 5353⟩ query),
    .client (.inflight 1 ⟨.v4 ⟨127, 0, 0, 1⟩, 5353⟩),
    .client (.enqueued .listener ⟨1, cmdDnsReq, query⟩)]

theorem frames_capped_query :
    (∃ system, Run System.step (.start true [])
      (queryActions [1, 2] ++ [.client (.writer .take)]) system) ∧
    Meets System.step (.start true []) SmallDatagrams
      (queryActions [1, 2] ++ [.client (.writer .take)]) ∧
    Meets System.step (.start true []) HandsCapped
      (queryActions [1, 2] ++ [.client (.writer .take)]) := by
  obtain ⟨system, run, _⟩ := run_of_execute_any System.step (.start true [])
    (queryActions [1, 2] ++ [.client (.writer .take)]) (fun _ => true)
    (by decide)
  have small : Meets System.step (.start true []) SmallDatagrams
      (queryActions [1, 2] ++ [.client (.writer .take)]) := by
    refine Meets.of_forall ?_
    intro action member before state
    simp only [queryActions, List.cons_append, List.nil_append,
      List.mem_cons, List.not_mem_nil, or_false] at member
    rcases member with rfl | rfl | rfl | rfl | rfl | rfl <;>
      simp [SmallDatagrams, chunk]
  exact ⟨⟨system, run⟩, small, frames_capped run small⟩

/-- A DNS query of 769 bytes is handed to `write_frame` in one frame. -/
theorem long_query_uncapped :
    (∃ system, Run System.step (.start true [])
      (queryActions (List.replicate 769 0) ++ [.client (.writer .take)])
        system) ∧
    ¬ Meets System.step (.start true []) HandsCapped
      (queryActions (List.replicate 769 0) ++
        [.client (.writer .take)]) := by
  obtain ⟨system, run, _⟩ := run_of_execute_any System.step (.start true [])
    (queryActions (List.replicate 769 0) ++ [.client (.writer .take)])
    (fun _ => true) (by decide +kernel)
  obtain ⟨middle, earlier, waits⟩ := run_of_execute_any
    System.step (.start true []) (queryActions (List.replicate 769 0))
    (fun system => system.client.out.queue =
      [⟨1, cmdDnsReq, List.replicate 769 0⟩]) (by decide +kernel)
  refine ⟨⟨system, run⟩, ?_⟩
  intro capped
  have bound := capped.last earlier _ [] (of_decide_eq_true waits)
  rw [List.length_replicate] at bound
  exact absurd bound (by decide)

end KubectlSshuttle.Rushtle
