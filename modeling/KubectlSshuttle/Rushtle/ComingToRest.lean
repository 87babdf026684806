import KubectlSshuttle.Rushtle.AtRest
import KubectlSshuttle.Rushtle.Prices

/-!
# The tunnel comes to rest

Without anything new from the applications, the targets, the resolvers and
the timers, the two processes can only go on for so long, even while the peers
of their sockets take what is written: every such step takes something off the
price of the run.  So they come to rest whatever their tasks do first, and
then everything has arrived.
-/

namespace KubectlSshuttle.Rushtle

open KubectlSshuttle.Lib.RustText
open KubectlSshuttle.Lib.Address
open KubectlSshuttle.Lib.Counting
open KubectlSshuttle.Lib.Settling
open KubectlSshuttle.Lib.Transition
open KubectlSshuttle.Rushtle.Ssnet
open KubectlSshuttle.Rushtle.Connection
open KubectlSshuttle.Rushtle.Channels
open KubectlSshuttle.Rushtle.OutQueue
open KubectlSshuttle.Rushtle.UdpFlows

/-! ## The client -/

/-- A burst that was not written yet. -/
def burstPrice (rest : List Frame) : Nat :=
  framesPrice rest + rest.length

/-- The answers to the burst pay for themselves. -/
def linkPrice : LinkTask → Nat
  | .syncing => burstPrice probeFrames + 1
  | .probing _ rest => burstPrice rest
  | .awaiting _ | .up | .failed => 0

/-- The steps that an accepted connection still costs. -/
def acceptPrice : AcceptTask → Nat
  | .accepting => 0
  | .inserting channel target => freshPrice .client channel target + 1

/-- The steps that a query still costs until it is sent. -/
def listenPrice : ListenTask → Nat
  | .registering channel _ query => sendPrice ⟨channel, cmdDnsReq, query⟩ + 1
  | .sending channel query => sendPrice ⟨channel, cmdDnsReq, query⟩
  | .waiting | .done => 0

/-- The steps that the frame in hand still costs. -/
def demuxPrice : DemuxTask → Nat
  | .ponging channel data => sendPrice ⟨channel, cmdPong, data⟩
  | .replying _ _ => 1
  | .reading | .ended => 0

/-- The steps that the client can still take alone. -/
def clientPrice (client : Client) : Nat :=
  linkPrice client.link + acceptPrice (client.accept .v4) +
    acceptPrice (client.accept .v6) + listenPrice client.listener +
      demuxPrice client.demux + outPrice client.out +
        tablePrice client.channels

/-- What the client sends in a step, the probe included. -/
def ClientAction.sends (action : ClientAction) : List Frame :=
  action.probe?.toList ++ action.enqueued?.toList

section Client

variable {client next : Client} {action : ClientAction}

theorem LinkMoves.pays (moved : LinkMoves client action next)
    (inside : action.brings = false) :
    linkPrice next.link + framesPrice action.sends <
      linkPrice client.link + framesPrice action.read?.toList := by
  cases moved with
  | probeRetry | linkUp | linkFailed => cases inside
  | @synced probe syncing =>
      show linkPrice (if probe then _ else _) + 0 < linkPrice client.link + 0
      rw [syncing]
      cases probe with
      | false =>
          simp only [Bool.false_eq_true, if_false, linkPrice]
          omega
      | true =>
          simp only [if_true, linkPrice]
          omega
  | @probeSent retried frame rest probing =>
      show linkPrice (if rest = [] then _ else _) + (framePrice frame + 0) <
        linkPrice client.link + 0
      rw [probing]
      by_cases last : rest = []
      · simp only [last, if_true, linkPrice, burstPrice, framesPrice_cons,
          framesPrice_nil, List.length_cons, List.length_nil]
        omega
      · simp only [last, if_false, linkPrice, burstPrice, framesPrice_cons,
          List.length_cons]
        omega
  | @probeRead retried frame awaiting =>
      have cost := le_framePrice frame
      show linkPrice client.link + 0 <
        linkPrice client.link + (framePrice frame + 0)
      omega

/-- Handling a frame costs less than the frame. -/
theorem ClientDispatched.pays {frame : Frame}
    (dispatched : ClientDispatched client frame next)
    (idle : client.demux = .reading) :
    clientPrice next < clientPrice client + framePrice frame := by
  have cost := le_framePrice frame
  cases dispatched with
  | ignored noCommand noPing =>
      exact Nat.lt_add_of_pos_right (by omega)
  | ping command noCommand =>
      have answer := sendPrice_lt_framePrice frame
        (⟨frame.channel, cmdPong, frame.data⟩)
        (by simp [isAnswered, command]) rfl (Nat.le_refl _)
      simp only [clientPrice, demuxPrice, idle]
      omega
  | @channels event channels asked noPing taken =>
      have bound : tablePrice channels ≤
          tablePrice client.channels + frame.data.length + 2 := by
        unfold channelCommand at asked
        split at asked
        · rcases Option.some.inj asked with rfl
          exact tablePrice_data taken
        · rcases Option.some.inj asked with rfl
          rw [tablePrice_closed taken]
          omega
        · rcases Option.some.inj asked with rfl
          rw [tablePrice_closed taken]
          omega
        · cases asked
      simp only [clientPrice]
      omega
  | @answered demux command noCommand noPong =>
      have small : demuxPrice demux ≤ 1 := by
        cases demux with
        | ponging channel data => exact (noPong channel data rfl).elim
        | replying => exact Nat.le_refl _
        | reading | ended => exact Nat.zero_le _
      simp only [clientPrice]
      omega

/-- The client pays for its own steps, and for the frames that it sends. -/
theorem ClientMoves.pays (moved : ClientMoves client action next)
    (inside : action.brings = false)
    (accepted : ∀ source frame, action ≠ .refused source frame) :
    clientPrice next + framesPrice action.sends <
      clientPrice client + framesPrice action.read?.toList := by
  cases moved with
  | link down taken =>
      have paid := (LinkMoves.of_stepLink taken).pays inside
      rcases Client.stepLink_spec taken with ⟨link, rfl⟩
      simp only [clientPrice] at paid ⊢
      omega
  | accepted | queried => cases inside
  | demuxEnded => cases inside
  | pongRefused | queryRefused | connRefused =>
      exact (accepted _ _ rfl).elim
  | @registered family channel target channels up waits taken =>
      have opened := tablePrice_opened taken
      show clientPrice _ + 0 < clientPrice client + 0
      cases family <;>
        (simp only [clientPrice, opened, waits, acceptPrice,
           Function.update_self, ne_eq, reduceCtorEq, not_false_eq_true,
           Function.update_of_ne]
         omega)
  | inflight up waits =>
      show clientPrice _ + 0 < clientPrice client + 0
      simp only [clientPrice, waits, listenPrice]
      omega
  | @recv frame next up idle free dispatched =>
      show clientPrice next + 0 < clientPrice client + (framePrice frame + 0)
      exact dispatched.pays idle
  | replied up busy =>
      show clientPrice _ + 0 < clientPrice client + 0
      simp only [clientPrice, busy, demuxPrice]
      omega
  | @pongSent channel data out up busy queued =>
      have sent := outPrice_enqueued queued
      show clientPrice _ + (framePrice ⟨channel, cmdPong, data⟩ + 0) <
        clientPrice client + 0
      simp only [clientPrice, busy, demuxPrice]
      omega
  | @querySent channel query out up busy queued =>
      have sent := outPrice_enqueued queued
      show clientPrice _ + (framePrice ⟨channel, cmdDnsReq, query⟩ + 0) <
        clientPrice client + 0
      simp only [clientPrice, busy, listenPrice]
      omega
  | @connSent member frame out channels up queued taken =>
      have sent := outPrice_enqueued queued
      have paid := tablePrice_sent taken
      show clientPrice _ + (framePrice frame + 0) < clientPrice client + 0
      simp only [clientPrice]
      omega
  | @writer event out up own unclosed taken =>
      have paid := outPrice_own taken own unclosed (by
        rintro rfl
        cases inside)
      show clientPrice _ + 0 < clientPrice client + 0
      simp only [clientPrice]
      omega
  | channels up own taken =>
      have paid := tablePrice_own taken own (by
        rintro member inner rfl
        exact inside)
      show clientPrice _ + 0 < clientPrice client + 0
      simp only [clientPrice]
      omega

end Client

/-! ## The server -/

/-- The steps that replies still cost until they are written. -/
def repliesPrice (replies : List MainReply) : Nat :=
  (replies.map fun reply => sendPrice reply.frame).sum

/-- The steps that the frame in hand still costs. -/
def mainPrice : MainTask → Nat
  | .greeting rest => rest.length + repliesPrice [.chicken, .routes]
  | .sending reply more => repliesPrice (reply :: more)
  | .reading | .binding _ _ | .readingHosts | .stopped | .exited => 0

/-- A query that is out to a resolver costs nothing. -/
def queryPrice (query : DnsQuery) : Nat :=
  match query.task with
  | .responding reply => sendPrice ⟨query.channel, cmdDnsResponse, reply⟩
  | .asking _ _ | .done => 0

/-- The steps that the answers of the resolvers still cost. -/
def queriesPrice (queries : List DnsQuery) : Nat :=
  (queries.map queryPrice).sum

/-- The steps that the server can still take alone. -/
def serverPrice (server : Server) : Nat :=
  mainPrice server.main + outPrice server.out + tablePrice server.tcp +
    queriesPrice server.dns

theorem mainPrice_sending (reply : MainReply) (more : List MainReply) :
    mainPrice (.sending reply more) =
      sendPrice reply.frame + repliesPrice more := by
  simp [mainPrice, repliesPrice]

theorem mainPrice_sendAll (replies : List MainReply) :
    mainPrice (.sendAll replies) = repliesPrice replies := by
  cases replies <;> rfl

/-- A query's answer is paid for by the query. -/
theorem queryPrice_sent {query next : DnsQuery} {frame : Frame}
    (taken : query.step (.sent frame) = some next) :
    queryPrice next + sendPrice frame = queryPrice query := by
  simp only [DnsQuery.step, Option.ite_none_right_eq_some,
    Option.some.injEq] at taken
  rcases taken with ⟨pending, rfl⟩
  cases task : query.task with
  | asking | done => simp [DnsQuery.pendingFrame, task] at pending
  | responding reply =>
      simp only [DnsQuery.pendingFrame, task, Option.some.injEq] at pending
      simp [queryPrice, task, pending]

/-- A new query costs at most an empty answer. -/
theorem queryPrice_spawn (resolvers : List SocketAddr) (channel : UInt16)
    (query : Bytes) :
    queryPrice (.spawn resolvers channel query) ≤
      sendPrice ⟨channel, cmdDnsResponse, []⟩ := by
  cases resolvers with
  | nil => exact Nat.le_refl _
  | cons nameserver untried => exact Nat.zero_le _

section Server

variable {server next : Server}

/-- Handling a frame of the client costs less than the frame. -/
theorem Dispatched.pays {frame : Frame}
    (dispatched : Dispatched server frame next)
    (idle : server.idle = true)
    (pongs : ∀ task, mainCommand frame = some task → frame.cmd = cmdPing ∧
      task = .sending (.pong frame.channel frame.data) []) :
    serverPrice next < serverPrice server + framePrice frame := by
  have cost := le_framePrice frame
  have reading := Server.reading_of_idle idle
  cases dispatched with
  | ignored noMain noTcp noUdp =>
      exact Nat.lt_add_of_pos_right (by omega)
  | udp asked noMain noTcp taken =>
      exact Nat.lt_add_of_pos_right (by omega)
  | main asked noTcp noUdp =>
      rcases pongs _ asked with ⟨ping, rfl⟩
      have command : frame.command = .ping := by
        rw [Frame.command, ping]
        rfl
      have answer := sendPrice_lt_framePrice frame
        (⟨frame.channel, cmdPong, frame.data⟩)
        (by simp [isAnswered, command]) rfl (Nat.le_refl _)
      simp only [serverPrice, mainPrice, reading, repliesPrice,
        MainReply.frame, List.map_cons, List.map_nil, List.sum_cons,
        List.sum_nil]
      omega
  | @tcp event tcp asked noMain noUdp taken =>
      have bound : tablePrice tcp ≤
          tablePrice server.tcp + frame.data.length + 2 := by
        unfold tcpCommand at asked
        split at asked
        · split at asked
          · cases asked
          · rcases Option.some.inj asked with rfl
            rw [tablePrice_opened taken, freshPrice]
            omega
        · rcases Option.some.inj asked with rfl
          exact tablePrice_data taken
        · rcases Option.some.inj asked with rfl
          rw [tablePrice_closed taken]
          omega
        · rcases Option.some.inj asked with rfl
          rw [tablePrice_closed taken]
          omega
        · cases asked
      simp only [serverPrice]
      omega
  | dns noMain noTcp noUdp request =>
      have answer := sendPrice_lt_framePrice frame
        (⟨frame.channel, cmdDnsResponse, []⟩)
        (by simp [isAnswered, request]) rfl (Nat.zero_le _)
      have spawned := queryPrice_spawn server.resolvers frame.channel
        frame.data
      simp only [serverPrice, queriesPrice, List.map_append, List.map_cons,
        List.map_nil, List.sum_append, List.sum_cons, List.sum_nil]
      omega

end Server

section Runs

variable {dnsEnabled : Bool} {resolvers : List SocketAddr}
  {trace : List SystemAction} {system next : System}

/-- The server pays for its own steps, and for the frames that it sends. -/
theorem server_pays {action : ServerAction}
    (run : Run System.step (.start dnsEnabled resolvers) trace system)
    (taken : system.step (.server action) = some next)
    (inside : SystemAction.brings (.server action) = false) :
    serverPrice next.server + framesPrice action.enqueued?.toList <
      serverPrice system.server + framesPrice action.received?.toList := by
  have serving := Serving.of_run run
  have unrefused : ∀ source frame, action ≠ .refused source frame := by
    rintro source frame rfl
    have refused := serverRefused_notMem (run.extend taken) source frame
    simp at refused
  have goesOn := serving.main
  have noUdp : ∀ event udp, system.server.udp.step event = some udp →
      ownUdpEvent event = true ∨
        (∃ member frame, event = .flow member (.sent frame)) → False := by
    intro event udp stepped own
    rw [serving.udp] at stepped
    rcases own with own | ⟨member, frame, rfl⟩
    · cases event with
      | opened | data | closed => cases own
      | _ => cases stepped
    · cases stepped
  have whole := taken
  cases SystemMoves.of_step taken with
  | @server action server up drained moved =>
      cases ServerMoves.of_step moved with
      | headerFailed | stop => cases inside
      | replyRefused | connRefused | dnsRefused | udpRefused =>
          exact (unrefused _ _ rfl).elim
      | @header bytes rest main nonempty =>
          have some := List.length_pos_iff.mpr nonempty
          show serverPrice _ + 0 < serverPrice system.server + 0
          by_cases last : rest = []
          · simp only [serverPrice, main, last, if_true, mainPrice,
              List.append_nil]
            omega
          · simp only [serverPrice, main, last, if_false, mainPrice,
              List.length_append]
            omega
      | @recv frame server idle dispatched =>
          show serverPrice server + 0 <
            serverPrice system.server + (framePrice frame + 0)
          exact dispatched.pays idle fun task asked =>
            mainCommand_of_recv run whole asked
      | @replySent reply more out main queued =>
          have sent := outPrice_enqueued queued
          show serverPrice _ + (framePrice reply.frame + 0) <
            serverPrice system.server + 0
          simp only [serverPrice, main, mainPrice_sendAll,
            mainPrice_sending]
          omega
      | @connSent member frame out tcp queued stepped =>
          have sent := outPrice_enqueued queued
          have paid := tablePrice_sent stepped
          show serverPrice _ + (framePrice frame + 0) <
            serverPrice system.server + 0
          simp only [serverPrice]
          omega
      | @dnsSent member frame out query after queued found stepped =>
          have sent := outPrice_enqueued queued
          have paid := queryPrice_sent stepped
          have replaced := sum_map_set queryPrice found after
          show serverPrice _ + (framePrice frame + 0) <
            serverPrice system.server + 0
          simp only [serverPrice, queriesPrice]
          omega
      | udpSent queued stepped =>
          exact (noUdp _ _ stepped (.inr ⟨_, _, rfl⟩)).elim
      | udp own stepped => exact (noUdp _ _ stepped (.inl own)).elim
      | @writer event out own senders stepped =>
          have paid := outPrice_own stepped own (by
            rintro rfl
            have gone := senders rfl
            simp only [Server.sendersGone, Bool.and_eq_true,
              decide_eq_true_eq] at gone
            rw [gone.1.1.1] at goesOn
            cases goesOn) (by
            rintro rfl
            cases inside)
          show serverPrice _ + 0 < serverPrice system.server + 0
          simp only [serverPrice]
          omega
      | tcp own stepped =>
          have paid := tablePrice_own stepped own (by
            rintro member inner rfl
            exact inside)
          show serverPrice _ + 0 < serverPrice system.server + 0
          simp only [serverPrice]
          omega
      | dns own found stepped => cases inside
      | bound main | bindFailed main | hosts main | exited main =>
          rw [main] at goesOn
          cases goesOn

/-! ## The joined processes -/

/-- The frames that the client has sent, the probe included. -/
def sentUp (trace : List SystemAction) : List Frame :=
  probesSent (clientTrace trace) ++ clientFrames (clientTrace trace)

/-- All that is left to be done, the unread frames included. -/
def systemPrice (trace : List SystemAction) (system : System) : Nat :=
  clientPrice system.client + serverPrice system.server +
    (framesPrice (sentUp trace) -
      framesPrice (serverReads (serverTrace trace))) +
    (framesPrice (serverFrames (serverTrace trace)) -
      framesPrice (clientReads (clientTrace trace)))

theorem framesPrice_sentUp (trace : List SystemAction)
    {action : ClientAction}
    (taken : system.step (.client action) = some next) :
    framesPrice (sentUp (trace ++ [.client action])) =
      framesPrice (sentUp trace) + framesPrice action.sends := by
  cases SystemMoves.of_step taken with
  | client drained moved =>
      simp only [sentUp, clientTrace_client, probesSent_snoc,
        clientFrames_snoc moved, framesPrice_append, ClientAction.sends]
      omega

/-- The tunnel pays for each of its own steps, and for every write. -/
theorem system_spends :
    Spends System.step SystemAction.brings (.start dnsEnabled resolvers)
      systemPrice := by
  intro trace system action next run inside taken
  have after := run.extend taken
  have up := framesPrice_le_of_isPrefix (serverReads_isPrefix run)
  have down := framesPrice_le_of_isPrefix (clientReads_isPrefix after)
  have up' := framesPrice_le_of_isPrefix (serverReads_isPrefix after)
  have down' := framesPrice_le_of_isPrefix (clientReads_isPrefix run)
  cases action with
  | client action =>
      have sends := framesPrice_sentUp trace taken
      have accepted : ∀ source frame, action ≠ .refused source frame := by
        rintro source frame rfl
        have refused := clientRefused_notMem after source frame
        simp at refused
      have paid : clientPrice next.client + framesPrice action.sends <
          clientPrice system.client +
            framesPrice action.read?.toList := by
        cases SystemMoves.of_step taken with
        | client drained moved =>
            exact (ClientMoves.of_step moved).pays inside accepted
      have server : next.server = system.server := by
        cases SystemMoves.of_step taken with
        | client drained moved => rfl
      have reads : framesPrice (clientReads (clientTrace
          (trace ++ [.client action]))) =
            framesPrice (clientReads (clientTrace trace)) +
              framesPrice action.read?.toList := by
        rw [clientTrace_client, clientReads_snoc, framesPrice_append]
      simp only [systemPrice, serverTrace_client, server] at up' down ⊢
      simp only [sentUp] at sends up up' ⊢
      omega
  | server action =>
      have paid := server_pays run taken inside
      have client : next.client = system.client := by
        cases SystemMoves.of_step taken with
        | server drained moved => rfl
      have sends : framesPrice (serverFrames (serverTrace
          (trace ++ [.server action]))) =
            framesPrice (serverFrames (serverTrace trace)) +
              framesPrice action.enqueued?.toList := by
        cases SystemMoves.of_step taken with
        | server drained moved =>
            rw [serverTrace_server, serverFrames_snoc moved,
              framesPrice_append]
      have reads : framesPrice (serverReads (serverTrace
          (trace ++ [.server action]))) =
            framesPrice (serverReads (serverTrace trace)) +
              framesPrice action.received?.toList := by
        rw [serverTrace_server, serverReads_snoc, framesPrice_append]
      simp only [systemPrice, sentUp, clientTrace_server, client]
        at up' down ⊢
      omega

/-- By itself the client takes no identifier. -/
theorem taken_of_alone {rest : List SystemAction}
    (alone : Alone SystemAction.brings rest) :
    (ledgerOf (clientTrace (trace ++ rest))).taken =
      (ledgerOf (clientTrace trace)).taken := by
  induction rest using List.reverseRecOn with
  | nil => rw [List.append_nil]
  | append_singleton rest action induction =>
      have before := induction fun other member =>
        alone other (List.mem_append_left _ member)
      have inside := alone action (by simp)
      rw [← List.append_assoc, ← before]
      cases action with
      | server action => rw [clientTrace_server]
      | client action =>
          rw [clientTrace_client, ledgerOf_snoc]
          cases action <;> first | rfl | cases inside

/-- The set-up of the link is over for good. -/
theorem up_of_run {rest : List SystemAction} {after : System}
    (up : system.client.link = .up)
    (more : Run System.step system rest after) :
    after.client.link = .up := by
  refine more.invariant (motive := fun _ system =>
    system.client.link = .up) up ?_
  intro trace system action next _ before taken
  cases SystemMoves.of_step taken with
  | server drained moved => exact before
  | client drained moved => exact ((ClientMoves.of_step moved).up before).1

/-- How the tunnel stands when only the environment can move. -/
inductive Concluded (trace : List SystemAction) (system : System) :
    Prop where
  | arrived (arrived : Arrived trace system)
  | serverHeldUp {far : Nat} {there : Conn}
      (heldUp : HeldUp system.server.tcp far there)
  | clientHeldUp {near : Nat} {here : Conn}
      (heldUp : HeldUp system.client.channels near here)
      (blocked : Blocked here)

/--
At rest everything has arrived, but for what the peer of a socket does not
take; or a frame loop waits for room in the queue of a connection whose target
has not answered or has refused it, or whose socket's peer takes nothing.
-/
theorem arrived_or_heldUp
    (run : Run System.step (.start dnsEnabled resolvers) trace system)
    (few : (ledgerOf (clientTrace trace)).taken ≤ idCycle)
    (rest : Resting system) : Concluded trace system := by
  rcases rest.server.free_or_heldUp run with server | ⟨far, there, heldUp⟩
  · rcases rest.free_or_heldUp run with
      client | ⟨near, here, heldUp, blocked⟩
    · exact .arrived (rest.arrived run few ⟨client, server⟩)
    · exact .clientHeldUp heldUp blocked
  · exact .serverHeldUp heldUp

end Runs

/-! ## The end of a conversation -/

/-- The application closes its half, then the target; both ends finish. -/
def partingActions (member : Nat) (channel : UInt16) : List SystemAction :=
  [.client (.channels (.conn member (.read .eof)))] ++
  carriedUp (.conn member) (eofFrame channel) ++
  [.server (.tcp (.conn member .queueClosed)),
    .server (.tcp (.conn member .shutdown)),
    .server (.tcp (.conn member (.read .eof)))] ++
  carriedDown (.conn member) (eofFrame channel) ++
  [.server (.tcp (.conn member .joined)),
    .server (.tcp (.conn member .removed)),
    .client (.channels (.conn member .queueClosed)),
    .client (.channels (.conn member .shutdown)),
    .client (.channels (.conn member .joined)),
    .client (.channels (.conn member .removed))]

/-- What was under way is written, and both connections end. -/
def conversation : List SystemAction :=
  talk ++
  [.server (.tcp (.conn 0 .take)), .server (.tcp (.conn 0 (.write [3]))),
    .client (.channels (.conn 1 (.write [7])))] ++
  partingActions 0 1 ++ partingActions 1 2

/-- After the conversation there is nothing left to be done. -/
theorem run_conversation :
    ∃ system, Run System.step (.start false []) conversation system ∧
      Resting system ∧
        (ledgerOf (clientTrace conversation)).taken ≤ idCycle := by
  rcases run_of_execute_any System.step (.start false []) conversation
    (fun system => systemPrice conversation system = 0 ∧
      system.client.link = .up) (by decide +kernel) with
    ⟨system, run, ended⟩
  rcases of_decide_eq_true ended with ⟨broke, up⟩
  exact ⟨system, run,
    ⟨up, (system_spends.of_le brings_of_outside).rests run broke⟩, by decide⟩

theorem arrived_or_heldUp_conversation :
    ∃ system, Run System.step (.start false []) conversation system ∧
      Resting system ∧ Concluded conversation system := by
  rcases run_conversation with ⟨system, run, rest, few⟩
  exact ⟨system, run, rest, arrived_or_heldUp run few rest⟩

section Runs

variable {dnsEnabled : Bool} {resolvers : List SocketAddr}
  {trace : List SystemAction} {system : System}

/-- No connection waits for the peer of its socket. -/
def Unblocked (system : System) : Prop :=
  (∀ here ∈ system.client.channels.conns, ¬ Blocked here) ∧
    ∀ there ∈ system.server.tcp.conns, ¬ Blocked there

/-- Where nothing but news can move the tunnel, all is written. -/
theorem unblocked_of_rests
    (run : Run System.step (.start dnsEnabled resolvers) trace system)
    (up : system.client.link = .up)
    (rests : Rests System.step SystemAction.brings system) :
    Unblocked system := by
  constructor
  · intro here inConns blocked
    rcases List.mem_iff_getElem?.mp inConns with ⟨near, present⟩
    rcases @write_of_blocked .client _ _ _ present
      (writesSome_of_run (run_channels (run_client run)) here inConns)
      blocked with ⟨bytes, next, taken⟩
    have moves : (system.step
        (.client (.channels (.conn near (.write bytes))))).isSome := by
      simp [System.step, ClientAction.drain, Client.step, up,
        Client.stepTask, ownTableEvent, taken]
    rcases Option.isSome_iff_exists.mp moves with ⟨final, stepped⟩
    cases rests _ final stepped
  · intro there inConns blocked
    rcases List.mem_iff_getElem?.mp inConns with ⟨far, present⟩
    have running := running_of_goesOn (Serving.of_run run).main
    rcases @write_of_blocked .server _ _ _ present
      (writesSome_of_run (run_tcp (run_server run)) there inConns)
      blocked with ⟨bytes, next, taken⟩
    have moves : (system.step
        (.server (.tcp (.conn far (.write bytes))))).isSome := by
      simp [System.step, ServerAction.drain, Server.step, running,
        ownTableEvent, taken]
    rcases Option.isSome_iff_exists.mp moves with ⟨final, stepped⟩
    cases rests _ final stepped

/-- The tunnel can come to rest by steps that are not of some kind. -/
def ComesToRest (outside : SystemAction → Bool) (trace : List SystemAction)
    (system : System) (ends : System → Prop) : Prop :=
  ∃ rest final, Alone outside rest ∧ Run System.step system rest final ∧
    Resting final ∧ Concluded (trace ++ rest) final ∧ ends final

/--
Once the link is up, and while nothing new comes from outside, the tunnel can
only go on for so long, whatever the peers of its sockets take.  Steps of its
own always suffice for it to rest; and if the peers take all that is written,
it can come to rest where no write waits any more.
-/
theorem tunnel_settles {rest : List SystemAction} {after : System}
    (run : Run System.step (.start dnsEnabled resolvers) trace system)
    (few : (ledgerOf (clientTrace trace)).taken ≤ idCycle)
    (up : system.client.link = .up)
    (quiet : Alone SystemAction.brings rest)
    (more : Run System.step system rest after) :
    rest.length ≤ systemPrice trace system ∧
      ComesToRest SystemAction.outside (trace ++ rest) after
        (fun _ => True) ∧
      ComesToRest SystemAction.brings (trace ++ rest) after Unblocked := by
  have reached := run.trans more
  have conclude {further : List SystemAction} {final : System}
      (noNews : Alone SystemAction.brings further)
      (last : Run System.step after further final)
      (still : Rests System.step SystemAction.outside final) :
      Resting final ∧ Concluded (trace ++ rest ++ further) final := by
    have resting : Resting final := ⟨up_of_run (up_of_run up more) last, still⟩
    refine ⟨resting, arrived_or_heldUp (reached.trans last) ?_ resting⟩
    rw [taken_of_alone noNews, taken_of_alone quiet]
    exact few
  refine ⟨system_spends.bounds run more quiet, ?_, ?_⟩
  · rcases (system_spends.of_le brings_of_outside).comes_to_rest reached with
      ⟨further, final, alone, last, still⟩
    rcases conclude (fun action member =>
      brings_of_outside action (alone action member)) last still with
      ⟨resting, concluded⟩
    exact ⟨further, final, alone, last, resting, concluded, trivial⟩
  · rcases system_spends.comes_to_rest reached with
      ⟨further, final, alone, last, still⟩
    rcases conclude alone last fun action next taken => by
      rw [SystemAction.outside, still action next taken, Bool.true_or] with
      ⟨resting, concluded⟩
    exact ⟨further, final, alone, last, resting, concluded,
      unblocked_of_rests (reached.trans last) resting.up still⟩

end Runs

/-- Two connections are in use, and the tunnel goes on by itself. -/
theorem tunnel_settles_talk :
    ∃ system, Run System.step (.start false []) talk system ∧
      ComesToRest SystemAction.outside talk system (fun _ => True) ∧
      ComesToRest SystemAction.brings talk system Unblocked := by
  rcases run_of_execute_any System.step (.start false []) talk
    (fun system => system.client.link = .up) (by decide +kernel) with
    ⟨system, run, up⟩
  have settles := tunnel_settles run (by decide) (of_decide_eq_true up)
    Alone.nil .start
  rw [List.append_nil] at settles
  exact ⟨system, run, settles.2⟩

end KubectlSshuttle.Rushtle
