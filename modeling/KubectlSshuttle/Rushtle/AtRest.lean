import KubectlSshuttle.Lib.Settling
import KubectlSshuttle.Rushtle.Endings
import KubectlSshuttle.Rushtle.Fidelity
import KubectlSshuttle.Rushtle.Serving

/-!
# The tunnel at rest

The applications, the targets, the resolvers and the timers belong to the
environment, and so does the room for a write to a socket.  When none of the
two processes' own tasks can move, everything that was sent has arrived: the
queues and the pipes are empty, and every socket has been written what the
socket at the other end has given, unless its peer does not take it.  There is
one exception: a frame loop may wait for room in the queue of a connection
whose target has not answered yet, or whose socket's peer takes nothing.
-/

namespace KubectlSshuttle.Rushtle

open KubectlSshuttle.Lib
open KubectlSshuttle.Lib.RustText
open KubectlSshuttle.Lib.Address
open KubectlSshuttle.Lib.Settling
open KubectlSshuttle.Lib.Transition
open KubectlSshuttle.Rushtle.Ssnet
open KubectlSshuttle.Rushtle.Connection
open KubectlSshuttle.Rushtle.Channels
open KubectlSshuttle.Rushtle.OutQueue
open KubectlSshuttle.Rushtle.UdpFlows

/-! ## The environment of the tunnel -/

/--
The steps that need an application, a resolver's client or a timer; the timer
of the link probe is one of them.
-/
def ClientAction.brings : ClientAction → Bool
  | .probeRetry | .linkUp | .linkFailed | .demuxEnded => true
  | .accepted _ _ _ | .queried _ _ _ => true
  | .writer .writeFailed => true
  | .channels (.conn _ event) => outsideConn event
  | _ => false

/-- The pipes belong to the tunnel, and so does reading from them. -/
def SystemAction.brings : SystemAction → Bool
  | .client action => action.brings
  | .server (.recv _) => false
  | .server action => action.outside

/-- The peer of a socket takes some of what is written to it. -/
def SystemAction.takes : SystemAction → Bool
  | .client (.channels (.conn _ (.write _))) => true
  | .server (.tcp (.conn _ (.write _))) => true
  | _ => false

/-- The environment brings something new, or takes something. -/
def SystemAction.outside (action : SystemAction) : Bool :=
  action.brings || action.takes

/-- The link is up, and only the environment can move. -/
structure Resting (system : System) : Prop where
  up : system.client.link = .up
  still : Rests System.step SystemAction.outside system

section Resting

variable {system : System}

/-- What is not of the environment brings nothing new. -/
theorem brings_of_outside (action : SystemAction)
    (own : action.outside = false) : action.brings = false := by
  rw [SystemAction.outside, Bool.or_eq_false_iff] at own
  exact own.1

/-- The steps of the connections count alike on both sides. -/
theorem outside_of_outsideTable {event : TableEvent}
    (inside : outsideTable event = false) :
    SystemAction.outside (.client (.channels event)) = false ∧
      SystemAction.outside (.server (.tcp event)) = false := by
  cases event with
  | conn member event =>
      cases event <;> first | exact ⟨rfl, rfl⟩ | cases inside
  | _ => exact ⟨rfl, rfl⟩

theorem Resting.client (rest : Resting system) (action : ClientAction)
    (inside : SystemAction.outside (.client action) = false) (down : Bytes)
    (drained : action.drain system.down = some down) :
    system.client.step action = none := by
  cases stepped : system.client.step action with
  | none => rfl
  | some client =>
      have outside := rest.still (.client action) _ (by
        rw [System.step, drained, stepped])
      rw [inside] at outside
      cases outside

/-- The client may still move, and the environment. -/
def SystemAction.outsideServer : SystemAction → Bool
  | .client _ => true
  | .server action => SystemAction.outside (.server action)

/-- The server's own tasks cannot move. -/
def ServerRests (system : System) : Prop :=
  Rests System.step SystemAction.outsideServer system

theorem Resting.server (rest : Resting system) : ServerRests system := by
  intro action next taken
  cases action with
  | client action => rfl
  | server action => exact rest.still _ next taken

theorem ServerRests.still (rest : ServerRests system) (action : ServerAction)
    (inside : SystemAction.outside (.server action) = false) (up : Bytes)
    (drained : action.drain system.up = some up) :
    system.server.step action = none := by
  cases stepped : system.server.step action with
  | none => rfl
  | some server =>
      have outside := rest (.server action) _ (by
        rw [System.step, drained, stepped])
      rw [SystemAction.outsideServer, inside] at outside
      cases outside

end Resting

/-! ## The server at rest -/

section Server

variable {dnsEnabled : Bool} {resolvers : List SocketAddr}
  {trace : List SystemAction} {system : System}

theorem running_of_goesOn {main : MainTask} (goesOn : main.goesOn = true) :
    main ≠ .exited := by
  rintro rfl
  cases goesOn

/-- The server's writer has written all frames. -/
theorem ServerRests.out (rest : ServerRests system)
    (run : Run System.step (.start dnsEnabled resolvers) trace system) :
    system.server.out = .empty := by
  have serving := Serving.of_run run
  have running := running_of_goesOn serving.main
  have unmoved : ∀ event, ownOutEvent event = true → event ≠ .closed →
      event ≠ .writeFailed → system.server.out.step event = none := by
    intro event own unclosed unfailed
    cases stepped : system.server.out.step event with
    | none => rfl
    | some out =>
        have still := rest.still (.writer event) (by
          cases event <;> first | rfl | exact (unfailed rfl).elim)
          system.up (by
          cases event <;> first | rfl | exact (unfailed rfl).elim)
        rcases step_writer event running own
          (fun closes => (unclosed closes).elim) (by rw [stepped]; rfl)
          with ⟨next, taken⟩
        rw [still] at taken
        cases taken
  refine empty_of_still serving.serverWriter
    (holdsSome_of_run (run_out (run_server run))) ?_ ?_
  · exact unmoved .take rfl (by simp) (by simp)
  · exact fun bytes => unmoved (.write bytes) rfl (by simp) (by simp)

/-- No task of the server has a frame to send. -/
theorem ServerRests.unsent (rest : ServerRests system)
    (run : Run System.step (.start dnsEnabled resolvers) trace system)
    (source : Source) : system.server.pendingFrame source = none := by
  have serving := Serving.of_run run
  have running := running_of_goesOn serving.main
  cases pending : system.server.pendingFrame source with
  | none => rfl
  | some frame =>
      have still := rest.still (.enqueued source frame) rfl
        system.up rfl
      have goes : ∀ out, ∃ next,
          ({ system.server with out := out } : Server).sent frame source =
            some next := by
        intro out
        cases source with
        | main =>
            simp only [Server.pendingFrame] at pending
            split at pending
            · next reply more main =>
                refine Option.isSome_iff_exists.mp ?_
                simp [Server.sent, Server.nextReply, main]
            · cases pending
        | conn member =>
            simp only [Server.pendingFrame, Option.bind_eq_some_iff]
              at pending
            rcases pending with ⟨conn, present, holds⟩
            rcases sent_of_pending .server present holds with ⟨tcp, sent⟩
            exact ⟨_, by rw [Server.sent, sent, Option.map_some]⟩
        | dns query =>
            simp only [Server.pendingFrame, Option.bind_eq_some_iff]
              at pending
            rcases pending with ⟨found, present, holds⟩
            refine Option.isSome_iff_exists.mp ?_
            simp [Server.sent, Server.stepDns, present, DnsQuery.step, holds]
        | udp member =>
            simp [Server.pendingFrame, serving.udp, UdpTable.empty]
              at pending
      rcases step_enqueued running (rest.out run) pending goes with
        ⟨next, taken⟩
      rw [still] at taken
      cases taken

/-- The frame loop waits for a frame, or for room in a queue. -/
theorem ServerRests.reading (rest : ServerRests system)
    (run : Run System.step (.start dnsEnabled resolvers) trace system) :
    system.server.main = .reading := by
  have serving := Serving.of_run run
  have goesOn := serving.main
  have unsent := rest.unsent run .main
  cases main : system.server.main with
  | reading => rfl
  | sending reply more => simp [Server.pendingFrame, main] at unsent
  | greeting bytes =>
      have still := rest.still (.header bytes) rfl
        system.up rfl
      rw [main] at goesOn
      have some : bytes ≠ [] := by simpa [MainTask.goesOn] using goesOn
      simp [Server.step, main, some] at still
  | binding | readingHosts | stopped | exited =>
      rw [main] at goesOn
      cases goesOn

/-- No connection of the server can go on by itself. -/
theorem ServerRests.stands (rest : ServerRests system)
    (run : Run System.step (.start dnsEnabled resolvers) trace system) :
    StandsStill .server system.server.tcp := by
  have running := running_of_goesOn (Serving.of_run run).main
  constructor
  · intro conn inConns
    rcases List.mem_iff_getElem?.mp inConns with ⟨member, present⟩
    have unsent := rest.unsent run (.conn member)
    simpa [Server.pendingFrame, present] using unsent
  · intro event own inside
    have still := rest.still _ (outside_of_outsideTable inside).2 system.up
      rfl
    simpa [Server.step, running, own] using still

/-- The frame loop waits for room in a queue only if it is held up. -/
theorem ServerRests.free_or_heldUp (rest : ServerRests system)
    (run : Run System.step (.start dnsEnabled resolvers) trace system) :
    system.server.tcp.delivering = none ∨
      ∃ far there, HeldUp system.server.tcp far there := by
  cases waiting : system.server.tcp.delivering with
  | none => exact .inl rfl
  | some held =>
      exact .inr ⟨held.1, (rest.stands run).heldUp
        (ChannelTable.Valid.of_run (run_tcp (run_server run))) waiting⟩

/-- Otherwise every connection is parked. -/
theorem ServerRests.parked (rest : ServerRests system)
    (run : Run System.step (.start dnsEnabled resolvers) trace system)
    (free : system.server.tcp.delivering = none) {far : Nat} {there : Conn}
    (present : system.server.tcp.conns[far]? = some there) :
    Parked system.server.tcp far there :=
  (rest.stands run).parked free present

end Server

/-! ## The client at rest -/

section Client

variable {dnsEnabled : Bool} {resolvers : List SocketAddr}
  {trace : List SystemAction} {system : System}

/-- A pending frame goes into an empty queue. -/
theorem Client.step_enqueued {client : Client} {source : ClientSource}
    {frame : Frame} (up : client.link = .up) (idle : client.out = .empty)
    (pending : client.pendingFrame source = some frame)
    (goes : ∀ out, ∃ next,
      ({ client with out := out } : Client).sent frame source = some next) :
    ∃ next, client.step (.enqueued source frame) = some next := by
  have queued : client.out.step (.enqueued frame) =
      some ⟨[frame], .receiving⟩ := by
    rw [idle]
    rfl
  rcases goes ⟨[frame], .receiving⟩ with ⟨next, sent⟩
  refine ⟨next, ?_⟩
  rw [Client.step, if_pos up, Client.stepTask, if_pos pending, queued,
    Option.bind_some, sent]

/-- The client's writer has written all frames. -/
theorem Resting.client_out (rest : Resting system)
    (run : Run System.step (.start dnsEnabled resolvers) trace system) :
    system.client.out = .empty := by
  have unmoved : ∀ event, ownOutEvent event = true → event ≠ .closed →
      event ≠ .writeFailed → system.client.out.step event = none := by
    intro event own unclosed unfailed
    have still := rest.client (.writer event) (by
      cases event <;> first | rfl | exact (unfailed rfl).elim)
      system.down (by
      cases event <;> first | rfl | exact (unfailed rfl).elim)
    simpa [Client.step, rest.up, Client.stepTask, own, unclosed] using still
  refine empty_of_still (Serving.of_run run).clientWriter
    (holdsSome_of_run (run_clientOut (run_client run))) ?_ ?_
  · exact unmoved .take rfl (by simp) (by simp)
  · exact fun bytes => unmoved (.write bytes) rfl (by simp) (by simp)

/-- No task of the client has a frame to send. -/
theorem Resting.client_unsent (rest : Resting system)
    (run : Run System.step (.start dnsEnabled resolvers) trace system)
    (source : ClientSource) : system.client.pendingFrame source = none := by
  cases pending : system.client.pendingFrame source with
  | none => rfl
  | some frame =>
      have still := rest.client (.enqueued source frame) rfl
        system.down rfl
      have goes : ∀ out, ∃ next,
          ({ system.client with out := out } : Client).sent frame source =
            some next := by
        intro out
        cases source with
        | demux => exact ⟨_, rfl⟩
        | listener => exact ⟨_, rfl⟩
        | conn member =>
            simp only [Client.pendingFrame, Option.bind_eq_some_iff]
              at pending
            rcases pending with ⟨conn, present, holds⟩
            rcases sent_of_pending .client present holds with
              ⟨channels, sent⟩
            exact ⟨_, by rw [Client.sent, sent, Option.map_some]⟩
      rcases Client.step_enqueued rest.up (rest.client_out run) pending goes with
        ⟨next, taken⟩
      rw [still] at taken
      cases taken

/-- The demux task waits for a frame, or for room in a queue. -/
theorem Resting.client_reading (rest : Resting system)
    (run : Run System.step (.start dnsEnabled resolvers) trace system) :
    system.client.demux = .reading := by
  have unsent := rest.client_unsent run .demux
  cases demux : system.client.demux with
  | reading => rfl
  | ended => exact ((Serving.of_run run).demux demux).elim
  | ponging channel data => simp [Client.pendingFrame, demux] at unsent
  | replying peer reply =>
      have still := rest.client (.replied peer reply) rfl
        system.down rfl
      simp [Client.step, rest.up, Client.stepTask, demux] at still

/-- No connection of the client can go on by itself. -/
theorem Resting.client_still (rest : Resting system)
    (run : Run System.step (.start dnsEnabled resolvers) trace system) :
    StandsStill .client system.client.channels := by
  constructor
  · intro conn inConns
    rcases List.mem_iff_getElem?.mp inConns with ⟨member, present⟩
    have unsent := rest.client_unsent run (.conn member)
    simpa [Client.pendingFrame, present] using unsent
  · intro event own inside
    have still := rest.client (.channels event)
      (outside_of_outsideTable inside).1 system.down rfl
    simpa [Client.step, rest.up, Client.stepTask, own] using still

/-- The demux task waits only for applications, as all are connected. -/
theorem Resting.free_or_heldUp (rest : Resting system)
    (run : Run System.step (.start dnsEnabled resolvers) trace system) :
    system.client.channels.delivering = none ∨
      ∃ near here, HeldUp system.client.channels near here ∧
        Blocked here := by
  have tableRun := run_channels (run_client run)
  cases waiting : system.client.channels.delivering with
  | none => exact .inl rfl
  | some held =>
      rcases (rest.client_still run).heldUp
        (ChannelTable.Valid.of_run tableRun) waiting with ⟨conn, heldUp⟩
      have connRun := run_conn tableRun heldUp.present
      rcases unconnected_of_client connRun with ⟨elsewhere, unfailed⟩
      rcases heldUp.phase with phase | phase | blocked
      · exact (elsewhere phase).elim
      · exact (unfailed ((reason_of_shut connRun).2 (.inr phase))).elim
      · exact .inr ⟨held.1, conn, heldUp, blocked⟩

end Client

/-! ## The pipes at rest -/

section Pipes

variable {dnsEnabled : Bool} {resolvers : List SocketAddr}
  {trace : List SystemAction} {system : System}

theorem takeFrame_framesBytes {frame : Frame} {more : List Frame}
    (fits : Fits frame) :
    takeFrame (framesBytes (frame :: more)) frame =
      some (framesBytes more) := by
  rw [takeFrame, framesBytes, SelfDelimiting.encodeAll_cons,
    frameCode_encode, readFrame_frameBytes frame _ fits]
  exact if_pos rfl

/-- With its lock free the demux task handles every frame. -/
theorem Client.dispatch_of_free {client : Client}
    (free : client.channels.delivering = none) (frame : Frame) :
    ∃ next, client.dispatch frame = some next := by
  refine Option.isSome_iff_exists.mp ?_
  unfold Client.dispatch
  cases frame.command with
  | dnsResponse =>
      dsimp only
      split
      · split <;> rfl
      · rfl
  | tcpData | tcpEof | tcpStopSending => simp [ChannelTable.step, free]
  | _ => rfl

/-- So does the frame loop. -/
theorem Server.dispatch_of_free {server : Server}
    (free : server.tcp.delivering = none)
    (unhindered : server.udp.delivering = none) (frame : Frame) :
    ∃ next, server.dispatch frame = some next := by
  refine Option.isSome_iff_exists.mp ?_
  unfold Server.dispatch
  cases frame.command with
  | tcpConnect =>
      dsimp only
      split
      · rfl
      · simp [ChannelTable.step, free]
  | udpData =>
      dsimp only
      split
      · rfl
      · simp [UdpTable.step, unhindered]
  | udpClose => simp [UdpTable.step, unhindered]
  | tcpData | tcpEof | tcpStopSending => simp [ChannelTable.step, free]
  | _ => rfl

/-- What is left in a pipe are the frames that were not read. -/
theorem unread_of_streams {reads sent : List Frame} {pipe : Bytes}
    (before : reads <+: sent)
    (stream : framesBytes sent = framesBytes reads ++ pipe) :
    ∃ more, sent = reads ++ more ∧ pipe = framesBytes more := by
  rcases before with ⟨more, rfl⟩
  simp only [framesBytes, SelfDelimiting.encodeAll_append] at stream
  exact ⟨more, rfl, (List.append_cancel_left stream).symm⟩

/-- The server's writer has written every frame that the server has sent. -/
theorem ServerRests.down_stream (rest : ServerRests system)
    (run : Run System.step (.start dnsEnabled resolvers) trace system)
    (synced : system.client.link ≠ .syncing) :
    framesBytes (serverFrames (serverTrace trace)) =
      framesBytes (clientReads (clientTrace trace)) ++ system.down := by
  have pipes := (PipesInv.of_run run).down
  have whole := written_of_empty (OutInv.of_run (run_out (run_server run)))
    (rest.out run)
  have reading := rest.reading run
  rw [headerTaken, if_neg synced, List.append_assoc] at pipes
  cases ServerStream.of_run (run_server run) with
  | greeting state header quiet =>
      rw [state] at reading
      cases reading
  | failed main header quiet =>
      rw [main] at reading
      cases reading
  | serving awake stream =>
      rw [stream, whole] at pipes
      exact List.append_cancel_left pipes

/-- Unless it is held up, the server has read all that was written to it. -/
theorem ServerRests.reads_all (rest : ServerRests system)
    (run : Run System.step (.start dnsEnabled resolvers) trace system)
    (free : system.server.tcp.delivering = none) {sent : List Frame}
    (before : serverReads (serverTrace trace) <+: sent)
    (fits : ∀ frame ∈ sent, Fits frame)
    (stream : framesBytes sent =
      framesBytes (serverReads (serverTrace trace)) ++ system.up) :
    system.up = [] ∧ serverReads (serverTrace trace) = sent := by
  rcases unread_of_streams before stream with ⟨more, split, pipe⟩
  cases more with
  | nil => exact ⟨pipe, by simpa using split.symm⟩
  | cons frame others =>
      have fit := fits frame (by simp [split])
      have udp := (Serving.of_run run).udp
      have reading := rest.reading run
      have idle : system.server.idle = true := by
        simp [Server.idle, reading, free, udp, UdpTable.empty]
      have still := rest.still (.recv frame) rfl
        (framesBytes others)
        (by rw [ServerAction.drain, pipe, takeFrame_framesBytes fit])
      rcases Server.dispatch_of_free free (by rw [udp]; rfl) frame with
        ⟨next, dispatched⟩
      simp [Server.step, reading, idle, dispatched] at still

/-- Unless it is held up, the client has read all that the server has sent. -/
theorem Resting.down_read (rest : Resting system)
    (run : Run System.step (.start dnsEnabled resolvers) trace system)
    (free : system.client.channels.delivering = none) :
    system.down = [] ∧ clientReads (clientTrace trace) =
      serverFrames (serverTrace trace) := by
  have stream := rest.server.down_stream run (by simp [rest.up])
  rcases unread_of_streams (clientReads_isPrefix run) stream with
    ⟨more, split, pipe⟩
  cases more with
  | nil => exact ⟨pipe, by simpa using split.symm⟩
  | cons frame others =>
      have fits := (fits_of_run run).2 frame (by simp [split])
      have still := rest.client (.recv frame) rfl
        (framesBytes others)
        (by rw [ClientAction.drain, pipe, takeFrame_framesBytes fits])
      rcases Client.dispatch_of_free free frame with ⟨next, dispatched⟩
      simp [Client.step, rest.up, Client.stepTask, rest.client_reading run,
        free, dispatched] at still

/-- Unless it is held up, the server has read all that the client has sent. -/
theorem Resting.up_read (rest : Resting system)
    (run : Run System.step (.start dnsEnabled resolvers) trace system)
    (free : system.server.tcp.delivering = none) :
    system.up = [] ∧ serverReads (serverTrace trace) =
      probesSent (clientTrace trace) ++ clientFrames (clientTrace trace) := by
  have client := ClientStream.of_run (run_client run)
  refine rest.server.reads_all run free (serverReads_isPrefix run) ?_ ?_
  · intro frame sent
    rcases List.mem_append.mp sent with probe | queued
    · exact fits_probe frame (client.probes frame probe)
    · exact (fits_of_run run).1 frame queued
  · have whole := written_of_empty
      (OutInv.of_run (run_clientOut (run_client run))) (rest.client_out run)
    rw [← (PipesInv.of_run run).up, client.stream, whole]
    exact frameCode.encodeAll_append _ _

end Pipes

/-! ## The connections at rest -/

/-- No frame loop waits for room in a queue. -/
structure Unhindered (system : System) : Prop where
  client : system.client.channels.delivering = none
  server : system.server.tcp.delivering = none

/-- Nothing is on its way any more. -/
structure Arrived (trace : List SystemAction) (system : System) : Prop where
  unhindered : Unhindered system
  up : system.up = []
  down : system.down = []
  client : system.client.out = .empty
  server : system.server.out = .empty
  /-- every connection of the client has its other end -/
  reached : ∀ near < system.client.channels.conns.length,
    ∃ far, Joined system near far
  /-- from the application to the target -/
  outward : ∀ near far there, Joined system near far →
    system.server.tcp.conns[far]? = some there →
      (there.phase = .connecting ∨ Blocked there) ∧
          Awaits there (farEvents trace far) (nearEvents trace near) ∨
        Unheard (farEvents trace far) ∨
          Whole (farEvents trace far) (nearEvents trace near)
  /-- from the target to the application -/
  homeward : ∀ near far here, Joined system near far →
    system.client.channels.conns[near]? = some here →
      Blocked here ∧
          Awaits here (nearEvents trace near) (farEvents trace far) ∨
        .writeError ∈ nearEvents trace near ∨
          Whole (nearEvents trace near) (farEvents trace far)

section Connections

variable {dnsEnabled : Bool} {resolvers : List SocketAddr}
  {trace : List SystemAction} {system : System}

/-- A channel that was opened has a connection. -/
theorem conn_of_opened {side : Side} {trace : List TableEvent}
    {table : ChannelTable} {channel : UInt16} {target : Text × UInt16}
    (run : Run (ChannelTable.step side) .empty trace table)
    (opened : .opened target ∈ channelEvents channel trace) :
    ∃ (member : Nat) (conn : Conn), table.conns[member]? = some conn ∧
      conn.channel = channel := by
  refine run.invariant
    (motive := fun trace table =>
      .opened target ∈ channelEvents channel trace →
        ∃ (member : Nat) (conn : Conn), table.conns[member]? = some conn ∧
          conn.channel = channel) ?_ ?_ opened
  · intro never
    cases never
  intro trace table event next _ before taken opened
  have moved := TableMoves.of_step taken
  rw [channelEvents_snoc] at opened
  rcases List.mem_append.mp opened with earlier | now
  · rcases before earlier with ⟨member, conn, present, same⟩
    rcases moved.keeps_channel present with ⟨later, found, kept, _⟩
    exact ⟨member, later, found, kept.trans same⟩
  · cases moved with
    | @opened id target' free =>
        refine ⟨_, _, List.getElem?_concat_length, ?_⟩
        by_contra apart
        have other : id ≠ channel := apart
        simp [TableEvent.onChannel, other] at now
    | data free | closed free =>
        simp [TableEvent.onChannel] at now
    | _ => cases now

/-- The burst of the link probe says nothing on any channel. -/
theorem heard_probesSent {trace : List ClientAction} {client : Client}
    (run : Run Client.step (.start dnsEnabled) trace client)
    (channel : UInt16) : heard channel (probesSent trace) = [] := by
  rw [heard, List.filterMap_eq_nil_iff]
  intro frame member
  have ping := (probe_frame
    ((ClientStream.of_run run).probes frame member)).1
  apply heardOn_eq_none
  apply isTcpOn_of_command
  rw [Frame.command, ping]
  rfl

/-- The server's channel has been told all that the application gave. -/
theorem Resting.conveyed_up (rest : Resting system)
    (run : Run System.step (.start dnsEnabled resolvers) trace system)
    (few : (ledgerOf (clientTrace trace)).taken ≤ idCycle)
    (unhindered : Unhindered system) {near : Nat} {here : Conn}
    (present : system.client.channels.conns[near]? = some here) :
    Conveys here.target (nearEvents trace near)
      (channelEvents here.channel (tcpEvents (serverTrace trace))) := by
  have clientRun := run_client run
  have told : channelEvents here.channel (tcpEvents (serverTrace trace)) =
      heard here.channel (sentFrames (nearEvents trace near)) := by
    rw [channelEvents_tcpEvents (run_server run),
      (rest.up_read run unhindered.server).2, heard_append,
      heard_probesSent clientRun, List.nil_append, ← heard_tcpOn,
      tcpOn_clientFrames_conn clientRun few present]
    rfl
  rcases (knownTargets_of_run clientRun).conns here
    (List.mem_of_getElem? present) with ⟨address, target⟩
  rw [told]
  refine Conveys.of_client (run_conn (run_channels clientRun) present)
    (clientSendFailed_notMem run near) ?_
    ((rest.client_still run).parked unhindered.client present)
  rw [target]
  exact comma_notMem_originalDst address

/-- The client's channel has been told all that the target gave. -/
theorem Resting.conveyed_down (rest : Resting system)
    (run : Run System.step (.start dnsEnabled resolvers) trace system)
    (few : (ledgerOf (clientTrace trace)).taken ≤ idCycle)
    (unhindered : Unhindered system) {near far : Nat} {here there : Conn}
    (present : system.client.channels.conns[near]? = some here)
    (remote : system.server.tcp.conns[far]? = some there)
    (same : there.channel = here.channel) :
    Conveys here.target (farEvents trace far)
      (channelEvents here.channel (channelTrace (clientTrace trace))) := by
  have hearing := (Hearing.of_run run few here.channel).used here
    (List.mem_of_getElem? present) rfl
  have told : heard here.channel (clientReads (clientTrace trace)) =
      heard here.channel (sentFrames (farEvents trace far)) := by
    rw [(rest.down_read run unhindered.client).2, ← heard_tcpOn, ← same,
      tcpOn_serverFrames_conn run few remote]
    rfl
  rw [hearing, told, ← same]
  exact Conveys.of_server here.target
    (run_conn (run_tcp (run_server run)) remote)
    (serverSendFailed_notMem run far)
    (rest.server.parked run unhindered.server remote)

/-- At rest everything has arrived, unless a frame loop is held up. -/
theorem Resting.arrived (rest : Resting system)
    (run : Run System.step (.start dnsEnabled resolvers) trace system)
    (few : (ledgerOf (clientTrace trace)).taken ≤ idCycle)
    (unhindered : Unhindered system) : Arrived trace system := by
  have tcpRun := run_tcp (run_server run)
  have channelsRun := run_channels (run_client run)
  constructor
  · exact unhindered
  · exact (rest.up_read run unhindered.server).1
  · exact (rest.down_read run unhindered.client).1
  · exact rest.client_out run
  · exact rest.server.out run
  · intro near bound
    have present := List.getElem?_eq_getElem bound
    rcases conn_of_opened tcpRun
      (rest.conveyed_up run few unhindered present).opened with
      ⟨far, there, remote, same⟩
    exact ⟨far, joined_of_channel run few present remote same⟩
  · intro near far there joined remote
    rcases joined with ⟨here, other, present, found, same, _⟩
    rcases Option.some.inj (found.symm.trans remote) with rfl
    have conveys := rest.conveyed_up run few unhindered present
    rw [← same] at conveys
    exact Whole.of_conveys tcpRun unhindered.server remote
      (rest.server.parked run unhindered.server remote)
      (serverSendFailed_notMem run far) conveys
  · intro near far here joined present
    rcases joined with ⟨other, there, found, remote, same, _⟩
    rcases Option.some.inj (found.symm.trans present) with rfl
    have conveys := rest.conveyed_down run few unhindered present remote same
    rcases unconnected_of_client (run_conn channelsRun present) with
      ⟨elsewhere, unfailed⟩
    rcases Whole.of_conveys channelsRun unhindered.client present
      ((rest.client_still run).parked unhindered.client present)
      (clientSendFailed_notMem run near) conveys with
      ⟨connecting | blocked, awaits⟩ | (failed | broken) | whole
    · exact (elsewhere connecting).elim
    · exact .inl ⟨blocked, awaits⟩
    · exact (unfailed failed).elim
    · exact .inr (.inl broken)
    · exact .inr (.inr whole)

end Connections

end KubectlSshuttle.Rushtle
