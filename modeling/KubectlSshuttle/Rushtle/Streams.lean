import KubectlSshuttle.Rushtle.SyncHeader
import KubectlSshuttle.Rushtle.System

/-!
# The two byte streams

What one process has written is what the other has read and what is still in
the pipe.  As the frames are self-delimiting, each process reads a prefix of
the frames that the other has put on its `out_tx`, whatever the writers and
readers have done to them in between.
-/

namespace KubectlSshuttle.Rushtle

open KubectlSshuttle.Lib
open KubectlSshuttle.Lib.RustText
open KubectlSshuttle.Lib.Address
open KubectlSshuttle.Lib.Transition
open KubectlSshuttle.Rushtle.Ssnet
open KubectlSshuttle.Rushtle.Connection
open KubectlSshuttle.Rushtle.Channels
open KubectlSshuttle.Rushtle.OutQueue
open KubectlSshuttle.Rushtle.UdpFlows

/-! ## Histories -/

/-- The PING that the probe sends. -/
def ClientAction.probe? : ClientAction → Option Frame
  | .probeSent frame => some frame
  | _ => none

/-- The frame that the client reads. -/
def ClientAction.read? : ClientAction → Option Frame
  | .probeRead frame | .recv frame => some frame
  | _ => none

/-- The bytes that the client has written. -/
def clientStream (trace : List ClientAction) : Bytes :=
  trace.flatMap ClientAction.written

/-- The frames of the link probe. -/
def probesSent (trace : List ClientAction) : List Frame :=
  trace.filterMap ClientAction.probe?

/-- The frames that the client has read, the probe's answers included. -/
def clientReads (trace : List ClientAction) : List Frame :=
  trace.filterMap ClientAction.read?

/-- The frames that got into the client's outbound queue. -/
def clientFrames (trace : List ClientAction) : List Frame :=
  enqueuedFrames (clientOutEvents trace)

/-- The bytes that the server has written. -/
def serverStream (trace : List ServerAction) : Bytes :=
  trace.flatMap ServerAction.written

/-- The frames that the server has read. -/
def serverReads (trace : List ServerAction) : List Frame :=
  trace.filterMap ServerAction.received?

/-- The frames that got into the server's outbound queue. -/
def serverFrames (trace : List ServerAction) : List Frame :=
  enqueuedFrames (outEvents trace)

section Snoc

theorem clientStream_snoc (trace : List ClientAction)
    (action : ClientAction) :
    clientStream (trace ++ [action]) =
      clientStream trace ++ action.written := by
  simp [clientStream]

theorem probesSent_snoc (trace : List ClientAction)
    (action : ClientAction) :
    probesSent (trace ++ [action]) =
      probesSent trace ++ action.probe?.toList := by
  cases h : action.probe? <;> simp [probesSent, h]

theorem clientReads_snoc (trace : List ClientAction)
    (action : ClientAction) :
    clientReads (trace ++ [action]) =
      clientReads trace ++ action.read?.toList := by
  cases h : action.read? <;> simp [clientReads, h]

theorem clientOutEvents_snoc (trace : List ClientAction)
    (action : ClientAction) :
    clientOutEvents (trace ++ [action]) =
      clientOutEvents trace ++ action.out?.toList := by
  cases h : action.out? <;> simp [clientOutEvents, h]

theorem serverStream_snoc (trace : List ServerAction)
    (action : ServerAction) :
    serverStream (trace ++ [action]) =
      serverStream trace ++ action.written := by
  simp [serverStream]

theorem serverReads_snoc (trace : List ServerAction)
    (action : ServerAction) :
    serverReads (trace ++ [action]) =
      serverReads trace ++ action.received?.toList := by
  cases h : action.received? <;> simp [serverReads, h]

theorem outEvents_snoc (trace : List ServerAction) (action : ServerAction) :
    outEvents (trace ++ [action]) =
      outEvents trace ++ action.out?.toList := by
  cases h : action.out? <;> simp [outEvents, h]

end Snoc

/-! ## The client's stream -/

theorem probe_frame {frame : Frame} (member : frame ∈ probeFrames) :
    frame.cmd = cmdPing ∧ frame.data.length = probeFramePayload := by
  rcases List.mem_mapIdx.mp member with ⟨place, bound, rfl⟩
  refine ⟨rfl, ?_⟩
  simp [makeProbePayloads]

theorem fits_probe (frame : Frame) (member : frame ∈ probeFrames) :
    Fits frame := by
  rw [Fits, (probe_frame member).2]
  decide

/-- The probe comes first; then the writer task alone writes. -/
structure ClientStream (trace : List ClientAction) (client : Client) :
    Prop where
  stream : clientStream trace =
    framesBytes (probesSent trace) ++ writtenBytes (clientOutEvents trace)
  quiet : client.link ≠ .up → clientOutEvents trace = []
  probes : ∀ frame ∈ probesSent trace, frame ∈ probeFrames
  rest : ∀ retried rest, client.link = .probing retried rest →
    ∀ frame ∈ rest, frame ∈ probeFrames

/-- The link set-up sends what is left of the burst. -/
theorem probes_of_stepLink {client next : Client} {action : ClientAction}
    (taken : client.stepLink action = some next)
    (known : ∀ retried rest, client.link = .probing retried rest →
      ∀ frame ∈ rest, frame ∈ probeFrames) :
    (∀ frame, action.probe? = some frame → frame ∈ probeFrames) ∧
      ∀ retried rest, next.link = .probing retried rest →
        ∀ frame ∈ rest, frame ∈ probeFrames := by
  cases LinkMoves.of_stepLink taken with
  | synced syncing =>
      refine ⟨by simp [ClientAction.probe?], ?_⟩
      intro retried rest probing
      split at probing
      · rcases LinkTask.probing.inj probing with ⟨_, rfl⟩
        exact fun _ => id
      · cases probing
  | probeSent probing =>
      have burst := known _ _ probing
      constructor
      · intro other sent
        rcases Option.some.inj sent with rfl
        exact burst _ List.mem_cons_self
      · intro retried' rest' probing'
        split at probing'
        · cases probing'
        · rcases LinkTask.probing.inj probing' with ⟨_, rfl⟩
          exact fun other member =>
            burst other (List.mem_cons_of_mem _ member)
  | probeRead awaiting => exact ⟨by simp [ClientAction.probe?], known⟩
  | probeRetry awaiting =>
      refine ⟨by simp [ClientAction.probe?], ?_⟩
      intro retried rest probing
      rcases LinkTask.probing.inj probing with ⟨_, rfl⟩
      exact fun _ => id
  | linkUp awaiting => exact ⟨by simp [ClientAction.probe?], by simp⟩
  | linkFailed down => exact ⟨by simp [ClientAction.probe?], by simp⟩

/-- Once the link is up it stays up, and the probe is over. -/
theorem ClientMoves.up {client next : Client} {action : ClientAction}
    (moved : ClientMoves client action next) (up : client.link = .up) :
    next.link = .up ∧ action.probe? = none ∧
      action.written = action.out?.toList.flatMap OutEvent.written := by
  cases moved with
  | link down taken => exact (down up).elim
  | recv before idle free dispatched =>
      cases dispatched <;> exact ⟨up, rfl, rfl⟩
  | writer before own unclosed taken =>
      exact ⟨up, rfl, by simp [ClientAction.written, ClientAction.out?]⟩
  | _ => exact ⟨up, rfl, rfl⟩

theorem ClientStream.step {trace : List ClientAction} {client next : Client}
    {action : ClientAction} (invariant : ClientStream trace client)
    (taken : client.step action = some next) :
    ClientStream (trace ++ [action]) next := by
  have moved := ClientMoves.of_step taken
  by_cases up : client.link = .up
  · rcases moved.up up with ⟨still, noProbe, writes⟩
    have sameProbes : probesSent (trace ++ [action]) = probesSent trace := by
      rw [probesSent_snoc, noProbe]
      simp
    constructor
    · rw [clientStream_snoc, sameProbes, invariant.stream,
        clientOutEvents_snoc, writes, List.append_assoc]
      simp [writtenBytes]
    · exact fun down => (down still).elim
    · rw [sameProbes]
      exact invariant.probes
    · intro retried rest probing
      rw [still] at probing
      cases probing
  · have quiet := invariant.quiet up
    have step : client.stepLink action = some next := by
      rwa [Client.step, if_neg up] at taken
    have noOut : action.out? = none := by
      cases LinkMoves.of_stepLink step <;> rfl
    have stillQuiet : clientOutEvents (trace ++ [action]) = [] := by
      rw [clientOutEvents_snoc, quiet, noOut]
      rfl
    have writes : action.written =
        action.probe?.toList.flatMap frameBytes := by
      cases LinkMoves.of_stepLink step <;>
        simp [ClientAction.written, ClientAction.probe?]
    rcases probes_of_stepLink step invariant.rest with ⟨sends, leaves⟩
    constructor
    · rw [clientStream_snoc, probesSent_snoc, stillQuiet, invariant.stream,
        quiet, writes]
      simp [writtenBytes, SelfDelimiting.encodeAll, frameCode]
    · exact fun _ => stillQuiet
    · intro frame member
      rw [probesSent_snoc] at member
      rcases List.mem_append.mp member with earlier | now
      · exact invariant.probes frame earlier
      · exact sends frame (by simpa using now)
    · exact leaves

theorem ClientStream.of_run {dnsEnabled : Bool} {trace : List ClientAction}
    {client : Client}
    (run : Run Client.step (.start dnsEnabled) trace client) :
    ClientStream trace client := by
  refine run.invariant (motive := ClientStream) ?_
    (fun _ _ _ _ _ invariant taken => invariant.step taken)
  constructor
  · rfl
  · exact fun _ => rfl
  · intro frame member
    cases member
  · intro retried rest probing
    cases probing

/-! ## The server's stream -/

/-- The server before its header is written. -/
def Server.greetingWith (resolvers : List SocketAddr) (rest : Bytes) :
    Server :=
  { Server.start resolvers with main := .greeting rest }

/-- The header comes first; then the writer task alone writes. -/
inductive ServerStream (resolvers : List SocketAddr)
    (trace : List ServerAction) (server : Server) : Prop where
  | greeting {rest : Bytes} (state : server = .greetingWith resolvers rest)
      (header : serverStream trace ++ rest = syncHeader)
      (quiet : outEvents trace = [])
  | failed (main : server.main = .exited)
      (header : serverStream trace <+: syncHeader)
      (quiet : outEvents trace = [])
  | serving (awake : ∀ rest, server.main ≠ .greeting rest)
      (stream : serverStream trace =
        syncHeader ++ writtenBytes (outEvents trace))

/-- Before the header is written the server does nothing else. -/
theorem ServerMoves.of_greeting {resolvers : List SocketAddr} {rest : Bytes}
    {next : Server} {action : ServerAction}
    (moved : ServerMoves (.greetingWith resolvers rest) action next) :
    (∃ bytes left, action = .header bytes ∧ rest = bytes ++ left ∧
      (left = [] ∧ next.main = .sending .chicken [.routes] ∨
        next = .greetingWith resolvers left)) ∨
      action = .headerFailed ∧ next.main = .exited := by
  cases moved with
  | @header bytes left main nonempty =>
      have whole : rest = bytes ++ left := MainTask.greeting.inj main
      refine Or.inl ⟨bytes, left, rfl, whole, ?_⟩
      by_cases done : left = []
      · exact Or.inl ⟨done, by simp [done]⟩
      · exact Or.inr (by simp [done, Server.greetingWith])
  | headerFailed main => exact Or.inr ⟨rfl, rfl⟩
  | recv idle dispatched => cases idle
  | stop idle => cases idle
  | replySent main queued => cases main
  | connSent queued taken => cases taken
  | dnsSent queued found taken => cases found
  | udpSent queued taken => cases taken
  | replyRefused main refused => cases main
  | connRefused refused taken => cases taken
  | dnsRefused refused found taken => cases found
  | udpRefused refused taken => cases taken
  | @writer event out own senders taken =>
      cases event with
      | enqueued frame => cases own
      | refused frame => cases own
      | closed => cases senders rfl
      | _ => cases taken
  | @tcp event tcp own taken =>
      cases event with
      | opened channel target => cases own
      | data channel bytes => cases own
      | closed channel cause => cases own
      | _ => cases taken
  | dns own found taken => cases found
  | @udp event udp own taken =>
      cases event with
      | opened channel family => cases own
      | data channel datagram => cases own
      | closed channel => cases own
      | _ => cases taken
  | bound main taken => cases main
  | bindFailed main => cases main
  | hosts main => cases main
  | exited main ended => cases main

/-- Once the header is written the writer task alone writes. -/
theorem ServerMoves.awake {server next : Server} {action : ServerAction}
    (moved : ServerMoves server action next)
    (awake : ∀ rest, server.main ≠ .greeting rest) :
    (∀ rest, next.main ≠ .greeting rest) ∧
      action.written = action.out?.toList.flatMap OutEvent.written := by
  cases moved with
  | header main nonempty => exact (awake _ main).elim
  | headerFailed main => exact (awake _ main).elim
  | recv idle dispatched =>
      refine ⟨?_, rfl⟩
      cases dispatched with
      | @main task asked noTcp noUdp =>
          rintro rest rfl
          unfold mainCommand at asked
          split at asked <;> try cases asked
          split at asked <;> cases asked
      | ignored noMain noTcp noUdp => exact awake
      | tcp asked noMain noUdp taken => exact awake
      | udp asked noMain noTcp taken => exact awake
      | dns noMain noTcp noUdp request => exact awake
  | @replySent reply more out main queued =>
      refine ⟨?_, rfl⟩
      cases more <;> exact fun _ => MainTask.noConfusion
  | @replyRefused reply more out main refused =>
      refine ⟨?_, rfl⟩
      cases more <;> exact fun _ => MainTask.noConfusion
  | writer own senders taken =>
      exact ⟨awake, by simp [ServerAction.written, ServerAction.out?]⟩
  | stop idle => exact ⟨fun _ => MainTask.noConfusion, rfl⟩
  | bound main taken => exact ⟨fun _ => MainTask.noConfusion, rfl⟩
  | bindFailed main => exact ⟨fun _ => MainTask.noConfusion, rfl⟩
  | hosts main => exact ⟨fun _ => MainTask.noConfusion, rfl⟩
  | exited main ended => exact ⟨fun _ => MainTask.noConfusion, rfl⟩
  | _ => exact ⟨awake, rfl⟩

theorem ServerStream.step {resolvers : List SocketAddr}
    {trace : List ServerAction} {server next : Server}
    {action : ServerAction} (invariant : ServerStream resolvers trace server)
    (taken : server.step action = some next) :
    ServerStream resolvers (trace ++ [action]) next := by
  cases invariant with
  | @greeting rest state header quiet =>
      subst state
      rcases (ServerMoves.of_step taken).of_greeting with
        ⟨bytes, left, rfl, rfl, after⟩ | ⟨rfl, exited⟩
      · have stillQuiet : outEvents (trace ++ [.header bytes]) = [] := by
          rw [outEvents_snoc, quiet]
          rfl
        have written : serverStream (trace ++ [.header bytes]) ++ left =
            syncHeader := by
          rw [serverStream_snoc, ← header]
          simp [ServerAction.written]
        rcases after with ⟨rfl, main⟩ | rfl
        · refine .serving ?_ ?_
          · rw [main]
            exact fun _ => MainTask.noConfusion
          · rw [stillQuiet, ← written]
            simp [writtenBytes]
        · exact .greeting rfl written stillQuiet
      · refine .failed exited ?_ ?_
        · rw [serverStream_snoc]
          exact ⟨rest, by simpa [ServerAction.written] using header⟩
        · rw [outEvents_snoc, quiet]
          rfl
  | failed main header quiet =>
      unfold Server.step at taken
      rw [if_pos main] at taken
      cases taken
  | serving awake stream =>
      rcases (ServerMoves.of_step taken).awake awake with ⟨still, writes⟩
      refine .serving still ?_
      rw [serverStream_snoc, stream, outEvents_snoc, writes]
      simp [writtenBytes]

theorem ServerStream.of_run {resolvers : List SocketAddr}
    {trace : List ServerAction} {server : Server}
    (run : Run Server.step (.start resolvers) trace server) :
    ServerStream resolvers trace server :=
  run.invariant (motive := ServerStream resolvers)
    (.greeting rfl rfl rfl)
    (fun _ _ _ _ _ invariant taken => invariant.step taken)

/-- The server's stream is the header and the frames of `out_tx`. -/
theorem serverStream_isPrefix {resolvers : List SocketAddr}
    {trace : List ServerAction} {server : Server}
    (run : Run Server.step (.start resolvers) trace server) :
    ∃ accepted : List Frame, (∀ frame ∈ accepted, Fits frame) ∧
      accepted <+: serverFrames trace ∧
        serverStream trace <+: syncHeader ++ framesBytes accepted := by
  cases ServerStream.of_run run with
  | greeting state header quiet =>
      exact ⟨[], by simp, List.nil_prefix, ⟨_, by simpa using header⟩⟩
  | failed main header quiet =>
      exact ⟨[], by simp, List.nil_prefix, by simpa using header⟩
  | serving awake stream =>
      rcases (OutInv.of_run (run_out run)).ever with
        ⟨accepted, fits, within, bytes⟩
      refine ⟨accepted, fits, within, ?_⟩
      rw [stream]
      exact (List.prefix_append_right_inj _).mpr bytes

/-- The client's stream is the probe and the frames of `out_tx`. -/
theorem clientStream_isPrefix {dnsEnabled : Bool}
    {trace : List ClientAction} {client : Client}
    (run : Run Client.step (.start dnsEnabled) trace client) :
    ∃ accepted : List Frame, (∀ frame ∈ accepted, Fits frame) ∧
      accepted <+: probesSent trace ++ clientFrames trace ∧
        clientStream trace <+: framesBytes accepted := by
  have invariant := ClientStream.of_run run
  rcases (OutInv.of_run (run_clientOut run)).ever with
    ⟨accepted, fits, within, bytes⟩
  refine ⟨probesSent trace ++ accepted, ?_, ?_, ?_⟩
  · intro frame member
    rcases List.mem_append.mp member with probe | queued
    · exact fits_probe frame (invariant.probes frame probe)
    · exact fits frame queued
  · exact (List.prefix_append_right_inj _).mpr within
  · rw [invariant.stream]
    simp only [framesBytes, SelfDelimiting.encodeAll_append]
    exact (List.prefix_append_right_inj _).mpr bytes

/-! ## Reading from a pipe -/

theorem eq_of_takeFrame {pipe rest : Bytes} {frame : Frame}
    (taken : takeFrame pipe frame = some rest) :
    Fits frame ∧ pipe = frameBytes frame ++ rest := by
  unfold takeFrame at taken
  split at taken
  · next found left read =>
      simp only [Option.ite_none_right_eq_some, Option.some.injEq] at taken
      rcases taken with ⟨rfl, rfl⟩
      exact readFrame_sound read
  · cases taken
  · cases taken

/-- Reading the header of a stream that starts with it takes just that. -/
theorem eq_of_readSyncHeader {pipe rest tail : Bytes}
    (starts : pipe <+: syncHeader ++ tail)
    (read : readSyncHeader pipe = .ok rest) : pipe = syncHeader ++ rest := by
  rcases readSyncHeader_eq_ok_iff.mp read with
    ⟨first, second, rfl, silent, still⟩
  rcases starts with ⟨missing, whole⟩
  have noFirst : first = [] := by
    cases first with
    | nil => rfl
    | cons byte more =>
        have zero : byte = 0 := (List.cons.inj whole).1
        exact (silent (by simp [zero])).elim
  subst noFirst
  have noSecond : second = [] := by
    cases second with
    | nil => rfl
    | cons byte more =>
        have zero : byte = 0 :=
          (List.cons.inj (List.cons.inj whole).2).1
        exact (still (by simp [zero])).elim
  rw [noSecond]
  rfl

/-! ## What is in the pipes -/

/-- What the client has read in front of the first frame. -/
def headerTaken (client : Client) : Bytes :=
  if client.link = .syncing then [] else syncHeader

/-- A pipe holds what was written and has not been read. -/
structure PipesInv (trace : List SystemAction) (system : System) : Prop where
  up : clientStream (clientTrace trace) =
    framesBytes (serverReads (serverTrace trace)) ++ system.up
  down : serverStream (serverTrace trace) =
    headerTaken system.client ++
      framesBytes (clientReads (clientTrace trace)) ++ system.down
  fitsUp : ∀ frame ∈ serverReads (serverTrace trace), Fits frame
  fitsDown : ∀ frame ∈ clientReads (clientTrace trace), Fits frame
  unread : system.client.link = .syncing →
    clientReads (clientTrace trace) = []

/-- What an action of the server takes from its pipe. -/
theorem ServerAction.eq_of_drain {action : ServerAction} {pipe rest : Bytes}
    (drained : action.drain pipe = some rest) :
    (∀ frame, action.received? = some frame → Fits frame) ∧
      pipe = framesBytes action.received?.toList ++ rest := by
  cases action with
  | recv frame =>
      rcases eq_of_takeFrame drained with ⟨fits, shape⟩
      refine ⟨?_, ?_⟩
      · intro other received
        rcases Option.some.inj received with rfl
        exact fits
      · simpa [ServerAction.received?, framesBytes] using shape
  | stop =>
      simp only [ServerAction.drain, Option.ite_none_right_eq_some,
        Option.some.injEq] at drained
      exact ⟨by simp [ServerAction.received?], drained.2⟩
  | headerFailed => cases drained
  | writer event =>
      refine ⟨by simp [ServerAction.received?], ?_⟩
      cases event <;> first | exact Option.some.inj drained | cases drained
  | _ =>
      exact ⟨by simp [ServerAction.received?], Option.some.inj drained⟩

/-- What an action of the client takes from its pipe, the header apart. -/
theorem ClientAction.eq_of_drain {action : ClientAction} {pipe rest : Bytes}
    (drained : action.drain pipe = some rest)
    (other : ∀ probe, action ≠ .synced probe) :
    action ≠ .linkFailed ∧
    (∀ frame, action.read? = some frame → Fits frame) ∧
      pipe = framesBytes action.read?.toList ++ rest := by
  cases action with
  | synced probe => exact (other probe rfl).elim
  | probeRead frame =>
      rcases eq_of_takeFrame drained with ⟨fits, shape⟩
      refine ⟨by simp, ?_, ?_⟩
      · intro other received
        rcases Option.some.inj received with rfl
        exact fits
      · simpa [ClientAction.read?, framesBytes] using shape
  | recv frame =>
      rcases eq_of_takeFrame drained with ⟨fits, shape⟩
      refine ⟨by simp, ?_, ?_⟩
      · intro other received
        rcases Option.some.inj received with rfl
        exact fits
      · simpa [ClientAction.read?, framesBytes] using shape
  | demuxEnded =>
      simp only [ClientAction.drain, Option.ite_none_right_eq_some,
        Option.some.injEq] at drained
      exact ⟨by simp, by simp [ClientAction.read?], drained.2⟩
  | linkFailed => cases drained
  | writer event =>
      refine ⟨by simp, by simp [ClientAction.read?], ?_⟩
      cases event <;> first | exact Option.some.inj drained | cases drained
  | _ =>
      exact ⟨by simp, by simp [ClientAction.read?],
        Option.some.inj drained⟩

/-- The header is read once, before everything else. -/
theorem ClientMoves.link_cases {client next : Client} {action : ClientAction}
    (moved : ClientMoves client action next)
    (running : action ≠ .linkFailed) :
    (∃ probe, action = .synced probe ∧ client.link = .syncing ∧
      next.link ≠ .syncing) ∨
      (∀ probe, action ≠ .synced probe) ∧ client.link ≠ .syncing ∧
        next.link ≠ .syncing := by
  by_cases up : client.link = .up
  · right
    rcases moved.up up with ⟨still, _, _⟩
    refine ⟨?_, by simp [up], by simp [still]⟩
    rintro probe rfl
    cases moved with
    | link down taken => exact down up
  · cases moved with
    | link down taken =>
        cases LinkMoves.of_stepLink taken with
        | @synced probe syncing =>
            refine Or.inl ⟨probe, rfl, syncing, ?_⟩
            cases probe <;> simp
        | @probeSent retried frame rest probing =>
            refine Or.inr ⟨by simp, by simp [probing], ?_⟩
            by_cases last : rest = [] <;> simp [last]
        | probeRead awaiting =>
            exact Or.inr ⟨by simp, by simp [awaiting], by simp [awaiting]⟩
        | probeRetry awaiting =>
            exact Or.inr ⟨by simp, by simp [awaiting], by simp⟩
        | linkUp awaiting =>
            exact Or.inr ⟨by simp, by simp [awaiting], by simp⟩
        | linkFailed down => exact (running rfl).elim
    | _ => contradiction

section Step

variable {dnsEnabled : Bool} {resolvers : List SocketAddr}
  {trace : List SystemAction} {system next : System}

theorem PipesInv.client {action : ClientAction} {client : Client}
    {down : Bytes} (invariant : PipesInv trace system)
    (run : Run Server.step (.start resolvers) (serverTrace trace)
      system.server)
    (drained : action.drain system.down = some down)
    (taken : system.client.step action = some client) :
    PipesInv (trace ++ [.client action])
      { system with
        client := client
        up := system.up ++ action.written
        down := down } := by
  have up : clientStream (clientTrace (trace ++ [.client action])) =
      framesBytes (serverReads (serverTrace (trace ++ [.client action]))) ++
        (system.up ++ action.written) := by
    rw [clientTrace_client, clientStream_snoc, serverTrace_client,
      invariant.up, List.append_assoc]
  have running : action ≠ .linkFailed := by
    rintro rfl
    cases drained
  rcases (ClientMoves.of_step taken).link_cases running with
    ⟨probe, rfl, syncing, synced⟩ | ⟨other, wasSynced, synced⟩
  · have unread := invariant.unread syncing
    have untaken := invariant.down
    simp only [headerTaken, syncing, if_true, unread, List.nil_append,
      SelfDelimiting.encodeAll_nil] at untaken
    rcases serverStream_isPrefix run with ⟨accepted, _, _, starts⟩
    have read : readSyncHeader system.down = .ok down := by
      simp only [ClientAction.drain] at drained
      split at drained
      · next rest read =>
          rcases Option.some.inj drained with rfl
          exact read
      · cases drained
    have shape := eq_of_readSyncHeader (untaken ▸ starts) read
    refine ⟨up, ?_, ?_, ?_, fun still => (synced still).elim⟩
    · rw [serverTrace_client, untaken, shape]
      simp [headerTaken, synced, clientReads_snoc, ClientAction.read?, unread]
    · simpa using invariant.fitsUp
    · simp [clientReads_snoc, ClientAction.read?, unread]
  · rcases ClientAction.eq_of_drain drained other with ⟨_, fits, shape⟩
    refine ⟨up, ?_, ?_, ?_, fun still => (synced still).elim⟩
    · rw [serverTrace_client, clientTrace_client, clientReads_snoc,
        invariant.down, shape]
      simp [headerTaken, synced, wasSynced, framesBytes]
    · simpa using invariant.fitsUp
    · intro frame member
      rw [clientTrace_client, clientReads_snoc] at member
      rcases List.mem_append.mp member with earlier | now
      · exact invariant.fitsDown frame earlier
      · exact fits frame (by simpa using now)

theorem PipesInv.server {action : ServerAction} {server : Server}
    {up : Bytes} (invariant : PipesInv trace system)
    (drained : action.drain system.up = some up) :
    PipesInv (trace ++ [.server action])
      { system with
        server := server
        up := up
        down := system.down ++ action.written } := by
  rcases ServerAction.eq_of_drain drained with ⟨fits, shape⟩
  refine ⟨?_, ?_, ?_, ?_, ?_⟩
  · rw [clientTrace_server, serverTrace_server, serverReads_snoc,
      invariant.up, shape]
    simp [framesBytes]
  · rw [clientTrace_server, serverTrace_server, serverStream_snoc,
      invariant.down]
    simp
  · intro frame member
    rw [serverTrace_server, serverReads_snoc] at member
    rcases List.mem_append.mp member with earlier | now
    · exact invariant.fitsUp frame earlier
    · exact fits frame (by simpa using now)
  · simpa using invariant.fitsDown
  · simpa using invariant.unread

theorem PipesInv.of_run
    (run : Run System.step (.start dnsEnabled resolvers) trace system) :
    PipesInv trace system := by
  refine run.invariant (motive := PipesInv) ?_ ?_
  · refine ⟨rfl, rfl, ?_, ?_, fun _ => rfl⟩
    · intro frame member
      cases member
    · intro frame member
      cases member
  · intro trace system action next earlier invariant taken
    cases SystemMoves.of_step taken with
    | client drained moved =>
        exact invariant.client (run_server earlier) drained moved
    | server drained moved => exact invariant.server drained

/-- The server reads what the client has sent, in order. -/
theorem serverReads_isPrefix
    (run : Run System.step (.start dnsEnabled resolvers) trace system) :
    serverReads (serverTrace trace) <+:
      probesSent (clientTrace trace) ++ clientFrames (clientTrace trace) := by
  have invariant := PipesInv.of_run run
  rcases clientStream_isPrefix (run_client run) with
    ⟨accepted, fits, within, bytes⟩
  refine List.IsPrefix.trans ?_ within
  refine frameCode.isPrefix_of_encodeAll_isPrefix invariant.fitsUp fits ?_
  rw [invariant.up] at bytes
  exact (List.prefix_append _ _).trans bytes

/-- The client reads what the server has sent, in order. -/
theorem clientReads_isPrefix
    (run : Run System.step (.start dnsEnabled resolvers) trace system) :
    clientReads (clientTrace trace) <+:
      serverFrames (serverTrace trace) := by
  have invariant := PipesInv.of_run run
  rcases serverStream_isPrefix (run_server run) with
    ⟨accepted, fits, within, bytes⟩
  refine List.IsPrefix.trans ?_ within
  refine frameCode.isPrefix_of_encodeAll_isPrefix invariant.fitsDown fits ?_
  by_cases syncing : system.client.link = .syncing
  · simp [invariant.unread syncing]
  · rw [invariant.down, headerTaken, if_neg syncing, List.append_assoc]
      at bytes
    exact (List.prefix_append _ _).trans
      ((List.prefix_append_right_inj _).mp bytes)

end Step

end KubectlSshuttle.Rushtle
