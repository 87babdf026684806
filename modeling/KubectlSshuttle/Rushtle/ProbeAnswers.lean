import KubectlSshuttle.Rushtle.ComingToRest
import KubectlSshuttle.Rushtle.ProbeDecision

/-!
# The link probe over sound pipes

Over pipes that lose nothing the probe finds nothing wrong.  While the link is
set up the server sends its two opening frames and one `PONG` for each `PING`,
and nothing else; so no frame that reaches the probe mismatches, and when the
processes have nothing left to do but to end the probe, it has every answer.
Only its timer can make it fail.  The timer of a first probe may drop a frame
that was partly read; what is said of a second probe supposes that it did not.
-/

namespace KubectlSshuttle.Rushtle

open KubectlSshuttle.Lib
open KubectlSshuttle.Lib.RustText
open KubectlSshuttle.Lib.Address
open KubectlSshuttle.Lib.Settling
open KubectlSshuttle.Lib.Transition
open KubectlSshuttle.Rushtle.Ssnet
open KubectlSshuttle.Rushtle.Connection
open KubectlSshuttle.Rushtle.Channels
open KubectlSshuttle.Rushtle.OutQueue
open KubectlSshuttle.Rushtle.UdpFlows
open KubectlSshuttle.Rushtle.Probe

/-! ## The server during the set-up -/

/-- The frames that the frame loop is about to send. -/
def MainTask.replies : MainTask → List Frame
  | .greeting _ => openingFrames
  | .sending reply more => (reply :: more).map MainReply.frame
  | _ => []

/-- The server has only opened and answered, or is about to. -/
structure Prompted (reads frames : List Frame) (server : Server) :
    Prop where
  quiet : Quiet server
  sent : frames ++ server.main.replies =
    openingFrames ++ reads.filterMap pongFor

theorem MainTask.replies_sendAll (replies : List MainReply) :
    (MainTask.sendAll replies).replies = replies.map MainReply.frame := by
  cases replies <;> rfl

/-- A `PING` makes the frame loop send its answer. -/
theorem mainCommand_ping {frame : Frame} (ping : frame.cmd = cmdPing) :
    mainCommand frame =
      some (.sending (.pong frame.channel frame.data) []) := by
  have command : frame.command = .ping := by
    rw [Frame.command, ping]
    rfl
  rw [mainCommand, command]

section Prompted

variable {reads frames : List Frame} {server next : Server}
  {action : ServerAction}

/-- Nothing is asked of the server but answers to `PING` frames. -/
theorem Prompted.step (prompted : Prompted reads frames server)
    (taken : server.step action = some next)
    (goesOn : server.main.goesOn = true)
    (running : action ≠ .headerFailed)
    (accepted : ∀ source frame, action ≠ .refused source frame)
    (pings : ∀ frame, action = .recv frame → frame.cmd = cmdPing) :
    Prompted (reads ++ action.received?.toList)
      (frames ++ action.enqueued?.toList) next := by
  rcases prompted with ⟨quiet, sent⟩
  have noTcp : ∀ event tcp, ownTableEvent event = true →
      server.tcp.step .server event ≠ some tcp := by
    intro event tcp own stepped
    rw [quiet.tcp] at stepped
    cases event with
    | opened | data | closed => cases own
    | _ => cases stepped
  have noUdp : ∀ event udp, ownUdpEvent event = true →
      server.udp.step event ≠ some udp := by
    intro event udp own stepped
    rw [quiet.udp] at stepped
    cases event with
    | opened | data | closed => cases own
    | _ => cases stepped
  have noDns : ∀ (member : Nat) query,
      server.dns[member]? ≠ some query := by
    intro member query found
    rw [quiet.dns] at found
    cases found
  cases ServerMoves.of_step taken with
  | headerFailed => exact (running rfl).elim
  | replyRefused | connRefused | dnsRefused | udpRefused =>
      exact (accepted _ _ rfl).elim
  | bound main | bindFailed main | hosts main | exited main =>
      rw [main] at goesOn
      cases goesOn
  | dnsSent queued found stepped => exact (noDns _ _ found).elim
  | dns own found stepped => exact (noDns _ _ found).elim
  | tcp own stepped => exact (noTcp _ _ own stepped).elim
  | udp own stepped => exact (noUdp _ _ own stepped).elim
  | connSent queued stepped =>
      rw [quiet.tcp] at stepped
      cases stepped
  | udpSent queued stepped =>
      rw [quiet.udp] at stepped
      cases stepped
  | writer own senders stepped =>
      refine ⟨⟨quiet.tcp, quiet.dns, quiet.udp⟩, ?_⟩
      simpa [ServerAction.received?, ServerAction.enqueued?] using sent
  | stop idle =>
      refine ⟨⟨quiet.tcp, quiet.dns, quiet.udp⟩, ?_⟩
      rw [Server.reading_of_idle idle] at sent
      simpa [ServerAction.received?, ServerAction.enqueued?,
        MainTask.replies] using sent
  | @header bytes rest main nonempty =>
      refine ⟨⟨quiet.tcp, quiet.dns, quiet.udp⟩, ?_⟩
      rw [main] at sent
      by_cases last : rest = []
      · simpa [ServerAction.received?, ServerAction.enqueued?, last,
          MainTask.replies, openingFrames] using sent
      · simpa [ServerAction.received?, ServerAction.enqueued?, last,
          MainTask.replies] using sent
  | @replySent reply more out main queued =>
      refine ⟨⟨quiet.tcp, quiet.dns, quiet.udp⟩, ?_⟩
      rw [main] at sent
      show frames ++ [reply.frame] ++ (MainTask.sendAll more).replies =
        openingFrames ++ (reads ++ []).filterMap pongFor
      rw [MainTask.replies_sendAll, List.append_nil, ← sent]
      simp [MainTask.replies]
  | @recv frame next idle dispatched =>
      have asked := mainCommand_ping (pings frame rfl)
      rw [Server.reading_of_idle idle] at sent
      cases dispatched with
      | main command noTcp noUdp =>
          rcases Option.some.inj (asked.symm.trans command) with rfl
          refine ⟨⟨quiet.tcp, quiet.dns, quiet.udp⟩, ?_⟩
          have answer : pongFor frame =
              some ⟨frame.channel, cmdPong, frame.data⟩ :=
            if_pos (pings frame rfl)
          rw [List.filterMap_append, ← List.append_assoc, ← sent]
          simp [ServerAction.received?, ServerAction.enqueued?, answer,
            MainTask.replies, MainReply.frame]
      | ignored noMain | tcp _ noMain | udp _ noMain | dns noMain =>
          rw [noMain] at asked
          cases asked

end Prompted

/-! ## The client's side of the probe -/

/-- What the running probe has read, behind one more action. -/
def probeView (seen : List Frame) : ClientAction → List Frame
  | .synced _ | .probeRetry => []
  | .probeRead frame => seen ++ [frame]
  | _ => seen

/-- What the running probe has read. -/
def probeSeen (trace : List ClientAction) : List Frame :=
  trace.foldl probeView []

theorem probeSeen_snoc (trace : List ClientAction) (action : ClientAction) :
    probeSeen (trace ++ [action]) = probeView (probeSeen trace) action := by
  simp [probeSeen]

/-- The burst that a second probe finds sent. -/
def firstBurst (retried : Bool) : List Frame :=
  if retried then probeFrames else []

/-- How much a second probe can find read. -/
def readBefore (retried : Bool) : Nat :=
  if retried then (openingFrames ++ probeFrames).length else 0

/-- What the client has sent and read while it sets the link up. -/
inductive ProbeStage (trace : List ClientAction) : LinkTask → Prop where
  | syncing (unsent : probesSent trace = [])
      (unread : clientReads trace = []) : ProbeStage trace .syncing
  | probing {retried : Bool} {rest : List Frame}
      (sent : probesSent trace ++ rest = firstBurst retried ++ probeFrames)
      (fresh : probeSeen trace = [])
      (short : (clientReads trace).length ≤ readBefore retried) :
      ProbeStage trace (.probing retried rest)
  | awaiting {retried : Bool} {before : List Frame}
      (sent : probesSent trace = firstBurst retried ++ probeFrames)
      (read : clientReads trace = before ++ probeSeen trace)
      (short : before.length ≤ readBefore retried) :
      ProbeStage trace (.awaiting retried)
  | up : ProbeStage trace .up
  | failed : ProbeStage trace .failed

theorem ProbeStage.step {trace : List ClientAction} {client next : Client}
    {action : ClientAction} (stage : ProbeStage trace client.link)
    (taken : client.step action = some next)
    (answered : client.link ≠ .up → (clientReads trace).length ≤
      openingFrames.length + (probesSent trace).length) :
    ProbeStage (trace ++ [action]) next.link := by
  have moved := ClientMoves.of_step taken
  by_cases up : client.link = .up
  · rw [(moved.up up).1]
    exact .up
  have set_up : client.stepLink action = some next := by
    rwa [Client.step, if_neg up] at taken
  have bounded := answered up
  cases LinkMoves.of_stepLink set_up with
  | @synced probe syncing =>
      rw [syncing] at stage
      cases stage with
      | syncing unsent unread =>
          cases probe with
          | false => exact .up
          | true =>
              refine .probing ?_ ?_ ?_
              · rw [probesSent_snoc, unsent]
                rfl
              · rw [probeSeen_snoc]
                rfl
              · rw [clientReads_snoc, unread]
                exact Nat.le_refl _
  | @probeSent retried frame rest probing =>
      rw [probing] at stage
      cases stage with
      | probing sent fresh short =>
          have after : probesSent (trace ++ [.probeSent frame]) ++ rest =
              firstBurst retried ++ probeFrames := by
            rw [probesSent_snoc, ← sent]
            simp [ClientAction.probe?]
          have unseen : probeSeen (trace ++ [.probeSent frame]) = [] := by
            rw [probeSeen_snoc, fresh]
            rfl
          have reads : clientReads (trace ++ [.probeSent frame]) =
              clientReads trace := by
            rw [clientReads_snoc]
            exact List.append_nil _
          by_cases last : rest = []
          · simp only [last, if_true]
            rw [last, List.append_nil] at after
            refine .awaiting after ?_ short
            rw [reads, unseen, List.append_nil]
          · simp only [last, if_false]
            exact .probing after unseen (by rw [reads]; exact short)
  | @probeRead retried frame awaiting =>
      rw [awaiting] at stage ⊢
      cases stage with
      | awaiting sent read short =>
          refine .awaiting ?_ ?_ short
          · rw [probesSent_snoc, sent]
            exact List.append_nil _
          · rw [clientReads_snoc, probeSeen_snoc, read, List.append_assoc]
            rfl
  | probeRetry awaiting =>
      rw [awaiting] at stage
      cases stage with
      | awaiting sent read short =>
          have first : probesSent trace = probeFrames := sent
          refine .probing ?_ ?_ ?_
          · rw [probesSent_snoc, first]
            simp [ClientAction.probe?, firstBurst]
          · rw [probeSeen_snoc]
            rfl
          · rw [first] at bounded
            rw [clientReads_snoc, readBefore, if_pos rfl,
              List.length_append]
            simpa [ClientAction.read?] using bounded
  | linkUp awaiting => exact .up
  | linkFailed down => exact .failed

/-! ## Runs -/

section Runs

variable {dnsEnabled : Bool} {resolvers : List SocketAddr}
  {trace : List SystemAction} {system next : System}

/-- During the set-up the client sends nothing but its bursts. -/
theorem clientFrames_of_setUp
    (run : Run System.step (.start dnsEnabled resolvers) trace system)
    (down : system.client.link ≠ .up) :
    clientFrames (clientTrace trace) = [] := by
  rw [clientFrames, (ClientStream.of_run (run_client run)).quiet down]
  rfl

theorem serverReads_of_setUp
    (run : Run System.step (.start dnsEnabled resolvers) trace system)
    (down : system.client.link ≠ .up) :
    serverReads (serverTrace trace) <+: probesSent (clientTrace trace) := by
  have within := serverReads_isPrefix run
  rwa [clientFrames_of_setUp run down, List.append_nil] at within

/-- Until the link is up the server only opens and answers. -/
theorem Prompted.of_run
    (run : Run System.step (.start dnsEnabled resolvers) trace system)
    (down : system.client.link ≠ .up) :
    Prompted (serverReads (serverTrace trace))
      (serverFrames (serverTrace trace)) system.server := by
  refine run.invariant (motive := fun trace system =>
    system.client.link ≠ .up →
      Prompted (serverReads (serverTrace trace))
        (serverFrames (serverTrace trace)) system.server) ?_ ?_ down
  · exact fun _ => ⟨⟨rfl, rfl, rfl⟩, rfl⟩
  intro trace system action next earlier before taken down
  have whole := taken
  cases SystemMoves.of_step taken with
  | client drained moved =>
      rw [serverTrace_client]
      refine before fun up => down ?_
      exact ((ClientMoves.of_step moved).up up).1
  | @server action server up drained moved =>
      rw [serverTrace_server, serverReads_snoc, serverFrames_snoc moved]
      refine (before down).step moved (Serving.of_run earlier).main ?_ ?_ ?_
      · rintro rfl
        cases drained
      · rintro source frame rfl
        have refused := serverRefused_notMem (earlier.extend whole) source
          frame
        simp at refused
      · rintro frame rfl
        have sent := clientFrame_of_recv earlier whole
        rw [clientFrames_of_setUp earlier down, List.append_nil] at sent
        exact (probe_frame
          ((ClientStream.of_run (run_client earlier)).probes frame sent)).1

/-- What the server has sent answers what it has read. -/
theorem Prompted.isPrefix {reads frames : List Frame} {server : Server}
    (prompted : Prompted reads frames server) :
    frames <+: openingFrames ++ reads.filterMap pongFor :=
  ⟨_, prompted.sent⟩

theorem clientReads_of_setUp
    (run : Run System.step (.start dnsEnabled resolvers) trace system)
    (down : system.client.link ≠ .up) :
    clientReads (clientTrace trace) <+: openingFrames ++
      (probesSent (clientTrace trace)).filterMap pongFor := by
  have answers := (serverReads_of_setUp run down).filterMap pongFor
  exact (clientReads_isPrefix run).trans
    ((Prompted.of_run run down).isPrefix.trans
      ((List.prefix_append_right_inj _).mpr answers))

theorem ProbeStage.of_run
    (run : Run System.step (.start dnsEnabled resolvers) trace system) :
    ProbeStage (clientTrace trace) system.client.link := by
  refine run.invariant (motive := fun trace system =>
    ProbeStage (clientTrace trace) system.client.link) (.syncing rfl rfl) ?_
  intro trace system action next earlier stage taken
  cases SystemMoves.of_step taken with
  | server drained moved => simpa using stage
  | client drained moved =>
      rw [clientTrace_client]
      refine stage.step moved fun down => ?_
      have reads := (clientReads_of_setUp earlier down).length_le
      have answers := List.length_filterMap_le pongFor
        (probesSent (clientTrace trace))
      rw [List.length_append] at reads
      omega

end Runs

/-! ## The answers to a burst -/

/-- The answers that a burst gets. -/
def burstAnswers (bursts : List Frame) : List Frame :=
  bursts.filterMap pongFor

theorem length_makeProbePayloads :
    makeProbePayloads.length = probeBurstFrames := by
  simp [makeProbePayloads]

/-- The answer to a probe frame answers the payload of its channel. -/
theorem answers_of_probe {frame : Frame} (burst : frame ∈ probeFrames) :
    ∃ index, Answers makeProbePayloads index
      ⟨frame.channel, cmdPong, frame.data⟩ := by
  rcases List.mem_mapIdx.mp burst with ⟨index, bound, rfl⟩
  have few : index < 16 := by
    rw [length_makeProbePayloads] at bound
    exact bound
  refine ⟨index, ⟨rfl, ?_⟩, List.getElem?_eq_getElem bound⟩
  have base : probeChannelBase = 65280 := rfl
  show (UInt16.ofNat (probeChannelBase + index)).toNat = _
  rw [UInt16.toNat_ofNat']
  omega

theorem Answers.not_mismatches {payloads : List Bytes} {index : Nat}
    {frame : Frame} (answers : Answers payloads index frame) :
    ¬ Mismatches payloads frame := by
  rintro ⟨other, expected, present, on, differs⟩
  have channel := answers.on.channel
  rw [on.channel] at channel
  have same : other = index := by omega
  rw [same, answers.data] at present
  exact differs (Option.some.inj present)

/-- Neither the opening frames nor the answers mismatch. -/
theorem not_mismatches_of_answers {bursts : List Frame} {frame : Frame}
    (probes : ∀ probe ∈ bursts, probe ∈ probeFrames)
    (member : frame ∈ openingFrames ++ burstAnswers bursts) :
    ¬ Mismatches makeProbePayloads frame := by
  rcases List.mem_append.mp member with opening | answer
  · rintro ⟨index, expected, present, on, differs⟩
    have pong := on.pong
    rcases List.mem_pair.mp opening with rfl | rfl
    · exact absurd pong
        (show Command.ofCode cmdPing ≠ .pong by decide)
    · exact absurd pong
        (show Command.ofCode cmdRoutes ≠ .pong by decide)
  · rcases List.mem_filterMap.mp answer with ⟨probe, inBursts, answered⟩
    have burst := probes probe inBursts
    rw [pongFor, if_pos (probe_frame burst).1] at answered
    rcases Option.some.inj answered with rfl
    exact (answers_of_probe burst).elim fun _ => Answers.not_mismatches

/-- With all answers to one burst every payload is answered. -/
theorem allAnswered_of_burst {seen : List Frame}
    (all : ∀ answer ∈ burstAnswers probeFrames, answer ∈ seen) :
    AllAnswered makeProbePayloads seen := by
  intro index within
  have member : (⟨UInt16.ofNat (probeChannelBase + index), cmdPing,
      makeProbePayloads[index]⟩ : Frame) ∈ probeFrames :=
    List.mem_mapIdx.mpr ⟨index, within, rfl⟩
  refine ⟨⟨UInt16.ofNat (probeChannelBase + index), cmdPong,
    makeProbePayloads[index]⟩, all _ ?_, ?_⟩
  · exact List.mem_filterMap.mpr ⟨_, member, if_pos rfl⟩
  · rcases answers_of_probe member with ⟨other, answers⟩
    have channel := answers.on.channel
    have base : probeChannelBase = 65280 := rfl
    have few : index < 16 := by
      rw [length_makeProbePayloads] at within
      exact within
    dsimp only at channel
    rw [UInt16.toNat_ofNat'] at channel
    have same : other = index := by omega
    rwa [same] at answers

/-- Past what a probe finds read, all answers to its own burst are new. -/
theorem mem_seen_of_burst {retried : Bool} {before seen : List Frame}
    (read : openingFrames ++ burstAnswers (firstBurst retried ++ probeFrames) =
      before ++ seen)
    (short : before.length ≤ readBefore retried) :
    ∀ answer ∈ burstAnswers probeFrames, answer ∈ seen := by
  have long : before.length ≤
      (openingFrames ++ burstAnswers (firstBurst retried)).length := by
    cases retried with
    | false =>
        have none : before.length ≤ 0 := short
        omega
    | true =>
        refine short.trans (Nat.le_of_eq ?_)
        decide +kernel
  rw [burstAnswers, List.filterMap_append, ← List.append_assoc] at read
  rcases List.prefix_of_prefix_length_le ⟨seen, rfl⟩
    ⟨burstAnswers probeFrames, read⟩ long with ⟨gap, split⟩
  intro answer member
  have tail : gap ++ burstAnswers probeFrames = seen := by
    refine List.append_cancel_left (?_ : before ++ _ = before ++ _)
    rw [← List.append_assoc, split, ← read]
    rfl
  rw [← tail]
  exact List.mem_append_right _ member

/-! ## What a retry can lose -/

/-- A part of the frame that `read_frame` has not returned yet. -/
structure PartlyRead (pipe part : Bytes) : Prop where
  within : part <+: pipe
  unfinished : ∀ frame, takeFrame part frame = none

/--
A run of the tunnel, with what the timer of the first probe takes along when
it drops `read_frame`.
-/
inductive TimedRun (start : System) :
    List SystemAction → List Bytes → System → Prop where
  | start : TimedRun start [] [] start
  | extend {trace : List SystemAction} {lost : List Bytes}
      {system next : System} {action : SystemAction}
      (earlier : TimedRun start trace lost system)
      (other : action ≠ .client .probeRetry)
      (taken : system.step action = some next) :
      TimedRun start (trace ++ [action]) lost next
  | retried {trace : List SystemAction} {lost : List Bytes} {part : Bytes}
      {system next : System} (earlier : TimedRun start trace lost system)
      (partly : PartlyRead system.down part)
      (taken : system.step (.client .probeRetry) = some next) :
      TimedRun start (trace ++ [.client .probeRetry]) (lost ++ [part])
        { next with down := next.down.drop part.length }

section TimedRun

variable {start system final : System} {trace rest : List SystemAction}
  {lost : List Bytes}

/-- Where the timer struck on frame boundaries only, nothing was lost. -/
theorem TimedRun.run (timed : TimedRun start trace lost system)
    (boundaries : ∀ part ∈ lost, part = []) :
    Run System.step start trace system := by
  induction timed with
  | start => exact .start
  | extend earlier other taken induction =>
      exact (induction boundaries).extend taken
  | retried earlier partly taken induction =>
      have before := induction fun part member =>
        boundaries part (List.mem_append_left _ member)
      rcases boundaries _ (List.mem_append_right _ List.mem_cons_self) with
        rfl
      exact before.extend taken

theorem TimedRun.append (timed : TimedRun start trace lost system)
    (more : Run System.step system rest final)
    (noRetry : .client .probeRetry ∉ rest) :
    TimedRun start (trace ++ rest) lost final := by
  induction more with
  | start => rwa [List.append_nil]
  | extend earlier taken induction =>
      rw [← List.append_assoc]
      refine (induction fun member =>
        noRetry (List.mem_append_left _ member)).extend ?_ taken
      rintro rfl
      exact noRetry (by simp)

end TimedRun

/-! ## The probe waits for its answers -/

section Waiting

variable {dnsEnabled : Bool} {resolvers : List SocketAddr}
  {trace rest : List SystemAction} {system after : System}
  {retried : Bool}

/-- The probe goes on until it is ended. -/
theorem awaiting_of_alone (awaiting : system.client.link = .awaiting retried)
    (alone : Alone SystemAction.outside rest)
    (more : Run System.step system rest after) :
    after.client.link = .awaiting retried := by
  induction more with
  | start => exact awaiting
  | @extend rest middle after action earlier taken induction =>
      have before := induction fun other member =>
        alone other (List.mem_append_left _ member)
      have own := alone action (by simp)
      cases SystemMoves.of_step taken with
      | server drained moved => exact before
      | @client action client down drained moved =>
          rw [Client.step, if_neg (by simp [before])] at moved
          cases LinkMoves.of_stepLink moved with
          | synced syncing =>
              exact LinkTask.noConfusion (before.symm.trans syncing)
          | probeSent probing =>
              exact LinkTask.noConfusion (before.symm.trans probing)
          | probeRead awaiting => exact before
          | probeRetry | linkUp | linkFailed => cases own

/-- At rest every answer has reached the probe. -/
theorem reads_of_rests
    (run : Run System.step (.start dnsEnabled resolvers) trace system)
    (awaiting : system.client.link = .awaiting retried)
    (rests : Rests System.step SystemAction.outside system) :
    clientReads (clientTrace trace) =
      openingFrames ++ burstAnswers (probesSent (clientTrace trace)) := by
  have down : system.client.link ≠ .up := by simp [awaiting]
  have synced : system.client.link ≠ .syncing := by simp [awaiting]
  have server : ServerRests system := by
    intro action next taken
    cases action with
    | client action => rfl
    | server action => exact rests _ next taken
  have prompted := Prompted.of_run run down
  have stream := ClientStream.of_run (run_client run)
  have frames : serverReads (serverTrace trace) =
      probesSent (clientTrace trace) := by
    refine (server.reads_all run ?_ (serverReads_of_setUp run down) ?_ ?_).2
    · rw [prompted.quiet.tcp]
      rfl
    · exact fun frame member => fits_probe frame (stream.probes frame member)
    · rw [← (PipesInv.of_run run).up, stream.stream, stream.quiet down]
      exact (List.append_nil _).symm
  have answered : serverFrames (serverTrace trace) =
      openingFrames ++ burstAnswers (probesSent (clientTrace trace)) := by
    rw [burstAnswers, ← frames, ← prompted.sent, server.reading run]
    exact (List.append_nil _).symm
  rw [← answered]
  rcases unread_of_streams (clientReads_isPrefix run)
    (server.down_stream run synced) with ⟨more, split, pipe⟩
  cases more with
  | nil => simpa using split.symm
  | cons frame others =>
      have fits := (fits_of_run run).2 frame (by simp [split])
      have drained : (ClientAction.probeRead frame).drain system.down =
          some (framesBytes others) := by
        rw [ClientAction.drain, pipe, takeFrame_framesBytes fits]
      have stepped : system.client.step (.probeRead frame) =
          some system.client := by
        simp [Client.step, awaiting, Client.stepLink]
      have outside := rests (.client (.probeRead frame)) _ (by
        rw [System.step, drained, stepped])
      cases outside

/--
While the probe waits, the two processes take a bounded number of steps.  The
frames that it reads never mismatch; and when nothing is left to be done but
to end it, it passes.
-/
theorem probe_passes {lost : List Bytes}
    (timed : TimedRun (.start dnsEnabled resolvers) trace lost system)
    (boundaries : ∀ part ∈ lost, part = [])
    (awaiting : system.client.link = .awaiting retried)
    (alone : Alone SystemAction.outside rest)
    (more : Run System.step system rest after) (ending : ProbeEnd) :
    rest.length ≤ systemPrice trace system ∧
      (∃ result, probeResult makeProbePayloads
          (probeSeen (clientTrace (trace ++ rest))) ending = some result ∧
        ∀ index received expected,
          result ≠ .error (.mismatch index received expected)) ∧
      (Rests System.step SystemAction.outside after →
        probeResult makeProbePayloads
          (probeSeen (clientTrace (trace ++ rest))) ending =
            some (.ok ())) := by
  have run := timed.run boundaries
  have reached := run.trans more
  have still := awaiting_of_alone awaiting alone more
  have down : after.client.link ≠ .up := by simp [still]
  have few : makeProbePayloads.length ≤ 256 := by
    rw [length_makeProbePayloads]
    decide
  have stage := ProbeStage.of_run reached
  rw [still] at stage
  cases stage with
  | @awaiting retried before sent read short =>
      have clean : ∀ frame ∈ probeSeen (clientTrace (trace ++ rest)),
          ¬ Mismatches makeProbePayloads frame := by
        intro frame member
        refine not_mismatches_of_answers
          (ClientStream.of_run (run_client reached)).probes
          ((clientReads_of_setUp reached down).mem ?_)
        rw [read]
        exact List.mem_append_right _ member
      refine ⟨?_, ?_, ?_⟩
      · exact (system_spends.of_le brings_of_outside).bounds run more alone
      · rcases verdict_of_collect few (Tally.after_start _)
          (probeSeen (clientTrace (trace ++ rest))) ending with
          ⟨result, left, done, verdict⟩
        refine ⟨result, by rw [probeResult, probeOnce, done]; rfl, ?_⟩
        rintro index received expected rfl
        generalize failed : (Except.error (.mismatch index received expected) :
          Except ProbeError Unit) = result at verdict
        cases verdict with
        | passed split all clean => cases failed
        | mismatched split missing mismatch =>
            exact clean _ (split ▸ by simp) mismatch
        | ended after missing => cases ending <;> cases failed
      · intro rests
        have all := reads_of_rests reached still rests
        rw [sent, read] at all
        refine (probe_decides few _ ending).ok_iff.mpr
          ⟨_, List.prefix_refl _, ?_, clean⟩
        exact allAnswered_of_burst (mem_seen_of_burst all.symm short)

end Waiting

/-- The burst of a probe. -/
def burstActions : List SystemAction :=
  probeFrames.map fun frame => .client (.probeSent frame)

/-- A first probe reads no more than the server's first frame. -/
def firstProbe : List SystemAction :=
  greeting.map .server ++ [.client (.synced true)] ++ burstActions ++
  [.server (.writer .take),
    .server (.writer (.write (frameBytes MainReply.chicken.frame))),
    .client (.probeRead MainReply.chicken.frame)]

/-- Its timer strikes, and a second probe sends its burst. -/
theorem timed_secondProbe :
    ∃ system, TimedRun (.start false [])
        (firstProbe ++ [.client .probeRetry] ++ burstActions) [[]] system ∧
      system.client.link = .awaiting true := by
  rcases run_of_execute_any System.step (.start false []) firstProbe
    (fun system => (execute System.step system
      (.client .probeRetry :: burstActions)).any fun final : System =>
        decide (final.client.link = .awaiting true))
    (by decide +kernel) with ⟨middle, first, goesOn⟩
  rw [execute] at goesOn
  cases retried : middle.step (.client .probeRetry) with
  | none => simp [retried] at goesOn
  | some next =>
      simp only [retried] at goesOn
      rcases run_of_execute_any System.step next burstActions _ goesOn with
        ⟨system, second, awaiting⟩
      have timed := ((TimedRun.start.append first (by decide +kernel)).retried
        ⟨List.nil_prefix, fun _ => rfl⟩ retried).append second
          (by decide +kernel)
      exact ⟨system, timed, of_decide_eq_true awaiting⟩

theorem probe_passes_second :
    ∃ system, TimedRun (.start false [])
        (firstProbe ++ [.client .probeRetry] ++ burstActions) [[]] system ∧
      system.client.link = .awaiting true ∧
        ∃ rest after, Run System.step system rest after ∧
          probeResult makeProbePayloads
            (probeSeen (clientTrace (firstProbe ++ [.client .probeRetry] ++
              burstActions ++ rest))) .elapsed = some (.ok ()) := by
  rcases timed_secondProbe with ⟨system, timed, awaiting⟩
  have boundaries : ∀ part ∈ [[]], part = ([] : Bytes) := by simp
  rcases (system_spends.of_le brings_of_outside).comes_to_rest
    (timed.run boundaries) with ⟨rest, after, alone, more, rests⟩
  exact ⟨system, timed, awaiting, rest, after, more,
    (probe_passes timed boundaries awaiting alone more .elapsed).2.2 rests⟩

end KubectlSshuttle.Rushtle
