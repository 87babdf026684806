import KubectlSshuttle.Rushtle.ServerLoop
import KubectlSshuttle.Rushtle.Shutdown

/-!
# Processes that keep running

Joined by pipes that lose nothing, neither process leaves its loops: the
streams hold whole frames, so that no read fails, and no frame of the other
end makes a task return.
-/

namespace KubectlSshuttle.Rushtle

open KubectlSshuttle.Lib
open KubectlSshuttle.Lib.RustText
open KubectlSshuttle.Lib.Address
open KubectlSshuttle.Lib.Transition
open KubectlSshuttle.Rushtle.Ssnet
open KubectlSshuttle.Rushtle.Connection
open KubectlSshuttle.Rushtle.Channels
open KubectlSshuttle.Rushtle.OutQueue
open KubectlSshuttle.Rushtle.UdpFlows

/-! ## The pipes hold frames -/

/-- A stream of frames has a magic number wherever a frame starts. -/
theorem aligned_of_isPrefix {pipe : Bytes} {frames : List Frame}
    (fits : ∀ frame ∈ frames, Fits frame)
    (within : pipe <+: framesBytes frames) : misaligned pipe = false := by
  rcases frameCode.cut_of_isPrefix within with
    ⟨whole, rest, cut, split, shape, ending⟩
  subst split
  unfold misaligned
  cases whole with
  | cons frame more =>
      have fit := fits frame (by simp)
      rw [shape, SelfDelimiting.encodeAll_cons, List.append_assoc,
        frameCode_encode, readFrame_frameBytes frame _ fit]
  | nil =>
      rw [SelfDelimiting.encodeAll_nil, List.nil_append] at shape
      subst shape
      by_cases short : pipe.length < hdrLen
      · rw [readFrame_short short]
      · rcases ending with ⟨rfl, _⟩ |
          ⟨frame, others, missing, rfl, some, code⟩
        · exact (short (by decide)).elim
        · have fit := fits frame (by simp)
          rw [readFrame_cut fit some code (Nat.not_lt.mp short)]

section Pipes

variable {dnsEnabled : Bool} {resolvers : List SocketAddr}
  {trace : List SystemAction} {system : System}

/-- What is left of a stream of frames after some of them. -/
theorem isPrefix_of_reads {reads accepted : List Frame} {pipe : Bytes}
    (readFits : ∀ frame ∈ reads, Fits frame)
    (fits : ∀ frame ∈ accepted, Fits frame)
    (within : framesBytes reads ++ pipe <+: framesBytes accepted) :
    ∃ more, accepted = reads ++ more ∧ pipe <+: framesBytes more := by
  have before : reads <+: accepted :=
    frameCode.isPrefix_of_encodeAll_isPrefix readFits fits
      ((List.prefix_append _ _).trans within)
  rcases before with ⟨more, rfl⟩
  simp only [framesBytes, SelfDelimiting.encodeAll_append] at within
  exact ⟨more, rfl, (List.prefix_append_right_inj _).mp within⟩

theorem up_aligned
    (run : Run System.step (.start dnsEnabled resolvers) trace system) :
    misaligned system.up = false := by
  have pipes := PipesInv.of_run run
  rcases clientStream_isPrefix (run_client run) with
    ⟨accepted, fits, _, bytes⟩
  rw [pipes.up] at bytes
  rcases isPrefix_of_reads pipes.fitsUp fits bytes with ⟨more, rfl, within⟩
  exact aligned_of_isPrefix
    (fun frame member => fits frame (List.mem_append_right _ member)) within

theorem down_aligned
    (run : Run System.step (.start dnsEnabled resolvers) trace system)
    (synced : system.client.link ≠ .syncing) :
    misaligned system.down = false := by
  have pipes := PipesInv.of_run run
  rcases serverStream_isPrefix (run_server run) with
    ⟨accepted, fits, _, bytes⟩
  rw [pipes.down, headerTaken, if_neg synced, List.append_assoc] at bytes
  have frames := (List.prefix_append_right_inj _).mp bytes
  rcases isPrefix_of_reads pipes.fitsDown fits frames with
    ⟨more, rfl, within⟩
  exact aligned_of_isPrefix
    (fun frame member => fits frame (List.mem_append_right _ member)) within

end Pipes

/-! ## Tasks in their loops -/

/-- The set-up goes on, or is done. -/
def LinkTask.goesOn : LinkTask → Bool
  | .probing _ rest => rest != []
  | .failed => false
  | .syncing | .awaiting _ | .up => true

/-- The frame loop greets, answers or reads. -/
def MainTask.goesOn : MainTask → Bool
  | .greeting rest => rest != []
  | .sending _ _ | .reading => true
  | .binding _ _ | .readingHosts | .stopped | .exited => false

/-- Every task that all connections share still runs. -/
structure Serving (system : System) : Prop where
  link : system.client.link.goesOn = true
  demux : system.client.demux ≠ .ended
  clientWriter : system.client.out.writer.inLoop = true
  main : system.server.main.goesOn = true
  serverWriter : system.server.out.writer.inLoop = true
  udp : system.server.udp = .empty

/-- A writer leaves its loop only on an error, or when all senders are gone. -/
theorem inLoop_of_projects {event : Option OutEvent} {out next : Outbound}
    (projected : Projects Outbound.step event out next)
    (running : out.writer.inLoop = true) (sound : next.writer ≠ .broken)
    (senders : event ≠ some .closed) : next.writer.inLoop = true := by
  rcases projected.kept_or_step with ⟨_, same⟩ | ⟨own, concerned, step⟩
  · rw [same]
    exact running
  · cases OutMoves.of_step step with
    | enqueued loops room => exact loops
    | refused broken => exact running
    | take idle waiting fits => rfl
    | write busy nonempty => exact WriterTask.inLoop_after _
    | takeLong | writeFailed => exact (sound rfl).elim
    | closed idle empty => exact (senders concerned).elim

theorem LinkMoves.goesOn {client next : Client} {action : ClientAction}
    (moved : LinkMoves client action next) (running : action ≠ .linkFailed) :
    next.link.goesOn = true := by
  cases moved with
  | @synced probe syncing => cases probe <;> rfl
  | @probeSent retried frame rest probing =>
      by_cases last : rest = []
      · simp [last, LinkTask.goesOn]
      · simp [last, LinkTask.goesOn]
  | probeRead awaiting => rw [awaiting]; rfl
  | probeRetry awaiting => rfl
  | linkUp awaiting => rfl
  | linkFailed down => exact (running rfl).elim

/-- Only the end of its stream makes the demux task return. -/
theorem ClientMoves.demux_ne_ended {client next : Client}
    {action : ClientAction} (taken : client.step action = some next)
    (running : client.demux ≠ .ended) (read : action ≠ .demuxEnded) :
    next.demux ≠ .ended := by
  cases ClientMoves.of_step taken with
  | link down taken =>
      rcases Client.stepLink_spec taken with ⟨link, rfl⟩
      exact running
  | recv up idle free dispatched =>
      simp only [Client.step, up, if_true, Client.stepTask, idle, free,
        and_self] at taken
      rcases Client.demux_of_dispatch taken with
        same | ⟨_, same⟩ | ⟨_, _, _, _, same⟩
      · rw [same]
        exact running
      · simp [same]
      · simp [same]
  | demuxEnded up idle => exact (read rfl).elim
  | replied | pongSent | pongRefused => simp
  | _ => exact running

section Frames

variable {dnsEnabled : Bool} {resolvers : List SocketAddr}
  {trace : List SystemAction} {system next : System}

/-- The client asks for no UDP channel. -/
theorem udpCommand_of_recv {frame : Frame}
    (run : Run System.step (.start dnsEnabled resolvers) trace system)
    (taken : system.step (.server (.recv frame)) = some next) :
    udpCommand frame = none := by
  have known := cmd_of_recv run taken
  rw [udpCommand, Frame.command]
  rcases clientCommands_cases known with
    same | same | same | same | same | same <;> rw [same] <;> rfl

/-- The frame loop stays in its loop. -/
theorem main_goesOn {action : ServerAction}
    (run : Run System.step (.start dnsEnabled resolvers) trace system)
    (taken : system.step (.server action) = some next)
    (before : system.server.main.goesOn = true) :
    next.server.main.goesOn = true := by
  have whole := taken
  cases SystemMoves.of_step taken with
  | @server action server up drained moved =>
      cases ServerMoves.of_step moved with
      | @header bytes rest main nonempty =>
          by_cases last : rest = []
          · simp [last, MainTask.goesOn]
          · simp [last, MainTask.goesOn]
      | headerFailed main => cases drained
      | recv idle dispatched =>
          cases dispatched with
          | main asked noTcp noUdp =>
              rw [(mainCommand_of_recv run whole asked).2]
              rfl
          | _ => exact before
      | stop idle => simp [ServerAction.drain, up_aligned run] at drained
      | @replySent reply more out main queued => cases more <;> rfl
      | @replyRefused reply more out main refused => cases more <;> rfl
      | exited main ended =>
          rw [main] at before
          cases before
      | bound | bindFailed | hosts => rfl
      | _ => exact before

/-- No UDP channel is opened. -/
theorem udp_stays_empty {action : ServerAction}
    (run : Run System.step (.start dnsEnabled resolvers) trace system)
    (taken : system.step (.server action) = some next)
    (goesOn : system.server.main.goesOn = true)
    (before : system.server.udp = .empty) :
    next.server.udp = .empty := by
  have whole := taken
  cases SystemMoves.of_step taken with
  | @server action server up drained moved =>
      cases ServerMoves.of_step moved with
      | recv idle dispatched =>
          cases dispatched with
          | udp asked noMain noTcp taken =>
              rw [udpCommand_of_recv run whole] at asked
              cases asked
          | _ => exact before
      | udpSent queued stepped | udpRefused refused stepped =>
          rw [before] at stepped
          cases stepped
      | @udp event udp own stepped =>
          rw [before] at stepped
          cases event with
          | opened | data | closed => cases own
          | _ => cases stepped
      | bound main taken =>
          rw [main] at goesOn
          cases goesOn
      | _ => exact before

theorem Serving.of_run
    (run : Run System.step (.start dnsEnabled resolvers) trace system) :
    Serving system := by
  refine run.invariant (motive := fun _ system => Serving system)
    ⟨rfl, by simp [System.start, Client.start], rfl, rfl, rfl, rfl⟩ ?_
  intro trace system action next earlier serving taken
  have unbroken := Unbroken.of_run (earlier.extend taken)
  have whole := taken
  cases SystemMoves.of_step taken with
  | @client action client down drained moved =>
      have running : action ≠ .linkFailed := by
        rintro rfl
        cases drained
      refine ⟨?_, ?_, ?_, serving.main, serving.serverWriter, serving.udp⟩
      · by_cases up : system.client.link = .up
        · have still := ((ClientMoves.of_step moved).up up).1
          change client.link.goesOn = true
          rw [still]
          rfl
        · rw [Client.step, if_neg up] at moved
          exact (LinkMoves.of_stepLink moved).goesOn running
      · refine ClientMoves.demux_ne_ended moved serving.demux ?_
        rintro rfl
        have synced : system.client.link ≠ .syncing := by
          intro syncing
          simp [Client.step, syncing, Client.stepLink] at moved
        simp [ClientAction.drain, down_aligned earlier synced] at drained
      · refine inLoop_of_projects (ClientMoves.of_step moved).projects_out
          serving.clientWriter unbroken.client ?_
        intro closed
        cases action with
        | writer event =>
            cases Option.some.inj closed
            cases ClientMoves.of_step moved with
            | link down taken => cases taken
            | writer up own unclosed taken => exact unclosed rfl
        | _ => cases closed
  | @server action server up drained moved =>
      refine ⟨serving.link, serving.demux, serving.clientWriter,
        main_goesOn earlier whole serving.main, ?_,
        udp_stays_empty earlier whole serving.main serving.udp⟩
      refine inLoop_of_projects (ServerMoves.of_step moved).projects_out
        serving.serverWriter unbroken.server ?_
      intro closed
      cases action with
      | writer event =>
          cases Option.some.inj closed
          cases ServerMoves.of_step moved with
          | writer own senders taken =>
              have gone := senders rfl
              have goesOn := serving.main
              simp only [Server.sendersGone, Bool.and_eq_true,
                decide_eq_true_eq] at gone
              rw [gone.1.1.1] at goesOn
              cases goesOn
      | _ => cases closed

end Frames

end KubectlSshuttle.Rushtle
