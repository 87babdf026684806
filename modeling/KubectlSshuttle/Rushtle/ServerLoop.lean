import KubectlSshuttle.Rushtle.OpenQueues

/-!
# The server's frame loop behind a client

A client asks the frame loop for nothing but `PONG` frames.  So the loop sends
its two opening frames before anything else is sent, and then one `PONG` for
each `PING`, in order; it refuses no `TCP_CONNECT` by itself.
-/

namespace KubectlSshuttle.Rushtle

open KubectlSshuttle.Lib.RustText
open KubectlSshuttle.Lib.Address
open KubectlSshuttle.Lib.Transition
open KubectlSshuttle.Rushtle.Ssnet
open KubectlSshuttle.Rushtle.Connection
open KubectlSshuttle.Rushtle.Channels
open KubectlSshuttle.Rushtle.OutQueue
open KubectlSshuttle.Rushtle.UdpFlows

/-! ## What the client's frames ask of the loop -/

/-- The client's `TCP_CONNECT` frames can be parsed. -/
theorem tcpCommand_of_clientFrames {dnsEnabled : Bool}
    {trace : List ClientAction} {client : Client}
    (run : Run Client.step (.start dnsEnabled) trace client) :
    ∀ frame ∈ clientFrames trace, frame.command = .tcpConnect →
      ∃ address, frame = connectFrame frame.channel (originalDst address) ∧
        tcpCommand frame =
          some (.opened frame.channel (originalDst address)) := by
  refine forall_clientFrames run ?_
  intro before source frame state reached sends command
  cases sends with
  | pong busy =>
      exact absurd command
        (show Command.ofCode cmdPong ≠ .tcpConnect by decide)
  | query busy =>
      exact absurd command
        (show Command.ofCode cmdDnsReq ≠ .tcpConnect by decide)
  | conn present sends =>
      cases sends with
      | stop server => cases server
      | data nonempty small =>
          exact absurd command
            (show Command.ofCode cmdTcpData ≠ .tcpConnect by decide)
      | eof =>
          exact absurd command
            (show Command.ofCode cmdTcpEof ≠ .tcpConnect by decide)
      | connect client =>
          rcases (knownTargets_of_run reached).conns _
            (List.mem_of_getElem? present) with ⟨address, target⟩
          refine ⟨address, by rw [target]; rfl, ?_⟩
          rw [target]
          exact tcpCommand_connectFrame _ (comma_notMem_originalDst address)

theorem cmdPing_of_command {frame : Frame}
    (known : frame.cmd ∈ clientCommands) (ping : frame.command = .ping) :
    frame.cmd = cmdPing := by
  rw [Frame.command] at ping
  rcases clientCommands_cases known with
    same | same | same | same | same | same
  · exact same
  all_goals
    rw [same] at ping
    exact absurd ping (by decide)

section Runs

variable {dnsEnabled : Bool} {resolvers : List SocketAddr}
  {trace : List SystemAction} {system next : System}

/-- A frame of the client makes the frame loop send a `PONG` or nothing. -/
theorem mainCommand_of_recv {frame : Frame} {task : MainTask}
    (run : Run System.step (.start dnsEnabled resolvers) trace system)
    (taken : system.step (.server (.recv frame)) = some next)
    (asked : mainCommand frame = some task) :
    frame.cmd = cmdPing ∧
      task = .sending (.pong frame.channel frame.data) [] := by
  have known := cmd_of_recv run taken
  rcases command_of_clientCommands known with ⟨noHosts, noUdp, _, noExit⟩
  unfold mainCommand at asked
  split at asked
  · next ping =>
      exact ⟨cmdPing_of_command known ping, (Option.some.inj asked).symm⟩
  · next command => exact (noExit command).elim
  · next command =>
      rcases List.mem_append.mp (clientFrame_of_recv run taken) with
        probe | sent
      · have ping := (probe_frame
          ((ClientStream.of_run (run_client run)).probes frame probe)).1
        rw [Frame.command, ping] at command
        exact absurd command (by decide)
      · rcases tcpCommand_of_clientFrames (run_client run) frame sent command
          with ⟨address, _, opened⟩
        rw [tcpCommand, command] at opened
        split at asked
        · next error =>
            dsimp only at opened
            rw [error] at opened
            cases opened
        · cases asked
  · next command => exact (noUdp command).elim
  · next command => exact (noHosts command).elim
  · cases asked

end Runs

/-! ## The opening and the answers -/

/-- The server has no task but its frame loop and its writer. -/
structure Quiet (server : Server) : Prop where
  tcp : server.tcp = .empty
  dns : server.dns = []
  udp : server.udp = .empty

/-- The frames that come first. -/
def openingFrames : List Frame :=
  [MainReply.chicken.frame, MainReply.routes.frame]

/-- The frame is a `PONG`. -/
def isPong (frame : Frame) : Bool :=
  decide (frame.cmd = cmdPong)

/-- The `PONG` that answers a frame. -/
def pongFor (frame : Frame) : Option Frame :=
  if frame.cmd = cmdPing then
    some ⟨frame.channel, cmdPong, frame.data⟩
  else none

/-- The `PONG` that the frame loop is sending. -/
def MainTask.pendingPong : MainTask → List Frame
  | .sending (.pong channel data) _ => [⟨channel, cmdPong, data⟩]
  | _ => []

/-- Where the frame loop is when it serves a client. -/
def MainTask.serves : MainTask → Bool
  | .reading | .stopped | .exited | .sending (.pong _ _) [] => true
  | _ => false

/-- What the frame loop has read, and what the server has sent by then. -/
inductive LoopState (resolvers : List SocketAddr) (reads frames : List Frame)
    (server : Server) : Prop where
  | greeting {rest : Bytes} (state : server = .greetingWith resolvers rest)
      (noReads : reads = []) (noFrames : frames = [])
  | chicken (main : server.main = .sending .chicken [.routes])
      (quiet : Quiet server) (noReads : reads = []) (noFrames : frames = [])
  | routes (main : server.main = .sending .routes [])
      (quiet : Quiet server) (noReads : reads = [])
      (sent : frames = [MainReply.chicken.frame])
  | serving (main : server.main.serves = true)
      (opened : openingFrames <+: frames)
      (answered : frames.filter isPong ++ server.main.pendingPong =
        reads.filterMap pongFor)

/-- While the opening frames are sent only the writer moves besides. -/
theorem ServerMoves.of_quiet {server next : Server} {action : ServerAction}
    (moved : ServerMoves server action next) (quiet : Quiet server)
    {reply : MainReply} {more : List MainReply}
    (main : server.main = .sending reply more) :
    (action = .enqueued .main reply.frame ∧ next.main = .sendAll more ∧
        Quiet next) ∨
      (∃ frame, action = .refused .main frame) ∨
      (∃ event, action = .writer event) ∧ next.main = server.main ∧
        Quiet next := by
  have emptyTcp : ∀ event tcp, ownTableEvent event = true →
      server.tcp.step .server event ≠ some tcp := by
    intro event tcp own taken
    rw [quiet.tcp] at taken
    cases event with
    | opened channel target => cases own
    | data channel bytes => cases own
    | closed channel cause => cases own
    | _ => cases taken
  have emptyUdp : ∀ event udp, ownUdpEvent event = true →
      server.udp.step event ≠ some udp := by
    intro event udp own taken
    rw [quiet.udp] at taken
    cases event with
    | opened channel family => cases own
    | data channel datagram => cases own
    | closed channel => cases own
    | _ => cases taken
  have noDns : ∀ (member : Nat) query, server.dns[member]? ≠ some query := by
    intro member query found
    rw [quiet.dns] at found
    cases found
  cases moved with
  | header greets nonempty => exact MainTask.noConfusion (main.symm.trans greets)
  | headerFailed greets => exact MainTask.noConfusion (main.symm.trans greets)
  | recv idle dispatched => simp [Server.idle, main] at idle
  | stop idle => simp [Server.idle, main] at idle
  | @replySent reply' more' out main' queued =>
      left
      cases main.symm.trans main'
      exact ⟨rfl, rfl, quiet.tcp, quiet.dns, quiet.udp⟩
  | connSent queued taken =>
      rw [quiet.tcp] at taken
      cases taken
  | dnsSent queued found taken => exact (noDns _ _ found).elim
  | udpSent queued taken =>
      rw [quiet.udp] at taken
      cases taken
  | replyRefused main refused => exact Or.inr (Or.inl ⟨_, rfl⟩)
  | connRefused refused taken =>
      rw [quiet.tcp] at taken
      cases taken
  | dnsRefused refused found taken => exact (noDns _ _ found).elim
  | udpRefused refused taken =>
      rw [quiet.udp] at taken
      cases taken
  | writer own senders taken =>
      exact Or.inr (Or.inr ⟨⟨_, rfl⟩, rfl, quiet.tcp, quiet.dns, quiet.udp⟩)
  | tcp own taken => exact (emptyTcp _ _ own taken).elim
  | dns own found taken => exact (noDns _ _ found).elim
  | udp own taken => exact (emptyUdp _ _ own taken).elim
  | bound binds taken => exact MainTask.noConfusion (main.symm.trans binds)
  | bindFailed binds => exact MainTask.noConfusion (main.symm.trans binds)
  | hosts reads => exact MainTask.noConfusion (main.symm.trans reads)
  | exited stopped ended =>
      exact MainTask.noConfusion (main.symm.trans stopped)

theorem isPong_of_source {source : Source} {frame : Frame}
    (other : source ≠ .main) (known : frame.cmd ∈ source.commands) :
    isPong frame = false := by
  apply decide_eq_false
  intro pong
  rw [pong] at known
  cases source with
  | main => exact other rfl
  | conn member =>
      exact absurd known (by simp only [Source.commands]; decide)
  | dns member => exact absurd known (by simp only [Source.commands]; decide)
  | udp member => exact absurd known (by simp only [Source.commands]; decide)

section Serving

variable {resolvers : List SocketAddr} {reads frames : List Frame}
  {server next : Server}

/-- A step of another task, which may send anything but a `PONG`. -/
theorem LoopState.aside (main : server.main.serves = true)
    (opened : openingFrames <+: frames)
    (answered : frames.filter isPong ++ server.main.pendingPong =
      reads.filterMap pongFor)
    (same : next.main = server.main) {sent : List Frame}
    (noPong : ∀ frame ∈ sent, isPong frame = false) :
    LoopState resolvers reads (frames ++ sent) next := by
  apply LoopState.serving
  · rw [same]
    exact main
  · exact opened.trans (List.prefix_append _ _)
  · have none : sent.filter isPong = [] := by
      apply List.filter_eq_nil_iff.mpr
      intro frame member
      simp [noPong frame member]
    rw [List.filter_append, none, List.append_nil, same]
    exact answered

/-- The loop reads a frame while it serves. -/
theorem LoopState.recv {frame : Frame} (idle : server.main = .reading)
    (opened : openingFrames <+: frames)
    (answered : frames.filter isPong ++ server.main.pendingPong =
      reads.filterMap pongFor)
    (dispatched : Dispatched server frame next)
    (asked : ∀ task, mainCommand frame = some task →
      frame.cmd = cmdPing ∧
        task = .sending (.pong frame.channel frame.data) []) :
    LoopState resolvers (reads ++ [frame]) frames next := by
  have settled : frames.filter isPong = reads.filterMap pongFor := by
    simpa [idle, MainTask.pendingPong] using answered
  have aside : mainCommand frame = none → next.main = .reading →
      LoopState resolvers (reads ++ [frame]) frames next := by
    intro noMain still
    have noPing : frame.cmd ≠ cmdPing := by
      intro ping
      have command : frame.command = .ping := by
        rw [Frame.command, ping]
        decide
      simp [mainCommand, command] at noMain
    apply LoopState.serving
    · rw [still]
      rfl
    · exact opened
    · rw [still, List.filterMap_append, settled]
      simp [MainTask.pendingPong, pongFor, noPing]
  cases dispatched with
  | ignored noMain noTcp noUdp => exact aside noMain idle
  | tcp event noMain noUdp taken => exact aside noMain idle
  | udp event noMain noTcp taken => exact aside noMain idle
  | dns noMain noTcp noUdp request => exact aside noMain idle
  | main command noTcp noUdp =>
      rcases asked _ command with ⟨ping, task⟩
      subst task
      apply LoopState.serving
      · rfl
      · exact opened
      · rw [List.filterMap_append, settled]
        simp [MainTask.pendingPong, pongFor, ping]

/-- A step that refuses no frame, and is asked for no answer but pongs. -/
structure PongsOnly (action : ServerAction) : Prop where
  sends : ∀ source frame, action ≠ .refused source frame
  asked : ∀ frame task, action = .recv frame →
    mainCommand frame = some task → frame.cmd = cmdPing ∧
      task = .sending (.pong frame.channel frame.data) []

/-- The loop takes one of its own steps while it serves. -/
theorem LoopState.serve {action : ServerAction}
    (main : server.main.serves = true) (opened : openingFrames <+: frames)
    (answered : frames.filter isPong ++ server.main.pendingPong =
      reads.filterMap pongFor)
    (taken : server.step action = some next)
    (served : PongsOnly action) :
    LoopState resolvers (reads ++ action.received?.toList)
      (frames ++ action.enqueued?.toList) next := by
  have moved := ServerMoves.of_step taken
  have quietly : action.received? = none → action.enqueued? = none →
      next.main = server.main →
        LoopState resolvers (reads ++ action.received?.toList)
          (frames ++ action.enqueued?.toList) next := by
    intro noRead noSend same
    rw [noRead, noSend, Option.toList_none, List.append_nil]
    exact LoopState.aside main opened answered same (by simp)
  have sending : ∀ source frame, source ≠ .main →
      action = .enqueued source frame → next.main = server.main →
        LoopState resolvers (reads ++ action.received?.toList)
          (frames ++ action.enqueued?.toList) next := by
    intro source frame other isSend same
    subst isSend
    have known := Server.cmd_of_pending (Server.pending_of_enqueued taken)
    simp only [ServerAction.received?, Option.toList_none, List.append_nil]
    apply LoopState.aside main opened answered same
    intro sent member
    rw [List.mem_singleton.mp member]
    exact isPong_of_source other known
  cases moved with
  | header greets nonempty =>
      rw [greets] at main
      cases main
  | headerFailed greets =>
      rw [greets] at main
      cases main
  | @recv frame next idle dispatched =>
      simp only [ServerAction.enqueued?, Option.toList_none,
        List.append_nil]
      apply LoopState.recv _ opened answered dispatched
      · intro task
        exact served.asked frame task rfl
      · simp only [Server.idle, Bool.and_eq_true, decide_eq_true_eq] at idle
        exact idle.1.1
  | stop idle =>
      simp only [Server.idle, Bool.and_eq_true, decide_eq_true_eq] at idle
      rw [idle.1.1] at answered
      have after : LoopState resolvers reads frames
          { server with main := .stopped } :=
        .serving rfl opened answered
      simpa [ServerAction.received?, ServerAction.enqueued?] using after
  | @replySent reply more out sendsReply queued =>
      rw [sendsReply] at main answered
      cases reply with
      | pong channel data =>
          cases more with
          | cons other rest => cases main
          | nil =>
              apply LoopState.serving
              · rfl
              · exact opened.trans (List.prefix_append _ _)
              · simpa [ServerAction.received?, ServerAction.enqueued?,
                  MainTask.sendAll, MainTask.pendingPong, isPong,
                  MainReply.frame] using answered
      | _ => cases main
  | connSent queued taken => exact sending _ _ (by simp) rfl rfl
  | dnsSent queued found taken => exact sending _ _ (by simp) rfl rfl
  | udpSent queued taken => exact sending _ _ (by simp) rfl rfl
  | replyRefused main refused => exact (served.sends _ _ rfl).elim
  | connRefused refused taken => exact (served.sends _ _ rfl).elim
  | dnsRefused refused found taken => exact (served.sends _ _ rfl).elim
  | udpRefused refused taken => exact (served.sends _ _ rfl).elim
  | writer own senders taken => exact quietly rfl rfl rfl
  | tcp own taken => exact quietly rfl rfl rfl
  | dns own found taken => exact quietly rfl rfl rfl
  | udp own taken => exact quietly rfl rfl rfl
  | bound binds taken =>
      rw [binds] at main
      cases main
  | bindFailed binds =>
      rw [binds] at main
      cases main
  | hosts asks =>
      rw [asks] at main
      cases main
  | exited stopped ended =>
      rw [stopped] at answered
      have after : LoopState resolvers reads frames
          { server with main := .exited } :=
        .serving rfl opened answered
      simpa [ServerAction.received?, ServerAction.enqueued?] using after

theorem LoopState.step {action : ServerAction}
    (state : LoopState resolvers reads frames server)
    (taken : server.step action = some next)
    (running : action ≠ .headerFailed)
    (served : PongsOnly action) :
    LoopState resolvers (reads ++ action.received?.toList)
      (frames ++ action.enqueued?.toList) next := by
  have moved := ServerMoves.of_step taken
  cases state with
  | greeting state noReads noFrames =>
      subst state noReads noFrames
      rcases moved.of_greeting with
        ⟨bytes, left, isHeader, _, _⟩ | ⟨failed, _⟩
      · subst isHeader
        cases moved with
        | @header bytes rest main nonempty =>
            by_cases done : rest = []
            · exact .chicken (by simp [done]) ⟨rfl, rfl, rfl⟩ rfl rfl
            · exact .greeting (by simp [done]; rfl) rfl rfl
      · exact (running failed).elim
  | chicken main quiet noReads noFrames =>
      subst noReads noFrames
      rcases moved.of_quiet quiet main with
        ⟨sent, after, still⟩ | ⟨frame, refused⟩ | ⟨⟨event, own⟩, same, still⟩
      · subst sent
        exact .routes after still rfl rfl
      · exact (served.sends _ _ refused).elim
      · subst own
        exact .chicken (same.trans main) still rfl rfl
  | routes main quiet noReads sent =>
      subst noReads sent
      rcases moved.of_quiet quiet main with
        ⟨sent, after, still⟩ | ⟨frame, refused⟩ | ⟨⟨event, own⟩, same, still⟩
      · subst sent
        refine .serving ?_ (List.prefix_refl _) ?_
        · rw [after]
          rfl
        · rw [after]
          rfl
      · exact (served.sends _ _ refused).elim
      · subst own
        exact .routes (same.trans main) still rfl rfl
  | serving main opened answered =>
      exact LoopState.serve main opened answered taken served

end Serving

section Runs

variable {dnsEnabled : Bool} {resolvers : List SocketAddr}
  {trace : List SystemAction} {system : System}

theorem LoopState.of_run
    (run : Run System.step (.start dnsEnabled resolvers) trace system) :
    LoopState resolvers (serverReads (serverTrace trace))
      (serverFrames (serverTrace trace)) system.server := by
  apply run.invariant (motive := fun trace system =>
    LoopState resolvers (serverReads (serverTrace trace))
      (serverFrames (serverTrace trace)) system.server)
  · exact .greeting rfl rfl rfl
  · intro trace system action next earlier state taken
    cases SystemMoves.of_step taken with
    | client drained moved => simpa using state
    | @server action server up drained moved =>
        rw [serverTrace_server, serverReads_snoc, serverFrames_snoc moved]
        refine state.step moved ?_ ⟨?_, ?_⟩
        · intro failed
          subst failed
          cases drained
        · intro source frame refused
          subst refused
          have projected := (ServerMoves.of_step moved).projects_out
          exact (Unbroken.of_run earlier).server (broken_of_refused projected)
        · intro frame task isRead asked
          subst isRead
          exact mainCommand_of_recv earlier taken asked

/-- What the server sends begins with the opening frames. -/
theorem LoopState.opens {reads frames : List Frame} {server : Server}
    (state : LoopState resolvers reads frames server) :
    frames <+: openingFrames ∨ openingFrames <+: frames := by
  cases state with
  | greeting state noReads noFrames =>
      rw [noFrames]
      exact Or.inl List.nil_prefix
  | chicken main quiet noReads noFrames =>
      rw [noFrames]
      exact Or.inl List.nil_prefix
  | routes main quiet noReads sent =>
      rw [sent]
      exact Or.inl ⟨[MainReply.routes.frame], rfl⟩
  | serving main opened answered => exact Or.inr opened

/-- The answers are those to the frames read so far, up to the last one. -/
theorem LoopState.answers {reads frames : List Frame} {server : Server}
    (state : LoopState resolvers reads frames server) :
    frames.filter isPong <+: reads.filterMap pongFor := by
  cases state with
  | greeting state noReads noFrames =>
      rw [noFrames]
      exact List.nil_prefix
  | chicken main quiet noReads noFrames =>
      rw [noFrames]
      exact List.nil_prefix
  | routes main quiet noReads sent =>
      rw [sent]
      exact List.nil_prefix
  | serving main opened answered => exact ⟨_, answered⟩

/-- The frame loop itself sends `PING`, `ROUTES` and `PONG` only. -/
theorem LoopState.sends {reads frames : List Frame} {server : Server}
    (state : LoopState resolvers reads frames server)
    {reply : MainReply} {more : List MainReply}
    (main : server.main = .sending reply more) :
    reply.frame.cmd = cmdPing ∨ reply.frame.cmd = cmdPong ∨
      reply = .routes := by
  cases state with
  | greeting state noReads noFrames =>
      rw [state] at main
      cases main
  | chicken main' quiet noReads noFrames =>
      cases main'.symm.trans main
      exact Or.inl rfl
  | routes main' quiet noReads sent =>
      cases main'.symm.trans main
      exact Or.inr (Or.inr rfl)
  | serving serves opened answered =>
      rw [main] at serves
      cases reply with
      | pong channel data => exact Or.inr (Or.inl rfl)
      | _ => cases more <;> cases serves

end Runs

end KubectlSshuttle.Rushtle
