import KubectlSshuttle.Lib.Counting
import KubectlSshuttle.Rushtle.Dialing
import KubectlSshuttle.Rushtle.DnsTasks
import KubectlSshuttle.Rushtle.Emissions
import KubectlSshuttle.Rushtle.UdpForwarding

/-!
# The server answers what it is asked

Whatever frames the server reads, it answers each question at most once, and
says nothing that was not asked for.  What the tasks still owe is counted
along with what the server has said: a step turns a question into a debt, or
a debt into an answer.
-/

namespace KubectlSshuttle.Rushtle

open KubectlSshuttle.Lib.RustText
open KubectlSshuttle.Lib.Address
open KubectlSshuttle.Lib.Counting
open KubectlSshuttle.Lib.Transition
open KubectlSshuttle.Rushtle.Ssnet
open KubectlSshuttle.Rushtle.Connection
open KubectlSshuttle.Rushtle.Channels
open KubectlSshuttle.Rushtle.UdpFlows

/-! ## Questions and answers -/

/-- What can be asked of the server, and is answered once. -/
inductive Question where
  /-- the two opening frames, which are sent unasked -/
  | ready
  | routes
  | echo (channel : UInt16) (data : Bytes)
  | hosts
  | lookup (channel : UInt16)
  /-- a connection, which comes to an end -/
  | connection (channel : UInt16)
deriving DecidableEq

/-- The question that a frame asks. -/
def question (frame : Frame) : Option Question :=
  match frame.command with
  | .ping => some (.echo frame.channel frame.data)
  | .hostReq => some .hosts
  | .dnsReq => some (.lookup frame.channel)
  | .tcpConnect => some (.connection frame.channel)
  | _ => none

/-- The question that a frame of the server answers. -/
def answer (frame : Frame) : Option Question :=
  match frame.command with
  | .ping => some .ready
  | .routes => some .routes
  | .pong => some (.echo frame.channel frame.data)
  | .hostList => some .hosts
  | .dnsResponse => some (.lookup frame.channel)
  | .tcpStopSending | .tcpEof => some (.connection frame.channel)
  | _ => none

/-- The questions among the frames read. -/
def questions (reads : List Frame) : List Question :=
  reads.filterMap question

/-- The questions that the frames sent answer. -/
def answers (frames : List Frame) : List Question :=
  frames.filterMap answer

/-! ## Debts -/

/-- The answers that the frame loop has still to give. -/
def MainTask.owed : MainTask → List Question
  | .greeting _ => [.ready, .routes]
  | .sending reply more =>
      (reply :: more).filterMap fun reply => answer reply.frame
  | .readingHosts => [.hosts]
  | .reading | .binding _ _ | .stopped | .exited => []

/-- A query that goes on owes its answer. -/
def DnsQuery.owed (query : DnsQuery) : List Question :=
  match query.task with
  | .asking _ _ | .responding _ => [.lookup query.channel]
  | .done => []

/-- The connection has still to say that it is over. -/
def Connection.Phase.owes : Phase → Bool
  | .connecting | .announcing | .refused => true
  | .streaming reader _ => reader != .done
  | .refusedLocking | .locking | .finished | .abandoned => false

/-- A connection that can still announce its end owes it. -/
def connOwed (conn : Conn) : List Question :=
  if conn.phase.owes then [.connection conn.channel] else []

/-- All that the server may still answer. -/
def Server.owed (server : Server) : List Question :=
  server.main.owed ++ server.dns.flatMap DnsQuery.owed ++
    server.tcp.conns.flatMap connOwed

/-! ## Tasks pay with their frames -/

section Tasks

variable {side : Side}

/-- A connection pays for its last frame. -/
theorem Connection.Moves.pays {conn next : Conn} {event : ConnEvent}
    (moved : Moves side conn event next) (question : Question) :
    (event.sent?.bind answer).toList.count question +
        (connOwed next).count question ≤
      (connOwed conn).count question := by
  cases moved with
  | announced phase =>
      have silent : answer (connectFrame conn.channel conn.target) = none :=
        rfl
      simp [ConnEvent.sent?, silent, connOwed, phase, Phase.owes]
  | stopped phase =>
      have paid : answer (stopFrame conn.channel) =
          some (.connection conn.channel) := rfl
      simp [ConnEvent.sent?, paid, connOwed, phase, Phase.owes]
  | @sentData data writer phase =>
      have silent : answer (dataFrame conn.channel data) = none := rfl
      simp [ConnEvent.sent?, silent, connOwed, phase, Phase.owes]
  | sentEof phase =>
      have paid : answer (eofFrame conn.channel) =
          some (.connection conn.channel) := rfl
      simp [ConnEvent.sent?, paid, connOwed, phase, Phase.owes]
  | connected pending | connectFailed pending =>
      simp [ConnEvent.sent?, connOwed, pending, Phase.owes]
  | deliver alive room => simp [ConnEvent.sent?, connOwed]
  | dataFailed phase =>
      cases side <;>
        simp [ConnEvent.sent?, connOwed, phase, Phase.owes,
          ReadTask.afterDataFailure]
  | announceFailed phase | stopFailed phase | eofFailed phase
  | readBytes phase nonempty small | readEof phase | readError phase =>
      simp [ConnEvent.sent?, connOwed, phase, Phase.owes]
  | take phase queue | queueClosed phase queue | write phase nonempty
  | writeError phase | shutdown phase | joined phase =>
      simp [ConnEvent.sent?, connOwed, phase, Phase.owes]
  | removed phase => simp [ConnEvent.sent?, connOwed, Phase.owes]

/-- The question that the registration of a connection takes on. -/
def Channels.TableEvent.takesOn : TableEvent → Option Question
  | .opened channel _ => some (.connection channel)
  | _ => none

/-- The connections of a table pay for their last frames. -/
theorem Channels.TableMoves.pays {table next : ChannelTable}
    {event : TableEvent} (moved : TableMoves side table event next)
    (question : Question) :
    (event.sent?.bind answer).toList.count question +
        (next.conns.flatMap connOwed).count question ≤
      (table.conns.flatMap connOwed).count question +
        event.takesOn.toList.count question := by
  cases moved with
  | opened free =>
      cases side <;>
        simp [TableEvent.sent?, TableEvent.takesOn, connOwed, Conn.fresh,
          Phase.owes]
  | data free => simp [TableEvent.sent?, TableEvent.takesOn]
  | closed free => simp [TableEvent.sent?, TableEvent.takesOn]
  | dropped waiting present gone =>
      simp [TableEvent.sent?, TableEvent.takesOn]
  | @admitted member bytes conn after waiting present taken =>
      have paid := (Moves.of_step taken).pays question
      have replaced := count_flatMap_set connOwed present after question
      simp only [ConnEvent.sent?, TableEvent.sent?, TableEvent.takesOn,
        Option.bind_none, Option.toList_none, List.count_nil] at paid ⊢
      omega
  | @conn member event conn after present permitted taken =>
      have paid := (Moves.of_step taken).pays question
      have replaced := count_flatMap_set connOwed present after question
      have same : (TableEvent.conn member event).sent? = event.sent? := by
        cases event <;> rfl
      rw [same]
      simp only [TableEvent.takesOn, Option.toList_none, List.count_nil,
        ChannelTable.update]
      omega

theorem owed_tryNext (query : DnsQuery) (untried : List SocketAddr) :
    DnsQuery.owed { query with task := .tryNext untried } =
      [.lookup query.channel] := by
  cases untried <;> rfl

/-- The task of a query pays with its response. -/
theorem DnsQuery.pays {query next : DnsQuery} {event : DnsEvent}
    (taken : query.step event = some next) (question : Question) :
    (event.sent?.bind answer).toList.count question +
        next.owed.count question ≤ query.owed.count question := by
  cases event with
  | datagram source body =>
      simp only [DnsQuery.step] at taken
      split at taken
      · next task =>
          cases taken
          simp [DnsEvent.sent?, DnsQuery.owed, task]
      · cases taken
  | attemptFailed =>
      simp only [DnsQuery.step] at taken
      split at taken
      · next task =>
          cases taken
          rw [owed_tryNext]
          simp [DnsEvent.sent?, DnsQuery.owed, task]
      · cases taken
  | sent frame =>
      simp only [DnsQuery.step, Option.ite_none_right_eq_some,
        Option.some.injEq] at taken
      rcases taken with ⟨pending, rfl⟩
      unfold DnsQuery.pendingFrame at pending
      split at pending
      · next reply task =>
          cases pending
          have paid : answer ⟨query.channel, cmdDnsResponse, reply⟩ =
              some (.lookup query.channel) := rfl
          simp [DnsEvent.sent?, paid, DnsQuery.owed, task]
      · cases pending
  | sendFailed =>
      simp only [DnsQuery.step, Option.ite_none_right_eq_some,
        Option.some.injEq] at taken
      rcases taken with ⟨pending, rfl⟩
      simp [DnsEvent.sent?, DnsQuery.owed]

end Tasks

/-! ## The server pays -/

section Server

variable {server next : Server} {action : ServerAction} {frame : Frame}

theorem count_owed (server : Server) (question : Question) :
    server.owed.count question =
      server.main.owed.count question +
        (server.dns.flatMap DnsQuery.owed).count question +
          (server.tcp.conns.flatMap connOwed).count question := by
  rw [Server.owed, List.count_append, List.count_append]

theorem owed_sendAll (replies : List MainReply) :
    (MainTask.sendAll replies).owed =
      replies.filterMap fun reply => answer reply.frame := by
  cases replies <;> rfl

/-- A reply that is sent pays for itself. -/
theorem count_owed_sending (reply : MainReply) (more : List MainReply)
    (asks : Question) :
    (MainTask.sending reply more).owed.count asks =
      (answer reply.frame).toList.count asks +
        (MainTask.sendAll more).owed.count asks := by
  rw [owed_sendAll, MainTask.owed, List.filterMap_cons]
  cases answer reply.frame with
  | none => simp
  | some given => exact @List.count_append _ _ _ [given] _

/-- What the frame loop takes on is what it was asked. -/
theorem owed_mainCommand {task : MainTask}
    (asked : mainCommand frame = some task) (asks : Question) :
    task.owed.count asks ≤ (question frame).toList.count asks := by
  rw [question]
  unfold mainCommand at asked
  split at asked
  · next command =>
      cases asked
      have echoed : answer ⟨frame.channel, cmdPong, frame.data⟩ =
          some (.echo frame.channel frame.data) := rfl
      simp [command, MainTask.owed, MainReply.frame, echoed]
  · cases asked
    exact Nat.zero_le _
  · next command =>
      split at asked
      · cases asked
        have stopped : answer ⟨frame.channel, cmdTcpStopSending, []⟩ =
            some (.connection frame.channel) := rfl
        simp [command, MainTask.owed, MainReply.frame, stopped]
      · cases asked
  · cases asked
    exact Nat.zero_le _
  · next command =>
      cases asked
      simp [command, MainTask.owed]
  · cases asked

theorem takesOn_tcpCommand {event : TableEvent}
    (asked : tcpCommand frame = some event) (asks : Question) :
    event.takesOn.toList.count asks ≤
      (question frame).toList.count asks := by
  rw [question]
  unfold tcpCommand at asked
  split at asked
  · next command =>
      split at asked
      · cases asked
      · cases asked
        simp [command, TableEvent.takesOn]
  · cases asked
    exact Nat.zero_le _
  · cases asked
    exact Nat.zero_le _
  · cases asked
    exact Nat.zero_le _
  · cases asked

/-- A frame that is read is owed no more than what it asks. -/
theorem Dispatched.owes (dispatched : Dispatched server frame next)
    (asks : Question) :
    next.owed.count asks ≤
      server.owed.count asks + (question frame).toList.count asks := by
  rw [count_owed, count_owed]
  cases dispatched with
  | ignored noMain noTcp noUdp => omega
  | @main task asked noTcp noUdp =>
      have owed := owed_mainCommand asked asks
      dsimp only
      omega
  | @tcp event tcp asked noMain noUdp taken =>
      have paid := (TableMoves.of_step taken).pays asks
      have owed := takesOn_tcpCommand asked asks
      dsimp only
      omega
  | udp asked noMain noTcp taken =>
      dsimp only
      omega
  | dns noMain noTcp noUdp request =>
      have asked : question frame = some (.lookup frame.channel) := by
        rw [question, request]
      have owed : (DnsQuery.spawn server.resolvers frame.channel
          frame.data).owed = [.lookup frame.channel] :=
        owed_tryNext ⟨frame.channel, frame.data, .done⟩ server.resolvers
      simp only [List.flatMap_append, List.flatMap_cons, List.flatMap_nil,
        List.append_nil, List.count_append, owed, asked, Option.toList_some]
      omega

/-- A step turns questions into debts and debts into answers. -/
theorem Server.step_pays (taken : server.step action = some next)
    (asks : Question) :
    (action.enqueued?.bind answer).toList.count asks +
        next.owed.count asks ≤
      server.owed.count asks +
        (action.received?.bind question).toList.count asks := by
  cases ServerMoves.of_step taken with
  | @recv frame next idle dispatched =>
      have owes := dispatched.owes asks
      simp only [ServerAction.enqueued?, ServerAction.received?,
        Option.bind_none, Option.bind_some, Option.toList_none,
        List.count_nil]
      omega
  | @header bytes rest main nonempty =>
      have owed : (if rest = [] then MainTask.sending .chicken [.routes]
          else .greeting rest).owed = [.ready, .routes] := by
        split <;> rfl
      rw [count_owed, count_owed]
      dsimp only
      rw [owed, main]
      simp [ServerAction.enqueued?, ServerAction.received?, MainTask.owed]
  | @replySent reply more out main queued =>
      rw [count_owed, count_owed]
      dsimp only
      rw [main, count_owed_sending]
      simp only [ServerAction.enqueued?, ServerAction.received?,
        Option.bind_none, Option.bind_some, Option.toList_none,
        List.count_nil]
      omega
  | @connSent member frame out tcp queued moved =>
      have paid := (TableMoves.of_step moved).pays asks
      simp only [TableEvent.sent?, TableEvent.takesOn, Option.toList_none,
        List.count_nil] at paid
      simp only [count_owed, ServerAction.enqueued?,
        ServerAction.received?, Option.bind_none, Option.toList_none,
        List.count_nil]
      omega
  | @dnsSent member frame out query after queued found moved =>
      have paid := DnsQuery.pays moved asks
      have replaced := count_flatMap_set DnsQuery.owed found after asks
      simp only [DnsEvent.sent?] at paid
      simp only [count_owed, ServerAction.enqueued?,
        ServerAction.received?, Option.bind_none, Option.toList_none,
        List.count_nil]
      omega
  | @udpSent member frame out udp queued moved =>
      have known := List.mem_singleton.mp
        (Server.cmd_of_pending (Server.pending_of_enqueued taken))
      have silent : answer frame = none := by
        rw [answer, Frame.command, known]
        rfl
      simp [count_owed, ServerAction.enqueued?, ServerAction.received?,
        silent]
  | @replyRefused reply more out main refused =>
      rw [count_owed, count_owed]
      dsimp only
      rw [main, count_owed_sending]
      simp only [ServerAction.enqueued?, ServerAction.received?,
        Option.bind_none, Option.toList_none, List.count_nil]
      omega
  | @connRefused member frame out tcp refused moved =>
      have paid := (TableMoves.of_step moved).pays asks
      simp only [TableEvent.takesOn, Option.toList_none,
        List.count_nil] at paid
      simp only [count_owed, ServerAction.enqueued?,
        ServerAction.received?, Option.bind_none, Option.toList_none,
        List.count_nil]
      omega
  | @dnsRefused member frame out query after refused found moved =>
      have paid := DnsQuery.pays moved asks
      have replaced := count_flatMap_set DnsQuery.owed found after asks
      simp only [count_owed, ServerAction.enqueued?,
        ServerAction.received?, Option.bind_none, Option.toList_none,
        List.count_nil]
      omega
  | @tcp event tcp own moved =>
      have paid := (TableMoves.of_step moved).pays asks
      have opens : event.takesOn = none := by
        cases event with
        | opened channel target => cases own
        | _ => rfl
      simp only [opens, Option.toList_none, List.count_nil] at paid
      simp only [count_owed, ServerAction.enqueued?,
        ServerAction.received?, Option.bind_none, Option.toList_none,
        List.count_nil]
      omega
  | @dns member event query after own found moved =>
      have paid := DnsQuery.pays moved asks
      have replaced := count_flatMap_set DnsQuery.owed found after asks
      simp only [count_owed, ServerAction.enqueued?,
        ServerAction.received?, Option.bind_none, Option.toList_none,
        List.count_nil]
      omega
  | @hosts content main =>
      have owed (payload : Bytes) :
          (MainTask.sending (.hostList payload) []).owed = [.hosts] := rfl
      rw [count_owed, count_owed]
      dsimp only
      rw [owed, main]
      simp [ServerAction.enqueued?, ServerAction.received?, MainTask.owed]
  | headerFailed main | bound main taken | bindFailed main
  | exited main ended =>
      simp [count_owed, ServerAction.enqueued?, ServerAction.received?,
        main, MainTask.owed]
  | stop idle | writer own senders taken | udp own taken
  | udpRefused refused taken =>
      simp [count_owed, ServerAction.enqueued?, ServerAction.received?,
        MainTask.owed]

end Server

/-! ## Streams of data -/

/-- A socket was asked for on the channel. -/
def AsksSocket (reads : List Frame) (channel : UInt16) : Prop :=
  ∃ frame ∈ reads, frame.command = .udpOpen ∧ frame.channel = channel

/-- Every socket was asked for, or is about to be bound. -/
structure SocketsAsked (reads : List Frame) (server : Server) : Prop where
  binding : ∀ channel family, server.main = .binding channel family →
    AsksSocket reads channel
  flows : ∀ flow ∈ server.udp.flows, AsksSocket reads flow.channel

section Sockets

variable {server next : Server} {action : ServerAction}
  {reads : List Frame}

/-- A flow was there before, or was just opened. -/
theorem UdpFlows.UdpMoves.flow_source {table after : UdpTable} {event : UdpEvent}
    (moved : UdpMoves table event after) {flow : UdpFlow}
    (member : flow ∈ after.flows) :
    (∃ before ∈ table.flows, flow.channel = before.channel) ∨
      ∃ family, event = .opened flow.channel family := by
  cases moved with
  | opened free =>
      rcases List.mem_append.mp member with before | fresh
      · exact .inl ⟨flow, before, rfl⟩
      · rw [List.mem_singleton.mp fresh]
        exact .inr ⟨_, rfl⟩
  | data free => exact .inl ⟨flow, member, rfl⟩
  | closed free => exact .inl ⟨flow, member, rfl⟩
  | dropped waiting => exact .inl ⟨flow, member, rfl⟩
  | @admitted place datagram held waiting present =>
      rcases List.mem_or_eq_of_mem_set member with before | rfl
      · exact .inl ⟨flow, before, rfl⟩
      · exact .inl ⟨held, List.mem_of_getElem? present, rfl⟩
  | @flow place event held after present permitted taken =>
      rcases List.mem_or_eq_of_mem_set member with before | rfl
      · exact .inl ⟨flow, before, rfl⟩
      · exact .inl ⟨held, List.mem_of_getElem? present,
          (UdpFlow.step_spec taken).1⟩

theorem AsksSocket.append {channel : UInt16}
    (asks : AsksSocket reads channel) (more : List Frame) :
    AsksSocket (reads ++ more) channel := by
  rcases asks with ⟨frame, member, command, same⟩
  exact ⟨frame, List.mem_append_left _ member, command, same⟩

/-- Steps that bind no socket and open no flow. -/
theorem SocketsAsked.frame (asked : SocketsAsked reads server)
    (more : List Frame)
    (main : ∀ channel family, next.main = .binding channel family →
      server.main = .binding channel family)
    (flows : ∀ flow ∈ next.udp.flows,
      ∃ before ∈ server.udp.flows, flow.channel = before.channel) :
    SocketsAsked (reads ++ more) next := by
  refine ⟨fun channel family binding => ?_, fun flow member => ?_⟩
  · exact (asked.binding channel family
      (main channel family binding)).append more
  · rcases flows flow member with ⟨before, earlier, same⟩
    rw [same]
    exact (asked.flows before earlier).append more

/-- The flows are those of before unless one is opened. -/
theorem flows_source {table after : UdpTable} {event : UdpEvent}
    (taken : table.step event = some after)
    (unopened : ∀ channel family, event ≠ .opened channel family) :
    ∀ flow ∈ after.flows,
      ∃ before ∈ table.flows, flow.channel = before.channel := by
  intro flow member
  rcases (UdpMoves.of_step taken).flow_source member with
    before | ⟨family, opened⟩
  · exact before
  · exact (unopened _ _ opened).elim

theorem Dispatched.socketsAsked {frame : Frame}
    (asked : SocketsAsked reads server) (idle : server.main = .reading)
    (dispatched : Dispatched server frame next) :
    SocketsAsked (reads ++ [frame]) next := by
  have unbound (channel family : UInt16)
      (binding : server.main = .binding channel family) : False := by
    rw [idle] at binding
    cases binding
  cases dispatched with
  | @main task command noTcp noUdp =>
      refine ⟨fun channel family binding => ?_, fun flow member =>
        (asked.flows flow member).append _⟩
      dsimp only at binding
      subst binding
      unfold mainCommand at command
      split at command
      · cases command
      · cases command
      · split at command <;> cases command
      · next request =>
          cases command
          exact ⟨frame, by simp, request, rfl⟩
      · cases command
      · cases command
  | @udp event udp command noMain noTcp taken =>
      refine asked.frame _ (fun _ _ => id) (flows_source taken ?_)
      rintro channel family rfl
      unfold udpCommand at command
      split at command
      · split at command <;> cases command
      · cases command
      · cases command
  | ignored noMain noTcp noUdp | tcp command noMain noUdp taken
  | dns noMain noTcp noUdp request =>
      exact asked.frame _ (fun _ _ => id) fun flow member =>
        ⟨flow, member, rfl⟩

theorem SocketsAsked.step (asked : SocketsAsked reads server)
    (moved : ServerMoves server action next) :
    SocketsAsked (reads ++ action.received?.toList) next := by
  have same (flow : UdpFlow) (member : flow ∈ server.udp.flows) :
      ∃ before ∈ server.udp.flows, flow.channel = before.channel :=
    ⟨flow, member, rfl⟩
  cases moved with
  | @recv frame next idle dispatched =>
      simp only [Server.idle, Bool.and_eq_true, decide_eq_true_eq] at idle
      exact dispatched.socketsAsked asked idle.1.1
  | bound main taken =>
      refine ⟨fun _ _ binding => (by cases binding), fun flow member => ?_⟩
      rcases (UdpMoves.of_step taken).flow_source member with
        ⟨before, earlier, channel⟩ | ⟨family, opened⟩
      · rw [channel]
        exact (asked.flows before earlier).append _
      · cases opened
        exact (asked.binding _ _ main).append _
  | udpSent queued taken | udpRefused refused taken =>
      exact asked.frame _ (fun _ _ => id) (flows_source taken (by simp))
  | @udp event udp own taken =>
      refine asked.frame _ (fun _ _ => id) (flows_source taken ?_)
      rintro channel family rfl
      cases own
  | @header bytes rest main nonempty =>
      refine asked.frame _ (fun channel family binding => ?_) same
      dsimp only at binding
      split at binding <;> cases binding
  | @replySent reply more out main queued
  | @replyRefused reply more out main queued =>
      refine asked.frame _ (fun channel family binding => ?_) same
      dsimp only at binding
      cases more <;> cases binding
  | headerFailed main | stop idle | bindFailed main | hosts main
  | exited main ended =>
      exact asked.frame _ (fun _ _ binding => (by cases binding)) same
  | connSent queued taken | dnsSent queued found taken
  | connRefused refused taken | dnsRefused refused found taken
  | writer own senders taken | tcp own taken | dns own found taken =>
      exact asked.frame _ (fun _ _ => id) same

end Sockets

/-! ## Every run -/

/-- The frame carries data of a connection or a socket that was asked for. -/
def CarriesAsked (reads : List Frame) (frame : Frame) : Prop :=
  frame.command = .tcpData ∧
      .connection frame.channel ∈ questions reads ∨
    frame.command = .udpData ∧ AsksSocket reads frame.channel

theorem CarriesAsked.append {reads : List Frame} {frame : Frame}
    (carries : CarriesAsked reads frame) (more : List Frame) :
    CarriesAsked (reads ++ more) frame := by
  rcases carries with ⟨command, asked⟩ | ⟨command, asked⟩
  · refine .inl ⟨command, ?_⟩
    rw [questions, List.filterMap_append]
    exact List.mem_append_left _ asked
  · exact .inr ⟨command, asked.append more⟩

/-- The server's frames answer what it reads. -/
structure Answering (reads frames : List Frame) : Prop where
  /-- nothing is answered that was not asked, and nothing twice -/
  answers : (answers frames).Subperm
    (.ready :: .routes :: questions reads)
  /-- other frames carry the data of what was asked for -/
  streams : ∀ frame ∈ frames, answer frame = none →
    CarriesAsked reads frame

section Runs

variable {resolvers : List SocketAddr} {trace : List ServerAction}
  {server : Server}

theorem count_answers
    (run : Run Server.step (.start resolvers) trace server)
    (asks : Question) :
    (answers (serverFrames trace)).count asks + server.owed.count asks ≤
      [Question.ready, .routes].count asks +
        (questions (serverReads trace)).count asks := by
  refine run.invariant (motive := fun trace server =>
    (answers (serverFrames trace)).count asks + server.owed.count asks ≤
      [Question.ready, .routes].count asks +
        (questions (serverReads trace)).count asks) ?_ ?_
  · exact Nat.le_of_eq (by simp [answers, questions, serverFrames,
      serverReads, outEvents, OutQueue.enqueuedFrames, Server.start,
      Server.owed, MainTask.owed, ChannelTable.empty])
  · intro trace server action next _ known taken
    have pays := Server.step_pays taken asks
    rw [serverFrames_snoc taken, serverReads_snoc, answers, questions,
      count_filterMap_toList, count_filterMap_toList]
    simp only [answers, questions] at known
    omega

theorem socketsAsked_of_run
    (run : Run Server.step (.start resolvers) trace server) :
    SocketsAsked (serverReads trace) server := by
  refine run.invariant (motive := fun trace server =>
    SocketsAsked (serverReads trace) server)
    ⟨fun _ _ binding => (by cases binding), fun _ member =>
      (by cases member)⟩ ?_
  intro trace server action next _ asked taken
  rw [serverReads_snoc]
  exact asked.step (ServerMoves.of_step taken)

theorem question_of_call {frame : Frame} {call : Call}
    (asked : frame.call = some call) :
    question frame = some (.connection call.1) := by
  rw [Frame.call] at asked
  unfold tcpCommand at asked
  split at asked
  · next command =>
      split at asked
      · cases asked
      · cases asked
        rw [question, command]
  all_goals cases asked

/-- A frame that answers nothing carries data of what was asked for. -/
theorem carriesAsked_of_sends {source : Source} {frame : Frame}
    (run : Run Server.step (.start resolvers) trace server)
    (sends : ServerSends server source frame)
    (silent : answer frame = none) :
    CarriesAsked (serverReads trace) frame := by
  cases sends with
  | @reply reply more main =>
      cases reply <;> cases silent
  | dns present task => cases silent
  | @udp member flow frame present pending =>
      unfold UdpFlow.pendingFrame at pending
      split at pending
      · cases pending
        exact .inr ⟨rfl, (socketsAsked_of_run run).flows flow
          (List.mem_of_getElem? present)⟩
      · cases pending
  | @conn member conn frame present sends =>
      cases sends with
      | connect client => cases client
      | stop server => cases silent
      | eof => cases silent
      | data nonempty small =>
          refine .inl ⟨rfl, ?_⟩
          have called : conn.call ∈ calls (serverReads trace) := by
            rw [← call_tcpEvents run, ← map_call_of_run (run_tcp run)]
            exact List.mem_map_of_mem (List.mem_of_getElem? present)
          rcases List.mem_filterMap.mp called with ⟨frame, read, asked⟩
          exact List.mem_filterMap.mpr ⟨frame, read, question_of_call asked⟩

/-- Whatever is read, the server answers it and says no more. -/
theorem answering_of_run
    (run : Run Server.step (.start resolvers) trace server) :
    Answering (serverReads trace) (serverFrames trace) := by
  constructor
  · rw [List.subperm_ext_iff]
    intro asks _
    have counted := count_answers run asks
    have whole : (Question.ready :: .routes ::
        questions (serverReads trace)).count asks =
          [Question.ready, .routes].count asks +
            (questions (serverReads trace)).count asks :=
      @List.count_append _ _ _ [Question.ready, .routes] _
    omega
  · refine run.invariant (motive := fun trace _ =>
      ∀ frame ∈ serverFrames trace, answer frame = none →
        CarriesAsked (serverReads trace) frame)
      (fun frame member => by cases member) ?_
    intro trace server action next earlier known taken frame member silent
    rw [serverReads_snoc]
    apply CarriesAsked.append
    rw [serverFrames_snoc taken] at member
    rcases List.mem_append.mp member with before | now
    · exact known frame before silent
    · cases action <;> simp only [ServerAction.enqueued?,
        Option.toList_none, Option.toList_some, List.not_mem_nil,
        List.mem_singleton] at now
      subst now
      exact carriesAsked_of_sends earlier
        (ServerSends.of_run earlier taken) silent

end Runs

/-- A run in which a lookup is asked for and answered. -/
def lookupActions : List ServerAction :=
  greeting ++
    [.recv ⟨5, cmdDnsReq, [1]⟩,
      .dns 0 (.datagram ⟨.v4 ⟨1, 1, 1, 1⟩, 53⟩ [2]),
      .enqueued (.dns 0) ⟨5, cmdDnsResponse, [2]⟩]

theorem answering_lookup :
    ∃ server, Run Server.step (.start [⟨.v4 ⟨1, 1, 1, 1⟩, 53⟩])
        lookupActions server ∧
      .lookup 5 ∈ answers (serverFrames lookupActions) ∧
      Answering (serverReads lookupActions) (serverFrames lookupActions) := by
  rcases run_of_execute_any Server.step
    (.start [⟨.v4 ⟨1, 1, 1, 1⟩, 53⟩]) lookupActions (fun _ => true)
    (by decide +kernel) with ⟨server, run, _⟩
  exact ⟨server, run, by decide, answering_of_run run⟩

end KubectlSshuttle.Rushtle
