import KubectlSshuttle.Rushtle.Server
import KubectlSshuttle.Rushtle.SsnetPayloads

/-!
# What a step of the server can do

The inversion of a step, and the projections of a run of the server to runs
of its channel table, its outbound queue and its UDP channels.
-/

namespace KubectlSshuttle.Rushtle

open KubectlSshuttle.Lib.RustText
open KubectlSshuttle.Lib.Transition
open KubectlSshuttle.Rushtle.Ssnet
open KubectlSshuttle.Rushtle.Connection
open KubectlSshuttle.Rushtle.Channels
open KubectlSshuttle.Rushtle.OutQueue
open KubectlSshuttle.Rushtle.UdpFlows

/-! ## The arms of the frame loop by what they touch -/

/-- What a frame asks of the map of TCP channels. -/
def tcpCommand (frame : Frame) : Option TableEvent :=
  match frame.command with
  | .tcpConnect =>
      match parseConnect frame.data with
      | .error _ => none
      | .ok target => some (.opened frame.channel (target.host, target.port))
  | .tcpData => some (.data frame.channel frame.data)
  | .tcpEof => some (.closed frame.channel .eof)
  | .tcpStopSending => some (.closed frame.channel .stopSending)
  | _ => none

/-- What a frame asks of the map of UDP channels at once. -/
def udpCommand (frame : Frame) : Option UdpEvent :=
  match frame.command with
  | .udpData =>
      match parseUdpData frame.data with
      | .error _ => none
      | .ok datagram => some (.data frame.channel datagram)
  | .udpClose => some (.closed frame.channel)
  | _ => none

/-- Where a frame takes the frame loop, if not back to reading. -/
def mainCommand (frame : Frame) : Option MainTask :=
  match frame.command with
  | .ping => some (.sending (.pong frame.channel frame.data) [])
  | .exit => some .stopped
  | .tcpConnect =>
      match parseConnect frame.data with
      | .error _ => some (.sending (.stopSending frame.channel) [])
      | .ok _ => none
  | .udpOpen => some (.binding frame.channel (openFamily frame.data))
  | .hostReq => some .readingHosts
  | _ => none

/-- All that one frame can do to the server. -/
inductive Dispatched (server : Server) (frame : Frame) : Server → Prop where
  | ignored (noMain : mainCommand frame = none)
      (noTcp : tcpCommand frame = none) (noUdp : udpCommand frame = none) :
      Dispatched server frame server
  | main {task : MainTask} (asked : mainCommand frame = some task)
      (noTcp : tcpCommand frame = none) (noUdp : udpCommand frame = none) :
      Dispatched server frame { server with main := task }
  | tcp {event : TableEvent} {tcp : ChannelTable}
      (asked : tcpCommand frame = some event)
      (noMain : mainCommand frame = none) (noUdp : udpCommand frame = none)
      (taken : server.tcp.step .server event = some tcp) :
      Dispatched server frame { server with tcp := tcp }
  | udp {event : UdpEvent} {udp : UdpTable}
      (asked : udpCommand frame = some event)
      (noMain : mainCommand frame = none) (noTcp : tcpCommand frame = none)
      (taken : server.udp.step event = some udp) :
      Dispatched server frame { server with udp := udp }
  | dns (noMain : mainCommand frame = none)
      (noTcp : tcpCommand frame = none) (noUdp : udpCommand frame = none)
      (request : frame.command = .dnsReq) :
      Dispatched server frame
        { server with
          dns := server.dns ++
            [DnsQuery.spawn server.resolvers frame.channel frame.data] }

theorem Dispatched.of_dispatch {server next : Server} {frame : Frame}
    (taken : server.dispatch frame = some next) :
    Dispatched server frame next := by
  unfold Server.dispatch at taken
  cases command : frame.command <;> rw [command] at taken <;>
    dsimp only at taken
  case ping =>
    simp only [Option.some.injEq] at taken
    subst taken
    exact .main (by simp [mainCommand, command])
      (by simp [tcpCommand, command]) (by simp [udpCommand, command])
  case exit =>
    simp only [Option.some.injEq] at taken
    subst taken
    exact .main (by simp [mainCommand, command])
      (by simp [tcpCommand, command]) (by simp [udpCommand, command])
  case udpOpen =>
    simp only [Option.some.injEq] at taken
    subst taken
    exact .main (by simp [mainCommand, command])
      (by simp [tcpCommand, command]) (by simp [udpCommand, command])
  case hostReq =>
    simp only [Option.some.injEq] at taken
    subst taken
    exact .main (by simp [mainCommand, command])
      (by simp [tcpCommand, command]) (by simp [udpCommand, command])
  case dnsReq =>
    simp only [Option.some.injEq] at taken
    subst taken
    exact .dns (by simp [mainCommand, command])
      (by simp [tcpCommand, command]) (by simp [udpCommand, command])
      command
  case tcpConnect =>
    cases parsed : parseConnect frame.data with
    | error error =>
        simp only [parsed, Option.some.injEq] at taken
        subst taken
        exact .main (by simp [mainCommand, command, parsed])
          (by simp [tcpCommand, command, parsed])
          (by simp [udpCommand, command])
    | ok target =>
        simp only [parsed] at taken
        rcases Option.map_eq_some_iff.mp taken with ⟨tcp, moved, rfl⟩
        exact .tcp (by simp [tcpCommand, command, parsed])
          (by simp [mainCommand, command, parsed])
          (by simp [udpCommand, command]) moved
  case tcpData =>
    rcases Option.map_eq_some_iff.mp taken with ⟨tcp, moved, rfl⟩
    exact .tcp (by simp [tcpCommand, command])
      (by simp [mainCommand, command]) (by simp [udpCommand, command]) moved
  case tcpEof =>
    rcases Option.map_eq_some_iff.mp taken with ⟨tcp, moved, rfl⟩
    exact .tcp (by simp [tcpCommand, command])
      (by simp [mainCommand, command]) (by simp [udpCommand, command]) moved
  case tcpStopSending =>
    rcases Option.map_eq_some_iff.mp taken with ⟨tcp, moved, rfl⟩
    exact .tcp (by simp [tcpCommand, command])
      (by simp [mainCommand, command]) (by simp [udpCommand, command]) moved
  case udpData =>
    cases parsed : parseUdpData frame.data with
    | error error =>
        simp only [parsed, Option.some.injEq] at taken
        subst taken
        exact .ignored (by simp [mainCommand, command])
          (by simp [tcpCommand, command])
          (by simp [udpCommand, command, parsed])
    | ok datagram =>
        simp only [parsed] at taken
        rcases Option.map_eq_some_iff.mp taken with ⟨udp, moved, rfl⟩
        exact .udp (by simp [udpCommand, command, parsed])
          (by simp [mainCommand, command])
          (by simp [tcpCommand, command]) moved
  case udpClose =>
    rcases Option.map_eq_some_iff.mp taken with ⟨udp, moved, rfl⟩
    exact .udp (by simp [udpCommand, command])
      (by simp [mainCommand, command]) (by simp [tcpCommand, command]) moved
  all_goals
    simp only [Option.some.injEq] at taken
    subst taken
    exact .ignored (by simp [mainCommand, command])
      (by simp [tcpCommand, command]) (by simp [udpCommand, command])

/-! ## What one step can do -/

/-- All that one step can do, with its guards. -/
inductive ServerMoves (server : Server) : ServerAction → Server → Prop where
  | header {bytes rest : Bytes}
      (main : server.main = .greeting (bytes ++ rest))
      (nonempty : bytes ≠ []) :
      ServerMoves server (.header bytes)
        { server with
          main := if rest = [] then .sending .chicken [.routes]
            else .greeting rest }
  | headerFailed {rest : Bytes} (main : server.main = .greeting rest) :
      ServerMoves server .headerFailed { server with main := .exited }
  | recv {frame : Frame} {next : Server} (idle : server.idle = true)
      (dispatched : Dispatched server frame next) :
      ServerMoves server (.recv frame) next
  | stop (idle : server.idle = true) :
      ServerMoves server .stop { server with main := .stopped }
  | replySent {reply : MainReply} {more : List MainReply} {out : Outbound}
      (main : server.main = .sending reply more)
      (queued : server.out.step (.enqueued reply.frame) = some out) :
      ServerMoves server (.enqueued .main reply.frame)
        { server with out := out, main := .sendAll more }
  | connSent {member : Nat} {frame : Frame} {out : Outbound}
      {tcp : ChannelTable}
      (queued : server.out.step (.enqueued frame) = some out)
      (taken : server.tcp.step .server (.conn member (.sent frame)) =
        some tcp) :
      ServerMoves server (.enqueued (.conn member) frame)
        { server with out := out, tcp := tcp }
  | dnsSent {member : Nat} {frame : Frame} {out : Outbound}
      {query next : DnsQuery}
      (queued : server.out.step (.enqueued frame) = some out)
      (found : server.dns[member]? = some query)
      (taken : query.step (.sent frame) = some next) :
      ServerMoves server (.enqueued (.dns member) frame)
        { server with out := out, dns := server.dns.set member next }
  | udpSent {member : Nat} {frame : Frame} {out : Outbound}
      {udp : UdpTable}
      (queued : server.out.step (.enqueued frame) = some out)
      (taken : server.udp.step (.flow member (.sent frame)) = some udp) :
      ServerMoves server (.enqueued (.udp member) frame)
        { server with out := out, udp := udp }
  | replyRefused {reply : MainReply} {more : List MainReply}
      {out : Outbound} (main : server.main = .sending reply more)
      (refused : server.out.step (.refused reply.frame) = some out) :
      ServerMoves server (.refused .main reply.frame)
        { server with out := out, main := .sendAll more }
  | connRefused {member : Nat} {frame : Frame} {out : Outbound}
      {tcp : ChannelTable}
      (refused : server.out.step (.refused frame) = some out)
      (taken : server.tcp.step .server (.conn member .sendFailed) =
        some tcp) :
      ServerMoves server (.refused (.conn member) frame)
        { server with out := out, tcp := tcp }
  | dnsRefused {member : Nat} {frame : Frame} {out : Outbound}
      {query next : DnsQuery}
      (refused : server.out.step (.refused frame) = some out)
      (found : server.dns[member]? = some query)
      (taken : query.step .sendFailed = some next) :
      ServerMoves server (.refused (.dns member) frame)
        { server with out := out, dns := server.dns.set member next }
  | udpRefused {member : Nat} {frame : Frame} {out : Outbound}
      {udp : UdpTable}
      (refused : server.out.step (.refused frame) = some out)
      (taken : server.udp.step (.flow member .sendFailed) = some udp) :
      ServerMoves server (.refused (.udp member) frame)
        { server with out := out, udp := udp }
  | writer {event : OutEvent} {out : Outbound}
      (own : ownOutEvent event = true)
      (senders : event = .closed → server.sendersGone = true)
      (taken : server.out.step event = some out) :
      ServerMoves server (.writer event) { server with out := out }
  | tcp {event : TableEvent} {tcp : ChannelTable}
      (own : ownTableEvent event = true)
      (taken : server.tcp.step .server event = some tcp) :
      ServerMoves server (.tcp event) { server with tcp := tcp }
  | dns {member : Nat} {event : DnsEvent} {query next : DnsQuery}
      (own : ownDnsEvent event = true)
      (found : server.dns[member]? = some query)
      (taken : query.step event = some next) :
      ServerMoves server (.dns member event)
        { server with dns := server.dns.set member next }
  | udp {event : UdpEvent} {udp : UdpTable}
      (own : ownUdpEvent event = true)
      (taken : server.udp.step event = some udp) :
      ServerMoves server (.udp event) { server with udp := udp }
  | bound {channel family : UInt16} {udp : UdpTable}
      (main : server.main = .binding channel family)
      (taken : server.udp.step (.opened channel family) = some udp) :
      ServerMoves server (.bound channel family)
        { server with udp := udp, main := .reading }
  | bindFailed {channel family : UInt16}
      (main : server.main = .binding channel family) :
      ServerMoves server .bindFailed { server with main := .reading }
  | hosts {content : Option Text} (main : server.main = .readingHosts) :
      ServerMoves server (.hosts content)
        { server with
          main := .sending (.hostList
            (encodeHostList ((content.map readEtcHosts).getD []))) [] }
  | exited (main : server.main = .stopped)
      (ended : server.out.writer.inLoop = false) :
      ServerMoves server .exited { server with main := .exited }

theorem Server.stepDns_eq {server next : Server} {member : Nat}
    {event : DnsEvent} (taken : server.stepDns member event = some next) :
    ∃ query query', server.dns[member]? = some query ∧
      query.step event = some query' ∧
      next = { server with dns := server.dns.set member query' } := by
  unfold Server.stepDns at taken
  split at taken
  · cases taken
  · next query found =>
      rcases Option.map_eq_some_iff.mp taken with ⟨query', moved, rfl⟩
      exact ⟨query, query', found, moved, rfl⟩

theorem ServerMoves.of_enqueued {server next : Server} {source : Source}
    {frame : Frame} (pending : server.pendingFrame source = some frame)
    (taken : ((server.out.step (.enqueued frame)).bind fun out =>
      ({ server with out := out } : Server).sent frame source) =
        some next) :
    ServerMoves server (.enqueued source frame) next := by
  rcases Option.bind_eq_some_iff.mp taken with ⟨out, queued, sent⟩
  cases source with
  | main =>
      simp only [Server.sent, Server.nextReply] at sent
      split at sent
      · next reply more main =>
          simp only [Option.some.injEq] at sent
          subst sent
          have main' : server.main = .sending reply more := main
          simp only [Server.pendingFrame, main', Option.some.injEq]
            at pending
          subst pending
          exact .replySent main queued
      · cases sent
  | conn member =>
      rcases Option.map_eq_some_iff.mp sent with ⟨tcp, moved, rfl⟩
      exact .connSent queued moved
  | dns member =>
      rcases Server.stepDns_eq sent with ⟨query, query', found, moved, rfl⟩
      exact .dnsSent queued found moved
  | udp member =>
      rcases Option.map_eq_some_iff.mp sent with ⟨udp, moved, rfl⟩
      exact .udpSent queued moved

theorem ServerMoves.of_refused {server next : Server} {source : Source}
    {frame : Frame} (pending : server.pendingFrame source = some frame)
    (taken : ((server.out.step (.refused frame)).bind fun out =>
      ({ server with out := out } : Server).sendFailed source) =
        some next) :
    ServerMoves server (.refused source frame) next := by
  rcases Option.bind_eq_some_iff.mp taken with ⟨out, refused, failed⟩
  cases source with
  | main =>
      simp only [Server.sendFailed, Server.nextReply] at failed
      split at failed
      · next reply more main =>
          simp only [Option.some.injEq] at failed
          subst failed
          have main' : server.main = .sending reply more := main
          simp only [Server.pendingFrame, main', Option.some.injEq]
            at pending
          subst pending
          exact .replyRefused main refused
      · cases failed
  | conn member =>
      rcases Option.map_eq_some_iff.mp failed with ⟨tcp, moved, rfl⟩
      exact .connRefused refused moved
  | dns member =>
      rcases Server.stepDns_eq failed with ⟨query, query', found, moved, rfl⟩
      exact .dnsRefused refused found moved
  | udp member =>
      rcases Option.map_eq_some_iff.mp failed with ⟨udp, moved, rfl⟩
      exact .udpRefused refused moved

/-- Inversion of a step. -/
theorem ServerMoves.of_step {server next : Server} {action : ServerAction}
    (taken : server.step action = some next) :
    ServerMoves server action next := by
  unfold Server.step at taken
  split at taken
  · cases taken
  cases action with
  | header bytes =>
      dsimp only at taken
      split at taken
      · next rest main =>
          split at taken
          · next part =>
              rcases List.isPrefixOf_iff_prefix.mp part.2 with ⟨tail, rfl⟩
              simp only [List.drop_left, Option.some.injEq] at taken
              subst taken
              exact .header main part.1
          · cases taken
      · cases taken
  | headerFailed =>
      dsimp only at taken
      split at taken
      · next rest main =>
          simp only [Option.some.injEq] at taken
          subst taken
          exact .headerFailed main
      · cases taken
  | recv frame =>
      simp only [Option.ite_none_right_eq_some] at taken
      exact .recv taken.1 (.of_dispatch taken.2)
  | stop =>
      simp only [Option.ite_none_right_eq_some, Option.some.injEq] at taken
      rcases taken with ⟨idle, rfl⟩
      exact .stop idle
  | enqueued source frame =>
      simp only [Option.ite_none_right_eq_some] at taken
      exact .of_enqueued taken.1 taken.2
  | refused source frame =>
      simp only [Option.ite_none_right_eq_some] at taken
      exact .of_refused taken.1 taken.2
  | writer event =>
      simp only [Option.ite_none_right_eq_some] at taken
      rcases taken with ⟨⟨own, senders⟩, mapped⟩
      rcases Option.map_eq_some_iff.mp mapped with ⟨out, moved, rfl⟩
      exact .writer own senders moved
  | tcp event =>
      simp only [Option.ite_none_right_eq_some] at taken
      rcases taken with ⟨own, mapped⟩
      rcases Option.map_eq_some_iff.mp mapped with ⟨tcp, moved, rfl⟩
      exact .tcp own moved
  | dns member event =>
      simp only [Option.ite_none_right_eq_some] at taken
      rcases taken with ⟨own, mapped⟩
      rcases Server.stepDns_eq mapped with ⟨query, query', found, moved, rfl⟩
      exact .dns own found moved
  | udp event =>
      simp only [Option.ite_none_right_eq_some] at taken
      rcases taken with ⟨own, mapped⟩
      rcases Option.map_eq_some_iff.mp mapped with ⟨udp, moved, rfl⟩
      exact .udp own moved
  | bound channel family =>
      simp only [Option.ite_none_right_eq_some] at taken
      rcases taken with ⟨main, mapped⟩
      rcases Option.map_eq_some_iff.mp mapped with ⟨udp, moved, rfl⟩
      exact .bound main moved
  | bindFailed =>
      dsimp only at taken
      split at taken
      · next channel family main =>
          simp only [Option.some.injEq] at taken
          subst taken
          exact .bindFailed main
      · cases taken
  | hosts content =>
      simp only [Option.ite_none_right_eq_some, Option.some.injEq] at taken
      rcases taken with ⟨main, rfl⟩
      exact .hosts main
  | exited =>
      simp only [Option.ite_none_right_eq_some, Option.some.injEq,
        Bool.not_eq_true] at taken
      rcases taken with ⟨⟨main, ended⟩, rfl⟩
      exact .exited main ended

/-! ## Projections -/

/-- What an action means for the map of TCP channels. -/
def ServerAction.tcp? : ServerAction → Option TableEvent
  | .recv frame => tcpCommand frame
  | .enqueued (.conn member) frame => some (.conn member (.sent frame))
  | .refused (.conn member) _ => some (.conn member .sendFailed)
  | .tcp event => some event
  | _ => none

/-- What an action means for the outbound queue. -/
def ServerAction.out? : ServerAction → Option OutEvent
  | .enqueued _ frame => some (.enqueued frame)
  | .refused _ frame => some (.refused frame)
  | .writer event => some event
  | _ => none

/-- What an action means for the map of UDP channels. -/
def ServerAction.udp? : ServerAction → Option UdpEvent
  | .recv frame => udpCommand frame
  | .bound channel family => some (.opened channel family)
  | .enqueued (.udp member) frame => some (.flow member (.sent frame))
  | .refused (.udp member) _ => some (.flow member .sendFailed)
  | .udp event => some event
  | _ => none

section Projections

variable {server next : Server} {action : ServerAction}

theorem ServerMoves.projects_tcp (moved : ServerMoves server action next) :
    Projects (ChannelTable.step .server) action.tcp? server.tcp
      next.tcp := by
  cases moved with
  | recv idle dispatched =>
      cases dispatched with
      | tcp asked noMain noUdp taken =>
          simpa [ServerAction.tcp?, asked, Projects] using taken
      | ignored noMain noTcp noUdp | main asked noTcp noUdp
      | udp asked noMain noTcp taken | dns noMain noTcp noUdp request =>
          simp [ServerAction.tcp?, noTcp, Projects]
  | connSent queued taken => exact taken
  | connRefused refused taken => exact taken
  | tcp own taken => exact taken
  | _ => rfl

theorem ServerMoves.projects_out (moved : ServerMoves server action next) :
    Projects Outbound.step action.out? server.out next.out := by
  cases moved with
  | recv idle dispatched => cases dispatched <;> rfl
  | replySent main queued => exact queued
  | connSent queued taken => exact queued
  | dnsSent queued found taken => exact queued
  | udpSent queued taken => exact queued
  | replyRefused main refused => exact refused
  | connRefused refused taken => exact refused
  | dnsRefused refused found taken => exact refused
  | udpRefused refused taken => exact refused
  | writer own senders taken => exact taken
  | _ => rfl

theorem ServerMoves.projects_udp (moved : ServerMoves server action next) :
    Projects UdpTable.step action.udp? server.udp next.udp := by
  cases moved with
  | recv idle dispatched =>
      cases dispatched with
      | udp asked noMain noTcp taken =>
          simpa [ServerAction.udp?, asked, Projects] using taken
      | ignored noMain noTcp noUdp | main asked noTcp noUdp
      | tcp asked noMain noUdp taken | dns noMain noTcp noUdp request =>
          simp [ServerAction.udp?, noUdp, Projects]
  | udpSent queued taken => exact taken
  | udpRefused refused taken => exact taken
  | udp own taken => exact taken
  | bound main taken => exact taken
  | _ => rfl

end Projections

theorem tcpCommand_ne_conn {frame : Frame} {member : Nat}
    {event : ConnEvent} : tcpCommand frame ≠ some (.conn member event) := by
  unfold tcpCommand
  split
  · split <;> simp
  all_goals simp

/-- A connection's end is its own action. -/
theorem ServerMoves.eq_tcp_of_removed {server next : Server}
    {action : ServerAction} (moved : ServerMoves server action next)
    {member : Nat}
    (concerned : action.tcp? = some (.conn member .removed)) :
    action = .tcp (.conn member .removed) := by
  cases moved with
  | recv idle dispatched => exact (tcpCommand_ne_conn concerned).elim
  | tcp own taken => rw [Option.some.inj concerned]
  | _ => cases concerned

/-- The frame loop alone registers, feeds and closes channels. -/
theorem ServerMoves.frame_of_tcp {server next : Server}
    {action : ServerAction} (moved : ServerMoves server action next)
    {event : TableEvent} (concerned : action.tcp? = some event)
    (foreign : ownTableEvent event = false)
    (noSend : ∀ member inner, event ≠ .conn member inner) :
    ∃ frame, action = .recv frame ∧ tcpCommand frame = some event := by
  cases moved with
  | @recv frame next idle dispatched => exact ⟨frame, rfl, concerned⟩
  | connSent queued taken =>
      exact (noSend _ _ (Option.some.inj concerned).symm).elim
  | connRefused refused taken =>
      exact (noSend _ _ (Option.some.inj concerned).symm).elim
  | tcp own taken =>
      rcases Option.some.inj concerned with rfl
      rw [foreign] at own
      cases own
  | _ => cases concerned

/-- The events of a run that concern the map of TCP channels. -/
def tcpEvents (trace : List ServerAction) : List TableEvent :=
  trace.filterMap ServerAction.tcp?

/-- The events of a run that concern the outbound queue. -/
def outEvents (trace : List ServerAction) : List OutEvent :=
  trace.filterMap ServerAction.out?

/-- The events of a run that concern the map of UDP channels. -/
def udpEvents (trace : List ServerAction) : List UdpEvent :=
  trace.filterMap ServerAction.udp?

section Runs

variable {resolvers : List KubectlSshuttle.Lib.Address.SocketAddr}
  {trace : List ServerAction} {server : Server}

theorem run_tcp (run : Run Server.step (.start resolvers) trace server) :
    Run (ChannelTable.step .server) .empty (tcpEvents trace) server.tcp :=
  run.project Server.tcp ServerAction.tcp?
    (fun _ _ _ taken => (ServerMoves.of_step taken).projects_tcp)

theorem run_out (run : Run Server.step (.start resolvers) trace server) :
    Run Outbound.step .empty (outEvents trace) server.out :=
  run.project Server.out ServerAction.out?
    (fun _ _ _ taken => (ServerMoves.of_step taken).projects_out)

theorem run_udp (run : Run Server.step (.start resolvers) trace server) :
    Run UdpTable.step .empty (udpEvents trace) server.udp :=
  run.project Server.udp ServerAction.udp?
    (fun _ _ _ taken => (ServerMoves.of_step taken).projects_udp)

end Runs

/-! ## Who sends what -/

theorem Server.pending_of_enqueued {server next : Server} {source : Source}
    {frame : Frame}
    (taken : server.step (.enqueued source frame) = some next) :
    server.pendingFrame source = some frame := by
  unfold Server.step at taken
  split at taken
  · cases taken
  · simp only [Option.ite_none_right_eq_some] at taken
    exact taken.1

/-- The commands of the frames that each kind of task puts on `out_tx`. -/
def Source.commands : Source → List UInt16
  | .main => [cmdPing, cmdRoutes, cmdPong, cmdTcpStopSending, cmdHostList]
  | .conn _ => [cmdTcpConnect, cmdTcpStopSending, cmdTcpData, cmdTcpEof]
  | .dns _ => [cmdDnsResponse]
  | .udp _ => [cmdUdpData]

theorem Server.cmd_of_pending {server : Server} {source : Source}
    {frame : Frame} (pending : server.pendingFrame source = some frame) :
    frame.cmd ∈ source.commands := by
  cases source with
  | main =>
      simp only [Server.pendingFrame] at pending
      split at pending
      · next reply more main =>
          rcases Option.some.inj pending with rfl
          cases reply <;> simp [Source.commands, MainReply.frame]
      · cases pending
  | conn member =>
      rcases Option.bind_eq_some_iff.mp pending with ⟨conn, _, pending⟩
      unfold Conn.pendingFrame at pending
      split at pending <;> cases pending <;>
        simp [Source.commands, connectFrame, stopFrame, dataFrame, eofFrame]
  | dns member =>
      rcases Option.bind_eq_some_iff.mp pending with ⟨query, _, pending⟩
      unfold DnsQuery.pendingFrame at pending
      split at pending <;> cases pending
      simp [Source.commands]
  | udp member =>
      rcases Option.bind_eq_some_iff.mp pending with ⟨flow, _, pending⟩
      unfold UdpFlow.pendingFrame at pending
      split at pending <;> cases pending
      simp [Source.commands]

/-! ## The opening of every run -/

/-- The header is written at once and the first two frames are queued. -/
def greeting : List ServerAction :=
  [.header syncHeader, .enqueued .main MainReply.chicken.frame,
    .enqueued .main MainReply.routes.frame]

/-- The server at its first `read_frame`, before the writer has moved. -/
def Server.greeted (resolvers : List KubectlSshuttle.Lib.Address.SocketAddr) :
    Server :=
  { Server.start resolvers with
    main := .reading
    out := ⟨[MainReply.chicken.frame, MainReply.routes.frame], .receiving⟩ }

theorem run_greeting
    (resolvers : List KubectlSshuttle.Lib.Address.SocketAddr) :
    Run Server.step (.start resolvers) greeting (.greeted resolvers) :=
  run_of_execute (by rfl)

theorem tcpCommand_connectFrame (channel : UInt16)
    {target : Text × UInt16} (noComma : ',' ∉ target.1) :
    tcpCommand (connectFrame channel target) =
      some (.opened channel target) := by
  have command : (connectFrame channel target).command = .tcpConnect := by
    change Command.ofCode cmdTcpConnect = .tcpConnect
    decide
  rw [tcpCommand, command]
  simp [connectFrame, parseConnect_encodeConnect _ noComma]

/-- The frame loop registers the connection that a `TCP_CONNECT` asks for. -/
theorem step_connect {server : Server} (idle : server.idle = true)
    (channel : UInt16) {target : Text × UInt16} (noComma : ',' ∉ target.1) :
    server.step (.recv (connectFrame channel target)) =
      some
        { server with
          tcp :=
            { server.tcp with
              owner := Function.update server.tcp.owner channel
                (some server.tcp.conns.length)
              conns := server.tcp.conns ++
                [Conn.fresh .server channel target] } } := by
  have reading := idle
  simp only [Server.idle, Bool.and_eq_true, decide_eq_true_eq,
    Option.isNone_iff_eq_none] at reading
  have command : (connectFrame channel target).command = .tcpConnect := by
    change Command.ofCode cmdTcpConnect = .tcpConnect
    decide
  rw [Server.step, if_neg (by simp [reading.1.1])]
  simp only [idle, if_true, Server.dispatch, command]
  simp [connectFrame, parseConnect_encodeConnect _ noComma,
    ChannelTable.step, reading.1.2]

/-- The frame loop puts its next reply on `out_tx`. -/
theorem step_replySent {server : Server} {out : Outbound}
    (reply : MainReply) (more : List MainReply)
    (main : server.main = .sending reply more)
    (queued : server.out.step (.enqueued reply.frame) = some out) :
    server.step (.enqueued .main reply.frame) =
      some { server with out := out, main := .sendAll more } := by
  have pending : server.pendingFrame .main = some reply.frame := by
    simp [Server.pendingFrame, main]
  rw [Server.step, if_neg (by simp [main])]
  simp [pending, queued, Server.sent, Server.nextReply, main]

/-- The writer task takes the next frame. -/
theorem step_take {server : Server} {out : Outbound}
    (running : server.main ≠ .exited)
    (taken : server.out.step .take = some out) :
    server.step (.writer .take) = some { server with out := out } := by
  rw [Server.step, if_neg running]
  simp [ownOutEvent, taken]

/-- A target to connect to. -/
def someTarget : Text × UInt16 := ("10.0.0.1".toList, 80)

/-- The server after a first `TCP_CONNECT`. -/
def Server.connecting : Server :=
  { Server.greeted [] with
    tcp :=
      { owner := Function.update (fun _ => none) 1 (some 0)
        conns := [Conn.fresh .server 1 someTarget]
        delivering := none } }

theorem run_connecting :
    Run Server.step (.start [])
      (greeting ++ [.recv (connectFrame 1 someTarget)]) .connecting :=
  (run_greeting []).extend (step_connect (by decide) 1 (by decide))

end KubectlSshuttle.Rushtle
