import KubectlSshuttle.Rushtle.Channels
import KubectlSshuttle.Rushtle.OutQueue
import KubectlSshuttle.Rushtle.UdpFlows

/-!
# The server process

The server is a frame loop that reads frames from standard input, a writer
task behind `out_tx`, the connections of its TCP channels, one task for each
DNS query, and the flows of its UDP channels.  A step of the server is one
step of one of these tasks between two suspension points; the names of the
resolvers and the contents of `/etc/hosts` come from outside.
-/

namespace KubectlSshuttle.Rushtle

open KubectlSshuttle.Lib.RustText
open KubectlSshuttle.Lib.Address
open KubectlSshuttle.Lib.Transition
open KubectlSshuttle.Rushtle.Ssnet
open KubectlSshuttle.Rushtle.Connection
open KubectlSshuttle.Rushtle.Channels
open KubectlSshuttle.Rushtle.OutQueue
open KubectlSshuttle.Rushtle.UdpFlows

/-! ## DNS queries -/

/-- Where the task of one query stands. -/
inductive DnsTask where
  /-- a query is out to one resolver, the others are still untried -/
  | asking (nameserver : SocketAddr) (untried : List SocketAddr)
  | responding (reply : Bytes)
  | done
deriving DecidableEq

/-- One query, which a task of its own asks. -/
structure DnsQuery where
  channel : UInt16
  query : Bytes
  task : DnsTask
deriving DecidableEq

/-- Ask the next resolver, or answer with an empty reply. -/
def DnsTask.tryNext : List SocketAddr → DnsTask
  | [] => .responding []
  | nameserver :: untried => .asking nameserver untried

/-- `spawn_dns`. -/
def DnsQuery.spawn (resolvers : List SocketAddr) (channel : UInt16)
    (query : Bytes) : DnsQuery where
  channel := channel
  query := query
  task := .tryNext resolvers

/-- The frame that the task is putting on `out_tx`. -/
def DnsQuery.pendingFrame (query : DnsQuery) : Option Frame :=
  match query.task with
  | .responding reply => some ⟨query.channel, cmdDnsResponse, reply⟩
  | _ => none

/-- What happens to a query. -/
inductive DnsEvent where
  /-- a datagram reaches the socket of the query -/
  | datagram (source : SocketAddr) (body : Bytes)
  /-- bind, send or receive fails, or the timeout passes -/
  | attemptFailed
  | sent (frame : Frame)
  | sendFailed
deriving DecidableEq

/-- One step of `dns_query_one` and its answer. -/
def DnsQuery.step (query : DnsQuery) : DnsEvent → Option DnsQuery
  | .datagram _ body =>
      match query.task with
      | .asking _ _ =>
          some { query with task := .responding (body.take datagramSize) }
      | _ => none
  | .attemptFailed =>
      match query.task with
      | .asking _ untried => some { query with task := .tryNext untried }
      | _ => none
  | .sent frame =>
      if query.pendingFrame = some frame then
        some { query with task := .done }
      else none
  | .sendFailed =>
      if query.pendingFrame.isSome then
        some { query with task := .done }
      else none

/-! ## The hosts file -/

/-- The entries that one line of the file contributes. -/
def hostEntries (line : Text) : List (Text × Text) :=
  let line := trim line
  if line = [] ∨ line.head? = some '#' then []
  else
    match splitWhitespace line with
    | [] => []
    | ip :: names =>
        (names.takeWhile fun name => name.head? != some '#').map
          fun name => (name, ip)

/-- `read_etc_hosts`, on the contents of the file. -/
def readEtcHosts (content : Text) : List (Text × Text) :=
  (lines content).flatMap hostEntries

/-! ## The frame loop -/

/-- What the frame loop itself puts on `out_tx`. -/
inductive MainReply where
  | chicken
  | routes
  | pong (channel : UInt16) (data : Bytes)
  | stopSending (channel : UInt16)
  | hostList (payload : Bytes)
deriving DecidableEq

/-- The frame of a reply. -/
def MainReply.frame : MainReply → Frame
  | .chicken => ⟨0, cmdPing, utf8 "chicken".toList⟩
  | .routes => ⟨0, cmdRoutes, []⟩
  | .pong channel data => ⟨channel, cmdPong, data⟩
  | .stopSending channel => ⟨channel, cmdTcpStopSending, []⟩
  | .hostList payload => ⟨0, cmdHostList, payload⟩

/-- Where the frame loop stands. -/
inductive MainTask where
  /-- the rest of the synchronization header is to be written -/
  | greeting (rest : Bytes)
  | sending (reply : MainReply) (more : List MainReply)
  /-- waits for a frame, or for room in the queue of a channel -/
  | reading
  | binding (channel family : UInt16)
  | readingHosts
  /-- left its loop, waits for the writer task -/
  | stopped
  | exited
deriving DecidableEq

/-- The replies are sent, and then the next frame is read. -/
def MainTask.sendAll : List MainReply → MainTask
  | [] => .reading
  | reply :: more => .sending reply more

/-- The state of the server process. -/
structure Server where
  main : MainTask
  out : Outbound
  tcp : ChannelTable
  dns : List DnsQuery
  udp : UdpTable
  /-- what `resolvers` has read from `/etc/resolv.conf` -/
  resolvers : List SocketAddr

/-- The synchronization header is about to be written. -/
def Server.start (resolvers : List SocketAddr) : Server where
  main := .greeting syncHeader
  out := .empty
  tcp := .empty
  dns := []
  udp := .empty
  resolvers := resolvers

/-- The family that a `UDP_OPEN` asks for. -/
def openFamily (data : Bytes) : UInt16 :=
  ((fromUtf8 data).bind fun text => parseU16 (trim text)).getD afInet

/-- The arms of the frame loop. -/
def Server.dispatch (server : Server) (frame : Frame) : Option Server :=
  match frame.command with
  | .ping =>
      some
        { server with main := .sending (.pong frame.channel frame.data) [] }
  | .pong => some server
  | .exit => some { server with main := .stopped }
  | .tcpConnect =>
      match parseConnect frame.data with
      | .error _ =>
          some { server with main := .sending (.stopSending frame.channel) [] }
      | .ok target =>
          (server.tcp.step .server
            (.opened frame.channel (target.host, target.port))).map
              fun tcp => { server with tcp := tcp }
  | .tcpData =>
      (server.tcp.step .server (.data frame.channel frame.data)).map
        fun tcp => { server with tcp := tcp }
  | .tcpEof =>
      (server.tcp.step .server (.closed frame.channel .eof)).map
        fun tcp => { server with tcp := tcp }
  | .tcpStopSending =>
      (server.tcp.step .server (.closed frame.channel .stopSending)).map
        fun tcp => { server with tcp := tcp }
  | .dnsReq =>
      some
        { server with
          dns := server.dns ++
            [DnsQuery.spawn server.resolvers frame.channel frame.data] }
  | .udpOpen =>
      some
        { server with
          main := .binding frame.channel (openFamily frame.data) }
  | .udpData =>
      match parseUdpData frame.data with
      | .error _ => some server
      | .ok datagram =>
          (server.udp.step (.data frame.channel datagram)).map
            fun udp => { server with udp := udp }
  | .udpClose =>
      (server.udp.step (.closed frame.channel)).map
        fun udp => { server with udp := udp }
  | .hostReq => some { server with main := .readingHosts }
  | .routes | .hostList | .dnsResponse | .unknown => some server

/-! ## Steps -/

/-- Which task puts a frame on `out_tx`. -/
inductive Source where
  | main
  | conn (member : Nat)
  | dns (query : Nat)
  | udp (member : Nat)
deriving DecidableEq

/-- What the tasks of the server do. -/
inductive ServerAction where
  /-- a part of the synchronization header is written -/
  | header (bytes : Bytes)
  | headerFailed
  /-- `read_frame` returns a frame -/
  | recv (frame : Frame)
  /-- `read_frame` returns the end of the stream or an error -/
  | stop
  | enqueued (source : Source) (frame : Frame)
  | refused (source : Source) (frame : Frame)
  | writer (event : OutEvent)
  | tcp (event : TableEvent)
  | dns (query : Nat) (event : DnsEvent)
  | udp (event : UdpEvent)
  | bound (channel family : UInt16)
  | bindFailed
  /-- the contents of `/etc/hosts`, if it can be read -/
  | hosts (content : Option Text)
  | exited
deriving DecidableEq

/-- The steps that belong neither to a frame nor to `out_tx`. -/
def ownDnsEvent : DnsEvent → Bool
  | .datagram _ _ | .attemptFailed => true
  | .sent _ | .sendFailed => false

/-- The steps of UDP tasks that no frame accompanies. -/
def ownUdpEvent : UdpEvent → Bool
  | .admitted _ _ | .dropped _ _ => true
  | .flow _ (.sent _) | .flow _ .sendFailed => false
  | .flow _ _ => true
  | .opened _ _ | .data _ _ | .closed _ => false

/-- A step of one query. -/
def Server.stepDns (server : Server) (query : Nat) (event : DnsEvent) :
    Option Server :=
  match server.dns[query]? with
  | none => none
  | some found =>
      (found.step event).map
        fun next => { server with dns := server.dns.set query next }

/-- The frame that a task is putting on `out_tx`. -/
def Server.pendingFrame (server : Server) : Source → Option Frame
  | .main =>
      match server.main with
      | .sending reply _ => some reply.frame
      | _ => none
  | .conn member => server.tcp.conns[member]?.bind Conn.pendingFrame
  | .dns query => server.dns[query]?.bind DnsQuery.pendingFrame
  | .udp member => server.udp.flows[member]?.bind UdpFlow.pendingFrame

/-- The frame loop goes on to its next reply, whether the last was sent. -/
def Server.nextReply (server : Server) : Option Server :=
  match server.main with
  | .sending _ more => some { server with main := .sendAll more }
  | _ => none

/-- The task goes on after its frame was put on `out_tx`. -/
def Server.sent (server : Server) (frame : Frame) : Source → Option Server
  | .main => server.nextReply
  | .conn member =>
      (server.tcp.step .server (.conn member (.sent frame))).map
        fun tcp => { server with tcp := tcp }
  | .dns query => server.stepDns query (.sent frame)
  | .udp member =>
      (server.udp.step (.flow member (.sent frame))).map
        fun udp => { server with udp := udp }

/-- The task goes on after `out_tx` turned out to be closed. -/
def Server.sendFailed (server : Server) : Source → Option Server
  | .main => server.nextReply
  | .conn member =>
      (server.tcp.step .server (.conn member .sendFailed)).map
        fun tcp => { server with tcp := tcp }
  | .dns query => server.stepDns query .sendFailed
  | .udp member =>
      (server.udp.step (.flow member .sendFailed)).map
        fun udp => { server with udp := udp }

/-- No task holds a clone of `out_tx` any more. -/
def Server.sendersGone (server : Server) : Bool :=
  decide (server.main = .stopped) &&
    server.tcp.conns.all (fun conn => decide (conn.phase = .finished)) &&
      server.dns.all (fun query => decide (query.task = .done)) &&
        server.udp.flows.all (fun flow => decide (flow.receiver = .done))

/-- The frame loop is at `read_frame`. -/
def Server.idle (server : Server) : Bool :=
  decide (server.main = .reading) && server.tcp.delivering.isNone &&
    server.udp.delivering.isNone

/-- One step of the server; a process that has exited takes none. -/
def Server.step (server : Server) (action : ServerAction) : Option Server :=
  if server.main = .exited then none
  else
    match action with
    | .header bytes =>
        match server.main with
        | .greeting rest =>
            if bytes ≠ [] ∧ bytes.isPrefixOf rest then
              some
                { server with
                  main :=
                    if rest.drop bytes.length = [] then
                      .sending .chicken [.routes]
                    else .greeting (rest.drop bytes.length) }
            else none
        | _ => none
    | .headerFailed =>
        match server.main with
        | .greeting _ => some { server with main := .exited }
        | _ => none
    | .recv frame => if server.idle then server.dispatch frame else none
    | .stop =>
        if server.idle then some { server with main := .stopped } else none
    | .enqueued source frame =>
        if server.pendingFrame source = some frame then
          (server.out.step (.enqueued frame)).bind fun out =>
            ({ server with out := out } : Server).sent frame source
        else none
    | .refused source frame =>
        if server.pendingFrame source = some frame then
          (server.out.step (.refused frame)).bind fun out =>
            ({ server with out := out } : Server).sendFailed source
        else none
    | .writer event =>
        if ownOutEvent event ∧ (event = .closed → server.sendersGone) then
          (server.out.step event).map fun out => { server with out := out }
        else none
    | .tcp event =>
        if ownTableEvent event then
          (server.tcp.step .server event).map
            fun tcp => { server with tcp := tcp }
        else none
    | .dns query event =>
        if ownDnsEvent event then server.stepDns query event else none
    | .udp event =>
        if ownUdpEvent event then
          (server.udp.step event).map fun udp => { server with udp := udp }
        else none
    | .bound channel family =>
        if server.main = .binding channel family then
          (server.udp.step (.opened channel family)).map
            fun udp => { server with udp := udp, main := .reading }
        else none
    | .bindFailed =>
        match server.main with
        | .binding _ _ => some { server with main := .reading }
        | _ => none
    | .hosts content =>
        if server.main = .readingHosts then
          let entries := (content.map readEtcHosts).getD []
          some
            { server with main := .sending (.hostList (encodeHostList entries)) [] }
        else none
    | .exited =>
        if server.main = .stopped ∧ ¬ server.out.writer.inLoop then
          some { server with main := .exited }
        else none

end KubectlSshuttle.Rushtle
