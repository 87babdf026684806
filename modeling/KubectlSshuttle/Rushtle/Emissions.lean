import KubectlSshuttle.Rushtle.Parties

/-!
# What each task sends

The frames that the tasks of both ends put on `out_tx`: their commands, their
channels and the sizes of their payloads.
-/

namespace KubectlSshuttle.Rushtle

open KubectlSshuttle.Lib.RustText
open KubectlSshuttle.Lib.Address
open KubectlSshuttle.Lib.Transition
open KubectlSshuttle.Rushtle.Ssnet
open KubectlSshuttle.Rushtle.Connection
open KubectlSshuttle.Rushtle.Channels
open KubectlSshuttle.Rushtle.OutQueue
open KubectlSshuttle.Rushtle.UdpFlows

/-! ## Connections -/

/-- The phases that a connection of one end does not have. -/
def foreignPhase : Side → Phase → Bool
  | .client, .connecting | .client, .refused
  | .client, .refusedLocking => true
  | .server, .announcing | .server, .abandoned => true
  | _, _ => false

/-- What the reading task holds is what one read has returned. -/
def Sized (conn : Conn) : Prop :=
  ∀ data writer, conn.phase = .streaming (.sending data) writer →
    data ≠ [] ∧ data.length ≤ chunk

theorem Sized.step {side : Side} {conn next : Conn} {event : ConnEvent}
    (sized : Sized conn) (moved : Moves side conn event next) :
    Sized next := by
  intro data writer phase
  cases moved with
  | readBytes before nonempty small =>
      rcases Phase.streaming.inj phase with ⟨same, _⟩
      rcases ReadTask.sending.inj same with rfl
      exact ⟨nonempty, small⟩
  | deliver alive room => exact sized data writer phase
  | dataFailed before =>
      rcases Phase.streaming.inj phase with ⟨same, _⟩
      cases side <;> cases same
  | take before queue | queueClosed before queue
  | write before nonempty | writeError before | shutdown before =>
      rcases Phase.streaming.inj phase with ⟨rfl, _⟩
      exact sized data _ before
  | _ => cases phase

theorem foreignPhase_step {side : Side} {conn next : Conn}
    {event : ConnEvent} (own : foreignPhase side conn.phase = false)
    (moved : Moves side conn event next) :
    foreignPhase side next.phase = false := by
  cases moved with
  | deliver alive room => exact own
  | connected phase | connectFailed phase | stopped phase
  | stopFailed phase | announced phase | announceFailed phase =>
      rw [phase] at own
      cases side <;> first | rfl | cases own
  | _ => cases side <;> rfl

/-- The shapes of the frames that a connection sends. -/
inductive ConnSends (side : Side) (conn : Conn) : Frame → Prop where
  | connect (client : side = .client) :
      ConnSends side conn (connectFrame conn.channel conn.target)
  | stop (server : side = .server) :
      ConnSends side conn (stopFrame conn.channel)
  | data {data : Bytes} (nonempty : data ≠ [])
      (small : data.length ≤ chunk) :
      ConnSends side conn (dataFrame conn.channel data)
  | eof : ConnSends side conn (eofFrame conn.channel)

theorem ConnSends.of_run {side : Side} {channel : UInt16}
    {target : Text × UInt16} {events : List ConnEvent} {conn next : Conn}
    {frame : Frame}
    (run : Run (Conn.step side) (Conn.fresh side channel target)
      events conn)
    (taken : conn.step side (.sent frame) = some next) :
    ConnSends side conn frame := by
  have sized : Sized conn :=
    run.invariant (motive := fun _ conn => Sized conn)
      (fun _ _ phase => by cases side <;> cases phase)
      (fun _ _ _ _ _ sized taken => sized.step (Moves.of_step taken))
  have own : foreignPhase side conn.phase = false :=
    run.invariant
      (motive := fun _ conn => foreignPhase side conn.phase = false)
      (by cases side <;> rfl)
      (fun _ _ _ _ _ own taken => foreignPhase_step own (Moves.of_step taken))
  cases Moves.of_step taken with
  | announced phase =>
      rw [phase] at own
      cases side with
      | client => exact .connect rfl
      | server => cases own
  | stopped phase =>
      rw [phase] at own
      cases side with
      | client => cases own
      | server => exact .stop rfl
  | sentData phase =>
      rcases sized _ _ phase with ⟨nonempty, small⟩
      exact .data nonempty small
  | sentEof phase => exact .eof

/-- A connection of an end's map sends one of its own frames. -/
theorem ConnSends.of_table {side : Side} {trace : List TableEvent}
    {table next : ChannelTable} {member : Nat} {frame : Frame}
    (run : Run (ChannelTable.step side) .empty trace table)
    (taken : table.step side (.conn member (.sent frame)) = some next) :
    ∃ conn, table.conns[member]? = some conn ∧
      ConnSends side conn frame := by
  cases TableMoves.of_step taken with
  | conn present permitted moved =>
      exact ⟨_, present, .of_run (run_conn run present) moved⟩

/-! ## The client -/

/-- The frames that the client puts on `out_tx`. -/
inductive ClientSends (client : Client) : ClientSource → Frame → Prop where
  | pong {channel : UInt16} {data : Bytes}
      (busy : client.demux = .ponging channel data) :
      ClientSends client .demux ⟨channel, cmdPong, data⟩
  | query {channel : UInt16} {query : Bytes}
      (busy : client.listener = .sending channel query) :
      ClientSends client .listener ⟨channel, cmdDnsReq, query⟩
  | conn {member : Nat} {conn : Conn} {frame : Frame}
      (present : client.channels.conns[member]? = some conn)
      (sends : ConnSends .client conn frame) :
      ClientSends client (.conn member) frame

theorem ClientSends.of_run {dnsEnabled : Bool} {trace : List ClientAction}
    {client next : Client} {source : ClientSource} {frame : Frame}
    (run : Run Client.step (.start dnsEnabled) trace client)
    (taken : client.step (.enqueued source frame) = some next) :
    ClientSends client source frame := by
  have moved := ClientMoves.of_step taken
  cases moved with
  | link down taken =>
      cases LinkMoves.of_stepLink taken
  | pongSent up busy queued => exact .pong busy
  | querySent up busy queued => exact .query busy
  | connSent up queued moved =>
      rcases ConnSends.of_table (run_channels run) moved with
        ⟨conn, present, sends⟩
      exact .conn present sends

/-! ## The server -/

/-- The frames that the server puts on `out_tx`. -/
inductive ServerSends (server : Server) : Source → Frame → Prop where
  | reply {reply : MainReply} {more : List MainReply}
      (main : server.main = .sending reply more) :
      ServerSends server .main reply.frame
  | conn {member : Nat} {conn : Conn} {frame : Frame}
      (present : server.tcp.conns[member]? = some conn)
      (sends : ConnSends .server conn frame) :
      ServerSends server (.conn member) frame
  | dns {member : Nat} {query : DnsQuery} {reply : Bytes}
      (present : server.dns[member]? = some query)
      (task : query.task = .responding reply) :
      ServerSends server (.dns member)
        ⟨query.channel, cmdDnsResponse, reply⟩
  | udp {member : Nat} {flow : UdpFlow} {frame : Frame}
      (present : server.udp.flows[member]? = some flow)
      (pending : flow.pendingFrame = some frame) :
      ServerSends server (.udp member) frame

theorem ServerSends.of_run {resolvers : List SocketAddr}
    {trace : List ServerAction} {server next : Server} {source : Source}
    {frame : Frame} (run : Run Server.step (.start resolvers) trace server)
    (taken : server.step (.enqueued source frame) = some next) :
    ServerSends server source frame := by
  have pending := Server.pending_of_enqueued taken
  cases ServerMoves.of_step taken with
  | replySent main queued => exact .reply main
  | connSent queued moved =>
      rcases ConnSends.of_table (run_tcp run) moved with ⟨conn, present, sends⟩
      exact .conn present sends
  | dnsSent queued found moved =>
      rcases Option.bind_eq_some_iff.mp pending with ⟨query, present, held⟩
      unfold DnsQuery.pendingFrame at held
      split at held
      · next reply task =>
          rcases Option.some.inj held with rfl
          exact .dns present task
      · cases held
  | udpSent queued moved =>
      rcases Option.bind_eq_some_iff.mp pending with ⟨flow, present, held⟩
      exact .udp present held

end KubectlSshuttle.Rushtle
