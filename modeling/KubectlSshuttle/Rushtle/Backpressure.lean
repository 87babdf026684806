import KubectlSshuttle.Lib.Counting
import KubectlSshuttle.Rushtle.ChannelIds
import KubectlSshuttle.Rushtle.FrameCap
import KubectlSshuttle.Rushtle.Traffic

/-!
# What a connection may hold

Between a socket and the tunnel a connection buffers what one read returned,
what one write has not taken yet, and at most 64 buffers in its queue.  As the
peer reads its sockets in chunks as well, a connection never holds more than
66 chunks, however slow its socket and the tunnel are and however much is sent
through them.
-/

namespace KubectlSshuttle.Rushtle

open KubectlSshuttle.Lib.RustText
open KubectlSshuttle.Lib.Address
open KubectlSshuttle.Lib.Counting
open KubectlSshuttle.Lib.Transition
open KubectlSshuttle.Rushtle.Ssnet
open KubectlSshuttle.Rushtle.Connection
open KubectlSshuttle.Rushtle.Channels
open KubectlSshuttle.Rushtle.OutQueue

/-! ## The bytes in a connection -/

/-- What the reading task has read and not sent yet. -/
def Connection.ReadTask.data : ReadTask → Bytes
  | .sending data => data
  | _ => []

/-- What the reading task of a connection holds. -/
def Connection.Phase.reads : Phase → Bytes
  | .streaming reader _ => reader.data
  | _ => []

/-- What the writing task holds. -/
def Connection.Phase.writes : Phase → Bytes
  | .streaming _ writer => writer.rest
  | _ => []

/-- What a connection holds, its queue included. -/
def Connection.Conn.held (conn : Conn) : Bytes :=
  conn.phase.reads ++ conn.phase.writes ++ conn.inbound.flatten

/-- The connections that run; the others have dropped what they held. -/
def Channels.ChannelTable.running (table : ChannelTable) : List Conn :=
  table.conns.filter Rushtle.running

/-- What the connections hold, and the frame loop for one of them. -/
def Channels.ChannelTable.held (table : ChannelTable) : Bytes :=
  table.running.flatMap Conn.held ++
    match table.delivering with
    | some (_, bytes) => bytes
    | none => []

/-- What a connection holds at most. -/
def connRoom : Nat := (2 + inboundCapacity) * chunk

/-! ## One connection -/

/-- No buffer of a connection is longer than a chunk. -/
structure Slim (conn : Conn) : Prop where
  reads : conn.phase.reads.length ≤ chunk
  writes : conn.phase.writes.length ≤ chunk
  queued : ∀ buffer ∈ conn.inbound, buffer.length ≤ chunk
  room : conn.inbound.length ≤ inboundCapacity

section Slim

variable {side : Side} {conn next : Conn} {event : ConnEvent}

theorem Slim.fresh (side : Side) (channel : UInt16)
    (target : Text × UInt16) : Slim (Conn.fresh side channel target) where
  reads := by cases side <;> exact Nat.zero_le _
  writes := by cases side <;> exact Nat.zero_le _
  queued := fun buffer member => by cases member
  room := Nat.zero_le _

theorem length_rest_take_le (buffer : Bytes) :
    (WriteTask.take buffer).rest.length ≤ buffer.length := by
  rw [WriteTask.take]
  split <;> simp [WriteTask.rest]

theorem length_rest_after_le (rest : Bytes) :
    (WriteTask.after rest).rest.length ≤ rest.length := by
  rw [WriteTask.after]
  split <;> simp [WriteTask.rest]

/-- A step that enlarges neither task's buffer, nor the queue. -/
theorem Slim.shrink (slim : Slim conn) (inbound : next.inbound = conn.inbound)
    (reads : next.phase.reads.length ≤ conn.phase.reads.length)
    (writes : next.phase.writes.length ≤ conn.phase.writes.length) :
    Slim next where
  reads := reads.trans slim.reads
  writes := writes.trans slim.writes
  queued := inbound ▸ slim.queued
  room := inbound ▸ slim.room

theorem Slim.step (slim : Slim conn) (moved : Moves side conn event next)
    (fed : ∀ buffer, event = .deliver buffer → buffer.length ≤ chunk) :
    Slim next := by
  cases moved with
  | deliver alive room =>
      refine ⟨slim.reads, slim.writes, ?_, ?_⟩
      · intro other member
        rcases List.mem_append.mp member with before | now
        · exact slim.queued other before
        · rcases List.mem_singleton.mp now with rfl
          exact fed _ rfl
      · rw [List.length_append]
        exact room
  | take phase queue =>
      have reads := slim.reads
      rw [phase] at reads
      refine ⟨reads, ?_, ?_, ?_⟩
      · exact (length_rest_take_le _).trans (slim.queued _ (by simp [queue]))
      · exact fun other member => slim.queued other (by simp [queue, member])
      · have room := slim.room
        rw [queue, List.length_cons] at room
        exact Nat.le_of_succ_le room
  | readBytes phase nonempty small =>
      have writes := slim.writes
      rw [phase] at writes
      exact ⟨small, writes, slim.queued, slim.room⟩
  | @write reader bytes rest phase nonempty =>
      refine slim.shrink rfl ?_ ?_
      · rw [phase]
        exact Nat.le_refl _
      · rw [phase]
        refine (length_rest_after_le rest).trans ?_
        simp [Phase.writes, WriteTask.rest]
  | dataFailed phase =>
      cases side <;> refine slim.shrink rfl ?_ ?_ <;>
        simp [phase, Phase.reads, Phase.writes, ReadTask.data,
          ReadTask.afterDataFailure]
  | connected phase | connectFailed phase | announced phase | stopped phase
  | sentData phase | sentEof phase | announceFailed phase | stopFailed phase
  | eofFailed phase | readEof phase | readError phase | queueClosed phase
  | writeError phase | shutdown phase | joined phase | removed phase =>
      refine slim.shrink rfl ?_ ?_ <;>
        simp [phase, Phase.reads, Phase.writes, ReadTask.data,
          WriteTask.rest]

/-- Buffers that are no longer than a chunk are no longer together. -/
theorem Slim.length_held_le (slim : Slim conn) :
    conn.held.length ≤ connRoom := by
  have queued := length_flatten_le slim.queued
  have full := Nat.mul_le_mul_right chunk slim.room
  have reads := slim.reads
  have writes := slim.writes
  simp only [Conn.held, List.length_append, connRoom, Nat.add_mul]
  omega

end Slim

/-! ## The connections of an end -/

/-- So are the buffers of all connections, and the one that waits. -/
structure SlimTable (table : ChannelTable) : Prop where
  conns : ∀ conn ∈ table.conns, Slim conn
  waiting : ∀ member bytes, table.delivering = some (member, bytes) →
    bytes.length ≤ chunk

section SlimTable

variable {side : Side} {table next : ChannelTable}

theorem SlimTable.step {event : TableEvent} (slim : SlimTable table)
    (taken : table.step side event = some next)
    (fed : ∀ channel bytes, event = .data channel bytes →
      bytes.length ≤ chunk) : SlimTable next := by
  have set {member : Nat} {conn : Conn} (replaced : Slim conn) :
      ∀ other ∈ table.conns.set member conn, Slim other := by
    intro other inConns
    rcases List.mem_or_eq_of_mem_set inConns with before | rfl
    · exact slim.conns other before
    · exact replaced
  have free {given : Option (Nat × Bytes)} (none_ : given = none) :
      ∀ member bytes, given = some (member, bytes) → bytes.length ≤ chunk := by
    rintro member bytes held
    rw [none_] at held
    cases held
  cases TableMoves.of_step taken with
  | opened unlocked =>
      refine ⟨fun conn member => ?_, free unlocked⟩
      rcases List.mem_append.mp member with before | now
      · exact slim.conns conn before
      · rcases List.mem_singleton.mp now with rfl
        exact .fresh _ _ _
  | data unlocked =>
      refine ⟨slim.conns, fun member bytes held => ?_⟩
      rcases Option.map_eq_some_iff.mp held with ⟨holder, _, pair⟩
      rcases Prod.mk.inj pair with ⟨rfl, rfl⟩
      exact fed _ _ rfl
  | closed unlocked => exact ⟨slim.conns, free unlocked⟩
  | dropped waiting present gone => exact ⟨slim.conns, free rfl⟩
  | admitted waiting present moved =>
      refine ⟨set ?_, free rfl⟩
      refine (slim.conns _ (List.mem_of_getElem? present)).step
        (Moves.of_step moved) ?_
      rintro buffer same
      rcases ConnEvent.deliver.inj same with rfl
      exact slim.waiting _ _ waiting
  | conn present permitted moved =>
      refine ⟨set ?_, slim.waiting⟩
      refine (slim.conns _ (List.mem_of_getElem? present)).step
        (Moves.of_step moved) ?_
      rintro buffer rfl
      cases permitted

theorem SlimTable.of_run {trace : List TableEvent}
    (run : Run (ChannelTable.step side) .empty trace table)
    (fed : ∀ channel bytes, .data channel bytes ∈ trace →
      bytes.length ≤ chunk) : SlimTable table := by
  induction run with
  | start =>
      refine ⟨fun conn member => ?_, fun member bytes held => ?_⟩
      · cases member
      · cases held
  | extend earlier taken induction =>
      refine (induction fun channel bytes member =>
        fed channel bytes (List.mem_append_left _ member)).step taken ?_
      rintro channel bytes rfl
      exact fed channel bytes (by simp)

theorem SlimTable.length_held_le (slim : SlimTable table) :
    table.held.length ≤ table.running.length * connRoom + chunk := by
  have conns : (table.running.flatMap Conn.held).length ≤
      table.running.length * connRoom := by
    rw [List.flatMap, ← List.length_map Conn.held]
    refine length_flatten_le fun held member => ?_
    rcases List.mem_map.mp member with ⟨conn, runs, rfl⟩
    exact (slim.conns conn (List.mem_of_mem_filter runs)).length_held_le
  rw [ChannelTable.held, List.length_append]
  split
  · next waiting => exact Nat.add_le_add conns (slim.waiting _ _ waiting)
  · exact conns.trans (Nat.le_add_right _ _)

end SlimTable

/-! ## What the tunnel feeds the connections -/

/-- `TCP_DATA` carries what one read returned. -/
theorem ConnSends.length_le {side : Side} {conn : Conn} {frame : Frame}
    (sends : ConnSends side conn frame) (command : frame.command = .tcpData) :
    frame.data.length ≤ chunk := by
  cases sends with
  | data nonempty small => exact small
  | connect client => cases command
  | stop server => cases command
  | eof => cases command

section Parties

variable {dnsEnabled : Bool} {resolvers : List SocketAddr}

theorem length_le_of_clientFrames {trace : List ClientAction}
    {client : Client} (run : Run Client.step (.start dnsEnabled) trace client) :
    ∀ frame ∈ clientFrames trace, frame.command = .tcpData →
      frame.data.length ≤ chunk := by
  refine forall_clientFrames run ?_
  intro before source frame state reached sends command
  cases sends with
  | pong busy => cases command
  | query busy => cases command
  | conn present sends => exact sends.length_le command

theorem length_le_of_serverFrames {trace : List ServerAction}
    {server : Server} (run : Run Server.step (.start resolvers) trace server) :
    ∀ frame ∈ serverFrames trace, frame.command = .tcpData →
      frame.data.length ≤ chunk := by
  refine run.invariant
    (motive := fun trace _ => ∀ frame ∈ serverFrames trace,
      frame.command = .tcpData → frame.data.length ≤ chunk) ?_ ?_
  · intro frame member
    cases member
  · intro trace server action next earlier known taken frame member command
    rw [serverFrames_snoc taken] at member
    rcases List.mem_append.mp member with before | now
    · exact known frame before command
    · cases action <;> simp only [ServerAction.enqueued?,
        Option.toList_none, Option.toList_some, List.not_mem_nil,
        List.mem_singleton] at now
      subst now
      cases ServerSends.of_run earlier taken with
      | @reply reply more main => cases reply <;> cases command
      | conn present sends => exact sends.length_le command
      | dns present task => cases command
      | udp present pending =>
          unfold UdpFlows.UdpFlow.pendingFrame at pending
          split at pending <;> cases pending
          cases command

/-- The demux task alone feeds a connection, with what it has read. -/
theorem ClientMoves.frame_of_data {client next : Client}
    {action : ClientAction} (moved : ClientMoves client action next)
    {channel : UInt16} {bytes : Bytes}
    (concerned : action.channels? = some (.data channel bytes)) :
    ∃ frame, action = .recv frame ∧ frame.command = .tcpData ∧
      frame.data = bytes := by
  cases moved with
  | @recv frame next up idle free dispatched =>
      refine ⟨frame, rfl, ?_⟩
      simp only [ClientAction.channels?, channelCommand] at concerned
      split at concerned <;> cases concerned
      exact ⟨‹_›, rfl⟩
  | channels up own taken =>
      rcases Option.some.inj concerned with rfl
      cases own
  | link down taken => cases LinkMoves.of_stepLink taken <;> cases concerned
  | _ => cases concerned

theorem read_of_channelTrace {trace : List ClientAction} {client : Client}
    (run : Run Client.step (.start dnsEnabled) trace client)
    {channel : UInt16} {bytes : Bytes}
    (fed : .data channel bytes ∈ channelTrace trace) :
    ∃ frame ∈ clientReads trace, frame.command = .tcpData ∧
      frame.data = bytes := by
  rcases List.mem_filterMap.mp fed with ⟨action, member, concerned⟩
  rcases List.append_of_mem member with ⟨before, after, rfl⟩
  rcases run.step_at with ⟨state, next, _, taken, _⟩
  rcases (ClientMoves.of_step taken).frame_of_data concerned with
    ⟨frame, rfl, command, same⟩
  exact ⟨frame, List.mem_filterMap.mpr ⟨_, member, rfl⟩, command, same⟩

theorem read_of_tcpEvents {trace : List ServerAction} {server : Server}
    (run : Run Server.step (.start resolvers) trace server)
    {channel : UInt16} {bytes : Bytes}
    (fed : .data channel bytes ∈ tcpEvents trace) :
    ∃ frame ∈ serverReads trace, frame.command = .tcpData ∧
      frame.data = bytes := by
  rcases List.mem_filterMap.mp fed with ⟨action, member, concerned⟩
  rcases List.append_of_mem member with ⟨before, after, rfl⟩
  rcases run.step_at with ⟨state, next, _, taken, _⟩
  rcases (ServerMoves.of_step taken).frame_of_tcp concerned rfl (by simp) with
    ⟨frame, rfl, asked⟩
  refine ⟨frame, List.mem_filterMap.mpr ⟨_, member, rfl⟩, ?_⟩
  unfold tcpCommand at asked
  split at asked <;> try cases asked
  · split at asked <;> cases asked
  · exact ⟨‹_›, rfl⟩

end Parties

/-! ## Every run -/

/-- An outgoing queue never has more than its capacity. -/
theorem length_queue_le {events : List OutEvent} {out : Outbound}
    (run : Run Outbound.step .empty events out) :
    out.queue.length ≤ outCapacity := by
  refine run.invariant
    (motive := fun _ out => out.queue.length ≤ outCapacity)
    (Nat.zero_le _) ?_
  intro events out event next _ room taken
  cases OutMoves.of_step taken with
  | enqueued running free =>
      rw [List.length_append]
      exact free
  | refused broken => exact room
  | take idle waiting fits =>
      rw [waiting, List.length_cons] at room
      exact Nat.le_of_succ_le room
  | takeLong idle waiting long | writeFailed busy | closed idle empty =>
      exact Nat.zero_le _
  | write busy nonempty => exact room

/-- What an end of the tunnel holds of its connections and for its writer. -/
structure Bounded (table : ChannelTable) (out : Outbound) : Prop where
  conn : ∀ conn ∈ table.conns, conn.held.length ≤ connRoom
  all : table.held.length ≤ table.running.length * connRoom + chunk
  queue : out.queue.length ≤ outCapacity

theorem Bounded.of_slim {table : ChannelTable} {out : Outbound}
    (slim : SlimTable table) (queue : out.queue.length ≤ outCapacity) :
    Bounded table out where
  conn := fun conn member => (slim.conns conn member).length_held_le
  all := slim.length_held_le
  queue := queue

/--
Over every run of the tunnel, however slow its sockets and pipes are, each end
holds at most 66 chunks of a running connection, one more for the connection
that its frame loop waits for, and 1024 frames for its writer.
-/
theorem bounded_of_run {dnsEnabled : Bool} {resolvers : List SocketAddr}
    {trace : List SystemAction} {system : System}
    (run : Run System.step (.start dnsEnabled resolvers) trace system) :
    Bounded system.client.channels system.client.out ∧
      Bounded system.server.tcp system.server.out := by
  have client := run_client run
  have server := run_server run
  constructor
  · refine .of_slim (.of_run (run_channels client) ?_)
      (length_queue_le (run_clientOut client))
    intro channel bytes fed
    rcases read_of_channelTrace client fed with ⟨frame, read, command, rfl⟩
    exact length_le_of_serverFrames server frame
      ((clientReads_isPrefix run).subset read) command
  · refine .of_slim (.of_run (run_tcp server) ?_)
      (length_queue_le (run_out server))
    intro channel bytes fed
    rcases read_of_tcpEvents server fed with ⟨frame, read, command, rfl⟩
    rcases List.mem_append.mp ((serverReads_isPrefix run).subset read) with
      probe | queued
    · have ping := (probe_frame
        ((ClientStream.of_run client).probes frame probe)).1
      rw [Frame.command, ping] at command
      cases command
    · exact length_le_of_clientFrames client frame queued command

/-- While one buffer waits in its queue, and another one is half written. -/
theorem bounded_talk :
    ∃ system, Run System.step (.start false []) talk system ∧
      system.server.tcp.held = [3] ∧ system.client.channels.held = [7] ∧
      Bounded system.client.channels system.client.out ∧
        Bounded system.server.tcp system.server.out := by
  rcases run_of_execute_any System.step (.start false []) talk
    (fun system => system.server.tcp.held = [3] ∧
      system.client.channels.held = [7]) (by decide +kernel) with
    ⟨system, run, holds⟩
  exact ⟨system, run, (of_decide_eq_true holds).1, (of_decide_eq_true holds).2,
    bounded_of_run run⟩

end KubectlSshuttle.Rushtle
