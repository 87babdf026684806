import KubectlSshuttle.Lib.Transition
import KubectlSshuttle.Rushtle.Ssnet

/-!
# The tasks of one tunnelled connection

Both ends run the same machinery for a TCP connection: a task that reads the
socket and puts `TCP_DATA` frames on `out_tx`, a task that takes buffers from
a bounded inbound queue and writes them to the socket, and a task that joins
the two and then removes the channel from the map.  On the server that task
first connects to the target; on the client it first sends `TCP_CONNECT`.

A connection moves by events.  Each event is one step of one of these tasks
between two of its suspension points, or the arrival of a buffer in the
inbound queue.
-/

namespace KubectlSshuttle.Rushtle.Connection

open KubectlSshuttle.Lib.RustText
open KubectlSshuttle.Rushtle.Ssnet

/-- The end of the tunnel that a connection lives on. -/
inductive Side where
  | client
  | server
deriving DecidableEq, Repr

/-- `mpsc::channel::<Vec<u8>>(64)`. -/
def inboundCapacity : Nat := 64

/-! ## The task that reads the socket -/

/-- Where the reading task stands. -/
inductive ReadTask where
  | reading
  | sending (data : Bytes)
  | sendingEof
  | done
deriving DecidableEq, Repr

/-- What a read from the socket returns. -/
inductive ReadEvent where
  | bytes (data : Bytes)
  | eof
  | error
deriving DecidableEq, Repr

/-- `read(&mut buf)` returns: at most `CHUNK` bytes, the end, or an error. -/
def ReadTask.read : ReadTask → ReadEvent → Option ReadTask
  | .reading, .bytes data =>
      if data ≠ [] ∧ data.length ≤ chunk then some (.sending data) else none
  | .reading, .eof => some .sendingEof
  | .reading, .error => some .sendingEof
  | _, _ => none

/-- The task's frame was put on `out_tx`. -/
def ReadTask.sent : ReadTask → Option ReadTask
  | .sending _ => some .reading
  | .sendingEof => some .done
  | _ => none

/--
After a failed `TCP_DATA` the client's task returns, while the server's leaves
its loop and still tries to send `TCP_EOF`.
-/
def ReadTask.afterDataFailure : Side → ReadTask
  | .client => .done
  | .server => .sendingEof

/-- `out_tx` is closed. -/
def ReadTask.sendFailed (side : Side) : ReadTask → Option ReadTask
  | .sending _ => some (ReadTask.afterDataFailure side)
  | .sendingEof => some .done
  | _ => none

/-! ## The task that writes the socket -/

/-- Where the writing task stands. -/
inductive WriteTask where
  | receiving
  | writing (rest : Bytes)
  | shuttingDown
  | done
deriving DecidableEq, Repr

/-- What is left to write of the buffer in hand. -/
def WriteTask.rest : WriteTask → Bytes
  | .writing rest => rest
  | _ => []

/-- A received buffer; an empty one ends the loop. -/
def WriteTask.take (buffer : Bytes) : WriteTask :=
  if buffer = [] then .shuttingDown else .writing buffer

/-- `write_all` has written a part of the buffer. -/
def WriteTask.after (rest : Bytes) : WriteTask :=
  if rest = [] then .receiving else .writing rest

/-! ## Connections -/

/-- Where the connection's own task stands. -/
inductive Phase where
  /-- server: `TcpStream::connect` is pending -/
  | connecting
  /-- client: `TCP_CONNECT` is to be put on `out_tx` -/
  | announcing
  /-- server: the connect failed, `TCP_STOP_SENDING` is to be put on `out_tx` -/
  | refused
  /-- server: waits for the map's lock, the inbound receiver still in scope -/
  | refusedLocking
  /-- both halves run, the task waits in `join!` -/
  | streaming (reader : ReadTask) (writer : WriteTask)
  /-- `join!` has returned, the task waits for the map's lock -/
  | locking
  /-- the channel was removed from the map -/
  | finished
  /-- client: `TCP_CONNECT` could not be sent, the task returned at once -/
  | abandoned
deriving DecidableEq, Repr

/-- One connection at one end. -/
structure Conn where
  channel : UInt16
  /-- host and port of the target -/
  target : Text × UInt16
  /-- the inbound queue, oldest buffer first -/
  inbound : List Bytes
  phase : Phase
deriving DecidableEq, Repr

/-- A connection as it is registered in the map. -/
def Conn.fresh (side : Side) (channel : UInt16) (target : Text × UInt16) :
    Conn where
  channel := channel
  target := target
  inbound := []
  phase := match side with
    | .client => .announcing
    | .server => .connecting

/-- The task that owns the inbound receiver has not dropped it yet. -/
def Conn.receiverAlive (conn : Conn) : Bool :=
  match conn.phase with
  | .connecting | .announcing | .refused | .refusedLocking => true
  | .streaming _ writer => writer != .done
  | .locking | .finished | .abandoned => false

/-- The family that the client puts in front of the host. -/
def familyOf (host : Text) : UInt16 :=
  if ':' ∈ host then afInet6 else afInet

/-- The frame that announces a connection. -/
def connectFrame (channel : UInt16) (target : Text × UInt16) : Frame :=
  ⟨channel, cmdTcpConnect,
    encodeConnect (familyOf target.1) target.1 target.2⟩

/-- The frame that refuses a connection. -/
def stopFrame (channel : UInt16) : Frame :=
  ⟨channel, cmdTcpStopSending, []⟩

/-- The frame that carries what was read. -/
def dataFrame (channel : UInt16) (data : Bytes) : Frame :=
  ⟨channel, cmdTcpData, data⟩

/-- The frame that ends a direction. -/
def eofFrame (channel : UInt16) : Frame :=
  ⟨channel, cmdTcpEof, []⟩

/-- The frame that one of the connection's tasks is putting on `out_tx`. -/
def Conn.pendingFrame (conn : Conn) : Option Frame :=
  match conn.phase with
  | .announcing => some (connectFrame conn.channel conn.target)
  | .refused => some (stopFrame conn.channel)
  | .streaming (.sending data) _ => some (dataFrame conn.channel data)
  | .streaming .sendingEof _ => some (eofFrame conn.channel)
  | _ => none

/-- What the tasks of one connection do. -/
inductive ConnEvent where
  | connected
  | connectFailed
  | sent (frame : Frame)
  | sendFailed
  | deliver (buffer : Bytes)
  | read (event : ReadEvent)
  | take
  | queueClosed
  | write (bytes : Bytes)
  | writeError
  | shutdown
  | joined
  | removed
deriving DecidableEq, Repr

/-- The phase after the pending frame was put on `out_tx`. -/
def Phase.sent : Phase → Option Phase
  | .announcing => some (.streaming .reading .receiving)
  | .refused => some .refusedLocking
  | .streaming reader writer =>
      reader.sent.map fun reader => .streaming reader writer
  | _ => none

/-- The phase after `out_tx` turned out to be closed. -/
def Phase.sendFailed (side : Side) : Phase → Option Phase
  | .announcing => some .abandoned
  | .refused => some .refusedLocking
  | .streaming reader writer =>
      (reader.sendFailed side).map fun reader => .streaming reader writer
  | _ => none

/-- One step of a connection. -/
def Conn.step (side : Side) (conn : Conn) : ConnEvent → Option Conn
  | .connected =>
      if conn.phase = .connecting then
        some { conn with phase := .streaming .reading .receiving }
      else none
  | .connectFailed =>
      if conn.phase = .connecting then
        some { conn with phase := .refused }
      else none
  | .sent frame =>
      if conn.pendingFrame = some frame then
        conn.phase.sent.map fun phase => { conn with phase := phase }
      else none
  | .sendFailed =>
      (conn.phase.sendFailed side).map fun phase =>
        { conn with phase := phase }
  | .deliver buffer =>
      if conn.receiverAlive ∧ conn.inbound.length < inboundCapacity then
        some { conn with inbound := conn.inbound ++ [buffer] }
      else none
  | .read event =>
      match conn.phase with
      | .streaming reader writer =>
          (reader.read event).map fun reader =>
            { conn with phase := .streaming reader writer }
      | _ => none
  | .take =>
      match conn.phase, conn.inbound with
      | .streaming reader .receiving, buffer :: rest =>
          some
            { conn with
              inbound := rest
              phase := .streaming reader (WriteTask.take buffer) }
      | _, _ => none
  | .queueClosed =>
      match conn.phase, conn.inbound with
      | .streaming reader .receiving, [] =>
          some { conn with phase := .streaming reader .shuttingDown }
      | _, _ => none
  | .write bytes =>
      match conn.phase with
      | .streaming reader (.writing rest) =>
          if bytes ≠ [] ∧ bytes.isPrefixOf rest then
            some
              { conn with
                phase := .streaming reader
                  (WriteTask.after (rest.drop bytes.length)) }
          else none
      | _ => none
  | .writeError =>
      match conn.phase with
      | .streaming reader (.writing _) =>
          some { conn with phase := .streaming reader .shuttingDown }
      | _ => none
  | .shutdown =>
      match conn.phase with
      | .streaming reader .shuttingDown =>
          some { conn with phase := .streaming reader .done }
      | _ => none
  | .joined =>
      if conn.phase = .streaming .done .done then
        some { conn with phase := .locking }
      else none
  | .removed =>
      if conn.phase = .locking ∨ conn.phase = .refusedLocking then
        some { conn with phase := .finished }
      else none

/-! ## What one step can do -/

/-- The steps of a connection, one constructor for each. -/
inductive Moves (side : Side) (conn : Conn) : ConnEvent → Conn → Prop where
  | connected (pending : conn.phase = .connecting) :
      Moves side conn .connected
        { conn with phase := .streaming .reading .receiving }
  | connectFailed (pending : conn.phase = .connecting) :
      Moves side conn .connectFailed { conn with phase := .refused }
  | announced (phase : conn.phase = .announcing) :
      Moves side conn (.sent (connectFrame conn.channel conn.target))
        { conn with phase := .streaming .reading .receiving }
  | stopped (phase : conn.phase = .refused) :
      Moves side conn (.sent (stopFrame conn.channel))
        { conn with phase := .refusedLocking }
  | sentData {data : Bytes} {writer : WriteTask}
      (phase : conn.phase = .streaming (.sending data) writer) :
      Moves side conn (.sent (dataFrame conn.channel data))
        { conn with phase := .streaming .reading writer }
  | sentEof {writer : WriteTask}
      (phase : conn.phase = .streaming .sendingEof writer) :
      Moves side conn (.sent (eofFrame conn.channel))
        { conn with phase := .streaming .done writer }
  | announceFailed (phase : conn.phase = .announcing) :
      Moves side conn .sendFailed { conn with phase := .abandoned }
  | stopFailed (phase : conn.phase = .refused) :
      Moves side conn .sendFailed { conn with phase := .refusedLocking }
  | dataFailed {data : Bytes} {writer : WriteTask}
      (phase : conn.phase = .streaming (.sending data) writer) :
      Moves side conn .sendFailed
        { conn with
          phase := .streaming (ReadTask.afterDataFailure side) writer }
  | eofFailed {writer : WriteTask}
      (phase : conn.phase = .streaming .sendingEof writer) :
      Moves side conn .sendFailed
        { conn with phase := .streaming .done writer }
  | deliver {buffer : Bytes} (alive : conn.receiverAlive = true)
      (room : conn.inbound.length < inboundCapacity) :
      Moves side conn (.deliver buffer)
        { conn with inbound := conn.inbound ++ [buffer] }
  | readBytes {data : Bytes} {writer : WriteTask}
      (phase : conn.phase = .streaming .reading writer)
      (nonempty : data ≠ []) (small : data.length ≤ chunk) :
      Moves side conn (.read (.bytes data))
        { conn with phase := .streaming (.sending data) writer }
  | readEof {writer : WriteTask}
      (phase : conn.phase = .streaming .reading writer) :
      Moves side conn (.read .eof)
        { conn with phase := .streaming .sendingEof writer }
  | readError {writer : WriteTask}
      (phase : conn.phase = .streaming .reading writer) :
      Moves side conn (.read .error)
        { conn with phase := .streaming .sendingEof writer }
  | take {reader : ReadTask} {buffer : Bytes} {rest : List Bytes}
      (phase : conn.phase = .streaming reader .receiving)
      (queue : conn.inbound = buffer :: rest) :
      Moves side conn .take
        { conn with
          inbound := rest
          phase := .streaming reader (WriteTask.take buffer) }
  | queueClosed {reader : ReadTask}
      (phase : conn.phase = .streaming reader .receiving)
      (queue : conn.inbound = []) :
      Moves side conn .queueClosed
        { conn with phase := .streaming reader .shuttingDown }
  | write {reader : ReadTask} {bytes rest : Bytes}
      (phase : conn.phase = .streaming reader (.writing (bytes ++ rest)))
      (nonempty : bytes ≠ []) :
      Moves side conn (.write bytes)
        { conn with phase := .streaming reader (WriteTask.after rest) }
  | writeError {reader : ReadTask} {rest : Bytes}
      (phase : conn.phase = .streaming reader (.writing rest)) :
      Moves side conn .writeError
        { conn with phase := .streaming reader .shuttingDown }
  | shutdown {reader : ReadTask}
      (phase : conn.phase = .streaming reader .shuttingDown) :
      Moves side conn .shutdown
        { conn with phase := .streaming reader .done }
  | joined (phase : conn.phase = .streaming .done .done) :
      Moves side conn .joined { conn with phase := .locking }
  | removed (phase : conn.phase = .locking ∨ conn.phase = .refusedLocking) :
      Moves side conn .removed { conn with phase := .finished }

theorem Moves.of_sent {side : Side} {conn next : Conn} {frame : Frame}
    (taken : conn.step side (.sent frame) = some next) :
    Moves side conn (.sent frame) next := by
  simp only [Conn.step] at taken
  split at taken
  · next pending =>
      rcases Option.map_eq_some_iff.mp taken with ⟨phase, moved, rfl⟩
      unfold Conn.pendingFrame at pending
      split at pending <;>
        simp only [Option.some.injEq, reduceCtorEq] at pending
      · next stands =>
          subst pending
          simp only [stands, Phase.sent, Option.some.injEq] at moved
          subst moved
          exact .announced stands
      · next stands =>
          subst pending
          simp only [stands, Phase.sent, Option.some.injEq] at moved
          subst moved
          exact .stopped stands
      · next data writer stands =>
          subst pending
          simp only [stands, Phase.sent, ReadTask.sent, Option.map_some,
            Option.some.injEq] at moved
          subst moved
          exact .sentData stands
      · next writer stands =>
          subst pending
          simp only [stands, Phase.sent, ReadTask.sent, Option.map_some,
            Option.some.injEq] at moved
          subst moved
          exact .sentEof stands
  · cases taken

theorem Moves.of_sendFailed {side : Side} {conn next : Conn}
    (taken : conn.step side .sendFailed = some next) :
    Moves side conn .sendFailed next := by
  simp only [Conn.step] at taken
  rcases Option.map_eq_some_iff.mp taken with ⟨phase, moved, rfl⟩
  unfold Phase.sendFailed at moved
  split at moved
  · next stands =>
      simp only [Option.some.injEq] at moved
      subst moved
      exact .announceFailed stands
  · next stands =>
      simp only [Option.some.injEq] at moved
      subst moved
      exact .stopFailed stands
  · next reader writer stands =>
      rcases Option.map_eq_some_iff.mp moved with ⟨reader', failed, rfl⟩
      cases reader with
      | reading => simp [ReadTask.sendFailed] at failed
      | done => simp [ReadTask.sendFailed] at failed
      | sending data =>
          simp only [ReadTask.sendFailed, Option.some.injEq] at failed
          subst failed
          exact .dataFailed stands
      | sendingEof =>
          simp only [ReadTask.sendFailed, Option.some.injEq] at failed
          subst failed
          exact .eofFailed stands
  · cases moved

theorem Moves.of_read {side : Side} {conn next : Conn} {event : ReadEvent}
    (taken : conn.step side (.read event) = some next) :
    Moves side conn (.read event) next := by
  simp only [Conn.step] at taken
  split at taken
  · next reader writer stands =>
      rcases Option.map_eq_some_iff.mp taken with ⟨reader', read, rfl⟩
      cases reader with
      | sending data => simp [ReadTask.read] at read
      | sendingEof => simp [ReadTask.read] at read
      | done => simp [ReadTask.read] at read
      | reading =>
          cases event with
          | bytes data =>
              simp only [ReadTask.read] at read
              split at read
              · next fits =>
                  simp only [Option.some.injEq] at read
                  subst read
                  exact .readBytes stands fits.1 fits.2
              · cases read
          | eof =>
              simp only [ReadTask.read, Option.some.injEq] at read
              subst read
              exact .readEof stands
          | error =>
              simp only [ReadTask.read, Option.some.injEq] at read
              subst read
              exact .readError stands
  · cases taken

theorem Moves.of_write {side : Side} {conn next : Conn} {bytes : Bytes}
    (taken : conn.step side (.write bytes) = some next) :
    Moves side conn (.write bytes) next := by
  simp only [Conn.step] at taken
  split at taken
  · next reader rest stands =>
      split at taken
      · next fits =>
          rcases List.isPrefixOf_iff_prefix.mp fits.2 with ⟨tail, rfl⟩
          simp only [Option.some.injEq, List.drop_left] at taken
          subst taken
          exact .write stands fits.1
      · cases taken
  · cases taken

/-- Inversion of a step. -/
theorem Moves.of_step {side : Side} {conn next : Conn} {event : ConnEvent}
    (taken : conn.step side event = some next) :
    Moves side conn event next := by
  cases event with
  | sent frame => exact .of_sent taken
  | sendFailed => exact .of_sendFailed taken
  | read event => exact .of_read taken
  | write bytes => exact .of_write taken
  | connected =>
      simp only [Conn.step, Option.ite_none_right_eq_some,
        Option.some.injEq] at taken
      rcases taken with ⟨stands, rfl⟩
      exact .connected stands
  | connectFailed =>
      simp only [Conn.step, Option.ite_none_right_eq_some,
        Option.some.injEq] at taken
      rcases taken with ⟨stands, rfl⟩
      exact .connectFailed stands
  | deliver buffer =>
      simp only [Conn.step, Option.ite_none_right_eq_some,
        Option.some.injEq] at taken
      rcases taken with ⟨⟨alive, room⟩, rfl⟩
      exact .deliver alive room
  | take =>
      simp only [Conn.step] at taken
      split at taken
      · next reader buffer rest stands queue =>
          simp only [Option.some.injEq] at taken
          subst taken
          exact .take stands queue
      · cases taken
  | queueClosed =>
      simp only [Conn.step] at taken
      split at taken
      · next reader stands queue =>
          simp only [Option.some.injEq] at taken
          subst taken
          exact .queueClosed stands queue
      · cases taken
  | writeError =>
      simp only [Conn.step] at taken
      split at taken
      · next reader rest stands =>
          simp only [Option.some.injEq] at taken
          subst taken
          exact .writeError stands
      · cases taken
  | shutdown =>
      simp only [Conn.step] at taken
      split at taken
      · next reader stands =>
          simp only [Option.some.injEq] at taken
          subst taken
          exact .shutdown stands
      · cases taken
  | joined =>
      simp only [Conn.step, Option.ite_none_right_eq_some,
        Option.some.injEq] at taken
      rcases taken with ⟨stands, rfl⟩
      exact .joined stands
  | removed =>
      simp only [Conn.step, Option.ite_none_right_eq_some,
        Option.some.injEq] at taken
      rcases taken with ⟨stands, rfl⟩
      exact .removed stands

/-- No step changes a connection's channel or target. -/
theorem Moves.frame {side : Side} {conn next : Conn} {event : ConnEvent}
    (moved : Moves side conn event next) :
    next.channel = conn.channel ∧ next.target = conn.target := by
  cases moved <;> exact ⟨rfl, rfl⟩

end KubectlSshuttle.Rushtle.Connection
