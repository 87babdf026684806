import KubectlSshuttle.Lib.Counting
import KubectlSshuttle.Rushtle.ClientRuns
import KubectlSshuttle.Rushtle.ServerRuns
import KubectlSshuttle.Rushtle.Winding

/-!
# What is left to be done

Every task, queue and frame has a price: the number of steps that the two
processes will still take on account of it, with all that follows from them.
A frame pays for its way through the queue, the writer and the pipe, and for
what it makes the other end do.  A `PING` and a `DNS_REQ` are answered, so
that they pay for the answer as well.
-/

namespace KubectlSshuttle.Rushtle

open KubectlSshuttle.Lib.RustText
open KubectlSshuttle.Lib.Address
open KubectlSshuttle.Lib.Counting
open KubectlSshuttle.Rushtle.Ssnet
open KubectlSshuttle.Rushtle.Connection
open KubectlSshuttle.Rushtle.Channels
open KubectlSshuttle.Rushtle.OutQueue

/-! ## Frames -/

/-- The frame makes the end that reads it send another one. -/
def isAnswered (frame : Frame) : Bool :=
  decide (frame.command = .ping ∨ frame.command = .dnsReq)

/-- A frame that was not read yet. -/
def framePrice (frame : Frame) : Nat :=
  frame.data.length + 4 +
    if isAnswered frame then frame.data.length + 11 else 0

/-- The price of a queue. -/
def framesPrice (frames : List Frame) : Nat :=
  (frames.map framePrice).sum

/-- A frame that is not in the queue yet. -/
def sendPrice (frame : Frame) : Nat :=
  (frameBytes frame).length + 2 + framePrice frame

theorem length_frameBytes (frame : Frame) :
    (frameBytes frame).length = frame.data.length + 8 := by
  rw [frameBytes, List.length_append, length_frameHeader, hdrLen,
    Nat.add_comm]

@[simp]
theorem framesPrice_nil : framesPrice [] = 0 := rfl

@[simp]
theorem framesPrice_cons (frame : Frame) (rest : List Frame) :
    framesPrice (frame :: rest) = framePrice frame + framesPrice rest := by
  simp [framesPrice]

@[simp]
theorem framesPrice_append (left right : List Frame) :
    framesPrice (left ++ right) = framesPrice left + framesPrice right := by
  simp [framesPrice]

theorem framesPrice_le_of_isPrefix {part whole : List Frame}
    (within : part <+: whole) : framesPrice part ≤ framesPrice whole := by
  rcases within with ⟨rest, rfl⟩
  rw [framesPrice_append]
  exact Nat.le_add_right _ _

/-- An unanswered frame costs its length. -/
theorem framePrice_of_unanswered {frame : Frame}
    (unanswered : isAnswered frame = false) :
    framePrice frame = frame.data.length + 4 := by
  simp [framePrice, unanswered]

theorem le_framePrice (frame : Frame) :
    frame.data.length + 4 ≤ framePrice frame :=
  Nat.le_add_right _ _

/-- An answered frame pays for an answer of its own length. -/
theorem sendPrice_lt_framePrice (frame answer : Frame)
    (answered : isAnswered frame = true)
    (final : isAnswered answer = false)
    (short : answer.data.length ≤ frame.data.length) :
    sendPrice answer < framePrice frame := by
  rw [sendPrice, framePrice_of_unanswered final, length_frameBytes,
    framePrice, if_pos answered]
  omega

/-! ## Queues -/

/-- The queue and the frame that the writer has in hand. -/
def outPrice (out : Outbound) : Nat :=
  (out.queue.map fun frame => (frameBytes frame).length + 1).sum +
    out.writer.rest.length

@[simp]
theorem WriterTask.rest_receiving : WriterTask.receiving.rest = [] := rfl

@[simp]
theorem WriterTask.rest_writing (rest : Bytes) :
    (WriterTask.writing rest).rest = rest := rfl

@[simp]
theorem WriterTask.rest_broken : WriterTask.broken.rest = [] := rfl

theorem outPrice_enqueued {out next : Outbound} {frame : Frame}
    (taken : out.step (.enqueued frame) = some next) :
    outPrice next + framePrice frame + 1 =
      outPrice out + sendPrice frame := by
  cases OutMoves.of_step taken with
  | enqueued running room =>
      simp only [outPrice, sendPrice, List.map_append, List.map_cons,
        List.map_nil, List.sum_append, List.sum_cons, List.sum_nil]
      omega

/-- The writer task pays for each of its steps. -/
theorem outPrice_own {out next : Outbound} {event : OutEvent}
    (taken : out.step event = some next) (own : ownOutEvent event = true)
    (unclosed : event ≠ .closed) (unfailed : event ≠ .writeFailed) :
    outPrice next < outPrice out := by
  cases OutMoves.of_step taken with
  | enqueued | refused => cases own
  | closed => exact (unclosed rfl).elim
  | writeFailed => exact (unfailed rfl).elim
  | take idle waiting fits =>
      simp only [outPrice, waiting, idle, WriterTask.rest_receiving,
        WriterTask.rest_writing, List.map_cons, List.sum_cons,
        List.length_nil]
      omega
  | takeLong idle waiting long =>
      simp only [outPrice, waiting, WriterTask.rest_broken, List.map_cons,
        List.sum_cons, List.length_nil, List.map_nil, List.sum_nil]
      omega
  | write busy nonempty =>
      have some := List.length_pos_iff.mpr nonempty
      simp only [outPrice, busy, WriterTask.rest_writing,
        WriterTask.rest_after, List.length_append]
      omega

/-! ## Connections -/

/-- The steps of a writing task, its queue apart. -/
def WriteTask.price : WriteTask → Nat
  | .receiving => 2
  | .writing rest => rest.length + 2
  | .shuttingDown => 1
  | .done => 0

/-- The steps of a reading task until it reads again. -/
def ReadTask.price (channel : UInt16) : ReadTask → Nat
  | .sending data => sendPrice (dataFrame channel data)
  | .sendingEof => sendPrice (eofFrame channel)
  | .reading | .done => 0

/-- The steps that take and write a queue. -/
def buffersPrice (buffers : List Bytes) : Nat :=
  (buffers.map fun buffer => buffer.length + 1).sum

/-- The steps that a connection can still take alone. -/
def connPrice (conn : Conn) : Nat :=
  buffersPrice conn.inbound +
    match conn.phase with
    | .announcing => sendPrice (connectFrame conn.channel conn.target) + 4
    | .refused => sendPrice (stopFrame conn.channel) + 1
    | .streaming reader writer =>
        ReadTask.price conn.channel reader + WriteTask.price writer + 2
    | .refusedLocking | .locking => 1
    | .connecting | .finished | .abandoned => 0

@[simp]
theorem WriteTask.price_writing (rest : Bytes) :
    WriteTask.price (.writing rest) = rest.length + 2 := rfl

theorem WriteTask.price_take (buffer : Bytes) :
    WriteTask.price (WriteTask.take buffer) ≤ buffer.length + 2 := by
  unfold WriteTask.take
  split
  · simp [WriteTask.price]
  · exact Nat.le_refl _

theorem WriteTask.price_after (rest : Bytes) :
    WriteTask.price (WriteTask.after rest) = rest.length + 2 := by
  unfold WriteTask.after
  split
  · next empty => simp [WriteTask.price, empty]
  · rfl

/-- A connection pays for what it does by itself. -/
theorem connPrice_own {side : Side} {conn next : Conn} {event : ConnEvent}
    {member : Nat} (taken : conn.step side event = some next)
    (own : ownTableEvent (.conn member event) = true)
    (inside : outsideConn event = false)
    (undelivered : ∀ buffer, event ≠ .deliver buffer) :
    connPrice next < connPrice conn := by
  cases Moves.of_step taken with
  | announced | stopped | sentData | sentEof | announceFailed | stopFailed
  | dataFailed | eofFailed => cases own
  | connected | connectFailed | readBytes | readEof | readError
  | writeError => cases inside
  | deliver => exact (undelivered _ rfl).elim
  | take phase queue =>
      have bound := WriteTask.price_take
      simp only [connPrice, phase, queue, buffersPrice, List.map_cons,
        List.sum_cons, WriteTask.price]
      exact Nat.lt_of_le_of_lt (Nat.add_le_add_left
        (Nat.add_le_add_right (Nat.add_le_add_left (bound _) _) _) _)
        (by omega)
  | queueClosed phase queue | shutdown phase | joined phase =>
      simp [connPrice, phase, WriteTask.price, ReadTask.price]
  | write phase nonempty =>
      have some := List.length_pos_iff.mpr nonempty
      simp only [connPrice, phase, WriteTask.price_after,
        WriteTask.price_writing, List.length_append]
      omega
  | removed phase =>
      rcases phase with phase | phase <;> simp [connPrice, phase]

theorem connPrice_deliver {side : Side} {conn next : Conn} {buffer : Bytes}
    (taken : conn.step side (.deliver buffer) = some next) :
    connPrice next = connPrice conn + buffer.length + 1 := by
  cases Moves.of_step taken with
  | deliver alive room =>
      simp only [connPrice, buffersPrice, List.map_append, List.map_cons,
        List.map_nil, List.sum_append, List.sum_cons, List.sum_nil]
      omega

/-- A connection's frame is paid for by the connection. -/
theorem connPrice_sent {side : Side} {conn next : Conn} {frame : Frame}
    (taken : conn.step side (.sent frame) = some next) :
    connPrice next + sendPrice frame = connPrice conn := by
  cases Moves.of_step taken with
  | announced phase | stopped phase | sentData phase | sentEof phase =>
      simp only [connPrice, phase, ReadTask.price, WriteTask.price]
      omega

/-! ## Tables -/

/-- The steps of all connections and of the pending delivery. -/
def tablePrice (table : ChannelTable) : Nat :=
  (table.conns.map connPrice).sum +
    match table.delivering with
    | some (_, bytes) => bytes.length + 2
    | none => 0

section Table

variable {side : Side} {table next : ChannelTable}

/-- The connections and the waiting frame loop pay for their steps. -/
theorem tablePrice_own {event : TableEvent}
    (taken : table.step side event = some next)
    (own : ownTableEvent event = true)
    (inside : ∀ member inner, event = .conn member inner →
      outsideConn inner = false) :
    tablePrice next < tablePrice table := by
  cases TableMoves.of_step taken with
  | opened | data | closed => cases own
  | dropped waiting present gone =>
      simp [tablePrice, waiting]
  | @admitted member bytes conn after waiting present moved =>
      have replaced := sum_map_set connPrice present after
      have filled := connPrice_deliver moved
      simp only [tablePrice, waiting]
      omega
  | @conn member inner conn after present permitted moved =>
      have replaced := sum_map_set connPrice present after
      have lower := connPrice_own moved own (inside _ _ rfl) (by
        rintro buffer rfl
        cases permitted)
      simp only [tablePrice, ChannelTable.update]
      omega

theorem tablePrice_sent {member : Nat} {frame : Frame}
    (taken : table.step side (.conn member (.sent frame)) = some next) :
    tablePrice next + sendPrice frame = tablePrice table := by
  cases TableMoves.of_step taken with
  | @conn member inner conn after present permitted moved =>
      have replaced := sum_map_set connPrice present after
      have paid := connPrice_sent moved
      simp only [tablePrice, ChannelTable.update]
      omega

/-- What a new connection costs. -/
def freshPrice (side : Side) (channel : UInt16) (target : Text × UInt16) :
    Nat :=
  match side with
  | .client => sendPrice (connectFrame channel target) + 4
  | .server => 0

theorem tablePrice_opened {channel : UInt16} {target : Text × UInt16}
    (taken : table.step side (.opened channel target) = some next) :
    tablePrice next = tablePrice table + freshPrice side channel target := by
  cases TableMoves.of_step taken with
  | opened free =>
      cases side <;>
        simp [tablePrice, connPrice, Conn.fresh, freshPrice, buffersPrice,
          free]

theorem tablePrice_data {channel : UInt16} {bytes : Bytes}
    (taken : table.step side (.data channel bytes) = some next) :
    tablePrice next ≤ tablePrice table + bytes.length + 2 := by
  cases TableMoves.of_step taken with
  | data free =>
      cases owned : table.owner channel with
      | none =>
          simp only [tablePrice, free, Option.map_none]
          omega
      | some member =>
          simp only [tablePrice, free, Option.map_some]
          omega

theorem tablePrice_closed {channel : UInt16} {cause : Closing}
    (taken : table.step side (.closed channel cause) = some next) :
    tablePrice next = tablePrice table := by
  cases TableMoves.of_step taken with
  | closed free => rfl

end Table

end KubectlSshuttle.Rushtle
