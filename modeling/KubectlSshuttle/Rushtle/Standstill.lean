import KubectlSshuttle.Rushtle.Deliveries
import KubectlSshuttle.Rushtle.Shutdown

/-!
# Tables and queues that stand still

When no task can go on by itself, the writer has written everything and
every connection stands where only the network, the other end or a full queue
can move it.  A connection that stands there has sent what its socket gave,
and has written what was delivered to it, unless its peer does not take it.
-/

namespace KubectlSshuttle.Rushtle.OutQueue

open KubectlSshuttle.Rushtle.Ssnet

/-- A writer that can do nothing more has nothing to write. -/
theorem empty_of_still {out : Outbound} (running : out.writer.inLoop = true)
    (holds : HoldsSome out) (untaken : out.step .take = none)
    (unwritten : ∀ bytes, out.step (.write bytes) = none) :
    out = .empty := by
  cases writer : out.writer with
  | broken | finished =>
      rw [writer] at running
      cases running
  | writing rest =>
      have next := unwritten rest
      simp [Outbound.step, writer, holds rest writer] at next
  | receiving =>
      cases queue : out.queue with
      | cons frame rest => simp [Outbound.step, writer, queue] at untaken
      | nil => rw [Outbound.empty, ← queue, ← writer]

/-- With nothing left to write, the queue's frames are the stream. -/
theorem written_of_empty {events : List OutEvent} {out : Outbound}
    (invariant : OutInv events out) (idle : out = .empty) :
    writtenBytes events = framesBytes (enqueuedFrames events) := by
  subst idle
  rcases invariant.running rfl with ⟨accepted, _, queued, bytes⟩
  have same : enqueuedFrames events = accepted := by
    simpa [Outbound.empty] using queued
  rw [same, bytes]
  simp [Outbound.empty, WriterTask.rest]

end KubectlSshuttle.Rushtle.OutQueue

namespace KubectlSshuttle.Rushtle.Channels

open KubectlSshuttle.Lib.RustText
open KubectlSshuttle.Lib.Transition
open KubectlSshuttle.Rushtle.Ssnet
open KubectlSshuttle.Rushtle.Connection

/-! ## Connections that stand still -/

/--
The table's events that need the network.  A write is one of them: it waits
as long as the peer of the socket does not take what was written before.
-/
def outsideTable : TableEvent → Bool
  | .conn _ (.write _) => true
  | .conn _ event => outsideConn event
  | _ => false

/-- No task of the table has a frame to send or a step to take. -/
structure StandsStill (side : Side) (table : ChannelTable) : Prop where
  unsent : ∀ conn ∈ table.conns, conn.pendingFrame = none
  still : ∀ event, ownTableEvent event = true → outsideTable event = false →
    table.step side event = none

/-- The socket's peer has not taken all that is being written. -/
def Blocked (conn : Conn) : Prop :=
  ∃ reader rest, conn.phase = .streaming reader (.writing rest)

/-- Where a connection stands that cannot move by itself. -/
inductive Parked (table : ChannelTable) (member : Nat) (conn : Conn) :
    Prop where
  | connecting (phase : conn.phase = .connecting)
  | listening {reader : ReadTask}
      (phase : conn.phase = .streaming reader .receiving)
      (unread : reader = .reading ∨ reader = .done)
      (queue : conn.inbound = [])
      (owned : table.owner conn.channel = some member)
  | blocked {reader : ReadTask} {rest : Bytes}
      (phase : conn.phase = .streaming reader (.writing rest))
      (unread : reader = .reading ∨ reader = .done)
  | shut (phase : conn.phase = .streaming .reading .done)
  | finished (phase : conn.phase = .finished)
  | abandoned (phase : conn.phase = .abandoned)

/--
The frame loop waits, with the lock, for room in the queue of a connection
that has not reached its target, was refused, or waits for its socket's peer.
-/
structure HeldUp (table : ChannelTable) (member : Nat) (conn : Conn) :
    Prop where
  waiting : ∃ bytes, table.delivering = some (member, bytes)
  present : table.conns[member]? = some conn
  full : inboundCapacity ≤ conn.inbound.length
  phase : conn.phase = .connecting ∨ conn.phase = .refusedLocking ∨
    Blocked conn

section Still

variable {side : Side} {table : ChannelTable} {member : Nat} {conn : Conn}

/-- The steps of a connection that only the map could forbid. -/
theorem StandsStill.conn_step (stands : StandsStill side table)
    (present : table.conns[member]? = some conn) (event : ConnEvent)
    (own : ownTableEvent (.conn member event) = true)
    (inside : outsideTable (.conn member event) = false)
    (permitted : table.permits member conn event = true) :
    conn.step side event = none := by
  have still := stands.still (.conn member event) own inside
  simpa [ChannelTable.step, present, permitted] using still

/-- The reading task waits for its socket, or is done. -/
theorem StandsStill.reader (stands : StandsStill side table)
    (present : table.conns[member]? = some conn) {reader : ReadTask}
    {writer : WriteTask} (phase : conn.phase = .streaming reader writer) :
    reader = .reading ∨ reader = .done := by
  have unsent := stands.unsent conn (List.mem_of_getElem? present)
  cases reader with
  | reading => exact .inl rfl
  | done => exact .inr rfl
  | sending data => simp [Conn.pendingFrame, phase] at unsent
  | sendingEof => simp [Conn.pendingFrame, phase] at unsent

/-- The writing task waits for the queue or the peer, or it is done. -/
theorem StandsStill.writer (stands : StandsStill side table)
    (present : table.conns[member]? = some conn) {reader : ReadTask}
    {writer : WriteTask} (phase : conn.phase = .streaming reader writer) :
    writer = .receiving ∧ conn.inbound = [] ∨ writer = .done ∨
      ∃ rest, writer = .writing rest := by
  cases writer with
  | done => exact .inr (.inl rfl)
  | writing rest => exact .inr (.inr ⟨rest, rfl⟩)
  | shuttingDown =>
      have still := stands.conn_step present (.shutdown) rfl rfl rfl
      simp [Conn.step, phase] at still
  | receiving =>
      have still := stands.conn_step present (.take) rfl rfl rfl
      cases queue : conn.inbound with
      | nil => exact .inl ⟨rfl, rfl⟩
      | cons buffer rest => simp [Conn.step, phase, queue] at still

/-- While the lock is free every connection is parked. -/
theorem StandsStill.parked (stands : StandsStill side table)
    (free : table.delivering = none)
    (present : table.conns[member]? = some conn) :
    Parked table member conn := by
  have unlocked : table.permits member conn .removed = true := by
    simp [ChannelTable.permits, free]
  cases phase : conn.phase with
  | connecting => exact .connecting phase
  | finished => exact .finished phase
  | abandoned => exact .abandoned phase
  | announcing | refused =>
      have unsent := stands.unsent conn (List.mem_of_getElem? present)
      simp [Conn.pendingFrame, phase] at unsent
  | refusedLocking | locking =>
      have still := stands.conn_step present _ rfl rfl unlocked
      simp [Conn.step, phase] at still
  | streaming reader writer =>
      have unread := stands.reader present phase
      rcases stands.writer present phase with
        ⟨idle, queue⟩ | shut | ⟨rest, writes⟩
      · subst idle
        by_cases owned : table.owner conn.channel = some member
        · exact .listening phase unread queue owned
        · have still := stands.conn_step present (.queueClosed) rfl
            rfl (by simpa [ChannelTable.permits] using owned)
          simp [Conn.step, phase, queue] at still
      · subst shut
        rcases unread with reads | finished
        · exact .shut (by rw [phase, reads])
        · have still := stands.conn_step present (.joined) rfl rfl
            rfl
          simp [Conn.step, phase, finished] at still
      · subst writes
        exact .blocked phase unread

/-- Where the lock is held, the frame loop waits for a connection in vain. -/
theorem StandsStill.heldUp (stands : StandsStill side table)
    (valid : table.Valid) {bytes : Bytes}
    (waiting : table.delivering = some (member, bytes)) :
    ∃ conn, HeldUp table member conn := by
  rcases valid.waiting _ _ waiting with ⟨conn, present, _⟩
  have undropped := stands.still (.dropped member bytes) rfl rfl
  have unadmitted := stands.still (.admitted member bytes) rfl rfl
  have alive : conn.receiverAlive = true := by
    by_contra gone
    simp [ChannelTable.step, waiting, present, gone] at undropped
  have full : inboundCapacity ≤ conn.inbound.length := by
    by_contra room
    simp [ChannelTable.step, waiting, present, Conn.step, alive, room]
      at unadmitted
  refine ⟨conn, ⟨bytes, waiting⟩, present, full, ?_⟩
  have unsent := stands.unsent conn (List.mem_of_getElem? present)
  cases phase : conn.phase with
  | connecting => exact .inl rfl
  | refusedLocking => exact .inr (.inl rfl)
  | announcing | refused => simp [Conn.pendingFrame, phase] at unsent
  | locking | finished | abandoned =>
      simp [Conn.receiverAlive, phase] at alive
  | streaming reader writer =>
      rcases stands.writer present phase with
        ⟨_, queue⟩ | shut | ⟨rest, writes⟩
      · simp [queue, inboundCapacity] at full
      · simp [Conn.receiverAlive, phase, shut] at alive
      · exact .inr (.inr ⟨reader, rest, by rw [phase, writes]⟩)

/-- A write that waits goes on as soon as the peer takes something. -/
theorem write_of_blocked (present : table.conns[member]? = some conn)
    (writes : WritesSome conn) (blocked : Blocked conn) :
    ∃ bytes next,
      table.step side (.conn member (.write bytes)) = some next := by
  rcases blocked with ⟨reader, rest, phase⟩
  have filled := writes reader rest phase
  refine ⟨rest, Option.isSome_iff_exists.mp ?_⟩
  simp [ChannelTable.step, present, ChannelTable.permits, Conn.step, phase,
    filled]

end Still
end KubectlSshuttle.Rushtle.Channels
