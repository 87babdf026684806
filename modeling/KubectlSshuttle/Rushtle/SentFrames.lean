import KubectlSshuttle.Rushtle.Deliveries

/-!
# The frames that the connections send

Every connection sends for TCP on its own channel.  So what is sent on a
channel is what the only connection of the channel has sent, in the order of
its own steps, whatever the other connections do in between.
-/

namespace KubectlSshuttle.Rushtle.Channels

open KubectlSshuttle.Lib.RustText
open KubectlSshuttle.Lib.Transition
open KubectlSshuttle.Rushtle.Ssnet
open KubectlSshuttle.Rushtle.Connection

/-! ## Frames for TCP -/

/-- The commands of the TCP channels. -/
def forTcp : Command → Bool
  | .tcpConnect | .tcpData | .tcpEof | .tcpStopSending => true
  | _ => false

/-- The frame belongs to a TCP connection on the channel. -/
def isTcpOn (channel : UInt16) (frame : Frame) : Bool :=
  decide (frame.channel = channel) && forTcp frame.command

/-- The TCP frames on a channel. -/
def tcpOn (channel : UInt16) (frames : List Frame) : List Frame :=
  frames.filter (isTcpOn channel)

theorem tcpOn_append (channel : UInt16) (left right : List Frame) :
    tcpOn channel (left ++ right) =
      tcpOn channel left ++ tcpOn channel right :=
  List.filter_append left right

/-- A connection sends for TCP, on its own channel. -/
theorem isTcpOn_of_sent {side : Side} {conn next : Conn} {frame : Frame}
    (moved : Moves side conn (.sent frame) next) (channel : UInt16) :
    isTcpOn channel frame = decide (conn.channel = channel) := by
  have known : frame.channel = conn.channel ∧
      forTcp frame.command = true := by
    cases moved <;> exact ⟨rfl, rfl⟩
  rw [isTcpOn, known.1, known.2, Bool.and_true]

/-! ## What the connections have sent -/

/-- The frame that a connection sends. -/
def TableEvent.sent? : TableEvent → Option Frame
  | .conn _ (.sent frame) => some frame
  | _ => none

/-- The frames that the connections have put on `out_tx`. -/
def tableSent (trace : List TableEvent) : List Frame :=
  trace.filterMap TableEvent.sent?

theorem tableSent_snoc (trace : List TableEvent) (event : TableEvent) :
    tableSent (trace ++ [event]) =
      tableSent trace ++ event.sent?.toList := by
  cases h : event.sent? <;> simp [tableSent, h]

section Table

variable {side : Side} {trace : List TableEvent} {table next : ChannelTable}
  {member : Nat} {channel : UInt16}

/-- What a step sends on a channel is what its only connection sends. -/
theorem tcpOn_sent {event : TableEvent}
    (moved : TableMoves side table event next)
    (alone : ∀ other conn, table.conns[other]? = some conn →
      conn.channel = channel → other = member)
    (own : ∀ conn, table.conns[member]? = some conn →
      conn.channel = channel) :
    tcpOn channel event.sent?.toList =
      ((event.concerns member).bind ConnEvent.sent?).toList := by
  cases moved with
  | @conn other event conn next present permitted taken =>
      by_cases isSent : ∃ frame, event = .sent frame
      · rcases isSent with ⟨frame, rfl⟩
        have onChannel := isTcpOn_of_sent (Moves.of_step taken) channel
        by_cases same : other = member
        · subst same
          rw [own conn present] at onChannel
          simp [TableEvent.sent?, TableEvent.concerns, ConnEvent.sent?,
            tcpOn, onChannel]
        · have apart : conn.channel ≠ channel := fun equal =>
            same (alone other conn present equal)
          simp [TableEvent.sent?, TableEvent.concerns, tcpOn, onChannel,
            apart, same]
      · have silent : event.sent? = none := by
          cases event with
          | sent frame => exact (isSent ⟨frame, rfl⟩).elim
          | _ => rfl
        have quiet : (TableEvent.conn other event).sent? = none := by
          cases event with
          | sent frame => exact (isSent ⟨frame, rfl⟩).elim
          | _ => rfl
        rw [quiet, TableEvent.concerns]
        split
        · simp [silent, tcpOn]
        · rfl
  | @admitted other bytes conn next waiting present taken =>
      simp only [TableEvent.concerns]
      split <;> rfl
  | _ => rfl

/-- What is sent on a channel is what its only connection has sent. -/
theorem tcpOn_tableSent
    (run : Run (ChannelTable.step side) .empty trace table)
    (alone : ∀ other conn, table.conns[other]? = some conn →
      conn.channel = channel → other = member)
    (own : ∀ conn, table.conns[member]? = some conn →
      conn.channel = channel) :
    tcpOn channel (tableSent trace) =
      sentFrames (connEvents member trace) := by
  induction run with
  | start => rfl
  | @extend trace middle finish event earlier taken induction =>
      have moved := TableMoves.of_step taken
      have aloneBefore : ∀ other conn, middle.conns[other]? = some conn →
          conn.channel = channel → other = member := by
        intro other conn present onChannel
        rcases moved.keeps_channel present with ⟨later, found, same, _⟩
        exact alone other later found (same.trans onChannel)
      have ownBefore : ∀ conn, middle.conns[member]? = some conn →
          conn.channel = channel := by
        intro conn present
        rcases moved.keeps_channel present with ⟨later, found, same, _⟩
        exact same.symm.trans (own later found)
      rw [tableSent_snoc, tcpOn_append, connEvents_snoc,
        induction aloneBefore ownBefore,
        tcpOn_sent moved aloneBefore ownBefore]
      cases event.concerns member with
      | none => simp
      | some event => simp [sentFrames_snoc]

/-- Nothing is sent on a channel without a connection. -/
theorem tcpOn_tableSent_unused
    (run : Run (ChannelTable.step side) .empty trace table)
    (unused : ∀ conn ∈ table.conns, conn.channel ≠ channel) :
    tcpOn channel (tableSent trace) = [] := by
  have absent : table.conns[table.conns.length]? = none := by simp
  have carried : tcpOn channel (tableSent trace) =
      sentFrames (connEvents table.conns.length trace) := by
    apply tcpOn_tableSent run
    · intro other conn present onChannel
      exact (unused conn (List.mem_of_getElem? present) onChannel).elim
    · intro conn present
      rw [absent] at present
      cases present
  rw [carried, connEvents_of_absent run absent]
  rfl

end Table

end KubectlSshuttle.Rushtle.Channels
