import KubectlSshuttle.Rushtle.SentFrames
import KubectlSshuttle.Rushtle.ServerRuns

/-!
# Two connections on one channel

The frames that a connection sends open its channel at the other end, carry
the bytes of its socket there, and close the channel when the socket is at its
end.  A connection at the other end that hears a part of this, in order, and
nothing else on its channel, writes a part of the bytes; and it shuts its
socket down only when it has written all of them, or a write has failed.
-/

namespace KubectlSshuttle.Rushtle

open KubectlSshuttle.Lib.RustText
open KubectlSshuttle.Lib.Transition
open KubectlSshuttle.Rushtle.Ssnet
open KubectlSshuttle.Rushtle.Connection
open KubectlSshuttle.Rushtle.Channels

/-! ## What frames say on a channel -/

/-- What a frame says on a channel. -/
def heardOn (channel : UInt16) (frame : Frame) : Option ChannelEvent :=
  (tcpCommand frame).bind (TableEvent.onChannel channel)

/-- What one end has heard on a channel. -/
def heard (channel : UInt16) (frames : List Frame) : List ChannelEvent :=
  frames.filterMap (heardOn channel)

theorem heardOn_eq_none {channel : UInt16} {frame : Frame}
    (other : isTcpOn channel frame = false) :
    heardOn channel frame = none := by
  have apart : forTcp frame.command = true → frame.channel ≠ channel := by
    intro forTcp same
    simp [isTcpOn, forTcp, same] at other
  unfold heardOn tcpCommand
  split
  · next command =>
      have different := apart (by rw [command]; rfl)
      split
      · rfl
      · simp [TableEvent.onChannel, different]
  · next command =>
      have different := apart (by rw [command]; rfl)
      simp [TableEvent.onChannel, different]
  · next command =>
      have different := apart (by rw [command]; rfl)
      simp [TableEvent.onChannel, different]
  · next command =>
      have different := apart (by rw [command]; rfl)
      simp [TableEvent.onChannel, different]
  · rfl

theorem heard_cons (channel : UInt16) (frame : Frame)
    (rest : List Frame) :
    heard channel (frame :: rest) =
      (heardOn channel frame).toList ++ heard channel rest := by
  cases said : heardOn channel frame <;> simp [heard, said]

/-- Only the frames for TCP on the channel say something on it. -/
theorem heard_tcpOn (channel : UInt16) (frames : List Frame) :
    heard channel (tcpOn channel frames) = heard channel frames := by
  induction frames with
  | nil => rfl
  | cons frame rest induction =>
      cases onChannel : isTcpOn channel frame with
      | true =>
          have kept : tcpOn channel (frame :: rest) =
              frame :: tcpOn channel rest :=
            List.filter_cons_of_pos onChannel
          rw [kept, heard_cons, heard_cons, induction]
      | false =>
          have skipped : tcpOn channel (frame :: rest) =
              tcpOn channel rest :=
            List.filter_cons_of_neg (by simp [onChannel])
          rw [skipped, heard_cons, heardOn_eq_none onChannel, induction]
          rfl

theorem heard_append (channel : UInt16) (left right : List Frame) :
    heard channel (left ++ right) =
      heard channel left ++ heard channel right :=
  List.filterMap_append

section Frames

variable (channel : UInt16)

theorem heard_singleton {frame : Frame} {event : TableEvent}
    {said : ChannelEvent} (asked : tcpCommand frame = some event)
    (onChannel : event.onChannel channel = some said) :
    heard channel [frame] = [said] := by
  rw [heard_cons, heardOn, asked, Option.bind_some, onChannel]
  rfl

theorem heard_connectFrame {target : Text × UInt16}
    (noComma : ',' ∉ target.1) :
    heard channel [connectFrame channel target] = [.opened target] :=
  heard_singleton channel (tcpCommand_connectFrame channel noComma)
    (if_pos rfl)

theorem heard_dataFrame (data : Bytes) :
    heard channel [dataFrame channel data] = [.data data] := by
  have command : (dataFrame channel data).command = .tcpData := by
    change Command.ofCode cmdTcpData = .tcpData
    decide
  have asked : tcpCommand (dataFrame channel data) =
      some (.data channel data) := by
    rw [tcpCommand, command]
    rfl
  exact heard_singleton channel asked (if_pos rfl)

theorem heard_dataFrames (chunks : List Bytes) :
    heard channel (chunks.map (dataFrame channel)) = chunks.map .data := by
  induction chunks with
  | nil => rfl
  | cons data rest induction =>
      rw [List.map_cons, ← List.singleton_append, heard_append,
        heard_dataFrame, induction]
      rfl

theorem heard_eofFrame :
    heard channel [eofFrame channel] = [.closed .eof] := by
  have command : (eofFrame channel).command = .tcpEof := by
    change Command.ofCode cmdTcpEof = .tcpEof
    decide
  have asked : tcpCommand (eofFrame channel) =
      some (.closed channel .eof) := by
    rw [tcpCommand, command]
    rfl
  exact heard_singleton channel asked (if_pos rfl)

theorem heard_stopFrame :
    heard channel [stopFrame channel] = [.closed .stopSending] := by
  have command : (stopFrame channel).command = .tcpStopSending := by
    change Command.ofCode cmdTcpStopSending = .tcpStopSending
    decide
  have asked : tcpCommand (stopFrame channel) =
      some (.closed channel .stopSending) := by
    rw [tcpCommand, command]
    rfl
  exact heard_singleton channel asked (if_pos rfl)

end Frames

/-! ## Following a connection -/

/-- The connection's socket has no more bytes to give. -/
def Over (speaker : List ConnEvent) : Prop :=
  ReadOver speaker ∨ .connectFailed ∈ speaker

/-- The channel's events are a part of what the connection has said. -/
inductive Follows (target : Text × UInt16) (speaker : List ConnEvent) :
    List ChannelEvent → Prop where
  | unused : Follows target speaker []
  | streaming (chunks : List Bytes) (nonempty : [] ∉ chunks)
      (within : chunks.flatten <+: readBytes speaker) :
      Follows target speaker (fed target chunks)
  | ended (chunks : List Bytes) (cause : Closing) (nonempty : [] ∉ chunks)
      (whole : chunks.flatten = readBytes speaker) (isOver : Over speaker) :
      Follows target speaker (fed target chunks ++ [.closed cause])

section Follows

variable {target : Text × UInt16} {speaker : List ConnEvent}
  {events : List ChannelEvent}

theorem Follows.usedOnce (follows : Follows target speaker events) :
    UsedOnce events := by
  cases follows with
  | unused => exact .unused
  | streaming chunks nonempty within => exact .streaming target chunks
  | ended chunks cause nonempty whole isOver =>
      exact .ended target chunks cause

/-- A part of what is fed to a channel. -/
theorem Follows.of_part_fed {chunks : List Bytes} (nonempty : [] ∉ chunks)
    (within : chunks.flatten <+: readBytes speaker)
    (part : events <+: fed target chunks) :
    Follows target speaker events := by
  rcases List.prefix_cons_iff.mp part with none | ⟨rest, same, behind⟩
  · rw [none]
    exact .unused
  · rcases List.prefix_map_iff.mp behind with ⟨some, ⟨left, whole⟩, datas⟩
    subst whole
    rw [same, datas]
    apply Follows.streaming some
    · exact fun empty => nonempty (List.mem_append_left _ empty)
    · rw [List.flatten_append] at within
      exact (List.prefix_append _ _).trans within

/-- Who hears a part of what follows a connection follows it as well. -/
theorem Follows.of_part {part : List ChannelEvent}
    (follows : Follows target speaker events) (within : part <+: events) :
    Follows target speaker part := by
  cases follows with
  | unused =>
      rw [List.prefix_nil.mp within]
      exact .unused
  | streaming chunks nonempty bytes =>
      exact Follows.of_part_fed nonempty bytes within
  | ended chunks cause nonempty whole isOver =>
      rcases List.prefix_concat_iff.mp within with all | before
      · rw [all]
        exact .ended chunks cause nonempty whole isOver
      · have bytes : chunks.flatten <+: readBytes speaker := by
          rw [whole]
        exact Follows.of_part_fed nonempty bytes before

/-- What is to be delivered, and when the channel is closed. -/
theorem Follows.offered (follows : Follows target speaker events) :
    [] ∉ offered events ∧ (offered events).flatten <+: readBytes speaker ∧
      ∀ cause, .closed cause ∈ events →
        (offered events).flatten = readBytes speaker ∧ Over speaker := by
  have fedOffered : ∀ chunks, Channels.offered (fed target chunks) =
      chunks := offered_data
  cases follows with
  | unused =>
      refine ⟨by simp [Channels.offered], List.nil_prefix, ?_⟩
      intro cause closed
      cases closed
  | streaming chunks nonempty within =>
      rw [fedOffered]
      refine ⟨nonempty, within, ?_⟩
      intro cause closed
      exact (closed_notMem_fed target chunks cause closed).elim
  | ended chunks cause nonempty whole isOver =>
      have same : Channels.offered (fed target chunks ++ [.closed cause]) =
          chunks := by
        rw [offered_append, fedOffered]
        exact List.append_nil chunks
      rw [same, whole]
      exact ⟨nonempty, List.prefix_refl _, fun _ _ => ⟨rfl, isOver⟩⟩

end Follows

/-! ## The two speakers -/

section Speakers

variable {side : Side} {channel : UInt16} {target : Text × UInt16}
  {events : List ConnEvent} {conn : Conn}

theorem notMem_of_sized {chunks : List Bytes}
    (sized : ∀ data ∈ chunks, data ≠ [] ∧ data.length ≤ chunk) :
    [] ∉ chunks :=
  fun empty => (sized [] empty).1 rfl

/-- The server hears what the connection of the client says. -/
theorem Follows.of_client
    (run : Run (Conn.step .client) (Conn.fresh .client channel target)
      events conn) (clean : .sendFailed ∉ events)
    (noComma : ',' ∉ conn.target.1)
    (noStop : ∀ frame ∈ sentFrames events, frame.cmd ≠ cmdTcpStopSending) :
    Follows conn.target events
      (heard conn.channel (sentFrames events)) := by
  have connect := heard_connectFrame conn.channel noComma
  cases (ReadInv.of_run run clean).outgoing with
  | silent nothing =>
      rw [nothing]
      exact .unused
  | stopped stop nothing =>
      rw [stop] at noStop
      exact (noStop _ (List.mem_singleton_self _) rfl).elim
  | streaming lost =>
      rcases lost with ⟨part, within, chunks, sized, frames, bytes⟩
      have said : heard conn.channel (sentFrames events) =
          fed conn.target chunks := by
        rw [frames, Connection.opening, List.append_nil, heard_append,
          connect, heard_dataFrames]
        rfl
      rw [said]
      exact .streaming chunks (notMem_of_sized sized) (bytes ▸ within)
  | ended isOver carries =>
      rcases carries with ⟨chunks, sized, frames, bytes⟩
      have said : heard conn.channel (sentFrames events) =
          fed conn.target chunks ++ [.closed .eof] := by
        rw [frames, Connection.opening, heard_append, heard_append, connect,
          heard_dataFrames, heard_eofFrame]
        rfl
      rw [said]
      exact .ended chunks .eof (notMem_of_sized sized) bytes (Or.inl isOver)

/-- The client, which has opened the channel, hears what the server says. -/
theorem Follows.of_server (opened : Text × UInt16)
    (run : Run (Conn.step .server) (Conn.fresh .server channel target)
      events conn) (clean : .sendFailed ∉ events) :
    Follows opened events
      (.opened opened :: heard conn.channel (sentFrames events)) := by
  cases (ReadInv.of_run run clean).outgoing with
  | silent nothing =>
      rw [nothing]
      exact .streaming [] (by simp) List.nil_prefix
  | stopped stop nothing =>
      have failed := connectFailed_of_stop run (Or.inr
        ⟨stopFrame conn.channel, by rw [stop]; simp, rfl⟩)
      rw [stop, heard_stopFrame]
      exact .ended [] .stopSending (by simp) nothing.symm (Or.inr failed)
  | streaming lost =>
      rcases lost with ⟨part, within, chunks, sized, frames, bytes⟩
      have said : heard conn.channel (sentFrames events) =
          chunks.map .data := by
        rw [frames, Connection.opening, List.append_nil, List.nil_append,
          heard_dataFrames]
      rw [said]
      exact .streaming chunks (notMem_of_sized sized) (bytes ▸ within)
  | ended isOver carries =>
      rcases carries with ⟨chunks, sized, frames, bytes⟩
      have said : heard conn.channel (sentFrames events) =
          chunks.map .data ++ [.closed .eof] := by
        rw [frames, Connection.opening, List.nil_append, heard_append,
          heard_dataFrames, heard_eofFrame]
      rw [said]
      exact .ended chunks .eof (notMem_of_sized sized) bytes (Or.inl isOver)

end Speakers

/-! ## The listener -/

/--
The listener has written a part of what the speaker has read, and it shuts its
socket down only after all of it, or after a failed write.
-/
structure Faithful (listener speaker : List ConnEvent) : Prop where
  within : written listener <+: readBytes speaker
  shut : .shutdown ∈ listener → .writeError ∈ listener ∨
    written listener = readBytes speaker ∧ Over speaker

/-- A connection whose channel follows a speaker is faithful to it. -/
theorem Faithful.of_follows {side : Side} {trace : List TableEvent}
    {table : ChannelTable} {member : Nat} {conn : Conn}
    {target : Text × UInt16} {speaker : List ConnEvent}
    (run : Run (ChannelTable.step side) .empty trace table)
    (present : table.conns[member]? = some conn)
    (follows : Follows target speaker (channelEvents conn.channel trace)) :
    Faithful (connEvents member trace) speaker := by
  have delivery := Delivered.of_run run member conn present follows.usedOnce
  have writes := (WriteInv.of_run (run_conn run present)).within
  rcases follows.offered with ⟨nonempty, within, ends⟩
  constructor
  · rcases delivery.within with ⟨left, whole⟩
    rw [← whole, List.flatten_append] at within
    exact writes.trans ((List.prefix_append _ _).trans within)
  · intro shutdown
    rcases delivery.isOver (Or.inr shutdown) with
      failed | empty | ⟨⟨cause, closed⟩, same⟩
    · exact Or.inl failed
    · exact (nonempty empty).elim
    · rcases ends cause closed with ⟨whole, isOver⟩
      exact Or.inr ⟨same.trans whole, isOver⟩

end KubectlSshuttle.Rushtle
