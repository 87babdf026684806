import KubectlSshuttle.Rushtle.Conversations
import KubectlSshuttle.Rushtle.Standstill

/-!
# What parked connections have said and written

A parked connection has sent all that its socket gave, and its end if the
socket is at its end.  If the connection at the other end of the channel has
heard all of it and is parked as well, it has written all of it, and it has
shut its own socket down in its turn; or it holds the rest for a peer that
does not take it.
-/

namespace KubectlSshuttle.Rushtle.Connection

open KubectlSshuttle.Lib.RustText
open KubectlSshuttle.Lib.Transition
open KubectlSshuttle.Rushtle.Ssnet

/-! ## Ends and reasons -/

/-- The connection's socket may still have bytes to give. -/
def Phase.talks : Phase → Bool
  | .connecting | .announcing => true
  | .streaming .reading _ | .streaming (.sending _) _ => true
  | _ => false

section Runs

variable {side : Side} {channel : UInt16} {target : Text × UInt16}
  {events : List ConnEvent} {conn : Conn}

/-- Nothing comes after the end of the socket. -/
theorem over_of_talks
    (run : Run (Conn.step side) (Conn.fresh side channel target)
      events conn) (talks : conn.phase.talks = true) : ¬ Over events := by
  refine run.invariant
    (motive := fun events conn => conn.phase.talks = true → ¬ Over events)
    ?_ ?_ talks
  · rintro _ ((ended | ended) | failed)
    · cases ended
    · cases ended
    · cases failed
  intro events conn event next _ before taken talks isOver
  have earlier : conn.phase.talks = true → ¬ (event = .read .eof ∨
      event = .read .error ∨ event = .connectFailed) → False := by
    intro talked other
    simp only [not_or] at other
    rcases other with ⟨noEof, noError, noFailure⟩
    apply before talked
    simpa [Over, ReadOver, eq_comm, noEof, noError, noFailure] using isOver
  cases Moves.of_step taken with
  | connected phase | readBytes phase nonempty small | sentData phase
  | announced phase => exact earlier (by rw [phase]; rfl) (by simp)
  | deliver alive room => exact earlier talks (by simp)
  | @take reader buffer rest phase queue =>
      refine earlier ?_ (by simp)
      cases reader <;> first | (rw [phase]; rfl) | cases talks
  | @queueClosed reader phase queue =>
      refine earlier ?_ (by simp)
      cases reader <;> first | (rw [phase]; rfl) | cases talks
  | @write reader bytes rest phase nonempty =>
      refine earlier ?_ (by simp)
      cases reader <;> first | (rw [phase]; rfl) | cases talks
  | @writeError reader rest phase =>
      refine earlier ?_ (by simp)
      cases reader <;> first | (rw [phase]; rfl) | cases talks
  | @shutdown reader phase =>
      refine earlier ?_ (by simp)
      cases reader <;> first | (rw [phase]; rfl) | cases talks
  | dataFailed phase => cases side <;> cases talks
  | _ => cases talks

/-- Why the socket is not written any more. -/
theorem reason_of_shut
    (run : Run (Conn.step side) (Conn.fresh side channel target)
      events conn) :
    (conn.phase.shut = true → .shutdown ∈ events ∨
      .connectFailed ∈ events) ∧
      (conn.phase = .refused ∨ conn.phase = .refusedLocking →
        .connectFailed ∈ events) := by
  refine run.invariant
    (motive := fun events conn =>
      (conn.phase.shut = true → .shutdown ∈ events ∨
        .connectFailed ∈ events) ∧
        (conn.phase = .refused ∨ conn.phase = .refusedLocking →
          .connectFailed ∈ events)) ?_ ?_
  · constructor
    · intro shut
      cases side <;> cases shut
    · rintro (refused | refused) <;> cases side <;> cases refused
  intro events conn event next _ before taken
  rcases before with ⟨ended, refused⟩
  have stays : conn.phase.shut = true → .shutdown ∈ events ++ [event] ∨
      .connectFailed ∈ events ++ [event] :=
    fun shut => (ended shut).imp (List.mem_append_left _)
      (List.mem_append_left _)
  cases Moves.of_step taken with
  | deliver alive room =>
      exact ⟨stays, fun at' => List.mem_append_left _ (refused at')⟩
  | connectFailed phase => exact ⟨fun never => (by cases never), by simp⟩
  | stopped phase | stopFailed phase =>
      exact ⟨fun never => (by cases never),
        fun _ => List.mem_append_left _ (refused (.inl phase))⟩
  | shutdown phase => exact ⟨by simp, by simp⟩
  | joined phase =>
      exact ⟨fun _ => stays (by rw [phase]; rfl), by simp⟩
  | removed phase =>
      refine ⟨fun _ => ?_, by simp⟩
      rcases phase with phase | phase
      · exact stays (by rw [phase]; rfl)
      · exact .inr (List.mem_append_left _ (refused (.inr phase)))
  | sentData phase | sentEof phase | dataFailed phase | eofFailed phase
  | readBytes phase nonempty small | readEof phase | readError phase =>
      exact ⟨fun shut => stays (by rw [phase]; exact shut), by simp⟩
  | @take reader buffer rest phase queue =>
      refine ⟨fun shut => ?_, by simp⟩
      simp only [Phase.shut, WriteTask.take] at shut
      split at shut <;> cases shut
  | @write reader bytes rest phase nonempty =>
      refine ⟨fun shut => ?_, by simp⟩
      simp only [Phase.shut, WriteTask.after] at shut
      split at shut <;> cases shut
  | _ => exact ⟨fun never => (by cases never), by simp⟩

/-- A connection whose target was not reached says just that. -/
theorem refusal_of_connectFailed
    (run : Run (Conn.step side) (Conn.fresh side channel target)
      events conn) (clean : .sendFailed ∉ events)
    (failed : .connectFailed ∈ events) :
    readBytes events = [] ∧
      (conn.phase = .refused ∧ sentFrames events = [] ∨
        (conn.phase = .refusedLocking ∨ conn.phase = .finished) ∧
          sentFrames events = [stopFrame conn.channel]) := by
  induction run with
  | start => cases failed
  | @extend events conn next event earlier taken induction =>
      have cleanly := fun failed => clean (List.mem_append_left _ failed)
      rw [readBytes_snoc, sentFrames_snoc]
      rcases List.mem_append.mp failed with before | now
      · rcases induction cleanly before with ⟨noBytes, state⟩
        rw [noBytes]
        cases Moves.of_step taken with
        | deliver alive room =>
            refine ⟨rfl, ?_⟩
            simpa [ConnEvent.sent?] using state
        | stopped phase =>
            refine ⟨rfl, .inr ⟨.inl rfl, ?_⟩⟩
            rcases state with ⟨_, none⟩ | ⟨other | other, _⟩
            · rw [none]
              rfl
            · rw [phase] at other
              cases other
            · rw [phase] at other
              cases other
        | removed phase =>
            refine ⟨rfl, .inr ⟨.inr rfl, ?_⟩⟩
            rcases state with ⟨other, _⟩ | ⟨_, sent⟩
            · rcases phase with phase | phase <;>
                (rw [phase] at other; cases other)
            · simpa [ConnEvent.sent?] using sent
        | stopFailed phase => exact (clean (by simp)).elim
        | connected phase | connectFailed phase | announced phase
        | announceFailed phase | sentData phase | sentEof phase
        | dataFailed phase | eofFailed phase
        | readBytes phase nonempty small | readEof phase
        | readError phase | take phase queue | queueClosed phase queue
        | write phase nonempty | writeError phase | shutdown phase
        | joined phase =>
            rcases state with ⟨other, _⟩ | ⟨other | other, _⟩ <;>
              (rw [phase] at other; cases other)
      · obtain rfl : .connectFailed = event := by simpa using now
        cases Moves.of_step taken with
        | connectFailed phase =>
            have state := ReadInv.of_run earlier cleanly
            rw [ReadInv, ReadState, phase] at state
            rcases state with ⟨_, noFrames, noBytes⟩
            rw [noFrames, noBytes]
            exact ⟨rfl, .inl ⟨rfl, rfl⟩⟩

/-- A connection that has come to its end has sent its `TCP_EOF`. -/
theorem carries_of_finished
    (run : Run (Conn.step side) (Conn.fresh side channel target)
      events conn) (clean : .sendFailed ∉ events)
    (closing : conn.phase = .locking ∨ conn.phase = .finished) :
    .connectFailed ∈ events ∨ ReadOver events ∧
      Carries conn.channel (opening side conn.channel conn.target)
        [eofFrame conn.channel] (sentFrames events) (readBytes events) := by
  induction run with
  | start =>
      cases side <;> rcases closing with closing | closing <;> cases closing
  | @extend events conn next event earlier taken induction =>
      have cleanly := fun failed => clean (List.mem_append_left _ failed)
      cases Moves.of_step taken with
      | deliver alive room =>
          rcases closing with closing | closing <;>
            (change conn.phase = _ at closing
             simp [Conn.receiverAlive, closing] at alive)
      | joined phase =>
          have state := ReadInv.of_run earlier cleanly
          rw [ReadInv, ReadState, phase] at state
          rcases state with ⟨isOver, carries⟩ | ⟨failed, _⟩
          · refine .inr ⟨isOver.snoc _, ?_⟩
            simpa [readBytes_snoc, sentFrames_snoc, ConnEvent.sent?,
              ConnEvent.readBytes] using carries
          · exact (cleanly failed).elim
      | removed phase =>
          rcases phase with phase | phase
          · rcases induction cleanly (.inl phase) with
              failed | ⟨isOver, carries⟩
            · exact .inl (List.mem_append_left _ failed)
            · refine .inr ⟨isOver.snoc _, ?_⟩
              simpa [readBytes_snoc, sentFrames_snoc, ConnEvent.sent?,
                ConnEvent.readBytes] using carries
          · exact .inl (List.mem_append_left _
              ((reason_of_shut earlier).2 (.inr phase)))
      | _ => rcases closing with closing | closing <;> cases closing

/-- A connection gives up only when its `TCP_CONNECT` cannot be sent. -/
theorem sendFailed_of_abandoned
    (run : Run (Conn.step side) (Conn.fresh side channel target)
      events conn) (gone : conn.phase = .abandoned) :
    .sendFailed ∈ events := by
  refine run.invariant
    (motive := fun events conn => conn.phase = .abandoned →
      .sendFailed ∈ events) ?_ ?_ gone
  · intro gone
    cases side <;> cases gone
  intro events conn event next _ before taken gone
  cases Moves.of_step taken with
  | announceFailed phase => simp
  | deliver alive room => exact List.mem_append_left _ (before gone)
  | _ => cases gone

/-- A connection of the client connects to nothing. -/
theorem unconnected_of_client
    (run : Run (Conn.step .client) (Conn.fresh .client channel target)
      events conn) :
    conn.phase ≠ .connecting ∧ .connectFailed ∉ events := by
  refine run.invariant
    (motive := fun events conn => conn.phase ≠ .connecting ∧
      .connectFailed ∉ events) ⟨by simp [Conn.fresh], by simp⟩ ?_
  rintro events conn event next _ ⟨elsewhere, unfailed⟩ taken
  have stays : event ≠ .connectFailed →
      .connectFailed ∉ events ++ [event] := by
    intro other member
    rcases List.mem_append.mp member with before | now
    · exact unfailed before
    · exact other (List.mem_singleton.mp now).symm
  cases Moves.of_step taken with
  | connected phase | connectFailed phase => exact (elsewhere phase).elim
  | deliver alive room => exact ⟨elsewhere, stays (by simp)⟩
  | _ => exact ⟨by simp, stays (by simp)⟩

end Runs

end KubectlSshuttle.Rushtle.Connection

namespace KubectlSshuttle.Rushtle

open KubectlSshuttle.Lib.RustText
open KubectlSshuttle.Lib.Transition
open KubectlSshuttle.Rushtle.Ssnet
open KubectlSshuttle.Rushtle.Connection
open KubectlSshuttle.Rushtle.Channels

/-! ## All that a parked connection has said -/

/-- The channel's events are all that the connection's socket has given. -/
inductive Conveys (target : Text × UInt16) (speaker : List ConnEvent) :
    List ChannelEvent → Prop where
  | talking (chunks : List Bytes) (nonempty : [] ∉ chunks)
      (whole : chunks.flatten = readBytes speaker)
      (going : ¬ Over speaker) : Conveys target speaker (fed target chunks)
  | ended (chunks : List Bytes) (cause : Closing) (nonempty : [] ∉ chunks)
      (whole : chunks.flatten = readBytes speaker) (isOver : Over speaker) :
      Conveys target speaker (fed target chunks ++ [.closed cause])

theorem Conveys.follows {target : Text × UInt16} {speaker : List ConnEvent}
    {events : List ChannelEvent} (conveys : Conveys target speaker events) :
    Follows target speaker events := by
  cases conveys with
  | talking chunks nonempty whole going =>
      exact .streaming chunks nonempty (by rw [whole])
  | ended chunks cause nonempty whole isOver =>
      exact .ended chunks cause nonempty whole isOver

theorem Conveys.opened {target : Text × UInt16} {speaker : List ConnEvent}
    {events : List ChannelEvent} (conveys : Conveys target speaker events) :
    .opened target ∈ events := by
  cases conveys with
  | talking | ended => simp [fed]

/-- What is to be delivered, and that the end of the socket is told. -/
theorem Conveys.offered {target : Text × UInt16} {speaker : List ConnEvent}
    {events : List ChannelEvent} (conveys : Conveys target speaker events) :
    (offered events).flatten = readBytes speaker ∧
      (Over speaker → ∃ cause, .closed cause ∈ events) := by
  cases conveys with
  | talking chunks nonempty whole going =>
      have same : Channels.offered (fed target chunks) = chunks :=
        offered_data chunks
      exact ⟨by rw [same, whole], fun isOver => (going isOver).elim⟩
  | ended chunks cause nonempty whole isOver =>
      have same : Channels.offered (fed target chunks ++ [.closed cause]) =
          chunks := by
        rw [offered_append]
        exact (List.append_nil _).trans (offered_data chunks)
      exact ⟨by rw [same, whole], fun _ => ⟨cause, by simp⟩⟩

section Speakers

variable {side : Side} {channel : UInt16} {target : Text × UInt16}
  {events : List ConnEvent} {table : ChannelTable} {member : Nat}
  {conn : Conn}

/-- The frames carry all that the socket gave, and its end. -/
def CarriesAll (side : Side) (conn : Conn) (events : List ConnEvent) :
    Prop :=
  ∃ closing, Carries conn.channel (opening side conn.channel conn.target)
      closing (sentFrames events) (readBytes events) ∧
    (closing = [] ∧ ¬ Over events ∨
      closing = [eofFrame conn.channel] ∧ Over events)

/-- The frames of a parked connection carry all of its socket. -/
theorem carries_of_parked
    (run : Run (Conn.step side) (Conn.fresh side channel target)
      events conn) (clean : .sendFailed ∉ events)
    (parked : Parked table member conn)
    (reached : .connectFailed ∉ events) : CarriesAll side conn events := by
  have state := ReadInv.of_run run clean
  rw [ReadInv, ReadState] at state
  have silent := over_of_talks run
  have atEnd : ReadOver events ∧ Carries conn.channel
      (opening side conn.channel conn.target) [eofFrame conn.channel]
        (sentFrames events) (readBytes events) →
      CarriesAll side conn events := by
    rintro ⟨isOver, carries⟩
    exact ⟨_, carries, .inr ⟨rfl, .inl isOver⟩⟩
  cases parked with
  | abandoned phase =>
      exact (clean (sendFailed_of_abandoned run phase)).elim
  | connecting phase =>
      rw [phase] at state silent
      rcases state with ⟨server, noFrames, noBytes⟩
      refine ⟨[], ?_, .inl ⟨rfl, silent rfl⟩⟩
      rw [noFrames, noBytes, server]
      exact Carries.nil conn.channel []
  | shut phase =>
      rw [phase] at state silent
      exact ⟨[], state, .inl ⟨rfl, silent rfl⟩⟩
  | listening phase unread | blocked phase unread =>
      rw [phase] at state silent
      rcases unread with rfl | rfl
      · exact ⟨[], state, .inl ⟨rfl, silent rfl⟩⟩
      · rcases state with finished | ⟨failed, _⟩
        · exact atEnd finished
        · exact (clean failed).elim
  | finished phase =>
      exact atEnd ((carries_of_finished run clean (.inr phase)).resolve_left
        reached)

/-- The frames of a parked connection of the client say everything. -/
theorem Conveys.of_client
    (run : Run (Conn.step .client) (Conn.fresh .client channel target)
      events conn) (clean : .sendFailed ∉ events)
    (noComma : ',' ∉ conn.target.1) (parked : Parked table member conn) :
    Conveys conn.target events (heard conn.channel (sentFrames events)) := by
  have connect := heard_connectFrame conn.channel noComma
  rcases carries_of_parked run clean parked (unconnected_of_client run).2
    with ⟨closing, ⟨chunks, sized, frames, bytes⟩, ends⟩
  rw [frames, Connection.opening, heard_append, heard_append, connect,
    heard_dataFrames]
  rcases ends with ⟨rfl, going⟩ | ⟨rfl, isOver⟩
  · rw [heard, List.filterMap_nil, List.append_nil]
    exact .talking chunks (notMem_of_sized sized) bytes going
  · rw [heard_eofFrame]
    exact .ended chunks .eof (notMem_of_sized sized) bytes isOver

/-- So do those of a parked connection of the server. -/
theorem Conveys.of_server (opened : Text × UInt16)
    (run : Run (Conn.step .server) (Conn.fresh .server channel target)
      events conn) (clean : .sendFailed ∉ events)
    (parked : Parked table member conn) :
    Conveys opened events
      (.opened opened :: heard conn.channel (sentFrames events)) := by
  by_cases failed : .connectFailed ∈ events
  · rcases refusal_of_connectFailed run clean failed with
      ⟨noBytes, ⟨refused, _⟩ | ⟨_, stop⟩⟩
    · cases parked with
      | connecting phase | listening phase | blocked phase | shut phase
      | finished phase | abandoned phase =>
          rw [refused] at phase
          cases phase
    · rw [stop, heard_stopFrame]
      exact .ended [] .stopSending (by simp) noBytes.symm (.inr failed)
  · rcases carries_of_parked run clean parked failed with
      ⟨closing, ⟨chunks, sized, frames, bytes⟩, ends⟩
    rw [frames, Connection.opening, List.nil_append, heard_append,
      heard_dataFrames]
    rcases ends with ⟨rfl, going⟩ | ⟨rfl, isOver⟩
    · rw [heard, List.filterMap_nil, List.append_nil]
      exact .talking chunks (notMem_of_sized sized) bytes going
    · rw [heard_eofFrame]
      exact .ended chunks .eof (notMem_of_sized sized) bytes isOver

end Speakers

/-! ## All that a parked connection has written -/

/-- A channel in the map has not been closed, if it is used once. -/
theorem unclosed_of_owned {side : Side} {trace : List TableEvent}
    {table : ChannelTable} {channel : UInt16} {member : Nat}
    (run : Run (ChannelTable.step side) .empty trace table)
    (once : UsedOnce (channelEvents channel trace))
    (owned : table.owner channel = some member) (cause : Closing) :
    .closed cause ∉ channelEvents channel trace := by
  refine run.invariant
    (motive := fun trace table => UsedOnce (channelEvents channel trace) →
      table.owner channel = some member →
        .closed cause ∉ channelEvents channel trace) ?_ ?_ once owned
  · intro _ owned
    cases owned
  intro trace table event next _ before taken once owned
  have moved := TableMoves.of_step taken
  rw [channelEvents_snoc] at once ⊢
  cases onChannel : event.onChannel channel with
  | none =>
      rw [onChannel] at once
      rw [Option.toList_none, List.append_nil] at once ⊢
      rcases moved.owner_source owned with held | ⟨target, rfl, _⟩
      · exact before once held
      · simp [TableEvent.onChannel] at onChannel
  | some said =>
      rw [onChannel, Option.toList_some] at once
      rw [Option.toList_some]
      intro member
      rcases List.mem_append.mp member with earlier | now
      · exact once.not_closed cause earlier
      · rw [← List.mem_singleton.mp now] at onChannel
        -- closing the channel takes it out of the map
        cases moved with
        | @closed id other free =>
            simp only [TableEvent.onChannel, Option.ite_none_right_eq_some]
              at onChannel
            rw [onChannel.1] at owned
            simp at owned
        | opened free | data free =>
            simp only [TableEvent.onChannel, Option.ite_none_right_eq_some,
              Option.some.injEq, reduceCtorEq, and_false] at onChannel
        | _ => cases onChannel

/--
The listener has written all that the speaker's socket gave, and has shut its
own socket down if the speaker's is at its end.
-/
structure Whole (listener speaker : List ConnEvent) : Prop where
  bytes : written listener = readBytes speaker
  shut : Over speaker → .shutdown ∈ listener

/-- All that was not written yet waits in the connection. -/
def Awaits (conn : Conn) (listener speaker : List ConnEvent) : Prop :=
  written listener ++ conn.unwritten = readBytes speaker

/-- The target was not reached, or the socket does not listen any more. -/
def Unheard (listener : List ConnEvent) : Prop :=
  .connectFailed ∈ listener ∨ .writeError ∈ listener

/-- A parked connection has written all that was said to it, or holds it. -/
theorem Whole.of_conveys {side : Side} {trace : List TableEvent}
    {table : ChannelTable} {member : Nat} {conn : Conn}
    {target : Text × UInt16} {speaker : List ConnEvent}
    (run : Run (ChannelTable.step side) .empty trace table)
    (free : table.delivering = none)
    (present : table.conns[member]? = some conn)
    (parked : Parked table member conn)
    (clean : .sendFailed ∉ connEvents member trace)
    (conveys : Conveys target speaker (channelEvents conn.channel trace)) :
    (conn.phase = .connecting ∨ Blocked conn) ∧
        Awaits conn (connEvents member trace) speaker ∨
      Unheard (connEvents member trace) ∨
        Whole (connEvents member trace) speaker := by
  have connRun := run_conn run present
  have once := conveys.follows.usedOnce
  have delivery := Delivered.of_run run member conn present once
  rcases conveys.offered with ⟨whole, told⟩
  have ended : conn.phase.shut = true →
      Unheard (connEvents member trace) ∨
        Whole (connEvents member trace) speaker := by
    intro shut
    rcases (reason_of_shut connRun).1 shut with shutdown | failed
    · rcases delivery.isOver (.inr shutdown) with
        failed | empty | ⟨_, same⟩
      · exact .inl (.inr failed)
      · exact (conveys.follows.offered.1 empty).elim
      · exact .inr ⟨same.trans whole, fun _ => shutdown⟩
    · exact .inl (.inl failed)
  -- in or out of the map, it got all that was offered to it
  have given : conn.receiverAlive = true → conn.phase.writerOpen = true →
      Awaits conn (connEvents member trace) speaker := by
    intro alive unclosed
    have delivered : offered (channelEvents conn.channel trace) =
        delivered (connEvents member trace) := by
      by_cases owned : table.owner conn.channel = some member
      · have current := delivery.current alive owned
        rwa [ChannelTable.waitingFor_of_free free, List.append_nil]
          at current
      · exact (delivery.cut alive owned).2
    rw [Awaits, (WriteInv.of_run connRun).whole unclosed, ← delivered,
      whole]
  cases parked with
  | connecting phase =>
      refine .inl ⟨.inl phase, given ?_ ?_⟩
      · rw [Conn.receiverAlive, phase]
      · rw [phase]
        rfl
  | blocked phase unread =>
      refine .inl ⟨.inr ⟨_, _, phase⟩, given ?_ ?_⟩
      · rw [Conn.receiverAlive, phase]
        rfl
      · rw [phase]
        rfl
  | shut phase => exact .inr (ended (by rw [phase]; rfl))
  | finished phase => exact .inr (ended (by rw [phase]; rfl))
  | abandoned phase =>
      exact (clean (sendFailed_of_abandoned connRun phase)).elim
  | listening phase unread queue owned =>
      have bytes := given (by rw [Conn.receiverAlive, phase]; rfl)
        (by rw [phase]; rfl)
      have nothing : conn.unwritten = [] := by
        simp [Conn.unwritten, phase, queue]
      rw [Awaits, nothing, List.append_nil] at bytes
      refine .inr (.inr ⟨bytes, fun isOver => ?_⟩)
      rcases told isOver with ⟨cause, closed⟩
      exact (unclosed_of_owned run once owned cause closed).elim

end KubectlSshuttle.Rushtle
