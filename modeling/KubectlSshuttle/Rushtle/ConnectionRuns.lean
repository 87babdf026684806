import KubectlSshuttle.Rushtle.Connection

/-!
# What a connection has done

The history of a connection is the list of its events.  Two invariants tie it
to the connection's state: the bytes written to the socket are the delivered
buffers in order, up to what is still queued; and the frames put on `out_tx`
carry the bytes read from the socket in order, up to the frame in hand, in the
shape that the wire grammar asks for.
-/

namespace KubectlSshuttle.Rushtle.Connection

open KubectlSshuttle.Lib.RustText
open KubectlSshuttle.Lib.Transition
open KubectlSshuttle.Rushtle.Ssnet

/-! ## Histories -/

/-- The buffer that the frame loop delivers. -/
def ConnEvent.delivered? : ConnEvent → Option Bytes
  | .deliver buffer => some buffer
  | _ => none

/-- What is written to the socket. -/
def ConnEvent.written : ConnEvent → Bytes
  | .write bytes => bytes
  | _ => []

/-- What is read from the socket. -/
def ConnEvent.readBytes : ConnEvent → Bytes
  | .read (.bytes data) => data
  | _ => []

/-- The frame that is sent. -/
def ConnEvent.sent? : ConnEvent → Option Frame
  | .sent frame => some frame
  | _ => none

/-- The buffers that reached the inbound queue. -/
def delivered (events : List ConnEvent) : List Bytes :=
  events.filterMap ConnEvent.delivered?

/-- The bytes written to the socket. -/
def written (events : List ConnEvent) : Bytes :=
  events.flatMap ConnEvent.written

/-- The bytes read from the socket. -/
def readBytes (events : List ConnEvent) : Bytes :=
  events.flatMap ConnEvent.readBytes

/-- The frames put on `out_tx` by the connection's tasks. -/
def sentFrames (events : List ConnEvent) : List Frame :=
  events.filterMap ConnEvent.sent?

/-- The reading task has met the end of its socket or a read error. -/
def ReadOver (events : List ConnEvent) : Prop :=
  .read .eof ∈ events ∨ .read .error ∈ events

section Append

variable (events : List ConnEvent) (event : ConnEvent)

theorem delivered_snoc :
    delivered (events ++ [event]) =
      delivered events ++ event.delivered?.toList := by
  cases h : event.delivered? <;> simp [delivered, h]

theorem written_snoc :
    written (events ++ [event]) = written events ++ event.written := by
  simp [written]

theorem readBytes_snoc :
    readBytes (events ++ [event]) =
      readBytes events ++ event.readBytes := by
  simp [readBytes]

theorem sentFrames_snoc :
    sentFrames (events ++ [event]) =
      sentFrames events ++ event.sent?.toList := by
  cases h : event.sent? <;> simp [sentFrames, h]

variable {events}

theorem ReadOver.snoc (isOver : ReadOver events) :
    ReadOver (events ++ [event]) :=
  isOver.imp (List.mem_append_left _) (List.mem_append_left _)

end Append

/-- A connection keeps its channel and its target. -/
theorem keeps_frame {side : Side} {channel : UInt16}
    {target : Text × UInt16} {events : List ConnEvent} {conn : Conn}
    (run : Run (Conn.step side) (Conn.fresh side channel target)
      events conn) :
    conn.channel = channel ∧ conn.target = target :=
  run.invariant
    (motive := fun _ conn => conn.channel = channel ∧ conn.target = target)
    ⟨rfl, rfl⟩
    (fun _ _ _ _ _ same taken => by
      rcases (Moves.of_step taken).frame with ⟨sameChannel, sameTarget⟩
      exact ⟨sameChannel.trans same.1, sameTarget.trans same.2⟩)

/-! ## The writing half -/

/-- The writing task has not left its loop. -/
def WriteTask.inLoop : WriteTask → Bool
  | .receiving | .writing _ => true
  | .shuttingDown | .done => false

/-- The writing task can still take buffers. -/
def Phase.writerOpen : Phase → Bool
  | .connecting | .announcing | .refused | .refusedLocking => true
  | .streaming _ writer => writer.inLoop
  | .locking | .finished | .abandoned => false

/-- What the writing task has in hand. -/
def Phase.inHand : Phase → Bytes
  | .streaming _ writer => writer.rest
  | _ => []

/-- The delivered bytes that are still to be written. -/
def Conn.unwritten (conn : Conn) : Bytes :=
  conn.phase.inHand ++ conn.inbound.flatten

section PhaseViews

variable (reader : ReadTask) (writer : WriteTask)

@[simp]
theorem Phase.writerOpen_streaming :
    (Phase.streaming reader writer).writerOpen = writer.inLoop := rfl

@[simp]
theorem Phase.inHand_streaming :
    (Phase.streaming reader writer).inHand = writer.rest := rfl

@[simp]
theorem WriteTask.rest_receiving : WriteTask.receiving.rest = [] := rfl

@[simp]
theorem WriteTask.rest_writing (rest : Bytes) :
    (WriteTask.writing rest).rest = rest := rfl

@[simp]
theorem WriteTask.rest_after (rest : Bytes) :
    (WriteTask.after rest).rest = rest := by
  unfold WriteTask.after
  split
  · next empty => simp [WriteTask.rest, empty]
  · rfl

@[simp]
theorem WriteTask.rest_take (buffer : Bytes) :
    (WriteTask.take buffer).rest = buffer := by
  unfold WriteTask.take
  split
  · next empty => simp [WriteTask.rest, empty]
  · rfl

end PhaseViews

/--
The written bytes are the delivered ones, in order: all that is not still
queued while the writing task is in its loop, and a prefix for ever.
-/
structure WriteInv (events : List ConnEvent) (conn : Conn) : Prop where
  whole : conn.phase.writerOpen = true →
    written events ++ conn.unwritten = (delivered events).flatten
  within : written events <+: (delivered events).flatten

theorem WriteInv.fresh (side : Side) (channel : UInt16)
    (target : Text × UInt16) :
    WriteInv [] (Conn.fresh side channel target) := by
  constructor
  · intro _
    cases side <;> rfl
  · exact List.nil_prefix

/-- An event that delivers and writes nothing leaves the history alone. -/
theorem WriteInv.quiet {events : List ConnEvent} {event : ConnEvent}
    {conn next : Conn} (invariant : WriteInv events conn)
    (noDelivery : event.delivered? = none) (noWrite : event.written = [])
    (stillOpen : next.phase.writerOpen = true →
      conn.phase.writerOpen = true ∧ next.unwritten = conn.unwritten) :
    WriteInv (events ++ [event]) next := by
  constructor
  · intro isOpen
    rcases stillOpen isOpen with ⟨wasOpen, same⟩
    simp only [written_snoc, delivered_snoc, noDelivery, noWrite, same,
      Option.toList_none, List.append_nil]
    exact invariant.whole wasOpen
  · simp only [written_snoc, delivered_snoc, noDelivery, noWrite,
      Option.toList_none, List.append_nil]
    exact invariant.within

theorem WriteInv.deliver {events : List ConnEvent} {conn : Conn}
    (invariant : WriteInv events conn) (buffer : Bytes) :
    WriteInv (events ++ [.deliver buffer])
      { conn with inbound := conn.inbound ++ [buffer] } := by
  have history : (delivered (events ++ [.deliver buffer])).flatten =
      (delivered events).flatten ++ buffer := by
    simp [delivered_snoc, ConnEvent.delivered?]
  constructor
  · intro isOpen
    rw [history, ← invariant.whole isOpen, written_snoc]
    simp [ConnEvent.written, Conn.unwritten]
  · rw [history, written_snoc]
    simp only [ConnEvent.written, List.append_nil]
    exact invariant.within.trans (List.prefix_append _ _)

theorem WriteInv.write {events : List ConnEvent} {conn : Conn}
    {reader : ReadTask} {bytes rest : Bytes}
    (invariant : WriteInv events conn)
    (phase : conn.phase = .streaming reader (.writing (bytes ++ rest))) :
    WriteInv (events ++ [.write bytes])
      { conn with phase := .streaming reader (WriteTask.after rest) } := by
  have before := invariant.whole (by simp [phase, WriteTask.inLoop])
  have after : written (events ++ [.write bytes]) ++
      (rest ++ conn.inbound.flatten) =
        (delivered (events ++ [.write bytes])).flatten := by
    simp only [written_snoc, delivered_snoc, ConnEvent.written,
      ConnEvent.delivered?, Option.toList_none, List.append_nil]
    rw [← before]
    simp [Conn.unwritten, phase]
  constructor
  · intro isOpen
    rw [← after]
    simp [Conn.unwritten]
  · exact ⟨_, after⟩

theorem WriteInv.step {side : Side} {events : List ConnEvent}
    {event : ConnEvent} {conn next : Conn} (invariant : WriteInv events conn)
    (moved : Moves side conn event next) :
    WriteInv (events ++ [event]) next := by
  cases moved with
  | deliver alive room => exact invariant.deliver _
  | write phase nonempty => exact invariant.write phase
  | take phase queue =>
      refine invariant.quiet rfl rfl (fun _ => ?_)
      simp [Conn.unwritten, phase, queue, WriteTask.inLoop]
  -- the reading task's steps leave the writing half as it is
  | sentData phase | sentEof phase | dataFailed phase | eofFailed phase
  | readBytes phase nonempty small | readEof phase | readError phase =>
      refine invariant.quiet rfl rfl (fun isOpen => ⟨?_, ?_⟩)
      · simpa [phase] using isOpen
      · simp [Conn.unwritten, phase]
  -- before the halves run nothing is in hand
  | connected phase | connectFailed phase | announced phase
  | stopped phase | stopFailed phase =>
      refine invariant.quiet rfl rfl (fun _ => ⟨?_, ?_⟩)
      · simp [phase, Phase.writerOpen]
      · simp [Conn.unwritten, phase, Phase.inHand]
  -- these leave the writing loop, or come after it
  | announceFailed phase | queueClosed phase queue | writeError phase
  | shutdown phase | joined phase | removed phase =>
      exact invariant.quiet rfl rfl (fun isOpen => by
        simp [Phase.writerOpen, WriteTask.inLoop] at isOpen)

theorem WriteInv.of_run {side : Side} {channel : UInt16}
    {target : Text × UInt16} {events : List ConnEvent} {conn : Conn}
    (run : Run (Conn.step side) (Conn.fresh side channel target)
      events conn) : WriteInv events conn :=
  run.invariant (motive := WriteInv) (WriteInv.fresh side channel target)
    (fun _ _ _ _ _ invariant taken => invariant.step (Moves.of_step taken))

/-- What is still queued is the end of what was delivered. -/
theorem inbound_suffix {side : Side} {channel : UInt16}
    {target : Text × UInt16} {events : List ConnEvent} {conn : Conn}
    (run : Run (Conn.step side) (Conn.fresh side channel target)
      events conn) : conn.inbound <:+ delivered events :=
  run.invariant
    (motive := fun events conn => conn.inbound <:+ delivered events)
    List.nil_suffix
    (fun events conn event next _ queued taken => by
      rw [delivered_snoc]
      cases Moves.of_step taken with
      | @deliver buffer alive room =>
          rcases queued with ⟨gone, same⟩
          refine ⟨gone, ?_⟩
          rw [← same, ← List.append_assoc]
          rfl
      | take phase queue =>
          rw [queue] at queued
          simpa [ConnEvent.delivered?] using
            (List.suffix_cons _ _).trans queued
      | _ => simpa [ConnEvent.delivered?] using queued)

/-- The writing task has shut the socket down. -/
def Phase.shut : Phase → Bool
  | .streaming _ writer => decide (writer = .done)
  | .locking | .finished => true
  | _ => false

theorem shut_of_shutdown {side : Side} {channel : UInt16}
    {target : Text × UInt16} {events : List ConnEvent} {conn : Conn}
    (run : Run (Conn.step side) (Conn.fresh side channel target)
      events conn) :
    .shutdown ∈ events → conn.phase.shut = true :=
  run.invariant
    (motive := fun events conn =>
      .shutdown ∈ events → conn.phase.shut = true)
    (fun absent => by cases absent)
    (fun events conn event next _ before taken member => by
      rcases List.mem_append.mp member with earlier | last
      · have shut := before earlier
        cases Moves.of_step taken with
        | deliver alive room => exact shut
        | joined phase => rfl
        | removed phase => rfl
        | sentData phase | sentEof phase | dataFailed phase
        | eofFailed phase | readBytes phase nonempty small
        | readEof phase | readError phase =>
            rw [phase] at shut
            exact shut
        | shutdown phase => rfl
        | connected phase | connectFailed phase | announced phase
        | stopped phase | announceFailed phase | stopFailed phase
        | take phase queue | queueClosed phase queue
        | write phase nonempty | writeError phase =>
            rw [phase] at shut
            simp [Phase.shut] at shut
      · obtain rfl : .shutdown = event := by simpa using last
        cases Moves.of_step taken with
        | shutdown phase => rfl)

/-! ## The reading half -/

/-- What a connection sends before the first bytes of its socket. -/
def opening (side : Side) (channel : UInt16) (target : Text × UInt16) :
    List Frame :=
  match side with
  | .client => [connectFrame channel target]
  | .server => []

/--
The frames are an opening, `TCP_DATA` frames of one socket read each that
carry `bytes`, and a closing.
-/
def Carries (channel : UInt16) (opening closing frames : List Frame)
    (bytes : Bytes) : Prop :=
  ∃ chunks : List Bytes,
    (∀ data ∈ chunks, data ≠ [] ∧ data.length ≤ chunk) ∧
      frames = opening ++ chunks.map (dataFrame channel) ++ closing ∧
      chunks.flatten = bytes

theorem Carries.nil (channel : UInt16) (opening : List Frame) :
    Carries channel opening [] opening [] :=
  ⟨[], by simp, by simp, rfl⟩

theorem Carries.snoc {channel : UInt16} {opening frames : List Frame}
    {bytes data : Bytes} (carries : Carries channel opening [] frames bytes)
    (nonempty : data ≠ []) (small : data.length ≤ chunk) :
    Carries channel opening [] (frames ++ [dataFrame channel data])
      (bytes ++ data) := by
  rcases carries with ⟨chunks, sized, rfl, rfl⟩
  refine ⟨chunks ++ [data], ?_, by simp, by simp⟩
  intro other member
  rcases List.mem_append.mp member with earlier | last
  · exact sized other earlier
  · rcases List.mem_singleton.mp last with rfl
    exact ⟨nonempty, small⟩

theorem Carries.close {channel : UInt16} {opening frames : List Frame}
    {bytes : Bytes} (carries : Carries channel opening [] frames bytes)
    (closing : List Frame) :
    Carries channel opening closing (frames ++ closing) bytes := by
  rcases carries with ⟨chunks, sized, rfl, rfl⟩
  exact ⟨chunks, sized, by simp, rfl⟩

/-- The frames sent so far carry a part of what was read; the rest is lost. -/
def Lost (channel : UInt16) (opening frames : List Frame) (bytes : Bytes) :
    Prop :=
  ∃ part, part <+: bytes ∧ Carries channel opening [] frames part

/--
What the reading task has done, by the connection's phase.  `over` says that
the task has met the end of the socket and `failed` that a send has failed.
-/
def ReadState (side : Side) (conn : Conn) (frames : List Frame)
    (bytes : Bytes) (isOver failed : Prop) : Prop :=
  let start := opening side conn.channel conn.target
  let carries closing := Carries conn.channel start closing frames
  let lost := failed ∧ Lost conn.channel start frames bytes
  match conn.phase with
  | .connecting => side = .server ∧ frames = [] ∧ bytes = []
  | .announcing => side = .client ∧ frames = [] ∧ bytes = []
  | .refused => frames = [] ∧ bytes = []
  | .refusedLocking =>
      (frames = [] ∨ frames = [stopFrame conn.channel]) ∧ bytes = []
  | .streaming .reading _ => carries [] bytes
  | .streaming (.sending data) _ =>
      ∃ earlier, bytes = earlier ++ data ∧ data ≠ [] ∧
        data.length ≤ chunk ∧ carries [] earlier
  | .streaming .sendingEof _ => isOver ∧ carries [] bytes ∨ lost
  | .streaming .done _ | .locking =>
      isOver ∧ carries [eofFrame conn.channel] bytes ∨ lost
  | .finished =>
      (frames = [] ∨ frames = [stopFrame conn.channel]) ∧ bytes = [] ∨
        isOver ∧ carries [eofFrame conn.channel] bytes ∨ lost
  | .abandoned => frames = [] ∧ bytes = []

/-- What the reading task has read, against what was sent. -/
def ReadInv (side : Side) (events : List ConnEvent) (conn : Conn) : Prop :=
  ReadState side conn (sentFrames events) (readBytes events)
    (ReadOver events) (.sendFailed ∈ events)

theorem ReadState.mono {side : Side} {conn : Conn} {frames : List Frame}
    {bytes : Bytes} {isOver over' failed failed' : Prop}
    (overMono : isOver → over') (failedMono : failed → failed')
    (state : ReadState side conn frames bytes isOver failed) :
    ReadState side conn frames bytes over' failed' := by
  unfold ReadState at state ⊢
  dsimp only at state ⊢
  split at state <;>
    first
      | exact state
      | exact state.imp (And.imp_left overMono) (And.imp_left failedMono)
      | exact state.imp_right
          (Or.imp (And.imp_left overMono) (And.imp_left failedMono))

/-- An event that neither reads nor sends leaves the history alone. -/
theorem ReadInv.quiet {side : Side} {events : List ConnEvent}
    {event : ConnEvent} {conn next : Conn}
    (invariant : ReadInv side events conn) (noSend : event.sent? = none)
    (noRead : event.readBytes = [])
    (same : ∀ frames bytes isOver failed,
      ReadState side conn frames bytes isOver failed →
        ReadState side next frames bytes isOver failed) :
    ReadInv side (events ++ [event]) next := by
  unfold ReadInv
  rw [sentFrames_snoc, readBytes_snoc, noSend, noRead,
    Option.toList_none, List.append_nil, List.append_nil]
  exact (same _ _ _ _ invariant).mono (ReadOver.snoc event)
    (List.mem_append_left _)

/-- A step that neither reads nor sends keeps what its phase says. -/
theorem ReadInv.quiet_streaming {side : Side} {events : List ConnEvent}
    {event : ConnEvent} {conn : Conn} {inbound : List Bytes}
    {reader : ReadTask} {writer writer' : WriteTask}
    (invariant : ReadInv side events conn) (noSend : event.sent? = none)
    (noRead : event.readBytes = [])
    (phase : conn.phase = .streaming reader writer) :
    ReadInv side (events ++ [event])
      { conn with
        inbound := inbound
        phase := .streaming reader writer' } := by
  refine invariant.quiet noSend noRead ?_
  intro frames bytes isOver failed state
  unfold ReadState at state ⊢
  rw [phase] at state
  cases reader <;> exact state

theorem ReadInv.step {side : Side} {events : List ConnEvent}
    {event : ConnEvent} {conn next : Conn}
    (invariant : ReadInv side events conn)
    (moved : Moves side conn event next)
    (sending : event.sent?.isSome → .sendFailed ∉ events) :
    ReadInv side (events ++ [event]) next := by
  have state := invariant
  unfold ReadInv ReadState at state
  cases moved with
  | take phase queue => exact invariant.quiet_streaming rfl rfl phase
  | queueClosed phase queue => exact invariant.quiet_streaming rfl rfl phase
  | write phase nonempty => exact invariant.quiet_streaming rfl rfl phase
  | writeError phase => exact invariant.quiet_streaming rfl rfl phase
  | shutdown phase => exact invariant.quiet_streaming rfl rfl phase
  | deliver alive room =>
      refine invariant.quiet rfl rfl ?_
      intro frames bytes isOver failed before
      exact before
  | joined phase =>
      refine invariant.quiet rfl rfl ?_
      intro frames bytes isOver failed before
      unfold ReadState at before
      rw [phase] at before
      exact before
  | removed phase =>
      refine invariant.quiet rfl rfl ?_
      intro frames bytes isOver failed before
      unfold ReadState at before
      rcases phase with phase | phase <;> rw [phase] at before
      · exact Or.inr before
      · exact Or.inl before
  | connectFailed phase =>
      refine invariant.quiet rfl rfl ?_
      intro frames bytes isOver failed before
      unfold ReadState at before
      rw [phase] at before
      exact before.2
  | connected phase =>
      refine invariant.quiet rfl rfl ?_
      intro frames bytes isOver failed before
      unfold ReadState at before
      rw [phase] at before
      rcases before with ⟨rfl, rfl, rfl⟩
      exact Carries.nil conn.channel []
  | announced phase =>
      rw [phase] at state
      rcases state with ⟨rfl, noFrames, noBytes⟩
      unfold ReadInv ReadState
      rw [sentFrames_snoc, readBytes_snoc, noFrames, noBytes]
      exact Carries.nil conn.channel [connectFrame conn.channel conn.target]
  | stopped phase =>
      rw [phase] at state
      rcases state with ⟨noFrames, noBytes⟩
      unfold ReadInv ReadState
      rw [sentFrames_snoc, readBytes_snoc, noFrames, noBytes]
      exact ⟨Or.inr rfl, rfl⟩
  | announceFailed phase =>
      rw [phase] at state
      rcases state with ⟨rfl, noFrames, noBytes⟩
      unfold ReadInv ReadState
      rw [sentFrames_snoc, readBytes_snoc, noFrames, noBytes]
      exact ⟨rfl, rfl⟩
  | stopFailed phase =>
      rw [phase] at state
      rcases state with ⟨noFrames, noBytes⟩
      unfold ReadInv ReadState
      rw [sentFrames_snoc, readBytes_snoc, noFrames, noBytes]
      exact ⟨Or.inl rfl, rfl⟩
  | readBytes phase nonempty small =>
      rw [phase] at state
      unfold ReadInv ReadState
      rw [sentFrames_snoc, readBytes_snoc]
      refine ⟨readBytes events, rfl, nonempty, small, ?_⟩
      simpa [ConnEvent.sent?] using state
  | readEof phase =>
      rw [phase] at state
      unfold ReadInv ReadState
      rw [sentFrames_snoc, readBytes_snoc]
      refine Or.inl ⟨Or.inl (by simp), ?_⟩
      simpa [ConnEvent.sent?, ConnEvent.readBytes] using state
  | readError phase =>
      rw [phase] at state
      unfold ReadInv ReadState
      rw [sentFrames_snoc, readBytes_snoc]
      refine Or.inl ⟨Or.inr (by simp), ?_⟩
      simpa [ConnEvent.sent?, ConnEvent.readBytes] using state
  | sentData phase =>
      rw [phase] at state
      rcases state with ⟨earlier, split, nonempty, small, carries⟩
      unfold ReadInv ReadState
      rw [sentFrames_snoc, readBytes_snoc, split]
      simpa [ConnEvent.sent?, ConnEvent.readBytes] using
        carries.snoc nonempty small
  | sentEof phase =>
      rw [phase] at state
      have clean := sending rfl
      rcases state with ⟨isOver, carries⟩ | ⟨failed, _⟩
      · unfold ReadInv ReadState
        rw [sentFrames_snoc, readBytes_snoc]
        refine Or.inl ⟨isOver.snoc _, ?_⟩
        simpa [ConnEvent.sent?, ConnEvent.readBytes] using
          carries.close [eofFrame conn.channel]
      · exact (clean failed).elim
  | dataFailed phase =>
      rw [phase] at state
      rcases state with ⟨earlier, split, nonempty, small, carries⟩
      have lost : ConnEvent.sendFailed ∈ events ++ [.sendFailed] ∧
          Lost conn.channel (opening side conn.channel conn.target)
            (sentFrames (events ++ [.sendFailed]))
            (readBytes (events ++ [.sendFailed])) := by
        rw [sentFrames_snoc, readBytes_snoc, split]
        refine ⟨by simp, earlier, ?_, ?_⟩
        · simp [ConnEvent.readBytes]
        · simpa [ConnEvent.sent?] using carries
      cases side <;> exact Or.inr lost
  | eofFailed phase =>
      rw [phase] at state
      have lost : ConnEvent.sendFailed ∈ events ++ [.sendFailed] ∧
          Lost conn.channel (opening side conn.channel conn.target)
            (sentFrames (events ++ [.sendFailed]))
            (readBytes (events ++ [.sendFailed])) := by
        rw [sentFrames_snoc, readBytes_snoc]
        refine ⟨by simp, ?_⟩
        simp only [ConnEvent.sent?, ConnEvent.readBytes,
          Option.toList_none, List.append_nil]
        rcases state with ⟨_, carries⟩ | ⟨_, lost⟩
        · exact ⟨_, List.prefix_refl _, carries⟩
        · exact lost
      exact Or.inr lost

/-- The shapes of what a connection has put on `out_tx`. -/
inductive Outgoing (side : Side) (conn : Conn) (events : List ConnEvent) :
    Prop where
  | silent (nothing : sentFrames events = [])
  | stopped (stop : sentFrames events = [stopFrame conn.channel])
      (nothing : readBytes events = [])
  | streaming
      (lost : Lost conn.channel (opening side conn.channel conn.target)
        (sentFrames events) (readBytes events))
  | ended (isOver : ReadOver events)
      (carries : Carries conn.channel
        (opening side conn.channel conn.target) [eofFrame conn.channel]
        (sentFrames events) (readBytes events))

theorem ReadInv.outgoing {side : Side} {events : List ConnEvent}
    {conn : Conn} (invariant : ReadInv side events conn) :
    Outgoing side conn events := by
  unfold ReadInv ReadState at invariant
  dsimp only at invariant
  split at invariant
  · exact .silent invariant.2.1
  · exact .silent invariant.2.1
  · exact .silent invariant.1
  · rcases invariant with ⟨nothing | stop, noBytes⟩
    · exact .silent nothing
    · exact .stopped stop noBytes
  · exact .streaming ⟨_, List.prefix_refl _, invariant⟩
  · rcases invariant with ⟨earlier, split, _, _, carries⟩
    exact .streaming ⟨earlier, ⟨_, split.symm⟩, carries⟩
  · rcases invariant with ⟨_, carries⟩ | ⟨_, lost⟩
    · exact .streaming ⟨_, List.prefix_refl _, carries⟩
    · exact .streaming lost
  · rcases invariant with ⟨isOver, carries⟩ | ⟨_, lost⟩
    · exact .ended isOver carries
    · exact .streaming lost
  · rcases invariant with ⟨isOver, carries⟩ | ⟨_, lost⟩
    · exact .ended isOver carries
    · exact .streaming lost
  · rcases invariant with ⟨nothing | stop, noBytes⟩ | ⟨isOver, carries⟩ |
      ⟨_, lost⟩
    · exact .silent nothing
    · exact .stopped stop noBytes
    · exact .ended isOver carries
    · exact .streaming lost
  · exact .silent invariant.1

theorem ReadInv.fresh (side : Side) (channel : UInt16)
    (target : Text × UInt16) :
    ReadInv side [] (Conn.fresh side channel target) := by
  cases side <;> exact ⟨rfl, rfl, rfl⟩

/-- The invariant holds as long as no send fails. -/
theorem ReadInv.of_run {side : Side} {channel : UInt16}
    {target : Text × UInt16} {events : List ConnEvent} {conn : Conn}
    (run : Run (Conn.step side) (Conn.fresh side channel target)
      events conn) (clean : .sendFailed ∉ events) :
    ReadInv side events conn := by
  induction run with
  | start => exact ReadInv.fresh side channel target
  | extend earlier taken induction =>
      have before := fun failed => clean (List.mem_append_left _ failed)
      exact (induction before).step (Moves.of_step taken) fun _ => before

/-- `TCP_STOP_SENDING` is sent after a failed connect only. -/
theorem connectFailed_of_stop {side : Side} {channel : UInt16}
    {target : Text × UInt16} {events : List ConnEvent} {conn : Conn}
    (run : Run (Conn.step side) (Conn.fresh side channel target)
      events conn)
    (stopped : conn.phase = .refused ∨
      ∃ frame ∈ sentFrames events, frame.cmd = cmdTcpStopSending) :
    .connectFailed ∈ events := by
  induction run with
  | start =>
      rcases stopped with refused | ⟨frame, member, _⟩
      · cases side <;> cases refused
      · cases member
  | @extend trace conn next event earlier taken induction =>
      have moved := Moves.of_step taken
      have before : (conn.phase = .refused ∨
          ∃ frame ∈ sentFrames trace, frame.cmd = cmdTcpStopSending) →
            .connectFailed ∈ trace ++ [event] :=
        fun known => List.mem_append_left _ (induction known)
      rcases stopped with refused | ⟨frame, member, stop⟩
      · cases moved with
        | connectFailed phase => simp
        | deliver alive room => exact before (Or.inl refused)
        | _ => cases refused
      · rw [sentFrames_snoc] at member
        rcases List.mem_append.mp member with earlierFrame | now
        · exact before (Or.inr ⟨frame, earlierFrame, stop⟩)
        · cases moved with
          | stopped phase => exact before (Or.inl phase)
          | announced phase | sentData phase | sentEof phase =>
              rcases List.mem_singleton.mp now with rfl
              cases stop
          | _ => cases now

end KubectlSshuttle.Rushtle.Connection
