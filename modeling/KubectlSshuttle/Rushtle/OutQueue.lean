import KubectlSshuttle.Lib.Transition
import KubectlSshuttle.Rushtle.SsnetStream

/-!
# The outbound queue and its writer

All frames of an end go through one bounded queue, `out_tx`, to a single
writer task, which passes them to `write_frame` one by one.  The task leaves
its loop on the first error, whether the stream failed or the frame was
refused; the queue is dropped with it, and every later `send` fails.
-/

namespace KubectlSshuttle.Rushtle.OutQueue

open KubectlSshuttle.Lib.RustText
open KubectlSshuttle.Lib.Transition
open KubectlSshuttle.Rushtle.Ssnet

/-- `mpsc::channel::<Frame>(1024)`. -/
def outCapacity : Nat := 1024

/-- Where the writer task stands. -/
inductive WriterTask where
  | receiving
  | writing (rest : Bytes)
  /-- an error made it leave its loop -/
  | broken
  /-- all senders are gone and the queue is empty -/
  | finished
deriving DecidableEq, Repr

/-- The outgoing queue and the task that writes it. -/
structure Outbound where
  /-- the frames that wait for the writer, oldest first -/
  queue : List Frame
  writer : WriterTask
deriving DecidableEq, Repr

/-- Nothing has been sent. -/
def Outbound.empty : Outbound where
  queue := []
  writer := .receiving

/-- What senders and the writer task do. -/
inductive OutEvent where
  | enqueued (frame : Frame)
  /-- a `send` fails, the receiver being gone -/
  | refused (frame : Frame)
  | take
  | write (bytes : Bytes)
  | writeFailed
  | closed
deriving DecidableEq, Repr

/-- The writer is in its loop, so that the receiver is still there. -/
def WriterTask.inLoop : WriterTask → Bool
  | .receiving | .writing _ => true
  | .broken | .finished => false

/-- What is left to write of the frame in hand. -/
def WriterTask.rest : WriterTask → Bytes
  | .writing rest => rest
  | _ => []

/-- `write_frame` has written a part of the frame. -/
def WriterTask.after (rest : Bytes) : WriterTask :=
  if rest = [] then .receiving else .writing rest

/-- The writer passes a frame to `write_frame`. -/
def Outbound.begin (frame : Frame) (queue : List Frame) : Outbound :=
  match writeFrame [] frame with
  | (bytes, .ok _) => ⟨queue, .writing bytes⟩
  | (_, .error _) => ⟨[], .broken⟩

/-- One step of the queue or its writer. -/
def Outbound.step (out : Outbound) : OutEvent → Option Outbound
  | .enqueued frame =>
      if out.writer.inLoop ∧ out.queue.length < outCapacity then
        some { out with queue := out.queue ++ [frame] }
      else none
  | .refused _ => if out.writer = .broken then some out else none
  | .take =>
      match out.writer, out.queue with
      | .receiving, frame :: queue => some (Outbound.begin frame queue)
      | _, _ => none
  | .write bytes =>
      match out.writer with
      | .writing rest =>
          if bytes ≠ [] ∧ bytes.isPrefixOf rest then
            some
              { out with
                writer := WriterTask.after (rest.drop bytes.length) }
          else none
      | _ => none
  | .writeFailed =>
      match out.writer with
      | .writing _ => some ⟨[], .broken⟩
      | _ => none
  | .closed =>
      match out.writer, out.queue with
      | .receiving, [] => some ⟨[], .finished⟩
      | _, _ => none

/-- The events that the writer task has by itself. -/
def ownOutEvent : OutEvent → Bool
  | .take | .write _ | .writeFailed | .closed => true
  | .enqueued _ | .refused _ => false

/-! ## What one step can do -/

/-- All that one step can do, with its guards. -/
inductive OutMoves (out : Outbound) : OutEvent → Outbound → Prop where
  | enqueued {frame : Frame} (running : out.writer.inLoop = true)
      (room : out.queue.length < outCapacity) :
      OutMoves out (.enqueued frame)
        { out with queue := out.queue ++ [frame] }
  | refused {frame : Frame} (broken : out.writer = .broken) :
      OutMoves out (.refused frame) out
  | take {frame : Frame} {queue : List Frame}
      (idle : out.writer = .receiving) (waiting : out.queue = frame :: queue)
      (fits : frame.data.length ≤ maxPayload) :
      OutMoves out .take ⟨queue, .writing (frameBytes frame)⟩
  | takeLong {frame : Frame} {queue : List Frame}
      (idle : out.writer = .receiving) (waiting : out.queue = frame :: queue)
      (long : maxPayload < frame.data.length) :
      OutMoves out .take ⟨[], .broken⟩
  | write {bytes rest : Bytes}
      (busy : out.writer = .writing (bytes ++ rest))
      (nonempty : bytes ≠ []) :
      OutMoves out (.write bytes) { out with writer := WriterTask.after rest }
  | writeFailed {rest : Bytes} (busy : out.writer = .writing rest) :
      OutMoves out .writeFailed ⟨[], .broken⟩
  | closed (idle : out.writer = .receiving) (empty : out.queue = []) :
      OutMoves out .closed ⟨[], .finished⟩

theorem OutMoves.of_step {out next : Outbound} {event : OutEvent}
    (taken : out.step event = some next) : OutMoves out event next := by
  cases event with
  | enqueued frame =>
      simp only [Outbound.step, Option.ite_none_right_eq_some,
        Option.some.injEq] at taken
      rcases taken with ⟨⟨running, room⟩, rfl⟩
      exact .enqueued running room
  | refused frame =>
      simp only [Outbound.step, Option.ite_none_right_eq_some,
        Option.some.injEq] at taken
      rcases taken with ⟨broken, rfl⟩
      exact .refused broken
  | take =>
      simp only [Outbound.step] at taken
      split at taken
      · next frame queue idle waiting =>
          simp only [Option.some.injEq] at taken
          subst taken
          by_cases fits : frame.data.length ≤ maxPayload
          · simpa [Outbound.begin, writeFrame_fits fits] using
              OutMoves.take idle waiting fits
          · have long := Nat.lt_of_not_le fits
            simpa [Outbound.begin, writeFrame_tooLong long] using
              OutMoves.takeLong idle waiting long
      · cases taken
  | write bytes =>
      simp only [Outbound.step] at taken
      split at taken
      · next rest busy =>
          split at taken
          · next part =>
              rcases List.isPrefixOf_iff_prefix.mp part.2 with ⟨tail, rfl⟩
              simp only [Option.some.injEq, List.drop_left] at taken
              subst taken
              exact .write busy part.1
          · cases taken
      · cases taken
  | writeFailed =>
      simp only [Outbound.step] at taken
      split at taken
      · next rest busy =>
          simp only [Option.some.injEq] at taken
          subst taken
          exact .writeFailed busy
      · cases taken
  | closed =>
      simp only [Outbound.step] at taken
      split at taken
      · next idle empty =>
          simp only [Option.some.injEq] at taken
          subst taken
          exact .closed idle empty
      · cases taken

/-! ## Histories -/

/-- The frame that gets in. -/
def OutEvent.enqueued? : OutEvent → Option Frame
  | .enqueued frame => some frame
  | _ => none

/-- The frame that is handed to `send`, which may fail. -/
def OutEvent.handed? : OutEvent → Option Frame
  | .enqueued frame => some frame
  | .refused frame => some frame
  | _ => none

/-- What is written to the pipe. -/
def OutEvent.written : OutEvent → Bytes
  | .write bytes => bytes
  | _ => []

/-- The frames that got into the queue. -/
def enqueuedFrames (events : List OutEvent) : List Frame :=
  events.filterMap OutEvent.enqueued?

/-- The frames that were sent to the queue, with or without success. -/
def handedFrames (events : List OutEvent) : List Frame :=
  events.filterMap OutEvent.handed?

/-- The bytes that the writer has put on the stream. -/
def writtenBytes (events : List OutEvent) : Bytes :=
  events.flatMap OutEvent.written

/-- The writer task puts nothing into its queue. -/
theorem ownOutEvent_enqueued {event : OutEvent}
    (own : ownOutEvent event = true) : event.enqueued? = none := by
  cases event <;> first | rfl | cases own

section Append

variable (events : List OutEvent) (event : OutEvent)

theorem enqueuedFrames_snoc :
    enqueuedFrames (events ++ [event]) =
      enqueuedFrames events ++ event.enqueued?.toList := by
  cases h : event.enqueued? <;> simp [enqueuedFrames, h]

theorem handedFrames_snoc :
    handedFrames (events ++ [event]) =
      handedFrames events ++ event.handed?.toList := by
  cases h : event.handed? <;> simp [handedFrames, h]

theorem writtenBytes_snoc :
    writtenBytes (events ++ [event]) =
      writtenBytes events ++ event.written := by
  simp [writtenBytes]

end Append

@[simp]
theorem WriterTask.rest_after (rest : Bytes) :
    (WriterTask.after rest).rest = rest := by
  unfold WriterTask.after
  split
  · next empty => simp [WriterTask.rest, empty]
  · rfl

@[simp]
theorem WriterTask.inLoop_after (rest : Bytes) :
    (WriterTask.after rest).inLoop = true := by
  unfold WriterTask.after
  split <;> rfl

/-! ## The bytes on the stream -/

/-- The frames that fit a payload length field. -/
def Fits (frame : Frame) : Prop :=
  frame.data.length ≤ maxPayload

instance (frame : Frame) : Decidable (Fits frame) :=
  inferInstanceAs (Decidable (frame.data.length ≤ maxPayload))

/-- The frames that `write_frame` has accepted, with what is left of them. -/
structure OutInv (events : List OutEvent) (out : Outbound) : Prop where
  running : out.writer.inLoop = true → ∃ accepted : List Frame,
    (∀ frame ∈ accepted, Fits frame) ∧
      enqueuedFrames events = accepted ++ out.queue ∧
      framesBytes accepted = writtenBytes events ++ out.writer.rest
  ever : ∃ accepted : List Frame, (∀ frame ∈ accepted, Fits frame) ∧
    accepted <+: enqueuedFrames events ∧
      writtenBytes events <+: framesBytes accepted

/-- A step that puts nothing on the queue or the stream. -/
theorem OutInv.ever_of_quiet {events : List OutEvent} {event : OutEvent}
    {out : Outbound} (invariant : OutInv events out)
    (noWrite : event.written = []) :
    ∃ accepted : List Frame, (∀ frame ∈ accepted, Fits frame) ∧
      accepted <+: enqueuedFrames (events ++ [event]) ∧
        writtenBytes (events ++ [event]) <+: framesBytes accepted := by
  rcases invariant.ever with ⟨accepted, fits, within, bytes⟩
  refine ⟨accepted, fits, ?_, ?_⟩
  · rw [enqueuedFrames_snoc]
    exact within.trans (List.prefix_append _ _)
  · rwa [writtenBytes_snoc, noWrite, List.append_nil]

theorem OutInv.step {events : List OutEvent} {event : OutEvent}
    {out next : Outbound} (invariant : OutInv events out)
    (moved : OutMoves out event next) : OutInv (events ++ [event]) next := by
  cases moved with
  | enqueued running room =>
      refine ⟨fun _ => ?_, invariant.ever_of_quiet rfl⟩
      rcases invariant.running running with ⟨accepted, fits, queued, bytes⟩
      refine ⟨accepted, fits, ?_, ?_⟩
      · simp [enqueuedFrames_snoc, queued, OutEvent.enqueued?]
      · simpa [writtenBytes_snoc, OutEvent.written] using bytes
  | refused broken =>
      refine ⟨fun running => ?_, invariant.ever_of_quiet rfl⟩
      simp [broken, WriterTask.inLoop] at running
  | @take frame queue idle waiting fit =>
      refine ⟨fun _ => ?_, invariant.ever_of_quiet rfl⟩
      obtain ⟨accepted, fits, queued, bytes⟩ :=
        invariant.running (by simp [idle, WriterTask.inLoop])
      refine ⟨accepted ++ [frame], ?_, ?_, ?_⟩
      · intro other member
        rcases List.mem_append.mp member with earlier | last
        · exact fits other earlier
        · rcases List.mem_singleton.mp last with rfl
          exact fit
      · simp [enqueuedFrames_snoc, queued, waiting, OutEvent.enqueued?]
      · simpa [writtenBytes_snoc, OutEvent.written, idle, framesBytes,
          WriterTask.rest] using bytes
  | takeLong idle waiting long =>
      refine ⟨fun running => ?_, invariant.ever_of_quiet rfl⟩
      simp [WriterTask.inLoop] at running
  | @write bytes rest busy nonempty =>
      obtain ⟨accepted, fits, queued, whole⟩ :=
        invariant.running (by simp [busy, WriterTask.inLoop])
      have after : framesBytes accepted =
          writtenBytes (events ++ [.write bytes]) ++ rest := by
        rw [whole, writtenBytes_snoc, busy]
        simp [OutEvent.written, WriterTask.rest]
      have same : enqueuedFrames (events ++ [.write bytes]) =
          accepted ++ out.queue := by
        simp [enqueuedFrames_snoc, queued, OutEvent.enqueued?]
      constructor
      · intro _
        exact ⟨accepted, fits, same, by simpa using after⟩
      · refine ⟨accepted, fits, ⟨_, same.symm⟩, ?_⟩
        rw [after]
        exact List.prefix_append _ _
  | writeFailed busy =>
      refine ⟨fun running => ?_, invariant.ever_of_quiet rfl⟩
      simp [WriterTask.inLoop] at running
  | closed idle empty =>
      refine ⟨fun running => ?_, invariant.ever_of_quiet rfl⟩
      simp [WriterTask.inLoop] at running

theorem OutInv.of_run {events : List OutEvent} {out : Outbound}
    (run : Run Outbound.step .empty events out) : OutInv events out :=
  run.invariant (motive := OutInv)
    ⟨fun _ => ⟨[], by simp, rfl, rfl⟩,
      [], by simp, List.nil_prefix, List.nil_prefix⟩
    (fun _ _ _ _ _ invariant taken =>
      invariant.step (OutMoves.of_step taken))

end KubectlSshuttle.Rushtle.OutQueue
