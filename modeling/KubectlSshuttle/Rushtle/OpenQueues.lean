import KubectlSshuttle.Rushtle.FrameCap

/-!
# No send fails

Every frame of the joined processes fits a length field, since the DNS
datagrams are read into buffers of 4096 bytes.  As no write fails either, both
writer tasks stay in their loops, and whatever is sent to `out_tx` gets into
the queue.
-/

namespace KubectlSshuttle.Rushtle

open KubectlSshuttle.Lib.RustText
open KubectlSshuttle.Lib.Address
open KubectlSshuttle.Lib.Transition
open KubectlSshuttle.Rushtle.Ssnet
open KubectlSshuttle.Rushtle.Connection
open KubectlSshuttle.Rushtle.Channels
open KubectlSshuttle.Rushtle.OutQueue
open KubectlSshuttle.Rushtle.UdpFlows

/-! ## The writers -/

/-- Only a frame that is too long, or a failed write, breaks a writer. -/
theorem not_broken_of_moves {out next : Outbound} {event : OutEvent}
    (moved : OutMoves out event next) (sound : out.writer ≠ .broken)
    (written : event ≠ .writeFailed)
    (fits : ∀ frame queue, event = .take → out.queue = frame :: queue →
      Fits frame) :
    next.writer ≠ .broken := by
  cases moved with
  | enqueued running room => exact sound
  | refused broken => exact sound
  | take idle waiting fit => exact WriterTask.noConfusion
  | takeLong idle waiting long =>
      exact absurd (fits _ _ rfl waiting) (Nat.not_le.mpr long)
  | @write bytes rest busy nonempty =>
      show WriterTask.after rest ≠ .broken
      unfold WriterTask.after
      split <;> exact WriterTask.noConfusion
  | writeFailed busy => exact (written rfl).elim
  | closed idle empty => exact WriterTask.noConfusion

/-- Neither writer task has met an error. -/
structure Unbroken (system : System) : Prop where
  client : system.client.out.writer ≠ .broken
  server : system.server.out.writer ≠ .broken

section Projected

/-- What an action does to a writer, by the frames put on the queue so far. -/
theorem not_broken_of_projects {events : List OutEvent}
    {event : Option OutEvent} {out next : Outbound}
    (run : Run Outbound.step .empty events out)
    (projected : Projects Outbound.step event out next)
    (sound : out.writer ≠ .broken) (written : event ≠ some .writeFailed)
    (fits : ∀ frame ∈ enqueuedFrames events, Fits frame) :
    next.writer ≠ .broken := by
  cases event with
  | none =>
      have same : next = out := projected
      rw [same]
      exact sound
  | some event =>
      have taken : out.step event = some next := projected
      apply not_broken_of_moves (OutMoves.of_step taken) sound
      · intro failed
        exact written (congrArg some failed)
      · intro frame queue isTake waiting
        subst isTake
        exact fits frame (mem_enqueued_of_queue run taken waiting)

end Projected

section Runs

variable {dnsEnabled : Bool} {resolvers : List SocketAddr}
  {trace : List SystemAction} {system : System}

/-- Whatever datagrams come, the buffers bound all that is sent. -/
theorem capped_of_run
    (run : Run System.step (.start dnsEnabled resolvers) trace system) :
    Capped datagramSize trace system := by
  apply Capped.of_run (by decide) run
  apply Meets.of_forall
  intro action member before state
  unfold DatagramsWithin
  split
  · exact List.length_take_le _ _
  · exact List.length_take_le _ _
  · trivial

/-- All frames of a run fit. -/
theorem fits_of_run
    (run : Run System.step (.start dnsEnabled resolvers) trace system) :
    (∀ frame ∈ clientFrames (clientTrace trace), Fits frame) ∧
      ∀ frame ∈ serverFrames (serverTrace trace), Fits frame := by
  have capped := capped_of_run run
  have room : datagramSize ≤ maxPayload := by decide
  exact ⟨fun frame member => (capped.up frame member).trans room,
    fun frame member => (capped.down frame member).trans room⟩

theorem Unbroken.of_run
    (run : Run System.step (.start dnsEnabled resolvers) trace system) :
    Unbroken system := by
  apply run.invariant (motive := fun _ system => Unbroken system)
  · exact ⟨WriterTask.noConfusion, WriterTask.noConfusion⟩
  · intro trace system action next earlier unbroken taken
    rcases fits_of_run earlier with ⟨clientFits, serverFits⟩
    cases SystemMoves.of_step taken with
    | @client action client down drained moved =>
        refine ⟨?_, unbroken.server⟩
        apply not_broken_of_projects (run_clientOut (run_client earlier))
          (ClientMoves.of_step moved).projects_out unbroken.client _
          clientFits
        intro failed
        cases action with
        | writer event =>
            cases Option.some.inj failed
            cases drained
        | _ => cases failed
    | @server action server up drained moved =>
        refine ⟨unbroken.client, ?_⟩
        apply not_broken_of_projects (run_out (run_server earlier))
          (ServerMoves.of_step moved).projects_out unbroken.server _
          serverFits
        intro failed
        cases action with
        | writer event =>
            cases Option.some.inj failed
            cases drained
        | _ => cases failed

theorem broken_of_refused {out next : Outbound} {frame : Frame}
    (taken : out.step (.refused frame) = some next) :
    out.writer = .broken := by
  cases OutMoves.of_step taken with
  | refused broken => exact broken

/-- No send of the client fails. -/
theorem clientRefused_notMem
    (run : Run System.step (.start dnsEnabled resolvers) trace system)
    (source : ClientSource) (frame : Frame) :
    .refused source frame ∉ clientTrace trace := by
  intro member
  rcases List.mem_filterMap.mp member with ⟨action, inTrace, same⟩
  cases action with
  | server action => cases same
  | client action =>
      cases Option.some.inj same
      rcases List.append_of_mem inTrace with ⟨before, after, rfl⟩
      rcases run.step_at with ⟨state, next, reached, taken, _⟩
      cases SystemMoves.of_step taken with
      | client drained moved =>
          have projected := (ClientMoves.of_step moved).projects_out
          exact (Unbroken.of_run reached).client (broken_of_refused projected)

/-- No send of the server fails. -/
theorem serverRefused_notMem
    (run : Run System.step (.start dnsEnabled resolvers) trace system)
    (source : Source) (frame : Frame) :
    .refused source frame ∉ serverTrace trace := by
  intro member
  rcases List.mem_filterMap.mp member with ⟨action, inTrace, same⟩
  cases action with
  | client action => cases same
  | server action =>
      cases Option.some.inj same
      rcases List.append_of_mem inTrace with ⟨before, after, rfl⟩
      rcases run.step_at with ⟨state, next, reached, taken, _⟩
      cases SystemMoves.of_step taken with
      | server drained moved =>
          have projected := (ServerMoves.of_step moved).projects_out
          exact (Unbroken.of_run reached).server (broken_of_refused projected)

theorem eq_of_concerns_sendFailed {event : TableEvent} {member : Nat}
    (concerned : event.concerns member = some .sendFailed) :
    event = .conn member .sendFailed := by
  cases event with
  | conn other event =>
      simp only [TableEvent.concerns, Option.ite_none_right_eq_some,
        Option.some.injEq] at concerned
      rw [concerned.1, concerned.2]
  | admitted other bytes =>
      simp [TableEvent.concerns] at concerned
  | _ => cases concerned

/-- A connection of the client never meets a closed queue. -/
theorem clientSendFailed_notMem
    (run : Run System.step (.start dnsEnabled resolvers) trace system)
    (member : Nat) :
    .sendFailed ∉ connEvents member (channelTrace (clientTrace trace)) := by
  intro failed
  rcases List.mem_filterMap.mp failed with ⟨event, inEvents, concerned⟩
  rcases List.mem_filterMap.mp inEvents with ⟨action, inTrace, asked⟩
  have same := eq_of_concerns_sendFailed concerned
  subst same
  cases action with
  | refused source frame => exact clientRefused_notMem run _ _ inTrace
  | channels event =>
      cases Option.some.inj asked
      rcases List.append_of_mem inTrace with ⟨before, after, split⟩
      have clientRun := run_client run
      rw [split] at clientRun
      rcases clientRun.step_at with ⟨state, next, _, taken, _⟩
      cases ClientMoves.of_step taken with
      | link down taken => cases taken
      | channels up own taken => cases own
  | recv frame =>
      simp only [ClientAction.channels?] at asked
      unfold channelCommand at asked
      split at asked <;> cases asked
  | enqueued source frame => cases source <;> cases asked
  | _ => cases asked

/-- A connection of the server never meets a closed queue. -/
theorem serverSendFailed_notMem
    (run : Run System.step (.start dnsEnabled resolvers) trace system)
    (member : Nat) :
    .sendFailed ∉ connEvents member (tcpEvents (serverTrace trace)) := by
  intro failed
  rcases List.mem_filterMap.mp failed with ⟨event, inEvents, concerned⟩
  rcases List.mem_filterMap.mp inEvents with ⟨action, inTrace, asked⟩
  have same := eq_of_concerns_sendFailed concerned
  subst same
  cases action with
  | refused source frame => exact serverRefused_notMem run _ _ inTrace
  | tcp event =>
      cases Option.some.inj asked
      rcases List.append_of_mem inTrace with ⟨before, after, split⟩
      have serverRun := run_server run
      rw [split] at serverRun
      rcases serverRun.step_at with ⟨state, next, _, taken, _⟩
      cases ServerMoves.of_step taken with
      | tcp own taken => cases own
  | recv frame => exact (tcpCommand_ne_conn asked).elim
  | enqueued source frame => cases source <;> cases asked
  | _ => cases asked

end Runs

end KubectlSshuttle.Rushtle
