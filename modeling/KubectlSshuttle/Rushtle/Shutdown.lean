import KubectlSshuttle.Rushtle.OversizedFrames
import KubectlSshuttle.Rushtle.Winding

/-!
# The end of the server

After its loop the main task drops its sender of `out_tx` and waits for the
writer task, which goes on until all other senders are dropped too.  Each
connection, each query and each UDP channel holds one.  So the server returns
as soon as nothing is left to do, provided that none of these tasks still
waits for the network when the loop ends.
-/

namespace KubectlSshuttle.Rushtle

open KubectlSshuttle.Lib.RustText
open KubectlSshuttle.Lib.Address
open KubectlSshuttle.Lib.Transition
open KubectlSshuttle.Rushtle.Ssnet
open KubectlSshuttle.Rushtle.Connection
open KubectlSshuttle.Rushtle.Channels
open KubectlSshuttle.Rushtle.OutQueue
open KubectlSshuttle.Rushtle.UdpFlows

/-! ## Steps that wait for somebody else -/

/-- The steps that need the client, a target, a resolver or a timer. -/
def ServerAction.outside : ServerAction → Bool
  | .headerFailed | .recv _ | .stop | .writer .writeFailed | .dns _ _ => true
  | .tcp (.conn _ event) => outsideConn event
  | .udp (.flow _ (.datagram _ _)) | .udp (.flow _ .receiveError) => true
  | _ => false

/-- No task can take a step by itself. -/
def Quiescent (server : Server) : Prop :=
  ∀ action next, server.step action = some next → action.outside = true

/-- The query is out to a resolver. -/
def asking (query : DnsQuery) : Bool :=
  match query.task with
  | .asking _ _ => true
  | .responding _ | .done => false

/-- Every task that holds a sender comes to its end by itself. -/
structure ServerWinds (server : Server) : Prop where
  tcp : TableWinds server.tcp
  dns : ∀ query ∈ server.dns, asking query = false
  udp : UdpWinds server.udp

/-- The writer task holds a frame only while a part of it is unwritten. -/
def HoldsSome (out : Outbound) : Prop :=
  ∀ rest, out.writer = .writing rest → rest ≠ []

theorem HoldsSome.step {out next : Outbound} {event : OutEvent}
    (holds : HoldsSome out) (moved : OutMoves out event next) :
    HoldsSome next := by
  intro rest busy
  cases moved with
  | enqueued running room => exact holds rest busy
  | refused broken => exact holds rest busy
  | take idle waiting fits =>
      rcases WriterTask.writing.inj busy with rfl
      exact frameBytes_ne_nil _
  | @write bytes rest' busy' nonempty =>
      simp only [WriterTask.after] at busy
      split at busy
      · cases busy
      · next more =>
          rcases WriterTask.writing.inj busy with rfl
          exact more
  | takeLong | writeFailed | closed => cases busy

theorem holdsSome_of_run {events : List OutEvent} {out : Outbound}
    (run : Run Outbound.step .empty events out) : HoldsSome out :=
  run.invariant (motive := fun _ out => HoldsSome out)
    (fun _ busy => by cases busy)
    (fun _ _ _ _ _ holds taken => holds.step (OutMoves.of_step taken))

/-! ## A step is left as long as a sender is -/

section Moves

variable {server : Server}

theorem step_exited (stopped : server.main = .stopped)
    (ended : server.out.writer.inLoop = false) :
    server.step .exited = some { server with main := .exited } := by
  simp [Server.step, stopped, ended]

theorem step_writer (event : OutEvent) (running : server.main ≠ .exited)
    (own : ownOutEvent event = true)
    (senders : event = .closed → server.sendersGone = true)
    (enabled : (server.out.step event).isSome = true) :
    ∃ next, server.step (.writer event) = some next := by
  rcases Option.isSome_iff_exists.mp enabled with ⟨out, taken⟩
  refine ⟨{ server with out := out }, ?_⟩
  rw [Server.step, if_neg running]
  simp only [if_pos (And.intro own senders), taken, Option.map_some]

/-- A pending frame goes into an empty queue. -/
theorem step_enqueued {source : Source} {frame : Frame}
    (running : server.main ≠ .exited)
    (idle : server.out = .empty)
    (pending : server.pendingFrame source = some frame)
    (goes : ∀ out, ∃ next,
      ({ server with out := out } : Server).sent frame source = some next) :
    ∃ next, server.step (.enqueued source frame) = some next := by
  have queued : server.out.step (.enqueued frame) =
      some ⟨[frame], .receiving⟩ := by
    rw [idle]
    rfl
  rcases goes ⟨[frame], .receiving⟩ with ⟨next, sent⟩
  refine ⟨next, ?_⟩
  rw [Server.step, if_neg running]
  simp only [if_pos pending, queued, Option.bind_some, sent]

theorem moves_of_conn (stopped : server.main = .stopped)
    (idle : server.out = .empty) {member : Nat} {conn : Conn}
    (present : server.tcp.conns[member]? = some conn)
    (moves : MovesAlone server.tcp member conn) :
    ∃ action next, action.outside = false ∧
      server.step action = some next := by
  have running : server.main ≠ .exited := by simp [stopped]
  rcases moves with ⟨frame, pending⟩ | ⟨event, tcp, inside, own, taken⟩
  · have found : server.pendingFrame (.conn member) = some frame := by
      rw [Server.pendingFrame, present, Option.bind_some, pending]
    rcases sent_of_pending .server present pending with ⟨tcp, sent⟩
    have goes : ∀ out, ∃ next,
        ({ server with out := out } : Server).sent frame (.conn member) =
          some next :=
      fun out => ⟨{ server with out := out, tcp := tcp }, by
        simp [Server.sent, sent]⟩
    rcases step_enqueued running idle found goes with ⟨next, taken⟩
    exact ⟨_, next, rfl, taken⟩
  · refine ⟨.tcp (.conn member event), { server with tcp := tcp }, inside,
      ?_⟩
    rw [Server.step, if_neg running]
    simp only [own, if_true, taken, Option.map_some]

theorem moves_of_query (stopped : server.main = .stopped)
    (idle : server.out = .empty) {member : Nat} {query : DnsQuery}
    (present : server.dns[member]? = some query)
    (answered : asking query = false) (going : query.task ≠ .done) :
    ∃ action next, action.outside = false ∧
      server.step action = some next := by
  have running : server.main ≠ .exited := by simp [stopped]
  cases task : query.task with
  | asking nameserver untried => simp [asking, task] at answered
  | done => exact (going task).elim
  | responding reply =>
      have pending : query.pendingFrame =
          some ⟨query.channel, cmdDnsResponse, reply⟩ := by
        rw [DnsQuery.pendingFrame, task]
      have found : server.pendingFrame (.dns member) =
          some ⟨query.channel, cmdDnsResponse, reply⟩ := by
        rw [Server.pendingFrame, present, Option.bind_some, pending]
      have goes : ∀ out, ∃ next,
          ({ server with out := out } : Server).sent
            ⟨query.channel, cmdDnsResponse, reply⟩ (.dns member) =
              some next := by
        intro out
        refine Option.isSome_iff_exists.mp ?_
        simp [Server.sent, Server.stepDns, present, DnsQuery.step, pending]
      rcases step_enqueued running idle found goes with ⟨next, taken⟩
      exact ⟨_, next, rfl, taken⟩

theorem moves_of_flow (stopped : server.main = .stopped)
    (idle : server.out = .empty) {member : Nat} {flow : UdpFlow}
    (winds : UdpWinds server.udp)
    (present : server.udp.flows[member]? = some flow)
    (going : flow.receiver ≠ .done) :
    ∃ action next, action.outside = false ∧
      server.step action = some next := by
  have running : server.main ≠ .exited := by simp [stopped]
  rcases (winds.flows flow (List.mem_of_getElem? present)).moves winds.free
    present going with ⟨frame, pending⟩ | ⟨udp, taken⟩
  · have found : server.pendingFrame (.udp member) = some frame := by
      rw [Server.pendingFrame, present, Option.bind_some, pending]
    have goes : ∀ out, ∃ next,
        ({ server with out := out } : Server).sent frame (.udp member) =
          some next := by
      intro out
      refine Option.isSome_iff_exists.mp ?_
      simp [Server.sent, UdpTable.step, present, UdpTable.permits,
        UdpFlow.step, pending]
    rcases step_enqueued running idle found goes with ⟨next, taken⟩
    exact ⟨_, next, rfl, taken⟩
  · refine ⟨.udp (.flow member .checked), { server with udp := udp }, rfl,
      ?_⟩
    rw [Server.step, if_neg running]
    simp [ownUdpEvent, taken]

/-- A sender is held by a task that is not done. -/
theorem sender_of_stopped (stopped : server.main = .stopped)
    (held : server.sendersGone = false) :
    (∃ conn ∈ server.tcp.conns, conn.phase ≠ .finished) ∨
      (∃ query ∈ server.dns, query.task ≠ .done) ∨
        ∃ flow ∈ server.udp.flows, flow.receiver ≠ .done := by
  by_contra none
  push Not at none
  rcases none with ⟨conns, queries, flows⟩
  have gone : server.sendersGone = true := by
    simpa [Server.sendersGone, stopped] using ⟨⟨conns, queries⟩, flows⟩
  rw [gone] at held
  cases held

/-- A server whose tasks all come to their end is never stuck. -/
theorem ServerWinds.moves (winds : ServerWinds server)
    (stopped : server.main = .stopped)
    (writes : ∀ conn ∈ server.tcp.conns, WritesSome conn)
    (holds : HoldsSome server.out) :
    ∃ action next, action.outside = false ∧
      server.step action = some next := by
  have running : server.main ≠ .exited := by simp [stopped]
  cases writer : server.out.writer with
  | broken | finished =>
      exact ⟨.exited, _, rfl, step_exited stopped (by rw [writer]; rfl)⟩
  | writing rest =>
      rcases step_writer (.write rest) running rfl (by simp)
        (by simp [Outbound.step, writer, holds rest writer]) with
        ⟨next, taken⟩
      exact ⟨_, next, rfl, taken⟩
  | receiving =>
      cases queue : server.out.queue with
      | cons frame rest =>
          rcases step_writer .take running rfl (by simp)
            (by simp [Outbound.step, writer, queue]) with ⟨next, taken⟩
          exact ⟨_, next, rfl, taken⟩
      | nil =>
          have idle : server.out = .empty := by
            rw [Outbound.empty, ← queue, ← writer]
          cases held : server.sendersGone with
          | true =>
              rcases step_writer .closed running rfl
                (fun _ => held) (by simp [Outbound.step, writer, queue]) with
                ⟨next, taken⟩
              exact ⟨_, next, rfl, taken⟩
          | false =>
              rcases sender_of_stopped stopped held with
                ⟨conn, member, going⟩ | ⟨query, member, going⟩ |
                  ⟨flow, member, going⟩
              · rcases List.mem_iff_getElem?.mp member with ⟨place, present⟩
                rcases winds.tcp.moves writes present going with
                  ⟨mover, moving, found, moves⟩
                exact moves_of_conn stopped idle found moves
              · rcases List.mem_iff_getElem?.mp member with ⟨place, present⟩
                exact moves_of_query stopped idle present
                  (winds.dns query member) going
              · rcases List.mem_iff_getElem?.mp member with ⟨place, present⟩
                exact moves_of_flow stopped idle winds.udp present going

end Moves

/-! ## No step makes a task wait again -/

theorem asking_of_step {query next : DnsQuery} {event : DnsEvent}
    (taken : query.step event = some next) (answered : asking query = false) :
    asking next = false := by
  unfold asking at answered
  split at answered
  · cases answered
  all_goals
    next task =>
      cases event with
      | datagram | attemptFailed => simp [DnsQuery.step, task] at taken
      | sent | sendFailed =>
          simp only [DnsQuery.step, Option.ite_none_right_eq_some,
            Option.some.injEq] at taken
          rcases taken with ⟨_, rfl⟩
          rfl

theorem answered_set {queries : List DnsQuery} {member : Nat}
    {query next : DnsQuery} {event : DnsEvent}
    (answered : ∀ query ∈ queries, asking query = false)
    (found : queries[member]? = some query)
    (taken : query.step event = some next) :
    ∀ other ∈ queries.set member next, asking other = false := by
  intro other present
  rcases List.mem_or_eq_of_mem_set present with before | rfl
  · exact answered other before
  · exact asking_of_step taken
      (answered query (List.mem_of_getElem? found))

theorem tableWinds_of_own {table next : ChannelTable} {event : TableEvent}
    (winds : TableWinds table) (own : ownTableEvent event = true)
    (taken : table.step .server event = some next) : TableWinds next := by
  have moved := TableMoves.of_step taken
  cases event with
  | conn member inner => exact winds.step moved
  | admitted member bytes =>
      cases moved with
      | admitted waiting present taken =>
          rw [winds.free] at waiting
          cases waiting
  | dropped member bytes =>
      cases moved with
      | dropped waiting present gone =>
          rw [winds.free] at waiting
          cases waiting
  | opened | data | closed => cases own

theorem udpWinds_of_own {table next : UdpTable} {event : UdpEvent}
    (winds : UdpWinds table) (own : ownUdpEvent event = true)
    (taken : table.step event = some next) : UdpWinds next := by
  have moved := UdpMoves.of_step taken
  cases event with
  | flow member inner => exact winds.step moved
  | admitted member datagram =>
      cases moved with
      | admitted waiting present =>
          rw [winds.free] at waiting
          cases waiting
  | dropped member datagram =>
      cases moved with
      | dropped waiting =>
          rw [winds.free] at waiting
          cases waiting
  | opened | data | closed => cases own

theorem Server.reading_of_idle {server : Server}
    (idle : server.idle = true) : server.main = .reading := by
  simp only [Server.idle, Bool.and_eq_true, decide_eq_true_eq] at idle
  exact idle.1.1

theorem ServerWinds.step {server next : Server} {action : ServerAction}
    (winds : ServerWinds server) (stopped : server.main = .stopped)
    (moved : ServerMoves server action next) : ServerWinds next := by
  cases moved with
  | recv idle dispatched =>
      rw [Server.reading_of_idle idle] at stopped
      cases stopped
  | stop idle =>
      rw [Server.reading_of_idle idle] at stopped
      cases stopped
  | header main | headerFailed main | replySent main queued
  | replyRefused main refused | bound main taken | bindFailed main
  | hosts main =>
      rw [stopped] at main
      cases main
  | connSent queued taken =>
      exact ⟨winds.tcp.step (TableMoves.of_step taken), winds.dns, winds.udp⟩
  | connRefused refused taken =>
      exact ⟨winds.tcp.step (TableMoves.of_step taken), winds.dns, winds.udp⟩
  | dnsSent queued found taken =>
      exact ⟨winds.tcp, answered_set winds.dns found taken, winds.udp⟩
  | dnsRefused refused found taken =>
      exact ⟨winds.tcp, answered_set winds.dns found taken, winds.udp⟩
  | dns own found taken =>
      exact ⟨winds.tcp, answered_set winds.dns found taken, winds.udp⟩
  | udpSent queued taken =>
      exact ⟨winds.tcp, winds.dns, winds.udp.step (UdpMoves.of_step taken)⟩
  | udpRefused refused taken =>
      exact ⟨winds.tcp, winds.dns, winds.udp.step (UdpMoves.of_step taken)⟩
  | tcp own taken =>
      exact ⟨tableWinds_of_own winds.tcp own taken, winds.dns, winds.udp⟩
  | udp own taken =>
      exact ⟨winds.tcp, winds.dns, udpWinds_of_own winds.udp own taken⟩
  | writer own senders taken => exact ⟨winds.tcp, winds.dns, winds.udp⟩
  | exited main ended => exact ⟨winds.tcp, winds.dns, winds.udp⟩

/-- The writer task is gone, or every other task comes to its end. -/
def Ending (server : Server) : Prop :=
  server.out.writer.inLoop = false ∨ ServerWinds server

theorem ended_of_moves {out next : Outbound} {event : OutEvent}
    (moved : OutMoves out event next) (ended : out.writer.inLoop = false) :
    next.writer.inLoop = false := by
  cases moved with
  | enqueued running room =>
      rw [running] at ended
      cases ended
  | refused broken => exact ended
  | write busy nonempty =>
      rw [busy] at ended
      cases ended
  | take idle waiting fits =>
      rw [idle] at ended
      cases ended
  | takeLong | writeFailed | closed => rfl

theorem Ending.step {server next : Server} {action : ServerAction}
    (ending : Ending server) (stopped : server.main = .stopped)
    (moved : ServerMoves server action next) : Ending next := by
  rcases ending with ended | winds
  · left
    have projected := moved.projects_out
    rcases projected.kept_or_step with ⟨_, same⟩ | ⟨event, _, stepped⟩
    · rw [same]
      exact ended
    · exact ended_of_moves (OutMoves.of_step stepped) ended
  · exact .inr (winds.step stopped moved)

/-! ## What the writer has written at its end -/

/-- What has made the writer task end. -/
structure WriterEnd (events : List OutEvent) (out : Outbound) : Prop where
  broken : out.writer = .broken → .writeFailed ∈ events ∨
    ∃ frame ∈ enqueuedFrames events, ¬ Fits frame
  finished : out.writer = .finished →
    framesBytes (enqueuedFrames events) = writtenBytes events

theorem WriterEnd.of_inLoop {events : List OutEvent} {out : Outbound}
    (inLoop : out.writer.inLoop = true) : WriterEnd events out := by
  constructor
  · intro broken
    rw [broken] at inLoop
    cases inLoop
  · intro finished
    rw [finished] at inLoop
    cases inLoop

theorem WriterEnd.step {events : List OutEvent} {event : OutEvent}
    {out next : Outbound} (progress : OutInv events out)
    (ends : WriterEnd events out) (moved : OutMoves out event next) :
    WriterEnd (events ++ [event]) next := by
  have running (idle : out.writer = .receiving) :=
    progress.running (by rw [idle]; rfl)
  cases moved with
  | enqueued inLoop room => exact .of_inLoop inLoop
  | take idle waiting fits => exact .of_inLoop rfl
  | write busy nonempty => exact .of_inLoop (WriterTask.inLoop_after _)
  | @refused frame stands =>
      constructor
      · intro _
        have same : enqueuedFrames (events ++ [.refused frame]) =
            enqueuedFrames events := by
          simp [enqueuedFrames_snoc, OutEvent.enqueued?]
        rw [same]
        exact (ends.broken stands).imp_left (List.mem_append_left _)
      · intro finished
        rw [stands] at finished
        cases finished
  | @takeLong frame queue idle waiting long =>
      rcases running idle with ⟨accepted, _, queued, _⟩
      constructor
      · intro _
        refine .inr ⟨frame, ?_, Nat.not_le.mpr long⟩
        simp [enqueuedFrames_snoc, queued, waiting]
      · intro finished
        cases finished
  | writeFailed busy =>
      constructor
      · exact fun _ => .inl (by simp)
      · intro finished
        cases finished
  | closed idle empty =>
      rcases running idle with ⟨accepted, _, queued, bytes⟩
      constructor
      · intro broken
        cases broken
      · intro _
        rw [empty, List.append_nil] at queued
        rw [enqueuedFrames_snoc, writtenBytes_snoc, queued]
        simpa [idle, WriterTask.rest, OutEvent.enqueued?, OutEvent.written]
          using bytes

theorem writerEnd_of_run {events : List OutEvent} {out : Outbound}
    (run : Run Outbound.step .empty events out) : WriterEnd events out :=
  run.invariant (motive := WriterEnd) (.of_inLoop rfl)
    (fun _ _ _ _ earlier ends taken =>
      ends.step (OutInv.of_run earlier) (OutMoves.of_step taken))

/-! ## Runs of the server -/

theorem writeFailed_of_out {trace : List ServerAction}
    (failed : .writeFailed ∈ outEvents trace) :
    .writer .writeFailed ∈ trace := by
  rcases List.mem_filterMap.mp failed with ⟨action, present, concerned⟩
  cases action with
  | writer event =>
      rcases Option.some.inj concerned with rfl
      exact present
  | _ => cases concerned

/-- What makes the frame loop end. -/
def ServerAction.endsLoop : ServerAction → Bool
  | .stop => true
  | .recv frame => decide (frame.command = .exit)
  | _ => false

/--
The loop ends only when no other task waits for the network, and no frame is
longer than `write_frame` takes.
-/
def StopsAlone (server : Server) (action : ServerAction) : Prop :=
  (action.endsLoop = true → Ending server) ∧
    ∀ source frame, action = .enqueued source frame → Fits frame

theorem exit_of_mainCommand {frame : Frame}
    (asked : mainCommand frame = some .stopped) : frame.command = .exit := by
  unfold mainCommand at asked
  cases command : frame.command <;> rw [command] at asked
  case tcpConnect =>
    dsimp only at asked
    split at asked <;> cases asked
  all_goals cases asked

/-- How the main task comes to the end of its loop. -/
theorem ServerMoves.stopped_source {server next : Server}
    {action : ServerAction} (moved : ServerMoves server action next)
    (stopped : next.main = .stopped) :
    server.main = .stopped ∨ action.endsLoop = true ∧
      next = { server with main := .stopped } := by
  cases moved with
  | recv idle dispatched =>
      have reading := Server.reading_of_idle idle
      cases dispatched with
      | @main task asked noTcp noUdp =>
          have task : _ = MainTask.stopped := stopped
          subst task
          refine .inr ⟨?_, rfl⟩
          simp [ServerAction.endsLoop, exit_of_mainCommand asked]
      | _ => exact .inl stopped
  | stop idle => exact .inr ⟨rfl, rfl⟩
  | header main nonempty =>
      dsimp only at stopped
      split at stopped <;> cases stopped
  | @replySent reply more out main queued =>
      cases more <;> cases stopped
  | @replyRefused reply more out main refused =>
      cases more <;> cases stopped
  | headerFailed main | bound main taken | bindFailed main | hosts main
  | exited main ended => cases stopped
  | _ => exact .inl stopped

section Runs

variable {resolvers : List SocketAddr} {trace : List ServerAction}
  {server : Server}

theorem ending_of_meets
    (run : Run Server.step (.start resolvers) trace server)
    (meets : Meets Server.step (.start resolvers)
      (fun _ server action => StopsAlone server action) trace) :
    server.main = .stopped → Ending server := by
  refine run.invariant_of_meets
    (motive := fun _ server => server.main = .stopped → Ending server)
    (fun never => by cases never) ?_ meets
  intro trace server action next _ ending alone taken stopped
  have moved := ServerMoves.of_step taken
  rcases moved.stopped_source stopped with before | ⟨ends, rfl⟩
  · exact (ending before).step before moved
  · exact (alone.1 ends).imp_right fun winds =>
      ⟨winds.tcp, winds.dns, winds.udp⟩

/-- The main task returns at the start, or once the writer task is gone. -/
theorem ended_of_exited
    (run : Run Server.step (.start resolvers) trace server) :
    server.main = .exited → .headerFailed ∈ trace ∨
      server.out.writer.inLoop = false := by
  refine run.invariant
    (motive := fun trace server => server.main = .exited →
      .headerFailed ∈ trace ∨ server.out.writer.inLoop = false)
    (fun never => by cases never) ?_
  intro trace server action next _ _ taken exited
  have running : server.main ≠ .exited := by
    intro already
    simp [Server.step, already] at taken
  cases ServerMoves.of_step taken with
  | headerFailed main => exact .inl (by simp)
  | exited main ended => exact .inr ended
  | header main nonempty =>
      dsimp only at exited
      split at exited <;> cases exited
  | recv idle dispatched =>
      cases dispatched with
      | main asked noTcp noUdp =>
          rcases exited with rfl
          rw [mainCommand] at asked
          split at asked
          all_goals try cases asked
          split at asked <;> cases asked
      | _ => exact (running exited).elim
  | @replySent reply more out main queued => cases more <;> cases exited
  | @replyRefused reply more out main refused => cases more <;> cases exited
  | stop idle | bound main taken | bindFailed main | hosts main =>
      cases exited
  | _ => exact (running exited).elim

theorem fits_of_meets
    (run : Run Server.step (.start resolvers) trace server)
    (meets : Meets Server.step (.start resolvers)
      (fun _ server action => StopsAlone server action) trace) :
    ∀ frame ∈ enqueuedFrames (outEvents trace), Fits frame := by
  intro frame member
  rcases List.mem_filterMap.mp member with ⟨event, within, enqueued⟩
  rcases List.mem_filterMap.mp within with ⟨action, present, concerned⟩
  rcases List.append_of_mem present with ⟨before, after, rfl⟩
  rcases run.step_at with ⟨state, next, reached, taken, _⟩
  have alone := (meets before action after state rfl reached).2
  cases action with
  | enqueued source frame' =>
      rcases Option.some.inj concerned with rfl
      rcases Option.some.inj enqueued with rfl
      exact alone source _ rfl
  | refused source frame' =>
      rcases Option.some.inj concerned with rfl
      cases enqueued
  | writer event' =>
      rcases Option.some.inj concerned with rfl
      cases ServerMoves.of_step taken with
      | writer own senders moved =>
          rw [ownOutEvent_enqueued own] at enqueued
          cases enqueued
  | _ => cases concerned

/-- What holds of the end of the server in every state. -/
structure ShutsDown (trace : List ServerAction) (server : Server) : Prop where
  /-- no state without a step is one in which `run` has not returned -/
  returns : server.main = .stopped ∨ server.main = .exited →
    Quiescent server → server.main = .exited
  /-- unless standard output fails, all frames are written before -/
  flushes : server.main = .exited → .headerFailed ∉ trace →
    .writer .writeFailed ∉ trace →
      writtenBytes (outEvents trace) =
        framesBytes (enqueuedFrames (outEvents trace))

theorem shutsDown_of_meets
    (run : Run Server.step (.start resolvers) trace server)
    (meets : Meets Server.step (.start resolvers)
      (fun _ server action => StopsAlone server action) trace) :
    ShutsDown trace server := by
  constructor
  · rintro (stopped | exited) quiescent
    · have holds := holdsSome_of_run (run_out run)
      rcases ending_of_meets run meets stopped with ended | winds
      · cases quiescent .exited _ (step_exited stopped ended)
      · rcases winds.moves stopped (writesSome_of_run (run_tcp run)) holds
          with ⟨action, next, inside, taken⟩
        rw [quiescent action next taken] at inside
        cases inside
    · exact exited
  · intro exited greeted stands
    have ended := (ended_of_exited run exited).resolve_left greeted
    have ends := writerEnd_of_run (run_out run)
    cases writer : server.out.writer with
    | receiving | writing =>
        rw [writer] at ended
        cases ended
    | finished => exact (ends.finished writer).symm
    | broken =>
        rcases ends.broken writer with failed | ⟨frame, member, long⟩
        · exact (stands (writeFailed_of_out failed)).elim
        · exact (long (fits_of_meets run meets frame member)).elim

end Runs

/-! ## Idle connections -/

/-- The target says nothing, and the client has not closed its half. -/
def ConnIdle (table : ChannelTable) (member : Nat) (conn : Conn) : Prop :=
  conn.phase = .streaming .reading .receiving ∧ conn.inbound = [] ∧
    table.owner conn.channel = some member

/-- The loop is left with nothing but idle connections. -/
structure OnlyIdle (server : Server) : Prop where
  stopped : server.main = .stopped
  out : server.out = .empty
  held : server.tcp.conns ≠ []
  free : server.tcp.delivering = none
  idle : ∀ member conn, server.tcp.conns[member]? = some conn →
    ConnIdle server.tcp member conn
  dns : server.dns = []
  udp : server.udp = .empty

theorem outside_of_idle {table next : ChannelTable} {event : TableEvent}
    (free : table.delivering = none)
    (idle : ∀ member conn, table.conns[member]? = some conn →
      ConnIdle table member conn)
    (own : ownTableEvent event = true)
    (taken : table.step .server event = some next) :
    (ServerAction.tcp event).outside = true := by
  cases TableMoves.of_step taken with
  | opened | data | closed => cases own
  | admitted waiting present taken =>
      rw [free] at waiting
      cases waiting
  | dropped waiting present gone =>
      rw [free] at waiting
      cases waiting
  | @conn member inner conn after present permitted moved =>
      rcases idle member conn present with ⟨phase, queue, owned⟩
      cases inner with
      | connected | connectFailed | read | writeError => rfl
      | sent | sendFailed => cases own
      | deliver => cases permitted
      | queueClosed => simp [ChannelTable.permits, owned] at permitted
      | take => simp [Conn.step, phase, queue] at moved
      | write | shutdown | joined | removed =>
          simp [Conn.step, phase] at moved

theorem OnlyIdle.quiescent {server : Server} (only : OnlyIdle server) :
    Quiescent server := by
  have unsent (member : Nat) (frame : Frame) (tcp : ChannelTable) :
      server.tcp.step .server (.conn member (.sent frame)) ≠ some tcp := by
    intro taken
    cases TableMoves.of_step taken with
    | @conn member inner conn after present permitted moved =>
        rcases only.idle member conn present with ⟨phase, _⟩
        simp [Conn.step, Conn.pendingFrame, phase] at moved
  intro action next taken
  cases ServerMoves.of_step taken with
  | header main nonempty | replySent main queued | replyRefused main refused
  | bound main taken | bindFailed main | hosts main =>
      rw [only.stopped] at main
      cases main
  | headerFailed | recv | stop | dns => rfl
  | connSent queued moved => exact (unsent _ _ _ moved).elim
  | connRefused refused moved =>
      rw [only.out] at refused
      cases refused
  | dnsSent queued found moved => simp [only.dns] at found
  | dnsRefused refused found moved => simp [only.dns] at found
  | udpSent queued moved =>
      simp [only.udp, UdpTable.step, UdpTable.empty] at moved
  | udpRefused refused moved =>
      simp [only.udp, UdpTable.step, UdpTable.empty] at moved
  | tcp own moved => exact outside_of_idle only.free only.idle own moved
  | @udp event udp own moved =>
      cases event with
      | opened | data | closed => cases own
      | admitted | dropped | flow =>
          simp [only.udp, UdpTable.step, UdpTable.empty] at moved
  | @writer event out own senders moved =>
      rw [only.out] at moved
      cases event with
      | enqueued | refused => cases own
      | take | write | writeFailed => cases moved
      | closed =>
          rcases List.exists_mem_of_ne_nil _ only.held with ⟨conn, member⟩
          rcases List.mem_iff_getElem?.mp member with ⟨place, present⟩
          have gone := senders rfl
          simp only [Server.sendersGone, Bool.and_eq_true, List.all_eq_true,
            decide_eq_true_eq] at gone
          have finished := gone.1.1.2 conn member
          rw [(only.idle place conn present).1] at finished
          cases finished
  | exited main ended =>
      rw [only.out] at ended
      cases ended

/-- The server with one connection and nothing to write. -/
def Server.serving (main : MainTask) (owner : UInt16 → Option Nat)
    (reader : ReadTask) : Server :=
  { Server.start [] with
    main := main
    tcp :=
      { owner := owner
        conns :=
          [{ Conn.fresh .server 1 someTarget with
            phase := .streaming reader .receiving }]
        delivering := none } }

/-- A connection is open and idle, and the client goes away. -/
def leavingIdle : List ServerAction :=
  greeting ++ [.recv (connectFrame 1 someTarget)] ++ openingWritten ++
    [.tcp (.conn 0 .connected), .stop]

theorem idle_connection_holds_server :
    ∃ server, Run Server.step (.start []) leavingIdle server ∧
      Quiescent server ∧ ¬ ShutsDown leavingIdle server := by
  have run : Run Server.step (.start []) leavingIdle
      (.serving .stopped (Function.update (fun _ => none) 1 (some 0))
        .reading) := by
    simpa only [leavingIdle, List.append_assoc] using
      run_connecting.trans (run_of_execute (by rfl))
  have quiescent : Quiescent (.serving .stopped
      (Function.update (fun _ => none) 1 (some 0)) .reading) := by
    apply OnlyIdle.quiescent
    refine ⟨rfl, rfl, by simp [Server.serving], rfl, ?_, rfl, rfl⟩
    intro member conn present
    cases member with
    | zero =>
        rcases Option.some.inj present with rfl
        exact ⟨rfl, rfl, rfl⟩
    | succ member => cases present
  refine ⟨_, run, quiescent, fun shuts => ?_⟩
  cases shuts.returns (.inl rfl) quiescent

/-- An action that meets the condition in every state. -/
def plainAction : ServerAction → Bool
  | .enqueued _ frame => Fits frame
  | action => !action.endsLoop

theorem stopsAlone_of_plain {server : Server} {action : ServerAction}
    (plain : plainAction action = true) : StopsAlone server action := by
  constructor
  · intro ends
    cases action with
    | recv | stop => simp [plainAction, ends] at plain
    | _ => cases ends
  · rintro source frame rfl
    simpa [plainAction] using plain

/-- The connection before the client goes away. -/
def closingBoth : List ServerAction :=
  greeting ++ [.recv (connectFrame 1 someTarget)] ++ openingWritten ++
    [.tcp (.conn 0 .connected), .recv (eofFrame 1),
      .tcp (.conn 0 (.read .eof))]

/-- The connection ends, the last frame is written, and the server returns. -/
def windingDown : List ServerAction :=
  [.tcp (.conn 0 .queueClosed), .tcp (.conn 0 .shutdown),
    .enqueued (.conn 0) (eofFrame 1), .tcp (.conn 0 .joined),
    .tcp (.conn 0 .removed), .writer .take,
    .writer (.write (frameBytes (eofFrame 1))), .writer .closed, .exited]

/-- The client has closed its half, and the target is read to its end. -/
def Server.closing (main : MainTask) : Server :=
  .serving main
    (Function.update (Function.update (fun _ => none) 1 (some 0)) 1 none)
    .sendingEof

theorem run_closingBoth :
    Run Server.step (.start []) closingBoth (.closing .reading) := by
  simpa only [closingBoth, List.append_assoc] using
    run_connecting.trans (run_of_execute (by rfl))

theorem winds_closing : ServerWinds (.closing .reading) := by
  refine ⟨⟨rfl, ?_⟩, ?_, rfl, ?_⟩
  · intro member conn present
    cases member with
    | zero =>
        rcases Option.some.inj present with rfl
        exact ⟨rfl, .inr (.inr (.inl fun owned => by cases owned))⟩
    | succ member => cases present
  · intro query member
    cases member
  · intro flow member
    cases member

/-- A closed connection does not hold the server, and its end is written. -/
theorem shutsDown_after_close :
    ∃ server, Run Server.step (.start [])
        (closingBoth ++ [.stop] ++ windingDown) server ∧
      server.main = .exited ∧
        ShutsDown (closingBoth ++ [.stop] ++ windingDown) server := by
  have plain (trace : List ServerAction)
      (all : trace.all plainAction = true) : ∀ action ∈ trace,
        ∀ (_ : List ServerAction) (state : Server),
          StopsAlone state action :=
    fun action member _ _ =>
      stopsAlone_of_plain (List.all_eq_true.mp all action member)
  have before : Meets Server.step (.start [])
      (fun _ server action => StopsAlone server action) closingBoth :=
    .of_forall (plain closingBoth (by decide))
  have ends : StopsAlone (.closing .reading) .stop :=
    ⟨fun _ => .inr winds_closing, by simp⟩
  have meets := (before.extend run_closingBoth ends).append
    (plain windingDown (by decide))
  rcases run_of_execute_any Server.step (.closing .stopped) windingDown
    (fun server => decide (server.main = .exited)) (by decide) with
    ⟨server, rest, exited⟩
  have stops : Server.step (.closing .reading) .stop =
      some (.closing .stopped) := rfl
  have run := (run_closingBoth.extend stops).trans rest
  exact ⟨server, run, of_decide_eq_true exited,
    shutsDown_of_meets run meets⟩

end KubectlSshuttle.Rushtle
