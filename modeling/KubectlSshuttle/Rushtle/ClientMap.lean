import KubectlSshuttle.Rushtle.ChannelIds
import KubectlSshuttle.Rushtle.HostSignals

/-!
# The end of the tunnel at the client

An entry of the client's map belongs to a connection that is still served, as
long as the tunnel stands: the demux task reads frames and the writer task
writes them.  Nothing happens when one of the two ends.  The accept loops go
on to register connections, a connection that cannot announce itself returns
without removing its entry, and the redirect stays in place.

The process is the client's tasks together with the commands that install and
remove the redirect; the accept loops and the DNS listener start after both
the installation and the signal task.
-/

namespace KubectlSshuttle.Rushtle

open KubectlSshuttle.Lib.RustText
open KubectlSshuttle.Lib.Transition
open KubectlSshuttle.Rushtle.Ssnet
open KubectlSshuttle.Rushtle.Connection
open KubectlSshuttle.Rushtle.Channels
open KubectlSshuttle.Rushtle.OutQueue
open KubectlSshuttle.Rushtle.Firewall

/-! ## The process -/

/-- The tunnel and the redirect of one process. -/
structure Process where
  client : Client
  host : Host

/-- A step of either. -/
inductive ProcessAction where
  | tasks (action : ClientAction)
  | redirect (action : HostAction)
deriving DecidableEq

/-- The redirect is about to be installed. -/
def Process.start (dnsEnabled : Bool) (redirect : Redirect)
    (tables : NatTables) : Process where
  client := .start dnsEnabled
  host := .start redirect tables

/-- The main task has come to its accept loop. -/
def servesNow : MainStage → Bool
  | .serving => true
  | .installing _ | .undoing _ | .installed => false

/-- The steps of the accept loops and the DNS listener on their own sockets. -/
def ClientAction.serves : ClientAction → Bool
  | .accepted _ _ _ | .queried _ _ _ => true
  | _ => false

/-- The tunnel serves only while its process does. -/
def Process.step (redirect : Redirect) (process : Process) :
    ProcessAction → Option Process
  | .tasks action =>
      if process.host.ended ∨ action.serves ∧ ¬ servesNow process.host.main
      then none
      else
        (process.client.step action).map fun client =>
          { process with client := client }
  | .redirect action =>
      if process.client.link = .up then
        (process.host.step redirect action).map fun host =>
          { process with host := host }
      else none

/-- The step of the tunnel, if it is one. -/
def ProcessAction.tasks? : ProcessAction → Option ClientAction
  | .tasks action => some action
  | .redirect _ => none

theorem Process.projects_client {redirect : Redirect}
    {process next : Process} {action : ProcessAction}
    (taken : process.step redirect action = some next) :
    Projects Client.step action.tasks? process.client next.client := by
  cases action with
  | tasks action =>
      simp only [Process.step, Option.ite_none_left_eq_some] at taken
      rcases Option.map_eq_some_iff.mp taken.2 with ⟨client, moved, rfl⟩
      exact moved
  | redirect action =>
      simp only [Process.step, Option.ite_none_right_eq_some] at taken
      rcases Option.map_eq_some_iff.mp taken.2 with ⟨host, _, rfl⟩
      rfl

/-! ## Entries of running connections -/

/-- Every entry of the map belongs to a running connection. -/
def EntriesRunning (table : ChannelTable) : Prop :=
  ∀ channel member, table.owner channel = some member →
    ∃ conn, table.conns[member]? = some conn ∧ running conn = true

/-- How `handle_conn` returns. -/
theorem running_kept {side : Side} {conn next : Conn} {event : ConnEvent}
    (moved : Moves side conn event next) (going : running conn = true) :
    running next = true ∨ event = .removed ∨ event = .sendFailed := by
  cases moved with
  | removed phase => exact .inr (.inl rfl)
  | announceFailed phase => exact .inr (.inr rfl)
  | deliver alive room => exact .inl going
  | connected phase | connectFailed phase | announced phase
  | stopped phase | sentData phase | sentEof phase | stopFailed phase
  | dataFailed phase | eofFailed phase | readBytes phase nonempty small
  | readEof phase | readError phase | take phase queue
  | queueClosed phase queue | write phase nonempty | writeError phase
  | shutdown phase | joined phase => exact .inl (by simp [running])

/-- As long as no `send` fails, entries go with their connections. -/
theorem EntriesRunning.step {side : Side} {table next : ChannelTable}
    {event : TableEvent} (valid : table.Valid)
    (entries : EntriesRunning table)
    (moved : TableMoves side table event next)
    (sends : ∀ member, event ≠ .conn member .sendFailed) :
    EntriesRunning next := by
  intro channel member held
  rcases moved.owner_source held with before | ⟨target, rfl, rfl⟩
  · rcases entries channel member before with ⟨conn, present, going⟩
    rcases moved.conn_of_present present with ⟨conn', present', inside⟩
    refine ⟨conn', present', ?_⟩
    cases concerned : event.concerns member with
    | none =>
        rw [concerned] at inside
        obtain rfl : conn' = conn := inside
        exact going
    | some inner =>
        rw [concerned] at inside
        rcases running_kept (Moves.of_step inside) going with
          still | removed | failed
        · exact still
        · subst removed
          -- the end of a connection takes its channel's entry away
          cases moved with
          | @conn other event found next' there permitted taken =>
              obtain ⟨rfl, rfl⟩ :
                  other = member ∧ event = ConnEvent.removed := by
                simpa [TableEvent.concerns] using concerned
              rcases Option.some.inj (there.symm.trans present) with rfl
              rcases valid.owned _ _ before with ⟨owned, same, onChannel⟩
              rcases Option.some.inj (same.symm.trans present) with rfl
              have channelKept := (Moves.of_step taken).frame.1
              simp [ChannelTable.update, channelKept, onChannel] at held
          | admitted => simp [TableEvent.concerns] at concerned
          | opened | data | closed | dropped => cases concerned
        · subst failed
          cases moved with
          | @conn other event found next' there permitted taken =>
              obtain ⟨rfl, rfl⟩ :
                  other = member ∧ event = ConnEvent.sendFailed := by
                simpa [TableEvent.concerns] using concerned
              exact (sends other rfl).elim
          | admitted => simp [TableEvent.concerns] at concerned
          | opened | data | closed | dropped => cases concerned
  · cases moved with
    | opened free =>
        refine ⟨_, List.getElem?_concat_length, ?_⟩
        cases side <;> rfl

/-! ## The tunnel -/

/-- The demux task or the writer task has left its loop. -/
def Client.tunnelOver (client : Client) : Bool :=
  decide (client.demux = .ended) || !client.out.writer.inLoop

/-- The step makes neither the demux task nor the writer task end. -/
def Client.keepsTunnel (client : Client) : ClientAction → Bool
  | .demuxEnded => false
  | .writer .writeFailed => false
  -- `write_frame` refuses a frame that is too long
  | .writer .take => client.out.queue.head?.all fun frame => Fits frame
  | _ => true

theorem inLoop_of_moves {out next : Outbound} {event : OutEvent}
    (moved : OutMoves out event next) (going : out.writer.inLoop = true)
    (open' : event ≠ .closed) (writes : event ≠ .writeFailed)
    (fits : event = .take → ∀ frame ∈ out.queue.head?, Fits frame) :
    next.writer.inLoop = true := by
  cases moved with
  | enqueued running room => exact going
  | refused broken => exact going
  | take idle waiting fit => rfl
  | @takeLong frame queue idle waiting long =>
      have fit := fits rfl frame (by simp [waiting])
      exact absurd fit (Nat.not_le.mpr long)
  | write busy nonempty => exact WriterTask.inLoop_after _
  | writeFailed busy => exact (writes rfl).elim
  | closed idle empty => exact (open' rfl).elim

theorem eq_writer_of_out {action : ClientAction} {event : OutEvent}
    (concerned : action.out? = some event)
    (own : ownOutEvent event = true) : action = .writer event := by
  cases action with
  | writer event => rw [Option.some.inj concerned]
  | enqueued | refused =>
      rcases Option.some.inj concerned with rfl
      cases own
  | _ => cases concerned

theorem channelCommand_ne_conn {frame : Frame} {member : Nat}
    {event : ConnEvent} :
    channelCommand frame ≠ some (.conn member event) := by
  unfold channelCommand
  split <;> simp

theorem tunnel_kept {client next : Client} {action : ClientAction}
    (taken : client.step action = some next)
    (stands : client.tunnelOver = false)
    (keeps : client.keepsTunnel action = true) :
    next.tunnelOver = false := by
  simp only [Client.tunnelOver, Bool.or_eq_false_iff, decide_eq_false_iff_not,
    Bool.not_eq_false'] at stands ⊢
  have moved := ClientMoves.of_step taken
  constructor
  · cases moved with
    | link down taken =>
        rcases Client.stepLink_spec taken with ⟨link, rfl⟩
        exact stands.1
    | recv up idle free dispatched =>
        rw [Client.step, if_pos up, Client.stepTask,
          if_pos ⟨idle, free⟩] at taken
        rcases Client.demux_of_dispatch taken with
          same | ⟨_, pong⟩ | ⟨peer, _, _, _, reply⟩
        · rw [same]
          exact stands.1
        · simp [pong]
        · simp [reply]
    | demuxEnded up idle => cases keeps
    | replied up busy | pongSent up busy queued | pongRefused up refused =>
        simp
    | _ => exact stands.1
  · have projected := moved.projects_out
    rcases projected.kept_or_step with
      ⟨_, same⟩ | ⟨event, concerned, stepped⟩
    · rw [same]
      exact stands.2
    · refine inLoop_of_moves (OutMoves.of_step stepped) stands.2 ?_ ?_ ?_
      · rintro rfl
        rcases eq_writer_of_out concerned rfl with rfl
        cases moved with
        | link down taken => cases taken
        | writer up own unclosed taken => exact unclosed rfl
      · rintro rfl
        rcases eq_writer_of_out concerned rfl with rfl
        cases keeps
      · rintro rfl frame first
        rcases eq_writer_of_out concerned rfl with rfl
        rw [Client.keepsTunnel, Option.all_eq_true] at keeps
        simpa using keeps frame first

/-- While the tunnel stands, every `send` succeeds. -/
theorem sends_of_stands {client next : Client} {action : ClientAction}
    (taken : client.step action = some next)
    (stands : client.tunnelOver = false) (member : Nat) :
    action.channels? ≠ some (.conn member .sendFailed) := by
  intro failed
  simp only [Client.tunnelOver, Bool.or_eq_false_iff,
    Bool.not_eq_false'] at stands
  cases ClientMoves.of_step taken with
  | connRefused up refused taken =>
      cases OutMoves.of_step refused with
      | refused broken =>
          rw [broken] at stands
          cases stands.2
  | link down taken =>
      cases LinkMoves.of_stepLink taken <;> cases failed
  | recv up idle free dispatched =>
      exact channelCommand_ne_conn failed
  | channels up own taken =>
      rcases Option.some.inj failed with rfl
      cases own
  | _ => cases failed

/-! ## Runs of the process -/

/-- What holds in every state of a process, and at every step. -/
structure Served (redirect : Redirect) (start : Process)
    (trace : List ProcessAction) (process : Process) : Prop where
  /-- every entry belongs to a connection whose `handle_conn` runs -/
  running : EntriesRunning process.client.channels
  emptied : process.client.tunnelOver = true →
    ∀ channel, process.client.channels.owner channel = none
  withdrawn : redirect.manages = true → process.client.tunnelOver = true →
    redirect.Gone process.host.tables
  unregistered : Meets (Process.step redirect) start
    (fun _ process action => process.client.tunnelOver = true →
      ∀ family channel target,
        action ≠ .tasks (.registered family channel target)) trace

/-- Neither the demux task nor the writer task ends. -/
def Process.keepsTunnel (process : Process) (action : ProcessAction) :
    Bool :=
  action.tasks?.all process.client.keepsTunnel

section Runs

variable {dnsEnabled : Bool} {redirect : Redirect} {tables : NatTables}
  {trace : List ProcessAction} {process : Process}

theorem Process.run_client
    (run : Run (Process.step redirect) (.start dnsEnabled redirect tables)
      trace process) :
    Run Client.step (.start dnsEnabled)
      (trace.filterMap ProcessAction.tasks?) process.client :=
  run.project Process.client ProcessAction.tasks?
    (fun _ _ _ taken => Process.projects_client taken)

/-- The tunnel stands, and the map holds running connections. -/
structure Standing (client : Client) : Prop where
  tunnel : client.tunnelOver = false
  entries : EntriesRunning client.channels

theorem Standing.step {client next : Client} {action : ClientAction}
    (valid : client.channels.Valid) (standing : Standing client)
    (keeps : client.keepsTunnel action = true)
    (taken : client.step action = some next) : Standing next := by
  refine ⟨tunnel_kept taken standing.tunnel keeps, ?_⟩
  have projected := (ClientMoves.of_step taken).projects_channels
  rcases projected.kept_or_step with
    ⟨_, same⟩ | ⟨event, concerned, stepped⟩
  · rw [same]
    exact standing.entries
  · refine standing.entries.step valid (TableMoves.of_step stepped) ?_
    rintro member rfl
    exact sends_of_stands taken standing.tunnel member concerned

theorem standing_of_meets
    (run : Run (Process.step redirect) (.start dnsEnabled redirect tables)
      trace process)
    (meets : Meets (Process.step redirect)
      (.start dnsEnabled redirect tables)
      (fun _ process action => process.keepsTunnel action = true) trace) :
    Standing process.client := by
  refine run.invariant_of_meets
    (motive := fun _ process => Standing process.client) ?_ ?_ meets
  · refine ⟨rfl, ?_⟩
    intro channel member held
    cases held
  · intro trace process action next earlier standing keeps taken
    have valid := ChannelTable.Valid.of_run
      (run_channels (Process.run_client earlier))
    have moved := Process.projects_client taken
    rw [Process.keepsTunnel] at keeps
    rcases moved.kept_or_step with ⟨_, same⟩ | ⟨own, concerned, stepped⟩
    · rw [same]
      exact standing
    · rw [concerned] at keeps
      exact standing.step valid keeps stepped

/--
As long as neither the demux task nor the writer task ends, the map holds only
connections that are served.
-/
theorem served_of_meets
    (run : Run (Process.step redirect) (.start dnsEnabled redirect tables)
      trace process)
    (meets : Meets (Process.step redirect)
      (.start dnsEnabled redirect tables)
      (fun _ process action => process.keepsTunnel action = true) trace) :
    Served redirect (.start dnsEnabled redirect tables) trace process := by
  have standing := standing_of_meets run meets
  refine ⟨standing.entries, ?_, ?_, ?_⟩
  · intro ended
    rw [standing.tunnel] at ended
    cases ended
  · intro _ ended
    rw [standing.tunnel] at ended
    cases ended
  · rintro before action after earlier rfl reached ended
    rw [(standing_of_meets reached meets.take).tunnel] at ended
    cases ended

end Runs

/-! ## A tunnel that ends -/

/-- The link is up, the redirect is installed, and a connection announced. -/
def servingOne : List ProcessAction :=
  [.tasks (.synced false)] ++ installs.map .redirect ++ [.redirect .spawn] ++
    [.tasks (.accepted .v4 1 someAddress),
      .tasks (.registered .v4 1 (originalDst someAddress)),
      .tasks (.enqueued (.conn 0)
        (connectFrame 1 (originalDst someAddress))),
      .tasks (.writer .take)]

/-- The connection is served while its frame is being written. -/
theorem served_servingOne :
    ∃ process, Run (Process.step someRedirect)
        (.start true someRedirect freshTables) servingOne process ∧
      Served someRedirect (.start true someRedirect freshTables) servingOne
        process := by
  rcases run_of_execute_any
    (guarded (Process.step someRedirect) Process.keepsTunnel)
    (.start true someRedirect freshTables) servingOne (fun _ => true)
    (by decide) with ⟨process, passed, _⟩
  rcases passed.of_guarded with ⟨run, meets⟩
  exact ⟨process, run, served_of_meets run meets⟩

/--
The write of the first connection's `TCP_CONNECT` fails.  A second connection
is registered, cannot announce itself, and returns.
-/
def losingTunnel : List ProcessAction :=
  servingOne ++
    [.tasks (.writer .writeFailed), .tasks (.accepted .v4 2 someAddress),
      .tasks (.registered .v4 2 (originalDst someAddress)),
      .tasks (.refused (.conn 1)
        (connectFrame 2 (originalDst someAddress)))]

theorem dead_tunnel_keeps_serving :
    ∃ process, Run (Process.step someRedirect)
        (.start true someRedirect freshTables) losingTunnel process ∧
      process.client.channels.owner 2 = some 1 ∧
      process.client.channels.conns[1]?.map Conn.phase = some .abandoned ∧
      process.host.tables.v4.rules outputChain =
        some [.jumpTo someRedirect.chain] ∧
      ¬ Served someRedirect (.start true someRedirect freshTables)
        losingTunnel process := by
  rcases run_of_execute_any (Process.step someRedirect)
    (.start true someRedirect freshTables) losingTunnel
    (fun process =>
      decide (process.client.channels.owner 2 = some 1) &&
      decide (process.client.channels.conns[1]?.map Conn.phase =
        some .abandoned) &&
      decide (process.host.tables.v4.rules outputChain =
        some [.jumpTo someRedirect.chain])) (by decide) with
    ⟨process, run, reached⟩
  simp only [Bool.and_eq_true, decide_eq_true_eq] at reached
  rcases reached with ⟨⟨held, returned⟩, hooked⟩
  refine ⟨process, run, held, returned, hooked, fun served => ?_⟩
  rcases served.running 2 1 held with ⟨conn, present, going⟩
  rw [present, Option.map_some, Option.some.injEq] at returned
  simp [running, returned] at going

end KubectlSshuttle.Rushtle
