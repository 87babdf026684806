import KubectlSshuttle.Lib.Registry
import KubectlSshuttle.Rushtle.ServerRuns

/-!
# Who holds a channel

By the frames and the ends of connections that a run has seen, a channel
belongs to the connection of the latest `TCP_CONNECT` on it, until the channel
is closed or that connection ends.  The map of the server agrees with this as
long as no connection ends while a later one holds its channel: the removal at
the end of a connection does not look whose entry it removes.
-/

namespace KubectlSshuttle.Rushtle

open KubectlSshuttle.Lib.RustText
open KubectlSshuttle.Lib
open KubectlSshuttle.Lib.Transition
open KubectlSshuttle.Rushtle.Ssnet
open KubectlSshuttle.Rushtle.Connection
open KubectlSshuttle.Rushtle.Channels
open KubectlSshuttle.Rushtle.OutQueue

/-! ## The holder of a channel by the history -/

/-- What a step of the table does to its registry. -/
def registryEvent : TableEvent → Option (RegistryEvent UInt16)
  | .opened channel _ => some (.opened channel)
  | .closed channel _ => some (.closed channel)
  | .conn member .removed => some (.ended member)
  | _ => none

/-- Who is registered under which channel, by the history. -/
def registry (trace : List TableEvent) : Registry UInt16 :=
  registered (trace.filterMap registryEvent)

/--
The connection of the latest `TCP_CONNECT` on the channel, unless the channel
was closed or that connection ended since.
-/
def holder (channel : UInt16) (trace : List TableEvent) : Option Nat :=
  (registry trace).owner channel

theorem registry_snoc (trace : List TableEvent) (event : TableEvent) :
    registry (trace ++ [event]) =
      match registryEvent event with
      | none => registry trace
      | some event => (registry trace).step event := by
  cases concerned : registryEvent event with
  | none => simp [registry, concerned]
  | some inner => simp [registry, concerned, registered_snoc]

/-! ## The map agrees with the history -/

/-- A connection ends only while no other connection holds its channel. -/
def EndsAlone (trace : List TableEvent) (table : ChannelTable) :
    TableEvent → Prop
  | .conn member .removed => ∀ conn, table.conns[member]? = some conn →
      ∀ other, holder conn.channel trace = some other → other = member
  | _ => True

/-- The map follows the registry of the run. -/
structure Agrees (trace : List TableEvent) (table : ChannelTable) : Prop where
  count : (registry trace).count = table.conns.length
  owner : table.owner = (registry trace).owner

/-- The connection's own removal frees its channel and no other. -/
theorem Agrees.removed {trace : List TableEvent} {table : ChannelTable}
    {member : Nat} {conn next : Conn} (agrees : Agrees trace table)
    (valid : table.Valid) (present : table.conns[member]? = some conn)
    (alone : EndsAlone trace table (.conn member .removed))
    (sameChannel : next.channel = conn.channel) :
    Agrees (trace ++ [.conn member .removed])
      (table.update member next .removed) := by
  have own : ∀ channel, (registry trace).owner channel = some member →
      channel = conn.channel := by
    intro channel held
    rw [← agrees.owner] at held
    rcases valid.owned _ _ held with ⟨holding, found, onChannel⟩
    rcases Option.some.inj (present.symm.trans found) with rfl
    exact onChannel.symm
  constructor
  · simpa [registry_snoc, registryEvent, Registry.step,
      ChannelTable.update] using agrees.count
  · simp only [registry_snoc, registryEvent]
    rw [Registry.step_ended own (alone conn present), ← agrees.owner]
    simp [ChannelTable.update, sameChannel]

/-- An event that neither registers, closes nor ends changes no entry. -/
theorem Agrees.quiet {trace : List TableEvent} {table next : ChannelTable}
    {event : TableEvent} (agrees : Agrees trace table)
    (unregistered : registryEvent event = none)
    (length : next.conns.length = table.conns.length)
    (owner : next.owner = table.owner) :
    Agrees (trace ++ [event]) next := by
  constructor
  · rw [registry_snoc, unregistered, length]
    exact agrees.count
  · rw [registry_snoc, unregistered, owner]
    exact agrees.owner

theorem Agrees.step {trace : List TableEvent} {table next : ChannelTable}
    {event : TableEvent} (agrees : Agrees trace table)
    (valid : table.Valid) (alone : EndsAlone trace table event)
    (moved : TableMoves .server table event next) :
    Agrees (trace ++ [event]) next := by
  cases moved with
  | opened free =>
      constructor
      · simp [registry_snoc, registryEvent, Registry.step,
          agrees.count]
      · simp [registry_snoc, registryEvent, Registry.step,
          agrees.count, agrees.owner]
  | closed free =>
      constructor
      · simpa [registry_snoc, registryEvent, Registry.step]
          using agrees.count
      · simp [registry_snoc, registryEvent, Registry.step,
          agrees.owner]
  | data free => exact agrees.quiet rfl rfl rfl
  | admitted waiting present taken => exact agrees.quiet rfl (by simp) rfl
  | dropped waiting present gone => exact agrees.quiet rfl rfl rfl
  | @conn member event conn next present permitted taken =>
      by_cases removed : event = .removed
      · subst removed
        exact agrees.removed valid present alone
          (Moves.of_step taken).frame.1
      · refine agrees.quiet ?_ (by simp [ChannelTable.update])
          (by simp [ChannelTable.update, removed])
        cases event <;> first | rfl | exact (removed rfl).elim

/-! ## Runs of the server -/

/-- The condition of a step of the server. -/
def ServerEndsAlone (trace : List ServerAction) (server : Server)
    (action : ServerAction) : Prop :=
  ∀ event, action.tcp? = some event →
    EndsAlone (tcpEvents trace) server.tcp event

/--
What may take a connection's entry for the channel away: a frame that closes
or reopens the channel, or the end of the connection itself.
-/
def Releases (channel : UInt16) (member : Nat) (action : ServerAction) :
    Prop :=
  (∃ frame, action = .recv frame ∧ frame.channel = channel ∧
    (frame.command = .tcpConnect ∨ frame.command = .tcpEof ∨
      frame.command = .tcpStopSending)) ∨
    action = .tcp (.conn member .removed)

/-- The frames that touch the map of TCP channels. -/
theorem tcpCommand_eq_opened {frame : Frame} {channel : UInt16}
    {target : Text × UInt16}
    (asked : tcpCommand frame = some (.opened channel target)) :
    frame.channel = channel ∧ frame.command = .tcpConnect := by
  unfold tcpCommand at asked
  split at asked
  · next command =>
      split at asked
      · cases asked
      · simp only [Option.some.injEq, TableEvent.opened.injEq] at asked
        exact ⟨asked.1, command⟩
  all_goals simp at asked

theorem tcpCommand_eq_closed {frame : Frame} {channel : UInt16}
    {cause : Closing}
    (asked : tcpCommand frame = some (.closed channel cause)) :
    frame.channel = channel ∧
      (frame.command = .tcpEof ∨ frame.command = .tcpStopSending) := by
  unfold tcpCommand at asked
  split at asked
  · split at asked <;> simp at asked
  · simp at asked
  · next command =>
      simp only [Option.some.injEq, TableEvent.closed.injEq] at asked
      exact ⟨asked.1, Or.inl command⟩
  · next command =>
      simp only [Option.some.injEq, TableEvent.closed.injEq] at asked
      exact ⟨asked.1, Or.inr command⟩
  · cases asked

section Runs

variable {resolvers : List KubectlSshuttle.Lib.Address.SocketAddr}
  {trace : List ServerAction} {server : Server}

theorem tcpEvents_snoc (trace : List ServerAction) (action : ServerAction) :
    tcpEvents (trace ++ [action]) =
      tcpEvents trace ++ action.tcp?.toList := by
  cases h : action.tcp? <;> simp [tcpEvents, h]

theorem agrees_of_run
    (run : Run Server.step (.start resolvers) trace server)
    (alone : Meets Server.step (.start resolvers) ServerEndsAlone trace) :
    Agrees (tcpEvents trace) server.tcp := by
  refine run.invariant_of_meets
    (motive := fun trace server => Agrees (tcpEvents trace) server.tcp)
    ⟨rfl, rfl⟩ ?_ alone
  intro trace server action next earlier agrees alone taken
  have projected := (ServerMoves.of_step taken).projects_tcp
  rw [tcpEvents_snoc]
  rcases projected.kept_or_step with
    ⟨unconcerned, same⟩ | ⟨event, concerned, stepped⟩
  · rw [unconcerned, same]
    simpa using agrees
  · rw [concerned]
    exact agrees.step (ChannelTable.Valid.of_run (run_tcp earlier))
      (alone event concerned) (TableMoves.of_step stepped)

/-- A step that takes an entry away under the condition. -/
theorem releases_of_lost {next : Server} {action : ServerAction}
    (agrees : Agrees (tcpEvents trace) server.tcp)
    (alone : ServerEndsAlone trace server action)
    (taken : server.step action = some next) {channel : UInt16}
    {member : Nat} (held : server.tcp.owner channel = some member)
    (lost : next.tcp.owner channel ≠ some member) :
    Releases channel member action := by
  have moved := ServerMoves.of_step taken
  rcases moved.projects_tcp.kept_or_step with
    ⟨_, same⟩ | ⟨event, concerned, stepped⟩
  · rw [same] at lost
    exact (lost held).elim
  · rcases (TableMoves.of_step stepped).owner_lost held lost with
      ⟨target, rfl⟩ | ⟨cause, rfl⟩ | ⟨ended, conn, rfl, present, rfl⟩
    · obtain ⟨frame, rfl, asked⟩ :=
        moved.frame_of_tcp concerned rfl (by simp)
      rcases tcpCommand_eq_opened asked with ⟨onChannel, command⟩
      exact Or.inl ⟨frame, rfl, onChannel, Or.inl command⟩
    · obtain ⟨frame, rfl, asked⟩ :=
        moved.frame_of_tcp concerned rfl (by simp)
      rcases tcpCommand_eq_closed asked with ⟨onChannel, command⟩
      exact Or.inl ⟨frame, rfl, onChannel, Or.inr command⟩
    · rw [agrees.owner] at held
      rcases alone _ concerned conn present member held with rfl
      exact Or.inr (moved.eq_tcp_of_removed concerned)

/-- `TCP_DATA` waits for the connection that the map leads to. -/
theorem delivering_of_recv {server next : Server} {frame : Frame}
    {member : Nat} (taken : server.step (.recv frame) = some next)
    (command : frame.command = .tcpData)
    (held : server.tcp.owner frame.channel = some member) :
    next.tcp.delivering = some (member, frame.data) := by
  have projected := (ServerMoves.of_step taken).projects_tcp
  have concerned : tcpCommand frame =
      some (.data frame.channel frame.data) := by
    simp [tcpCommand, command]
  rw [ServerAction.tcp?, concerned] at projected
  have tableMoved := TableMoves.of_step projected
  generalize next.tcp = table at tableMoved
  cases tableMoved with
  | data free => simp [held]

/--
If connections end only while no later connection holds their channel, the
map follows the history of the channel; at every step only a frame on the
channel or the end of the connection itself takes an entry away; and
`TCP_DATA` goes to the connection that holds the channel.
-/
theorem server_entries_owned
    (run : Run Server.step (.start resolvers) trace server)
    (alone : Meets Server.step (.start resolvers) ServerEndsAlone trace) :
    (∀ channel, server.tcp.owner channel =
      holder channel (tcpEvents trace)) ∧
    ∀ before action after state next, trace = before ++ action :: after →
      Run Server.step (.start resolvers) before state →
        state.step action = some next →
      (∀ channel member, state.tcp.owner channel = some member →
        next.tcp.owner channel ≠ some member →
          Releases channel member action) ∧
      (∀ frame member, action = .recv frame → frame.command = .tcpData →
        holder frame.channel (tcpEvents before) = some member →
          next.tcp.delivering = some (member, frame.data)) := by
  refine ⟨fun channel => congrFun (agrees_of_run run alone).owner channel, ?_⟩
  rintro before action after state next rfl reached taken
  have agrees := agrees_of_run reached alone.take
  constructor
  · intro channel member held lost
    exact releases_of_lost agrees
      (alone before action after state rfl reached) taken held lost
  · rintro frame member rfl command holds
    refine delivering_of_recv taken command ?_
    rw [agrees.owner]
    exact holds

end Runs

/-! ## Two generations of one channel -/

/-- A connection that its client has half closed. -/
def Server.halfClosed : Server :=
  { Server.connecting with
    tcp :=
      { owner := Function.update (Function.update (fun _ => none) 1 (some 0)) 1 none
        conns :=
          [{ Conn.fresh .server 1 someTarget with
            phase := .streaming .reading .receiving }]
        delivering := none } }

/-- A connection is opened, connects and is closed by its peer. -/
def halfClosing : List ServerAction :=
  greeting ++ [.recv (connectFrame 1 someTarget)] ++
    [.tcp (.conn 0 .connected), .recv (eofFrame 1)]

theorem run_halfClosing :
    Run Server.step (.start []) halfClosing .halfClosed :=
  run_connecting.trans (run_of_execute (by rfl))

/-- The target closes the first connection, which then asks for the lock. -/
def firstEnding : List ServerAction :=
  [.tcp (.conn 0 (.read .eof)), .enqueued (.conn 0) (eofFrame 1),
    .tcp (.conn 0 .queueClosed), .tcp (.conn 0 .shutdown),
    .tcp (.conn 0 .joined)]

/-- The channel is opened and closed again before the first connection ends. -/
def reopeningTcp : List ServerAction :=
  halfClosing ++ [.recv (connectFrame 1 someTarget)] ++
    [.recv (eofFrame 1)] ++ firstEnding

theorem run_reopeningTcp :
    ∃ server, Run Server.step (.start []) reopeningTcp server ∧
      server.tcp.conns.map Conn.channel = [1, 1] ∧
      server.tcp.owner 1 = none ∧
        ∃ next, server.step (.tcp (.conn 0 .removed)) = some next := by
  have idle : Server.halfClosed.idle = true := by decide
  have noComma : ',' ∉ someTarget.1 := by decide
  have reopened := run_halfClosing.extend (step_connect idle 1 noComma)
  have closed := reopened.trans
    (run_of_execute (by rfl) : Run Server.step _ [.recv (eofFrame 1)] _)
  have ended := closed.trans
    (run_of_execute (by rfl) : Run Server.step _ firstEnding _)
  exact ⟨_, ended, rfl, rfl, _, rfl⟩

theorem endsAlone_reopeningTcp :
    Meets Server.step (.start []) ServerEndsAlone reopeningTcp := by
  refine Meets.of_forall ?_
  intro action member before state event concerned
  have shape : action ∈ greeting ∨ action = .recv (connectFrame 1 someTarget) ∨
      action ∈ ([.tcp (.conn 0 .connected), .recv (eofFrame 1)] :
        List ServerAction) ++ firstEnding := by
    simp only [reopeningTcp, halfClosing, List.mem_append, List.mem_cons,
      List.not_mem_nil, or_false] at member ⊢
    tauto
  rcases shape with opening | rfl | later
  · simp only [greeting, List.mem_cons, List.not_mem_nil, or_false]
      at opening
    rcases opening with rfl | rfl | rfl <;> cases concerned
  · rw [ServerAction.tcp?, tcpCommand_connectFrame 1 (by decide)]
      at concerned
    rcases Option.some.inj concerned with rfl
    trivial
  · simp only [firstEnding, List.cons_append, List.nil_append,
      List.mem_cons, List.not_mem_nil, or_false] at later
    rcases later with rfl | rfl | rfl | rfl | rfl | rfl | rfl <;>
      rcases Option.some.inj concerned with rfl <;>
      trivial

/-- The removal finds the channel without a holder. -/
theorem endsAlone_removed {server : Server}
    (run : Run Server.step (.start []) reopeningTcp server)
    (channels : server.tcp.conns.map Conn.channel = [1, 1])
    (unheld : server.tcp.owner 1 = none) :
    ServerEndsAlone reopeningTcp server (.tcp (.conn 0 .removed)) := by
  intro event concerned
  rcases Option.some.inj concerned with rfl
  intro conn present other holds
  have onChannel : conn.channel = 1 := by
    have listed := congrArg (fun channels => channels[0]?) channels
    simpa [present] using listed
  have agrees := agrees_of_run run endsAlone_reopeningTcp
  have free : holder 1 (tcpEvents reopeningTcp) = none :=
    (congrFun agrees.owner 1).symm.trans unheld
  rw [onChannel, free] at holds
  cases holds

/-- A connection that ends when its channel is free takes nothing away. -/
theorem server_entries_owned_reopening :
    ∃ server, Run Server.step (.start [])
        (reopeningTcp ++ [.tcp (.conn 0 .removed)]) server ∧
      server.tcp.owner 1 = holder 1
        (tcpEvents (reopeningTcp ++ [.tcp (.conn 0 .removed)])) := by
  rcases run_reopeningTcp with ⟨server, run, channels, unheld, next, taken⟩
  have alone := endsAlone_reopeningTcp.extend run
    (endsAlone_removed run channels unheld)
  exact ⟨next, run.extend taken,
    (server_entries_owned (run.extend taken) alone).1 1⟩

/--
The channel is opened again before the first connection ends; the end of the
first connection then removes the entry of the second, whose `TCP_DATA` is
dropped from then on.
-/
theorem first_end_removes_second_entry :
    ∃ state next later,
      Run Server.step (.start [])
        (halfClosing ++ [.recv (connectFrame 1 someTarget)] ++ firstEnding)
          state ∧
      state.step (.tcp (.conn 0 .removed)) = some next ∧
      state.tcp.owner 1 = some 1 ∧ next.tcp.owner 1 = none ∧
      ¬ Releases 1 1 (.tcp (.conn 0 .removed)) ∧
      next.step (.recv (dataFrame 1 [0])) = some later ∧
      later.tcp.delivering = none := by
  have idle : Server.halfClosed.idle = true := by decide
  have noComma : ',' ∉ someTarget.1 := by decide
  have reopened := run_halfClosing.extend (step_connect idle 1 noComma)
  have ended := reopened.trans
    (run_of_execute (by rfl) : Run Server.step _ firstEnding _)
  refine ⟨_, _, _, ended, rfl, rfl, rfl, ?_, rfl, rfl⟩
  rintro (⟨frame, same, _⟩ | same)
  · cases same
  · cases same

end KubectlSshuttle.Rushtle
