import KubectlSshuttle.Rushtle.Parties

/-!
# Closing one direction of a channel

`TCP_STOP_SENDING` on a channel says that its peer wants no more data, while
it may still send some.  Both ends treat the command like `TCP_EOF`: they drop
the sender of the inbound queue and leave the reading task alone.  So data is
still sent after the command when the socket still yields some, and data that
arrives after the command is lost.
-/

namespace KubectlSshuttle.Rushtle

open KubectlSshuttle.Lib.RustText
open KubectlSshuttle.Lib.Address
open KubectlSshuttle.Lib.Transition
open KubectlSshuttle.Rushtle.Ssnet
open KubectlSshuttle.Rushtle.Connection
open KubectlSshuttle.Rushtle.Channels
open KubectlSshuttle.Rushtle.OutQueue

/-! ## The state of a channel by its history -/

/-- A connection is registered. -/
def TableEvent.opens : TableEvent → Bool
  | .opened _ _ => true
  | _ => false

/-- How many connections were registered. -/
def openings (trace : List TableEvent) : Nat :=
  trace.countP TableEvent.opens

/-- The connection was registered for the channel and stopped since. -/
def Stopped (trace : List TableEvent) (channel : UInt16) (member : Nat) :
    Prop :=
  ∃ before target after,
    trace = before ++ .opened channel target :: after ∧
      openings before = member ∧ .closed channel .stopSending ∈ after

/--
The connection is the latest of its channel, and of the two closing commands
only `TCP_STOP_SENDING` has come since it was registered.
-/
def HalfClosed (trace : List TableEvent) (channel : UInt16) (member : Nat) :
    Prop :=
  ∃ before target after,
    trace = before ++ .opened channel target :: after ∧
      openings before = member ∧
      (∀ target, .opened channel target ∉ after) ∧
      .closed channel .stopSending ∈ after ∧ .closed channel .eof ∉ after

/-- Nothing can be written to the connection's socket any more. -/
def SocketLost (events : List ConnEvent) (conn : Conn) : Prop :=
  .connectFailed ∈ events ∨ .writeError ∈ events ∨ conn.phase = .abandoned

/-- The reading task holds bytes that it has not put on `out_tx` yet. -/
def HoldsData (conn : Conn) : Prop :=
  ∃ data writer, conn.phase = .streaming (.sending data) writer

theorem Stopped.of_snoc {trace : List TableEvent} {event : TableEvent}
    {channel : UInt16} {member : Nat}
    (stopped : Stopped (trace ++ [event]) channel member) :
    Stopped trace channel member ∨ event = .closed channel .stopSending := by
  rcases stopped with ⟨before, target, after, split, opened, closed⟩
  rcases List.eq_nil_or_concat after with rfl | ⟨initial, last, rfl⟩
  · cases closed
  · have shape : trace ++ [event] =
        (before ++ .opened channel target :: initial) ++ [last] := by
      simpa using split
    rcases List.append_inj' shape rfl with ⟨rfl, same⟩
    obtain rfl : event = last := by simpa using same
    rw [List.concat_eq_append] at closed
    rcases List.mem_append.mp closed with earlier | now
    · exact Or.inl ⟨before, target, initial, rfl, opened, earlier⟩
    · exact Or.inr (List.mem_singleton.mp now).symm

/-! ## What the map does after a closing command -/

section Table

variable {side : Side} {trace : List TableEvent} {table : ChannelTable}

/-- A closed channel leads nowhere until it is registered again. -/
theorem owner_of_closed {before after : List TableEvent} {channel : UInt16}
    {cause : Closing}
    (run : Run (ChannelTable.step side) .empty (before ++ after) table)
    (once : ∀ target, .opened channel target ∉ after)
    (closed : .closed channel cause ∈ after) :
    table.owner channel = none := by
  rcases List.append_of_mem closed with ⟨first, rest, rfl⟩
  rw [← List.append_assoc] at run
  rcases run.step_at with ⟨state, next, _, taken, later⟩
  have freed : next.owner channel = none := by
    have moved := TableMoves.of_step taken
    cases moved with
    | closed free => simp
  refine later.invariant
    (motive := fun rest table =>
      (∀ target, TableEvent.opened channel target ∉ rest) →
        table.owner channel = none)
    (fun _ => freed) ?_ ?_
  · intro rest table event next _ induction taken unopened
    have before := induction
      (fun target member => unopened target (List.mem_append_left _ member))
    refine Option.eq_none_iff_forall_ne_some.mpr ?_
    intro member held
    rcases (TableMoves.of_step taken).owner_source held with
      was | ⟨target, rfl, _⟩
    · rw [before] at was
      cases was
    · exact unopened target (by simp)
  · intro target member
    exact once target (by simp [member])

theorem HalfClosed.owner {channel : UInt16} {member : Nat}
    (run : Run (ChannelTable.step side) .empty trace table)
    (half : HalfClosed trace channel member) :
    table.owner channel = none := by
  rcases half with ⟨before, target, after, rfl, _, once, stopped, _⟩
  rw [List.append_cons] at run
  exact owner_of_closed run once stopped

/-! ## The reading tasks after a closing command -/

/--
`TCP_STOP_SENDING` comes when no reading task of the channel holds bytes, and
none of them reads bytes afterwards.
-/
def ReadsNothingMore (trace : List TableEvent) (table : ChannelTable) :
    TableEvent → Prop
  | .closed channel .stopSending => ∀ conn ∈ table.conns,
      conn.channel = channel → ¬ HoldsData conn
  | .conn member (.read (.bytes _)) => ∀ conn,
      table.conns[member]? = some conn →
        ¬ Stopped trace conn.channel member
  | _ => True

/-- No stopped connection holds bytes. -/
def Hushed (trace : List TableEvent) (table : ChannelTable) : Prop :=
  ∀ member conn, table.conns[member]? = some conn →
    Stopped trace conn.channel member → ¬ HoldsData conn

/-- Bytes come into a reading task's hands only from its socket. -/
theorem holdsData_source {conn next : Conn} {event : ConnEvent}
    (moved : Moves side conn event next) (holds : HoldsData next) :
    HoldsData conn ∨ ∃ data, event = .read (.bytes data) := by
  rcases holds with ⟨data, writer, phase⟩
  cases moved with
  | readBytes before nonempty small => exact Or.inr ⟨_, rfl⟩
  | deliver alive room => exact Or.inl ⟨data, writer, phase⟩
  | take before queue =>
      rcases Phase.streaming.inj phase with ⟨rfl, _⟩
      exact Or.inl ⟨data, _, before⟩
  | queueClosed before queue =>
      rcases Phase.streaming.inj phase with ⟨rfl, _⟩
      exact Or.inl ⟨data, _, before⟩
  | write before nonempty =>
      rcases Phase.streaming.inj phase with ⟨rfl, _⟩
      exact Or.inl ⟨data, _, before⟩
  | writeError before =>
      rcases Phase.streaming.inj phase with ⟨rfl, _⟩
      exact Or.inl ⟨data, _, before⟩
  | shutdown before =>
      rcases Phase.streaming.inj phase with ⟨rfl, _⟩
      exact Or.inl ⟨data, _, before⟩
  | dataFailed before =>
      rcases Phase.streaming.inj phase with ⟨reader, _⟩
      cases side <;> cases reader
  | _ => cases phase

theorem Hushed.step {next : ChannelTable} {event : TableEvent}
    (hushed : Hushed trace table) (nothing : ReadsNothingMore trace table event)
    (moved : TableMoves side table event next) :
    Hushed (trace ++ [event]) next := by
  intro member conn' present' stopped holds
  cases present : table.conns[member]? with
  | none =>
      rcases moved.conn_of_absent present present' with
        ⟨channel, target, _, _, _, rfl, _⟩
      rcases holds with ⟨data, writer, phase⟩
      cases side <;> cases phase
  | some conn =>
      rcases moved.conn_of_present present with ⟨kept, found, moves⟩
      rcases Option.some.inj (present'.symm.trans found) with rfl
      rcases moved.keeps_channel present with ⟨kept, found, sameChannel, _⟩
      rcases Option.some.inj (present'.symm.trans found) with rfl
      rw [sameChannel] at stopped
      rcases stopped.of_snoc with before | rfl
      · rcases moves.kept_or_step with ⟨_, rfl⟩ | ⟨own, concerned, stepped⟩
        · exact hushed member _ present before holds
        · rcases holdsData_source (Moves.of_step stepped) holds with
            had | ⟨data, rfl⟩
          · exact hushed member conn present before had
          · cases event <;> simp only [TableEvent.concerns,
              Option.ite_none_right_eq_some, Option.some.injEq,
              reduceCtorEq, and_false] at concerned
            rcases concerned with ⟨rfl, rfl⟩
            exact nothing conn present before
      · obtain rfl : conn' = conn := moves
        exact nothing _ (List.mem_of_getElem? present) rfl holds

end Table

/-! ## Both ends -/

section Party

variable {State Action : Type} (party : Party State Action)

/-- `ReadsNothingMore` for a step of an end of the tunnel. -/
def Party.ReadsNothingMore (trace : List Action) (state : State)
    (action : Action) : Prop :=
  ∀ event, party.concern action = some event →
    Rushtle.ReadsNothingMore (party.events trace) (party.table state) event

/--
A step that puts `TCP_DATA` on `out_tx` is a step of a connection whose
channel has not been stopped since the connection was registered.
-/
def Party.SendsUnstopped (trace : List Action) (_ : State)
    (action : Action) : Prop :=
  ∀ frame, party.enqueued action = some frame → frame.command = .tcpData →
    ∃ member,
      party.concern action = some (.conn member (.sent frame)) ∧
        ¬ Stopped (party.events trace) frame.channel member

/-- `TCP_DATA` comes for a connection of which only the other half is closed. -/
def Party.LateFor (trace : List Action) (state : State) (frame : Frame)
    (member : Nat) : Prop :=
  HalfClosed (party.events trace) frame.channel member ∧
    ∃ conn, (party.table state).conns[member]? = some conn ∧
      ¬ SocketLost (connEvents member (party.events trace)) conn

/-- Such `TCP_DATA` is handed to the queue of that connection. -/
def Party.HandsOverLate (trace : List Action) (state : State)
    (action : Action) : Prop :=
  ∀ frame member next, party.received action = some frame →
    frame.command = .tcpData → party.LateFor trace state frame member →
      party.step state action = some next →
        (party.table next).delivering = some (member, frame.data)

/-- No such `TCP_DATA` comes. -/
def Party.NothingLate (trace : List Action) (state : State)
    (action : Action) : Prop :=
  ∀ frame member, party.received action = some frame →
    frame.command = .tcpData → ¬ party.LateFor trace state frame member

variable {party} {trace : List Action} {state : State}

theorem Party.hushed_of_run
    (run : Run party.step party.start trace state)
    (nothing : Meets party.step party.start party.ReadsNothingMore trace) :
    Hushed (party.events trace) (party.table state) := by
  refine run.invariant_of_meets
    (motive := fun trace state =>
      Hushed (party.events trace) (party.table state)) ?_ ?_ nothing
  · intro member conn present
    rw [party.empty] at present
    cases present
  · intro trace state action next _ hushed nothing taken
    have moved := party.moves taken
    rw [party.events_snoc]
    rcases moved.kept_or_step with
      ⟨unconcerned, same⟩ | ⟨event, concerned, stepped⟩
    · simpa [unconcerned, same] using hushed
    · rw [concerned]
      exact hushed.step (nothing event concerned) (TableMoves.of_step stepped)

/-- Only a connection that holds bytes sends `TCP_DATA`. -/
theorem holdsData_of_sent {side : Side} {conn next : Conn} {frame : Frame}
    (moved : Moves side conn (.sent frame) next)
    (command : frame.command = .tcpData) :
    HoldsData conn ∧ frame.channel = conn.channel := by
  cases moved with
  | announced phase =>
      exact absurd command
        (show Command.ofCode cmdTcpConnect ≠ .tcpData by decide)
  | stopped phase =>
      exact absurd command
        (show Command.ofCode cmdTcpStopSending ≠ .tcpData by decide)
  | sentData phase => exact ⟨⟨_, _, phase⟩, rfl⟩
  | sentEof phase =>
      exact absurd command
        (show Command.ofCode cmdTcpEof ≠ .tcpData by decide)

theorem Party.sendsUnstopped_of_run
    (run : Run party.step party.start trace state)
    (nothing : Meets party.step party.start party.ReadsNothingMore trace) :
    Meets party.step party.start party.SendsUnstopped trace := by
  rintro before action after middle rfl reached frame enqueued command
  rcases run.step_at with ⟨other, next, again, taken, _⟩
  rcases again.deterministic reached with rfl
  rcases party.sends taken enqueued command with ⟨member, concerned⟩
  refine ⟨member, concerned, ?_⟩
  have moved := party.moves taken
  rw [concerned] at moved
  have tableMoved := TableMoves.of_step moved
  generalize party.table next = table at tableMoved
  cases tableMoved with
  | conn present permitted taken =>
      rcases holdsData_of_sent (Moves.of_step taken) command with
        ⟨holds, onChannel⟩
      intro stopped
      rw [onChannel] at stopped
      exact hushed_of_run reached nothing.take member _ present stopped holds

/-- Late data finds no queue. -/
theorem Party.delivering_of_late {action : Action} {next : State}
    {frame : Frame} {member : Nat}
    (run : Run party.step party.start trace state)
    (received : party.received action = some frame)
    (command : frame.command = .tcpData)
    (late : party.LateFor trace state frame member)
    (taken : party.step state action = some next) :
    (party.table next).delivering = none := by
  have moved := party.moves taken
  rw [party.looksUp received command] at moved
  have tableMoved := TableMoves.of_step moved
  generalize party.table next = table at tableMoved
  cases tableMoved with
  | data free => simp [late.1.owner (party.run_table run)]

theorem Party.handsOverLate_iff
    (run : Run party.step party.start trace state) :
    Meets party.step party.start party.HandsOverLate trace ↔
      Meets party.step party.start party.NothingLate trace := by
  constructor
  · rintro handsOver before action after middle rfl reached frame member
      received command late
    rcases run.step_at with ⟨other, next, again, taken, _⟩
    rcases again.deterministic reached with rfl
    have handed := handsOver before action after other rfl reached frame
      member next received command late taken
    rw [delivering_of_late reached received command late taken] at handed
    cases handed
  · intro nothing before action after middle split reached frame member next
      received command late _
    exact (nothing before action after middle split reached frame member
      received command late).elim

end Party

/--
While no end reads bytes from a socket whose channel was stopped, no end sends
`TCP_DATA` on a stopped channel, and an end hands over all data that may come
after `TCP_STOP_SENDING` exactly when none comes.
-/
theorem stop_honoured_iff {resolvers : List SocketAddr} {dnsEnabled : Bool}
    {serverTrace : List ServerAction} {server : Server}
    {clientTrace : List ClientAction} {client : Client}
    (serverRun : Run Server.step (.start resolvers) serverTrace server)
    (serverQuiet : Meets Server.step (.start resolvers)
      (serverParty resolvers).ReadsNothingMore serverTrace)
    (clientRun : Run Client.step (.start dnsEnabled) clientTrace client)
    (clientQuiet : Meets Client.step (.start dnsEnabled)
      (clientParty dnsEnabled).ReadsNothingMore clientTrace) :
    ((Meets Server.step (.start resolvers)
        (serverParty resolvers).SendsUnstopped serverTrace ∧
      Meets Server.step (.start resolvers)
        (serverParty resolvers).HandsOverLate serverTrace) ↔
      Meets Server.step (.start resolvers)
        (serverParty resolvers).NothingLate serverTrace) ∧
    ((Meets Client.step (.start dnsEnabled)
        (clientParty dnsEnabled).SendsUnstopped clientTrace ∧
      Meets Client.step (.start dnsEnabled)
        (clientParty dnsEnabled).HandsOverLate clientTrace) ↔
      Meets Client.step (.start dnsEnabled)
        (clientParty dnsEnabled).NothingLate clientTrace) := by
  have serverSends :=
    (serverParty resolvers).sendsUnstopped_of_run serverRun serverQuiet
  have clientSends :=
    (clientParty dnsEnabled).sendsUnstopped_of_run clientRun clientQuiet
  have serverHands :=
    (serverParty resolvers).handsOverLate_iff serverRun
  have clientHands :=
    (clientParty dnsEnabled).handsOverLate_iff clientRun
  constructor
  · exact ⟨fun both => serverHands.mp both.2,
      fun nothing => ⟨serverSends, serverHands.mpr nothing⟩⟩
  · exact ⟨fun both => clientHands.mp both.2,
      fun nothing => ⟨clientSends, clientHands.mpr nothing⟩⟩

/-! ## A stopped channel -/

/-- A client stops a connection of the server. -/
def stopping : List ServerAction :=
  greeting ++ [.recv (connectFrame 1 someTarget)] ++
    [.tcp (.conn 0 .connected), .recv (stopFrame 1)]

/-- The server with one stopped connection. -/
def Server.stopped (reader : ReadTask) (queue : List Frame) : Server :=
  { Server.connecting with
    out :=
      ⟨[MainReply.chicken.frame, MainReply.routes.frame] ++ queue, .receiving⟩
    tcp :=
      { owner := Function.update (Function.update (fun _ => none) 1 (some 0))
          1 none
        conns :=
          [{ Conn.fresh .server 1 someTarget with
            phase := .streaming reader .receiving }]
        delivering := none } }

theorem run_stopping :
    Run Server.step (.start []) stopping (.stopped .reading []) :=
  run_connecting.trans (run_of_execute (by rfl))

theorem events_stopping :
    (serverParty []).events stopping =
      [.opened 1 someTarget, .conn 0 .connected,
        .closed 1 .stopSending] := by
  have opened := tcpCommand_connectFrame 1
    (show ',' ∉ someTarget.1 by decide)
  have closed : tcpCommand (stopFrame 1) = some (.closed 1 .stopSending) :=
    rfl
  simp [Party.events, serverParty, stopping, greeting, ServerAction.tcp?,
    List.filterMap_cons, opened, closed]

/-- The reading task holds nothing when `TCP_STOP_SENDING` comes. -/
theorem quiet_stopping :
    Meets Server.step (.start []) (serverParty []).ReadsNothingMore
      stopping := by
  have early : Meets Server.step (.start [])
      (serverParty []).ReadsNothingMore
      (greeting ++ [.recv (connectFrame 1 someTarget)] ++
        [.tcp (.conn 0 .connected)]) := by
    refine Meets.of_forall ?_
    intro action member before state event concerned
    simp only [greeting, List.cons_append, List.nil_append, List.mem_cons,
      List.not_mem_nil, or_false] at member
    rcases member with rfl | rfl | rfl | rfl | rfl
    · cases concerned
    · cases concerned
    · cases concerned
    · have opened := tcpCommand_connectFrame 1
        (show ',' ∉ someTarget.1 by decide)
      rcases Option.some.inj (concerned.symm.trans opened) with rfl
      trivial
    · rcases Option.some.inj concerned with rfl
      trivial
  refine early.extend (run_connecting.trans (run_of_execute (by rfl))) ?_
  intro event concerned
  rcases Option.some.inj concerned with rfl
  intro conn present _ holds
  rcases List.mem_singleton.mp present with rfl
  rcases holds with ⟨data, writer, phase⟩
  cases phase

/-- What an application connects to. -/
def refusedTarget : SocketAddr := ⟨.v4 ⟨10, 0, 0, 2⟩, 80⟩

/-- A connection of the client, up to its `TCP_CONNECT`. -/
def announcing : List ClientAction :=
  [.synced false, .accepted .v4 1 refusedTarget,
    .registered .v4 1 (originalDst refusedTarget),
    .enqueued (.conn 0) (connectFrame 1 (originalDst refusedTarget))]

/-- The server refuses the connection. -/
def refusing : List ClientAction :=
  announcing ++ [.recv (stopFrame 1)]

theorem run_announcing :
    ∃ client, Run Client.step (.start true) announcing client ∧
      client.channels.conns.map Conn.phase = [.streaming .reading .receiving] ∧
        ∃ next, client.step (.recv (stopFrame 1)) = some next := by
  rcases run_of_execute_any Client.step (.start true) announcing
    (fun client => client.channels.conns.map Conn.phase =
      [.streaming .reading .receiving] ∧
        (client.step (.recv (stopFrame 1))).isSome = true)
    (by decide +kernel) with ⟨client, run, stands⟩
  rcases of_decide_eq_true stands with ⟨phases, steps⟩
  exact ⟨client, run, phases, Option.isSome_iff_exists.mp steps⟩

/-- The client's reading task holds nothing either. -/
theorem quiet_refusing :
    Meets Client.step (.start true) (clientParty true).ReadsNothingMore
      refusing := by
  rcases run_announcing with ⟨client, run, phases, _⟩
  refine Meets.extend (Meets.of_forall ?_) run ?_
  · intro action member before state event concerned
    simp only [announcing, List.mem_cons, List.not_mem_nil, or_false]
      at member
    rcases member with rfl | rfl | rfl | rfl
    · cases concerned
    · cases concerned
    · rcases Option.some.inj concerned with rfl
      trivial
    · rcases Option.some.inj concerned with rfl
      trivial
  · intro event concerned
    rcases Option.some.inj concerned with rfl
    rintro conn inConns _ ⟨data, writer, phase⟩
    have listed : conn.phase ∈ client.channels.conns.map Conn.phase :=
      List.mem_map_of_mem inConns
    rw [phases, phase] at listed
    simp at listed

/-- Both ends are stopped while they hold nothing. -/
theorem stop_honoured_once :
    (∃ server, Run Server.step (.start []) stopping server) ∧
    (∃ client, Run Client.step (.start true) refusing client) ∧
    (Meets Server.step (.start []) (serverParty []).SendsUnstopped stopping ∧
      Meets Server.step (.start []) (serverParty []).HandsOverLate
        stopping) ∧
    (Meets Client.step (.start true) (clientParty true).SendsUnstopped
        refusing ∧
      Meets Client.step (.start true) (clientParty true).HandsOverLate
        refusing) := by
  rcases run_announcing with ⟨client, announced, _, next, stopped⟩
  have refused := announced.extend stopped
  have honoured := stop_honoured_iff run_stopping quiet_stopping refused
    quiet_refusing
  refine ⟨⟨_, run_stopping⟩, ⟨next, refused⟩, honoured.1.mpr ?_,
    honoured.2.mpr ?_⟩
  · refine Meets.of_forall ?_
    intro action member before state frame connection received command
    simp only [stopping, greeting, List.cons_append, List.nil_append,
      List.mem_cons, List.not_mem_nil, or_false] at member
    rcases member with rfl | rfl | rfl | rfl | rfl | rfl <;> cases received
    · exact absurd command
        (show Command.ofCode cmdTcpConnect ≠ .tcpData by decide)
    · exact absurd command
        (show Command.ofCode cmdTcpStopSending ≠ .tcpData by decide)
  · refine Meets.of_forall ?_
    intro action member before state frame connection received command
    simp only [announcing, List.cons_append, List.nil_append,
      List.mem_cons, List.not_mem_nil, or_false] at member
    rcases member with rfl | rfl | rfl | rfl | rfl <;> cases received
    exact absurd command
      (show Command.ofCode cmdTcpStopSending ≠ .tcpData by decide)

/-- The socket of the stopped connection yields bytes. -/
def readingOn : List ServerAction :=
  stopping ++ [.tcp (.conn 0 (.read (.bytes [7])))]

/-- The bytes are sent. -/
def sendingOn : List ServerAction :=
  readingOn ++ [.enqueued (.conn 0) (dataFrame 1 [7])]

theorem run_readingOn :
    Run Server.step (.start []) readingOn (.stopped (.sending [7]) []) :=
  run_stopping.extend rfl

theorem run_sendingOn :
    Run Server.step (.start []) sendingOn
      (.stopped .reading [dataFrame 1 [7]]) :=
  run_readingOn.extend rfl

theorem events_readingOn :
    (serverParty []).events readingOn =
      [.opened 1 someTarget, .conn 0 .connected, .closed 1 .stopSending,
        .conn 0 (.read (.bytes [7]))] := by
  rw [readingOn, Party.events_snoc, events_stopping]
  rfl

theorem events_sendingOn :
    (serverParty []).events sendingOn =
      [.opened 1 someTarget, .conn 0 .connected, .closed 1 .stopSending,
        .conn 0 (.read (.bytes [7])), .conn 0 (.sent (dataFrame 1 [7]))] := by
  rw [sendingOn, Party.events_snoc, events_readingOn]
  rfl

/-- Data is sent on a stopped channel, and data that comes later is lost. -/
theorem stop_closes_both_halves :
    (∃ state, Run Server.step (.start [])
      (sendingOn ++ [.recv (dataFrame 1 [8])]) state) ∧
    ¬ Meets Server.step (.start []) (serverParty []).SendsUnstopped
      sendingOn ∧
    ¬ Meets Server.step (.start []) (serverParty []).HandsOverLate
      (sendingOn ++ [.recv (dataFrame 1 [8])]) := by
  refine ⟨⟨_, run_sendingOn.extend rfl⟩, ?_, ?_⟩
  · intro sends
    rcases sends.last run_readingOn (dataFrame 1 [7]) rfl rfl with
      ⟨member, concerned, unstopped⟩
    rcases TableEvent.conn.inj (Option.some.inj concerned) with ⟨rfl, _⟩
    exact unstopped ⟨[], someTarget, [.conn 0 .connected,
      .closed 1 .stopSending, .conn 0 (.read (.bytes [7]))],
      events_readingOn, rfl, by simp [dataFrame]⟩
  · intro hands
    have late : (serverParty []).LateFor sendingOn
        (.stopped .reading [dataFrame 1 [7]]) (dataFrame 1 [8]) 0 := by
      refine ⟨⟨[], someTarget, _, events_sendingOn, rfl, ?_, ?_, ?_⟩,
        _, rfl, ?_⟩
      · intro target member
        simp at member
      · simp [dataFrame]
      · simp
      · rw [events_sendingOn]
        rintro (failed | failed | failed)
        · simp [connEvents, TableEvent.concerns] at failed
        · simp [connEvents, TableEvent.concerns] at failed
        · cases failed
    have handed := hands.last run_sendingOn (dataFrame 1 [8]) 0 _ rfl rfl
      late rfl
    cases handed

end KubectlSshuttle.Rushtle
