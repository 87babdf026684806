import KubectlSshuttle.Lib.AddressRoundTrip
import KubectlSshuttle.Lib.Counting
import KubectlSshuttle.Rushtle.Traffic

/-!
# What the server connects to

The server connects to the host and port of a `TCP_CONNECT`.  The client
writes there the address that an accepted connection was going to, and it
writes it once.  So whatever the order of the steps, and even if identifiers
are used twice, the server makes no connection that was not asked for, nor
one more than was.
-/

namespace KubectlSshuttle.Rushtle

open KubectlSshuttle.Lib.RustText
open KubectlSshuttle.Lib.Address
open KubectlSshuttle.Lib.Counting
open KubectlSshuttle.Lib.Transition
open KubectlSshuttle.Rushtle.Ssnet
open KubectlSshuttle.Rushtle.Connection
open KubectlSshuttle.Rushtle.Channels

/-! ## Targets and addresses -/

/--
What `TcpStream::connect` connects to: a host that is an address is not looked
up.
-/
def dialed (target : Text × UInt16) : Option SocketAddr :=
  (parseIpAddr target.1).map fun ip => ⟨ip, target.2⟩

theorem dialed_originalDst (address : SocketAddr) :
    dialed (originalDst address) = some address := by
  have read := parseIpAddr_toText address.ip
  simp [dialed, originalDst, read]

/-- The channel and the target of a connection. -/
abbrev Call := UInt16 × Text × UInt16

/-- The channel and the target of a connection. -/
def Connection.Conn.call (conn : Conn) : Call :=
  (conn.channel, conn.target)

/-- The connection that an event registers. -/
def Channels.TableEvent.call : TableEvent → Option Call
  | .opened channel target => some (channel, target)
  | _ => none

/-- The connection that a frame asks for. -/
def Ssnet.Frame.call (frame : Frame) : Option Call :=
  (tcpCommand frame).bind TableEvent.call

/-! ## The table of an end -/

section Table

variable {side : Side} {table next : ChannelTable} {event : TableEvent}
  {trace : List TableEvent}

theorem map_call_set {conns : List Conn} {member : Nat} {conn next : Conn}
    (present : conns[member]? = some conn) (same : next.call = conn.call) :
    (conns.set member next).map Conn.call = conns.map Conn.call := by
  rcases List.getElem?_eq_some_iff.mp present with ⟨bound, rfl⟩
  rw [List.map_set, same, ← List.getElem_map Conn.call, List.set_getElem_self]
  simpa using bound

theorem Connection.Moves.call {conn after : Conn} {event : ConnEvent}
    (moved : Moves side conn event after) : after.call = conn.call :=
  Prod.ext moved.frame.1 moved.frame.2

/-- Only a registration adds a call. -/
theorem Channels.TableMoves.map_call (moved : TableMoves side table event next) :
    next.conns.map Conn.call =
      table.conns.map Conn.call ++ event.call.toList := by
  cases moved with
  | opened free => simp [Conn.fresh, Conn.call, TableEvent.call]
  | data free => simp [TableEvent.call]
  | closed free => simp [TableEvent.call]
  | dropped waiting present gone => simp [TableEvent.call]
  | admitted waiting present taken =>
      simpa [TableEvent.call] using
        map_call_set present (Moves.call (Moves.of_step taken))
  | conn present permitted taken =>
      simpa [TableEvent.call, ChannelTable.update] using
        map_call_set present (Moves.call (Moves.of_step taken))

/-- The connections of a table are those that were registered. -/
theorem map_call_of_run
    (run : Run (ChannelTable.step side) .empty trace table) :
    table.conns.map Conn.call = trace.filterMap TableEvent.call := by
  refine run.invariant (motive := fun trace table =>
    table.conns.map Conn.call = trace.filterMap TableEvent.call) rfl ?_
  intro trace table event next _ same taken
  rw [(TableMoves.of_step taken).map_call, same, List.filterMap_append]
  cases called : event.call <;> simp [called]

end Table

/-! ## Each connection calls once -/

/-- The call that a connection has still to announce. -/
def Connection.Conn.owed (conn : Conn) : List Call :=
  if conn.phase = .announcing then [conn.call] else []

/-- What a connection sends is taken from what it owes. -/
theorem Connection.Moves.owed {side : Side} {conn next : Conn}
    {event : ConnEvent} (moved : Moves side conn event next)
    (noComma : ',' ∉ conn.target.1) (call : Call) :
    (event.sent?.bind Frame.call).toList.count call + next.owed.count call ≤
      conn.owed.count call := by
  cases moved with
  | announced phase =>
      have called : (connectFrame conn.channel conn.target).call =
          some conn.call := by
        rw [Frame.call, tcpCommand_connectFrame _ noComma]
        rfl
      simp [ConnEvent.sent?, called, Conn.owed, phase]
  | deliver alive room => simp [ConnEvent.sent?, Conn.owed, Conn.call]
  | stopped phase =>
      have silent : (stopFrame conn.channel).call = none := rfl
      simp [ConnEvent.sent?, silent, Conn.owed]
  | @sentData data writer phase =>
      have silent : (dataFrame conn.channel data).call = none := rfl
      simp [ConnEvent.sent?, silent, Conn.owed]
  | sentEof phase =>
      have silent : (eofFrame conn.channel).call = none := rfl
      simp [ConnEvent.sent?, silent, Conn.owed]
  | _ => simp [ConnEvent.sent?, Conn.owed]

/-- The calls that were announced. -/
def calls (frames : List Frame) : List Call :=
  frames.filterMap Frame.call

section Announcements

variable {trace : List TableEvent} {table next : ChannelTable}
  {event : TableEvent}

/-- What is announced and what is owed was registered. -/
theorem count_calls_add_owed
    (run : Run (ChannelTable.step .client) .empty trace table)
    (noComma : ∀ conn ∈ table.conns, ',' ∉ conn.target.1) (call : Call) :
    (calls (tableSent trace)).count call +
        (table.conns.flatMap Conn.owed).count call ≤
      (table.conns.map Conn.call).count call := by
  induction run with
  | start => simp [calls, tableSent, ChannelTable.empty]
  | @extend trace before table event earlier taken induction =>
      have moved := TableMoves.of_step taken
      have noCommaBefore : ∀ conn ∈ before.conns, ',' ∉ conn.target.1 := by
        intro conn member
        rcases List.mem_iff_getElem?.mp member with ⟨place, present⟩
        rcases moved.keeps_channel present with ⟨later, found, _, target⟩
        exact target ▸ noComma later (List.mem_of_getElem? found)
      have known := induction noCommaBefore
      have sent : (calls (tableSent (trace ++ [event]))).count call =
          (calls (tableSent trace)).count call +
            (event.sent?.bind Frame.call).toList.count call := by
        rw [tableSent_snoc, calls, count_filterMap_toList]
        rfl
      rw [sent, moved.map_call, List.count_append]
      cases moved with
      | opened free =>
          simp [TableEvent.sent?, TableEvent.call, Conn.owed, Conn.fresh,
            Conn.call] at known ⊢
          omega
      | data free => simpa [TableEvent.sent?, TableEvent.call] using known
      | closed free => simpa [TableEvent.sent?, TableEvent.call] using known
      | dropped waiting present gone =>
          simpa [TableEvent.sent?, TableEvent.call] using known
      | @admitted member bytes conn after waiting present stepped =>
          have spent := (Moves.of_step stepped).owed
            (noCommaBefore conn (List.mem_of_getElem? present)) call
          have replaced :=
            count_flatMap_set Conn.owed present after call
          simp only [ConnEvent.sent?, TableEvent.sent?, TableEvent.call,
            Option.bind_none, Option.toList_none, List.count_nil]
            at spent ⊢
          omega
      | @conn member event conn after present permitted stepped =>
          have spent := (Moves.of_step stepped).owed
            (noCommaBefore conn (List.mem_of_getElem? present)) call
          have replaced :=
            count_flatMap_set Conn.owed present after call
          have same : (TableEvent.conn member event).sent? =
              event.sent? := by
            cases event <;> rfl
          rw [same]
          simp only [TableEvent.call, Option.toList_none, List.count_nil,
            ChannelTable.update]
          omega

end Announcements

/-! ## What the client accepts -/

/-- The connections that the accept loops have taken. -/
def accepts (trace : List ClientAction) : List (UInt16 × SocketAddr) :=
  trace.filterMap fun
    | .accepted _ channel address => some (channel, address)
    | _ => none

/-- The call that an accept loop is registering. -/
def AcceptTask.call : AcceptTask → Option Call
  | .inserting channel target => some (channel, target)
  | .accepting => none

/-- The calls that the accept loops are registering. -/
def registering (accept : Family → AcceptTask) : List Call :=
  (accept .v4).call.toList ++ (accept .v6).call.toList

/-- The call that an accepted connection becomes. -/
def callOf (accepted : UInt16 × SocketAddr) : Call :=
  (accepted.1, originalDst accepted.2)

theorem count_registering_update (accept : Family → AcceptTask)
    (family : Family) (task : AcceptTask) (call : Call) :
    (registering (Function.update accept family task)).count call +
        (accept family).call.toList.count call =
      (registering accept).count call + task.call.toList.count call := by
  cases family with
  | v4 =>
      simp only [registering, Function.update_self, List.count_append,
        Function.update_of_ne (show Family.v6 ≠ .v4 by decide)]
      omega
  | v6 =>
      simp only [registering, Function.update_self, List.count_append,
        Function.update_of_ne (show Family.v4 ≠ .v6 by decide)]
      omega

section Client

variable {dnsEnabled : Bool} {trace : List ClientAction} {client : Client}

/-- Every accepted connection is registered once, or about to be. -/
theorem count_accepts
    (run : Run Client.step (.start dnsEnabled) trace client) (call : Call) :
    (client.channels.conns.map Conn.call).count call +
        (registering client.accept).count call =
      ((accepts trace).map callOf).count call := by
  refine run.invariant (motive := fun trace client =>
    (client.channels.conns.map Conn.call).count call +
        (registering client.accept).count call =
      ((accepts trace).map callOf).count call) rfl ?_
  intro trace client action next _ known taken
  have moved := ClientMoves.of_step taken
  have added : ((accepts (trace ++ [action])).map callOf).count call =
      ((accepts trace).map callOf).count call +
        ((accepts [action]).map callOf).count call := by
    rw [accepts, List.filterMap_append, List.map_append, List.count_append]
    rfl
  rw [added]
  cases plain : action.handlesId with
  | false =>
      have kept := moved.keepsIds plain
      have nothing : accepts [action] = [] := by
        cases action <;> first | rfl | cases plain
      have sameCalls : next.channels.conns.map Conn.call =
          client.channels.conns.map Conn.call := by
        rcases kept.table with same | ⟨event, tableMoved, unopened⟩
        · rw [same]
        · rw [tableMoved.map_call]
          cases event with
          | opened channel target => exact (unopened _ _ rfl).elim
          | _ => simp [TableEvent.call]
      rw [nothing, sameCalls, kept.accept]
      exact known
  | true =>
      cases moved with
      | @accepted family address up free =>
          have updated := count_registering_update client.accept family
            (.inserting client.nextId (originalDst address)) call
          rw [free] at updated
          simp only [AcceptTask.call, Option.toList_none, List.count_nil,
            Option.toList_some] at updated
          have here : (accepts [.accepted family client.nextId
              address]).map callOf =
                [(client.nextId, originalDst address)] := rfl
          rw [here]
          dsimp only
          omega
      | @registered family channel target channels up waits stepped =>
          have updated := count_registering_update client.accept family
            .accepting call
          rw [waits] at updated
          simp only [AcceptTask.call, Option.toList_none, List.count_nil,
            Option.toList_some] at updated
          have here : accepts [.registered family channel target] = [] := rfl
          have appended := (TableMoves.of_step stepped).map_call
          rw [here]
          dsimp only
          rw [appended, List.count_append]
          simp only [TableEvent.call, Option.toList_some, List.map_nil,
            List.count_nil]
          omega
      | queried up free => exact known
      | inflight up waits => exact known
      | link down taken =>
          cases LinkMoves.of_stepLink taken <;> cases plain
      | _ => cases plain

theorem calls_append (left right : List Frame) :
    calls (left ++ right) = calls left ++ calls right :=
  List.filterMap_append

/-- The client's frames call what its connections call. -/
theorem calls_clientFrames
    (run : Run Client.step (.start dnsEnabled) trace client) :
    calls (clientFrames trace) = calls (tableSent (channelTrace trace)) := by
  refine run.invariant (motive := fun trace _ =>
    calls (clientFrames trace) = calls (tableSent (channelTrace trace)))
    rfl ?_
  intro trace client action next earlier same taken
  have step : calls action.enqueued?.toList =
      calls (action.channels?.toList.filterMap TableEvent.sent?) := by
    cases ClientMoves.of_step taken with
    | link down taken => cases LinkMoves.of_stepLink taken <;> rfl
    | @recv frame next up idle free dispatched =>
        simp only [ClientAction.enqueued?, ClientAction.channels?]
        unfold channelCommand
        split <;> rfl
    | channels up own taken =>
        simp [ClientAction.enqueued?, ClientAction.channels?,
          sent_of_own own]
    | _ => rfl
  rw [clientFrames_snoc taken, calls_append, same, step, ← calls_append]
  simp only [channelTrace, tableSent, List.filterMap_append,
    List.filterMap_cons, List.filterMap_nil]
  cases action.channels? <;> rfl

end Client

/-! ## The system -/

/-- The server registers what the frame loop reads. -/
theorem call_tcpEvents {resolvers : List SocketAddr}
    {trace : List ServerAction} {server : Server}
    (run : Run Server.step (.start resolvers) trace server) :
    (tcpEvents trace).filterMap TableEvent.call =
      calls (serverReads trace) := by
  refine run.invariant (motive := fun trace _ =>
    (tcpEvents trace).filterMap TableEvent.call =
      calls (serverReads trace)) rfl ?_
  intro trace server action next earlier same taken
  have step : action.tcp?.toList.filterMap TableEvent.call =
      calls action.received?.toList := by
    cases ServerMoves.of_step taken with
    | @recv frame next idle dispatched =>
        have called : frame.call = (tcpCommand frame).bind TableEvent.call :=
          rfl
        simp only [ServerAction.tcp?, ServerAction.received?, calls,
          Option.toList_some, List.filterMap_cons, List.filterMap_nil,
          called]
        cases tcpCommand frame <;> rfl
    | @tcp event tcp own taken =>
        have silent : event.call = none := by
          cases event with
          | opened channel target => cases own
          | _ => rfl
        simp [ServerAction.tcp?, ServerAction.received?, calls, silent]
    | _ => rfl
  have events : tcpEvents (trace ++ [action]) =
      tcpEvents trace ++ action.tcp?.toList := by
    cases asked : action.tcp? <;> simp [tcpEvents, asked]
  rw [events, List.filterMap_append, serverReads_snoc, calls_append, step,
    same]

section System

variable {dnsEnabled : Bool} {resolvers : List SocketAddr}
  {trace : List SystemAction} {system : System}

/-- The server registers what the client has announced. -/
theorem calls_isPrefix
    (run : Run System.step (.start dnsEnabled resolvers) trace system) :
    system.server.tcp.conns.map Conn.call <+:
      calls (tableSent (channelTrace (clientTrace trace))) := by
  have probes : calls (probesSent (clientTrace trace)) = [] := by
    rw [calls, List.filterMap_eq_nil_iff]
    intro frame member
    have ping := (probe_frame
      ((ClientStream.of_run (run_client run)).probes frame member)).1
    rw [Frame.call, tcpCommand, Frame.command, ping]
    rfl
  have reads := (serverReads_isPrefix run).filterMap Frame.call
  rw [List.filterMap_append, show List.filterMap Frame.call _ = [] from
    probes, List.nil_append] at reads
  rw [map_call_of_run (run_tcp (run_server run)),
    call_tcpEvents (run_server run),
    ← calls_clientFrames (run_client run)]
  exact reads

/-- The server registers no call more often than it was accepted. -/
theorem calls_subperm
    (run : Run System.step (.start dnsEnabled resolvers) trace system) :
    (system.server.tcp.conns.map Conn.call).Subperm
      ((accepts (clientTrace trace)).map callOf) := by
  rw [List.subperm_ext_iff]
  intro call _
  have noComma : ∀ conn ∈ system.client.channels.conns,
      ',' ∉ conn.target.1 := by
    intro conn member
    rcases (knownTargets_of_run (run_client run)).conns conn member with
      ⟨address, target⟩
    exact target ▸ comma_notMem_originalDst address
  have heard := (calls_isPrefix run).sublist.count_le call
  have announced := count_calls_add_owed (run_channels (run_client run))
    noComma call
  have accepted := count_accepts (run_client run) call
  omega

/--
The server connects to nothing but what connections of the client were going
to, on their channels, and for each of these at most once.
-/
theorem dials_subperm
    (run : Run System.step (.start dnsEnabled resolvers) trace system) :
    (system.server.tcp.conns.map fun conn =>
        (conn.channel, dialed conn.target)).Subperm
      ((accepts (clientTrace trace)).map fun (channel, address) =>
        (channel, some address)) := by
  have dialing := subperm_map (calls_subperm run) fun call =>
    (call.1, dialed call.2)
  simpa [Function.comp_def, Conn.call, callOf, dialed_originalDst]
    using dialing

end System

theorem dials_subperm_talk :
    ∃ system, Run System.step (.start false []) talk system ∧
      system.server.tcp.conns.length = 2 ∧
        accepts (clientTrace talk) =
          [(1, someAddress), (2, otherAddress)] ∧
        (system.server.tcp.conns.map fun conn =>
            (conn.channel, dialed conn.target)).Subperm
          ((accepts (clientTrace talk)).map
            fun (channel, address) => (channel, some address)) := by
  rcases run_talk with ⟨system, run, two, _⟩
  exact ⟨system, run, two, by decide, dials_subperm run⟩

end KubectlSshuttle.Rushtle
