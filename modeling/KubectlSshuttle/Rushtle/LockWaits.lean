import KubectlSshuttle.Rushtle.ServerRuns
import KubectlSshuttle.Rushtle.SsnetPayloads

/-!
# Waiting for the lock of the channel map

The frame loop of the server waits for room in a connection's queue with the
lock of the map held.  The room has to come from the task that owns the
queue's receiver, so that the wait is endless if that task waits for the lock.
A connection that was made takes buffers from its queue without the lock; a
connection whose target refused does not, and still owns its receiver when it
asks for the lock.
-/

namespace KubectlSshuttle.Rushtle

open KubectlSshuttle.Lib.RustText
open KubectlSshuttle.Lib.Transition
open KubectlSshuttle.Rushtle.Ssnet
open KubectlSshuttle.Rushtle.Connection
open KubectlSshuttle.Rushtle.Channels
open KubectlSshuttle.Rushtle.OutQueue

/-- The connection's own task waits to remove its channel from the map. -/
def waitsForLock (conn : Conn) : Bool :=
  decide (conn.phase = .refusedLocking) || decide (conn.phase = .locking)

/--
The frame loop holds the lock and waits for room in a full queue, and the
owner of the queue's receiver waits for the lock.
-/
def Deadlocked (table : ChannelTable) : Prop :=
  ∃ member bytes conn, table.delivering = some (member, bytes) ∧
    table.conns[member]? = some conn ∧
      inboundCapacity ≤ conn.inbound.length ∧
        conn.receiverAlive = true ∧ waitsForLock conn = true

/-- The target has refused the connection, whose task is not done yet. -/
def failing (conn : Conn) : Bool :=
  decide (conn.phase = .refused) || decide (conn.phase = .refusedLocking)

/--
No connect fails while the frame loop waits for room in the full queue of that
connection, and no `TCP_DATA` comes for a failed connection whose queue is
full.
-/
def FailsWithRoom (table : ChannelTable) : TableEvent → Prop
  | .conn member .connectFailed => ∀ bytes conn,
      table.delivering = some (member, bytes) →
        table.conns[member]? = some conn →
          conn.inbound.length < inboundCapacity
  | .data channel _ => ∀ member conn, table.owner channel = some member →
      table.conns[member]? = some conn → failing conn = true →
        conn.inbound.length < inboundCapacity
  | _ => True

/-- The frame loop waits for a failed connection only if there is room. -/
def RoomForFailing (table : ChannelTable) : Prop :=
  ∀ member bytes conn, table.delivering = some (member, bytes) →
    table.conns[member]? = some conn → failing conn = true →
      conn.inbound.length < inboundCapacity

theorem RoomForFailing.not_deadlocked {table : ChannelTable}
    (room : RoomForFailing table) : ¬ Deadlocked table := by
  rintro ⟨member, bytes, conn, waiting, present, full, alive, waits⟩
  have failed : failing conn = true := by
    simp only [waitsForLock, Bool.or_eq_true, decide_eq_true_eq] at waits
    rcases waits with phase | phase
    · simp [failing, phase]
    · simp [Conn.receiverAlive, phase] at alive
  have short := room member bytes conn waiting present failed
  omega

/-- How a connection comes to be failing, and what its queue is then. -/
theorem failing_of_moves {conn next : Conn} {event : ConnEvent}
    (moved : Moves .server conn event next) (failed : failing next = true) :
    (event = .connectFailed ∧ next.inbound = conn.inbound) ∨
      (failing conn = true ∧
        (next.inbound = conn.inbound ∨ ∃ bytes, event = .deliver bytes)) := by
  cases moved with
  | connectFailed phase => exact Or.inl ⟨rfl, rfl⟩
  | stopped phase => exact Or.inr ⟨by simp [failing, phase], Or.inl rfl⟩
  | stopFailed phase => exact Or.inr ⟨by simp [failing, phase], Or.inl rfl⟩
  | deliver alive room => exact Or.inr ⟨failed, Or.inr ⟨_, rfl⟩⟩
  | _ => simp [failing] at failed

theorem RoomForFailing.step {table next : ChannelTable}
    {event : TableEvent} (valid : table.Valid)
    (room : RoomForFailing table) (cautious : FailsWithRoom table event)
    (moved : TableMoves .server table event next) : RoomForFailing next := by
  intro member bytes conn' waiting present' failed
  rcases moved.waiting_source waiting with ⟨_, source⟩
  rcases source with before | ⟨channel, rfl, held⟩
  · rcases valid.waiting _ _ before with ⟨conn, present, _⟩
    rcases moved.conn_of_present present with ⟨later, found, step⟩
    rcases Option.some.inj (present'.symm.trans found) with rfl
    rcases step.kept_or_step with ⟨_, rfl⟩ | ⟨own, concerned, stepped⟩
    · exact room member bytes _ before present failed
    · rcases failing_of_moves (Moves.of_step stepped) failed with
        ⟨rfl, same⟩ | ⟨wasFailing, same | ⟨buffer, rfl⟩⟩
      · rw [same]
        cases moved with
        | conn found permitted taken =>
            obtain ⟨rfl, rfl⟩ : _ = member ∧ _ = ConnEvent.connectFailed := by
              simpa [TableEvent.concerns] using concerned
            exact cautious bytes conn before present
        | admitted waiting found taken =>
            simp [TableEvent.concerns] at concerned
        | _ => cases concerned
      · rw [same]
        exact room member bytes conn before present wasFailing
      · cases moved with
        | admitted was found taken => cases waiting
        | conn found permitted taken =>
            obtain ⟨rfl, rfl⟩ : _ = member ∧ _ = ConnEvent.deliver buffer := by
              simpa [TableEvent.concerns] using concerned
            cases permitted
        | _ => cases concerned
  · cases moved with
    | data free => exact cautious member conn' held present' failed

/-! ## Runs of the server -/

/-- The condition of a step of the server. -/
def ServerFailsWithRoom (server : Server) (action : ServerAction) : Prop :=
  ∀ event, action.tcp? = some event → FailsWithRoom server.tcp event

section Runs

variable {resolvers : List KubectlSshuttle.Lib.Address.SocketAddr}

theorem roomForFailing_of_run {trace : List ServerAction} {server : Server}
    (run : Run Server.step (.start resolvers) trace server)
    (cautious : Meets Server.step (.start resolvers)
      (fun _ server action => ServerFailsWithRoom server action) trace) :
    RoomForFailing server.tcp := by
  refine run.invariant_of_meets
    (motive := fun _ server => RoomForFailing server.tcp) ?_ ?_ cautious
  · intro member bytes conn waiting
    cases waiting
  · intro trace server action next earlier room cautious taken
    have projected := (ServerMoves.of_step taken).projects_tcp
    rcases projected.kept_or_step with
      ⟨_, same⟩ | ⟨event, concerned, stepped⟩
    · rw [same]
      exact room
    · exact room.step (ChannelTable.Valid.of_run (run_tcp earlier))
        (cautious event concerned) (TableMoves.of_step stepped)

/--
If every step finds room where a connect fails, the frame loop and the task of
a connection never wait for each other.
-/
theorem server_not_deadlocked {trace : List ServerAction} {server : Server}
    (run : Run Server.step (.start resolvers) trace server)
    (cautious : Meets Server.step (.start resolvers)
      (fun _ server action => ServerFailsWithRoom server action) trace) :
    ¬ Deadlocked server.tcp :=
  (roomForFailing_of_run run cautious).not_deadlocked

end Runs

/-! ## The connect-failure path -/

/-- The server after that connection was refused. -/
def Server.refused : Server :=
  { Server.connecting with
    tcp :=
      { owner := Function.update (fun _ => none) 1 (some 0)
        conns :=
          [{ Conn.fresh .server 1 someTarget with phase := .refused }]
        delivering := none } }

/-- A target that refuses while nothing is queued does no harm. -/
theorem server_not_deadlocked_refused : ¬ Deadlocked Server.refused.tcp := by
  have run : Run Server.step (.start [])
      (greeting ++ [.recv (connectFrame 1 someTarget)] ++
        [.tcp (.conn 0 .connectFailed)]) Server.refused :=
    run_connecting.extend rfl
  refine server_not_deadlocked run
    (Meets.extend (Meets.of_forall ?_) run_connecting ?_)
  · intro action member before state event concerned
    rcases List.mem_append.mp member with opening | connect
    · simp only [greeting, List.mem_cons, List.not_mem_nil, or_false]
        at opening
      rcases opening with rfl | rfl | rfl <;> cases concerned
    · rcases List.mem_singleton.mp connect with rfl
      rw [ServerAction.tcp?, tcpCommand_connectFrame 1 (by decide)]
        at concerned
      rcases Option.some.inj concerned with rfl
      trivial
  · intro event concerned
    rcases Option.some.inj concerned with rfl
    intro bytes conn waiting
    cases waiting

/-- The 65 `TCP_DATA` frames that reach the server before the refusal. -/
def floodBeforeRefusal : List ServerAction :=
  (List.replicate 64
    [ServerAction.recv (dataFrame 1 [0]), .tcp (.admitted 0 [0])]).flatten ++
  [.recv (dataFrame 1 [0]), .tcp (.conn 0 .connectFailed),
    .enqueued (.conn 0) (stopFrame 1)]

/-- Whether the frame loop and a connection wait for each other. -/
def deadlockedWith (member : Nat) (table : ChannelTable) : Bool :=
  match table.delivering, table.conns[member]? with
  | some (other, _), some conn =>
      other == member && decide (inboundCapacity ≤ conn.inbound.length) &&
        conn.receiverAlive && waitsForLock conn
  | _, _ => false

theorem deadlocked_of_deadlockedWith {member : Nat} {table : ChannelTable}
    (stuck : deadlockedWith member table = true) : Deadlocked table := by
  unfold deadlockedWith at stuck
  split at stuck
  · next other bytes conn waiting present =>
      simp only [Bool.and_eq_true, beq_iff_eq, decide_eq_true_eq] at stuck
      rcases stuck with ⟨⟨⟨rfl, full⟩, alive⟩, waits⟩
      exact ⟨other, bytes, conn, waiting, present, full, alive, waits⟩
  · cases stuck

/--
A connect that fails after 65 `TCP_DATA` frames leaves the frame loop waiting
for room with the lock held, and the connection's task waiting for the lock.
-/
theorem server_deadlocks_on_refusal :
    ∃ server, Run Server.step (.start [])
        (greeting ++ [.recv (connectFrame 1 someTarget)] ++
          floodBeforeRefusal) server ∧
      Deadlocked server.tcp := by
  obtain ⟨server, run, stuck⟩ := run_of_execute_any
    Server.step Server.connecting floodBeforeRefusal
    (fun server => deadlockedWith 0 server.tcp) (by decide +kernel)
  exact ⟨server, run_connecting.trans run,
    deadlocked_of_deadlockedWith stuck⟩

end KubectlSshuttle.Rushtle
