import KubectlSshuttle.Rushtle.ChannelIds

/-!
# The demux task and the lock of the channel map

The demux task looks a channel up for every `TCP_DATA` and sends the payload
to the channel's queue with the lock of the map held.  While the queue is full
the lock is held as well, for as long as the local application does not read:
no accept loop can register a connection and no other connection can be
removed.  This is so exactly if a `TCP_DATA` comes for a full queue.
-/

namespace KubectlSshuttle.Rushtle

open KubectlSshuttle.Lib.RustText
open KubectlSshuttle.Lib.Transition
open KubectlSshuttle.Rushtle.Ssnet
open KubectlSshuttle.Rushtle.Connection
open KubectlSshuttle.Rushtle.Channels
open KubectlSshuttle.Rushtle.OutQueue

/-! ## Waiting for room -/

/-- The queue is full, and somebody may still make room in it. -/
def congested (conn : Conn) : Bool :=
  decide (inboundCapacity ≤ conn.inbound.length) && conn.receiverAlive

/-- The demux task holds the lock and waits for room in a queue. -/
def WaitsForRoom (table : ChannelTable) : Prop :=
  ∃ member bytes conn, table.delivering = some (member, bytes) ∧
    table.conns[member]? = some conn ∧ congested conn = true

/-- No `TCP_DATA` comes for a queue that is full. -/
def findsRoom (table : ChannelTable) : TableEvent → Bool
  | .data channel _ =>
      ((table.owner channel).bind fun member => table.conns[member]?).all
        fun conn => !congested conn
  | _ => true

theorem congested_of_moves {side : Side} {conn next : Conn}
    {event : ConnEvent} (moved : Moves side conn event next)
    (full : congested next = true) :
    congested conn = true ∨ ∃ bytes, event = .deliver bytes := by
  simp only [congested, Bool.and_eq_true, decide_eq_true_eq] at full ⊢
  rcases full with ⟨long, alive⟩
  cases moved with
  | deliver was room => exact .inr ⟨_, rfl⟩
  | take phase queue =>
      left
      constructor
      · rw [queue, List.length_cons]
        exact Nat.le_succ_of_le long
      · simp [Conn.receiverAlive, phase]
  | connected phase | connectFailed phase | announced phase | stopped phase
  | stopFailed phase | queueClosed phase queue | write phase nonempty
  | writeError phase =>
      exact .inl ⟨long, by simp [Conn.receiverAlive, phase]⟩
  | sentData phase | sentEof phase | dataFailed phase | eofFailed phase
  | readBytes phase nonempty small | readEof phase | readError phase =>
      exact .inl ⟨long, by simpa [Conn.receiverAlive, phase] using alive⟩
  | announceFailed phase | shutdown phase | joined phase | removed phase =>
      simp [Conn.receiverAlive] at alive

/-- The demux task starts to wait only where it finds a full queue. -/
theorem WaitsForRoom.source {side : Side} {table next : ChannelTable}
    {event : TableEvent} (valid : table.Valid)
    (moved : TableMoves side table event next) (waits : WaitsForRoom next) :
    WaitsForRoom table ∨ findsRoom table event = false := by
  rcases waits with ⟨member, bytes, conn', waiting, present', full⟩
  rcases moved.waiting_source waiting with ⟨_, before | ⟨channel, rfl, held⟩⟩
  · left
    rcases valid.waiting _ _ before with ⟨conn, present, _⟩
    refine ⟨member, bytes, conn, before, present, ?_⟩
    rcases moved.conn_of_present present with ⟨later, found, step⟩
    rcases Option.some.inj (present'.symm.trans found) with rfl
    rcases step.kept_or_step with ⟨_, rfl⟩ | ⟨own, concerned, stepped⟩
    · exact full
    · rcases congested_of_moves (Moves.of_step stepped) full with
        was | ⟨buffer, rfl⟩
      · exact was
      · cases moved with
        | admitted was found taken => cases waiting
        | conn found permitted taken =>
            obtain ⟨rfl, rfl⟩ :
                _ = member ∧ _ = ConnEvent.deliver buffer := by
              simpa [TableEvent.concerns] using concerned
            cases permitted
        | _ => cases concerned
  · right
    cases moved with
    | data free =>
        have found : table.conns[member]? = some conn' := present'
        simp [findsRoom, held, found, full]

/-- Looking a full queue up is enough to wait for it. -/
theorem WaitsForRoom.of_data {side : Side} {table next : ChannelTable}
    {channel : UInt16} {bytes : Bytes}
    (moved : TableMoves side table (.data channel bytes) next)
    {member : Nat} {conn : Conn} (held : table.owner channel = some member)
    (present : table.conns[member]? = some conn)
    (full : congested conn = true) : WaitsForRoom next := by
  cases moved with
  | data free =>
      exact ⟨member, bytes, conn, by simp [held], present, full⟩

/-! ## Getting the lock -/

/-- Everybody who waits for the lock can do what it waits for. -/
def LockFree (waiting : Client) (client : Client) : Prop :=
  (∀ family channel target,
    waiting.accept family = .inserting channel target →
      (client.step (.registered family channel target)).isSome = true) ∧
  ∀ member conn, waiting.channels.conns[member]? = some conn →
    conn.phase = .locking →
      (client.step (.channels (.conn member .removed))).isSome = true

/-- The demux task's `send` returns, and the guard of the lock is dropped. -/
def releases : TableEvent → Bool
  | .admitted _ _ | .dropped _ _ => true
  | _ => false

/--
The lock is free, or the demux task frees it with its own next step, whatever
the applications do.
-/
def Acquirable (client : Client) : Prop :=
  LockFree client client ∨ ∃ event next, releases event = true ∧
    client.step (.channels event) = some next ∧ LockFree client next

section Lock

variable {client : Client}

theorem step_channels {event : TableEvent} {channels : ChannelTable}
    (up : client.link = .up) (own : ownTableEvent event = true)
    (taken : client.channels.step .client event = some channels) :
    client.step (.channels event) =
      some { client with channels := channels } := by
  rw [Client.step, if_pos up]
  simp [Client.stepTask, own, taken]

/-- A connection that is over is still in its place. -/
def KeepsLocking (before after : ChannelTable) : Prop :=
  ∀ (member : Nat) (conn : Conn), before.conns[member]? = some conn →
    conn.phase = .locking → after.conns[member]? = some conn

theorem lockFree_of_free {waiting : Client} (up : client.link = .up)
    (free : client.channels.delivering = none)
    (accept : client.accept = waiting.accept)
    (keeps : KeepsLocking waiting.channels client.channels) :
    LockFree waiting client := by
  constructor
  · intro family channel target inserting
    rw [← accept] at inserting
    rw [Client.step, if_pos up]
    simp [Client.stepTask, inserting, ChannelTable.step, free]
  · intro member conn present locking
    have found := keeps member conn present locking
    rw [Client.step, if_pos up]
    simp [Client.stepTask, ownTableEvent, ChannelTable.step, found,
      ChannelTable.permits, free, Conn.step, locking]

/-- The demux task's next step, if there is room or nobody to make any. -/
theorem release_of_room {table : ChannelTable} {member : Nat}
    {bytes : Bytes} {conn : Conn}
    (waiting : table.delivering = some (member, bytes))
    (present : table.conns[member]? = some conn)
    (room : congested conn = false) :
    ∃ event next, releases event = true ∧
      table.step .client event = some next ∧ next.delivering = none ∧
        KeepsLocking table next := by
  by_cases alive : conn.receiverAlive = true
  · have short : conn.inbound.length < inboundCapacity := by
      simpa [congested, alive] using room
    have delivers : conn.step .client (.deliver bytes) =
        some { conn with inbound := conn.inbound ++ [bytes] } := by
      rw [Conn.step, if_pos ⟨alive, short⟩]
    refine ⟨.admitted member bytes,
      { table with
        conns := table.conns.set member
          { conn with inbound := conn.inbound ++ [bytes] }
        delivering := none }, rfl, ?_, rfl, ?_⟩
    · simp [ChannelTable.step, waiting, present, delivers]
    · intro other conn' found locking
      have different : member ≠ other := by
        rintro rfl
        rcases Option.some.inj (present.symm.trans found) with rfl
        simp [Conn.receiverAlive, locking] at alive
      simpa [List.getElem?_set_ne different] using found
  · refine ⟨.dropped member bytes, { table with delivering := none }, rfl,
      ?_, rfl, fun _ _ found _ => found⟩
    simp [ChannelTable.step, waiting, present, alive]

/-- Where there is room or nobody to make any, the lock can be had. -/
theorem acquirable_of_room (up : client.link = .up)
    (valid : client.channels.Valid)
    (room : ¬ WaitsForRoom client.channels) : Acquirable client := by
  cases waiting : client.channels.delivering with
  | none =>
      exact .inl (lockFree_of_free up waiting rfl fun _ _ found _ => found)
  | some pair =>
      rcases pair with ⟨member, bytes⟩
      rcases valid.waiting _ _ waiting with ⟨conn, present, _⟩
      have uncongested : congested conn = false := by
        by_contra full
        exact room ⟨member, bytes, conn, waiting, present,
          by simpa using full⟩
      rcases release_of_room waiting present uncongested with
        ⟨event, next, demux, taken, free, keeps⟩
      have own : ownTableEvent event = true := by
        cases event with
        | admitted | dropped => rfl
        | opened | data | closed | conn => cases demux
      exact .inr ⟨event, { client with channels := next }, demux,
        step_channels up own taken, lockFree_of_free up free rfl keeps⟩

end Lock

/-! ## Runs of the client -/

/-- The condition of a step of the client. -/
def Client.findsRoom (client : Client) (action : ClientAction) : Bool :=
  action.channels?.all (Rushtle.findsRoom client.channels)

theorem full_of_findsRoom {client : Client} {action : ClientAction}
    (full : client.findsRoom action = false) :
    ∃ channel bytes member conn,
      action.channels? = some (.data channel bytes) ∧
        client.channels.owner channel = some member ∧
        client.channels.conns[member]? = some conn ∧
          congested conn = true := by
  rw [Client.findsRoom] at full
  cases concerned : action.channels? with
  | none => simp [concerned] at full
  | some event =>
      rw [concerned, Option.all_some] at full
      cases event with
      | data channel bytes =>
          rw [findsRoom, Option.all_eq_false] at full
          rcases full with ⟨conn, found, congested⟩
          rcases Option.bind_eq_some_iff.mp found with
            ⟨member, held, present⟩
          exact ⟨channel, bytes, member, conn, rfl, held, present,
            by simpa using congested⟩
      | _ => cases full

/-- Before the link is up, nobody waits for anything. -/
structure Untouched (client : Client) : Prop where
  accept : client.accept = fun _ => .accepting
  channels : client.channels = .empty

section Runs

variable {dnsEnabled : Bool} {trace : List ClientAction} {client : Client}

theorem untouched_of_run
    (run : Run Client.step (.start dnsEnabled) trace client) :
    client.link = .up ∨ Untouched client := by
  refine run.invariant
    (motive := fun _ client => client.link = .up ∨ Untouched client)
    (.inr ⟨rfl, rfl⟩) ?_
  intro trace client action next _ before taken
  by_cases up : client.link = .up
  · left
    cases ClientMoves.of_step taken with
    | link down taken => exact (down up).elim
    | recv up idle free dispatched => cases dispatched <;> exact up
    | _ => exact up
  · right
    have untouched := before.resolve_left up
    rw [Client.step, if_neg up] at taken
    rcases Client.stepLink_spec taken with ⟨link, rfl⟩
    exact ⟨untouched.accept, untouched.channels⟩

theorem Untouched.acquirable (untouched : Untouched client) :
    Acquirable client := by
  left
  constructor
  · intro family channel target inserting
    rw [untouched.accept] at inserting
    cases inserting
  · intro member conn present
    rw [untouched.channels] at present
    cases present

/-- The demux task does not keep the lock. -/
structure LockYielded (client : Client) : Prop where
  room : ¬ WaitsForRoom client.channels
  acquirable : Acquirable client

theorem lockYielded_of_meets
    (run : Run Client.step (.start dnsEnabled) trace client)
    (meets : Meets Client.step (.start dnsEnabled)
      (fun _ client action => client.findsRoom action = true) trace) :
    LockYielded client := by
  have room : ¬ WaitsForRoom client.channels := by
    refine run.invariant_of_meets
      (motive := fun _ client => ¬ WaitsForRoom client.channels) ?_ ?_ meets
    · rintro ⟨member, bytes, conn, waiting, _⟩
      cases waiting
    · intro trace client action next earlier room finds taken waits
      have projected := (ClientMoves.of_step taken).projects_channels
      rcases projected.kept_or_step with
        ⟨_, same⟩ | ⟨event, concerned, stepped⟩
      · rw [same] at waits
        exact room waits
      · rw [Client.findsRoom, concerned] at finds
        rcases waits.source (.of_run (run_channels earlier))
          (TableMoves.of_step stepped) with was | full
        · exact room was
        · rw [Option.all_some, full] at finds
          cases finds
  refine ⟨room, ?_⟩
  rcases untouched_of_run run with up | untouched
  · exact acquirable_of_room up (.of_run (run_channels run)) room
  · exact untouched.acquirable

/--
In every state of a run the lock can be had, exactly if no `TCP_DATA` comes
for a queue that is full.
-/
theorem lockYielded_iff
    (run : Run Client.step (.start dnsEnabled) trace client) :
    (∀ before after reached, trace = before ++ after →
        Run Client.step (.start dnsEnabled) before reached →
          LockYielded reached) ↔
      Meets Client.step (.start dnsEnabled)
        (fun _ client action => client.findsRoom action = true) trace := by
  constructor
  · rintro yielded before action after state rfl reached
    rcases run.step_at with ⟨same, next, again, taken, _⟩
    rcases again.deterministic reached with rfl
    have later := yielded (before ++ [action]) after next (by simp)
      (again.extend taken)
    have projected := (ClientMoves.of_step taken).projects_channels
    by_contra full
    rw [Bool.not_eq_true] at full
    rcases full_of_findsRoom full with
      ⟨channel, bytes, member, conn, concerned, held, present, congested⟩
    rw [concerned] at projected
    exact later.room
      (.of_data (TableMoves.of_step projected) held present congested)
  · rintro meets before after reached rfl first
    exact lockYielded_of_meets first meets.take

end Runs

/-! ## An application that has stopped reading -/

/-- The demux task reads a byte for the only connection, and hands it over. -/
def deliversByte : List ClientAction :=
  [.recv (dataFrame 1 [0]), .channels (.admitted 0 [0])]

/-- A connection is announced, and its application gets a first byte. -/
def announced : List ClientAction :=
  accepting ++
    [.enqueued (.conn 0) (connectFrame 1 (originalDst someAddress))] ++
      deliversByte

/-- The lock can be had while the first byte waits in the queue. -/
theorem lockYielded_announced :
    ∃ client, Run Client.step (.start true) announced client ∧
      LockYielded client := by
  rcases run_of_execute_any (guarded Client.step Client.findsRoom)
    (.start true) announced (fun _ => true) (by decide) with
    ⟨client, passed, _⟩
  rcases passed.of_guarded with ⟨run, meets⟩
  exact ⟨client, run,
    (lockYielded_iff run).mpr meets announced [] client (by simp) run⟩

/-- Whether the demux task waits for room in the queue of a connection. -/
def waitsForRoomIn (member : Nat) (table : ChannelTable) : Bool :=
  match table.delivering, table.conns[member]? with
  | some (other, _), some conn => other == member && congested conn
  | _, _ => false

theorem waitsForRoom_of_waitsForRoomIn {member : Nat} {table : ChannelTable}
    (waits : waitsForRoomIn member table = true) : WaitsForRoom table := by
  unfold waitsForRoomIn at waits
  split at waits
  · next other bytes conn waiting present =>
      rcases Bool.and_eq_true_iff.mp waits with ⟨same, full⟩
      rcases beq_iff_eq.mp same with rfl
      exact ⟨other, bytes, conn, waiting, present, full⟩
  · cases waits

/--
The application takes one byte and reads no further.  64 bytes fill the queue,
one more keeps the demux task, and a second application cannot be accepted.
-/
def stalling : List ClientAction :=
  announced ++ [.channels (.conn 0 .take)] ++
    (List.replicate 64 deliversByte).flatten ++
      [.recv (dataFrame 1 [0]), .accepted .v4 2 someAddress]

theorem lock_kept_from_second_connection :
    ∃ client, Run Client.step (.start true) stalling client ∧
      client.accept .v4 = .inserting 2 (originalDst someAddress) ∧
        ¬ LockYielded client := by
  rcases run_of_execute_any Client.step (.start true) stalling
    (fun client =>
      decide (client.accept .v4 = .inserting 2 (originalDst someAddress)) &&
        waitsForRoomIn 0 client.channels) (by decide +kernel) with
    ⟨client, run, reached⟩
  rcases Bool.and_eq_true_iff.mp reached with ⟨inserting, waits⟩
  exact ⟨client, run, of_decide_eq_true inserting, fun yielded =>
    yielded.room (waitsForRoom_of_waitsForRoomIn waits)⟩

end KubectlSshuttle.Rushtle
