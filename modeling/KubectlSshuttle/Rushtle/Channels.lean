import Mathlib.Logic.Function.Basic
import KubectlSshuttle.Rushtle.ConnectionRuns

/-!
# The map of open channels

Each end keeps a map from channel identifiers to the senders of the inbound
queues, behind one lock.  The frame loop looks a channel up for every
`TCP_DATA` and waits for room in the queue with the lock held; it registers or
removes channels for the other frames; and every connection removes its
channel when it ends, whoever is registered there by then.

Connections are numbered in the order of their registration, so that two
connections with the same channel are told apart.
-/

namespace KubectlSshuttle.Rushtle.Channels

open KubectlSshuttle.Lib.RustText
open KubectlSshuttle.Lib.Transition
open KubectlSshuttle.Rushtle.Ssnet
open KubectlSshuttle.Rushtle.Connection

/-- The map of channels and all connections there have been. -/
structure ChannelTable where
  /-- the connection whose sender the map holds for a channel -/
  owner : UInt16 → Option Nat
  /-- all connections, in the order of their registration -/
  conns : List Conn
  /-- the frame loop holds the lock and waits for room in a queue -/
  delivering : Option (Nat × Bytes)

/-- No connection has been registered. -/
def ChannelTable.empty : ChannelTable where
  owner := fun _ => none
  conns := []
  delivering := none

/-- The two commands that share one arm of the frame loops. -/
inductive Closing where
  | eof
  | stopSending
deriving DecidableEq, Repr

/-- What the frame loop and the connections do to the table. -/
inductive TableEvent where
  /-- a connection is registered -/
  | opened (channel : UInt16) (target : Text × UInt16)
  /-- the frame loop looks up the queue for a `TCP_DATA` -/
  | data (channel : UInt16) (bytes : Bytes)
  /-- the frame loop handles `TCP_EOF` or `TCP_STOP_SENDING` -/
  | closed (channel : UInt16) (cause : Closing)
  /-- the frame loop's `send` succeeds -/
  | admitted (member : Nat) (bytes : Bytes)
  /-- the frame loop's `send` fails, the receiver being gone -/
  | dropped (member : Nat) (bytes : Bytes)
  /-- a task of a connection moves -/
  | conn (member : Nat) (event : ConnEvent)
deriving DecidableEq, Repr

/-- What a connection's own step needs from the map and its lock. -/
def ChannelTable.permits (table : ChannelTable) (member : Nat) (conn : Conn) :
    ConnEvent → Bool
  | .deliver _ => false
  | .queueClosed => table.owner conn.channel != some member
  | .removed => table.delivering.isNone
  | _ => true

/-- A step of a connection, together with what it does to the map. -/
def ChannelTable.update (table : ChannelTable) (member : Nat) (conn : Conn)
    (event : ConnEvent) : ChannelTable :=
  { table with
    owner :=
      if event = .removed then
        Function.update table.owner conn.channel none
      else table.owner
    conns := table.conns.set member conn }

/-- One step of the table. -/
def ChannelTable.step (side : Side) (table : ChannelTable) :
    TableEvent → Option ChannelTable
  | .opened channel target =>
      if table.delivering = none then
        some
          { table with
            owner :=
              Function.update table.owner channel (some table.conns.length)
            conns := table.conns ++ [Conn.fresh side channel target] }
      else none
  | .data channel bytes =>
      if table.delivering = none then
        some
          { table with
            delivering :=
              (table.owner channel).map fun member => (member, bytes) }
      else none
  | .closed channel _ =>
      if table.delivering = none then
        some
          { table with owner := Function.update table.owner channel none }
      else none
  | .admitted member bytes =>
      if table.delivering = some (member, bytes) then
        match table.conns[member]? with
        | none => none
        | some conn =>
            (conn.step side (.deliver bytes)).map fun next =>
              { table with
                conns := table.conns.set member next
                delivering := none }
      else none
  | .dropped member bytes =>
      if table.delivering = some (member, bytes) then
        match table.conns[member]? with
        | none => none
        | some conn =>
            if conn.receiverAlive then none
            else some { table with delivering := none }
      else none
  | .conn member event =>
      match table.conns[member]? with
      | none => none
      | some conn =>
          if table.permits member conn event then
            (conn.step side event).map fun next =>
              table.update member next event
          else none

/-- The events that belong neither to the frame loop nor to `out_tx`. -/
def ownTableEvent : TableEvent → Bool
  | .admitted _ _ | .dropped _ _ => true
  | .conn _ (.sent _) | .conn _ .sendFailed => false
  | .conn _ _ => true
  | .opened _ _ | .data _ _ | .closed _ _ => false

/-! ## What one step can do -/

/-- All that one step can do, with its guards. -/
inductive TableMoves (side : Side) (table : ChannelTable) :
    TableEvent → ChannelTable → Prop where
  | opened {channel : UInt16} {target : Text × UInt16}
      (free : table.delivering = none) :
      TableMoves side table (.opened channel target)
        { table with
          owner :=
            Function.update table.owner channel (some table.conns.length)
          conns := table.conns ++ [Conn.fresh side channel target] }
  | data {channel : UInt16} {bytes : Bytes}
      (free : table.delivering = none) :
      TableMoves side table (.data channel bytes)
        { table with
          delivering :=
            (table.owner channel).map fun member => (member, bytes) }
  | closed {channel : UInt16} {cause : Closing}
      (free : table.delivering = none) :
      TableMoves side table (.closed channel cause)
        { table with owner := Function.update table.owner channel none }
  | admitted {member : Nat} {bytes : Bytes} {conn next : Conn}
      (waiting : table.delivering = some (member, bytes))
      (present : table.conns[member]? = some conn)
      (taken : conn.step side (.deliver bytes) = some next) :
      TableMoves side table (.admitted member bytes)
        { table with
          conns := table.conns.set member next
          delivering := none }
  | dropped {member : Nat} {bytes : Bytes} {conn : Conn}
      (waiting : table.delivering = some (member, bytes))
      (present : table.conns[member]? = some conn)
      (gone : conn.receiverAlive = false) :
      TableMoves side table (.dropped member bytes)
        { table with delivering := none }
  | conn {member : Nat} {event : ConnEvent} {conn next : Conn}
      (present : table.conns[member]? = some conn)
      (permitted : table.permits member conn event = true)
      (taken : conn.step side event = some next) :
      TableMoves side table (.conn member event)
        (table.update member next event)

theorem TableMoves.of_step {side : Side} {table next : ChannelTable}
    {event : TableEvent} (taken : table.step side event = some next) :
    TableMoves side table event next := by
  cases event with
  | opened channel target =>
      simp only [ChannelTable.step, Option.ite_none_right_eq_some,
        Option.some.injEq] at taken
      rcases taken with ⟨free, rfl⟩
      exact .opened free
  | data channel bytes =>
      simp only [ChannelTable.step, Option.ite_none_right_eq_some,
        Option.some.injEq] at taken
      rcases taken with ⟨free, rfl⟩
      exact .data free
  | closed channel cause =>
      simp only [ChannelTable.step, Option.ite_none_right_eq_some,
        Option.some.injEq] at taken
      rcases taken with ⟨free, rfl⟩
      exact .closed free
  | admitted member bytes =>
      simp only [ChannelTable.step, Option.ite_none_right_eq_some] at taken
      rcases taken with ⟨waiting, taken⟩
      split at taken
      · cases taken
      · next conn present =>
          rcases Option.map_eq_some_iff.mp taken with ⟨conn', moved, rfl⟩
          exact .admitted waiting present moved
  | dropped member bytes =>
      simp only [ChannelTable.step, Option.ite_none_right_eq_some] at taken
      rcases taken with ⟨waiting, taken⟩
      split at taken
      · cases taken
      · next conn present =>
          split at taken
          · cases taken
          · next gone =>
              simp only [Option.some.injEq] at taken
              subst taken
              exact .dropped waiting present (by simpa using gone)
  | conn member event =>
      simp only [ChannelTable.step] at taken
      split at taken
      · cases taken
      · next conn present =>
          split at taken
          · next permitted =>
              rcases Option.map_eq_some_iff.mp taken with ⟨conn', moved, rfl⟩
              exact .conn present permitted moved
          · cases taken

/-! ## The connections of a run -/

/-- What an event of the table means for one connection. -/
def TableEvent.concerns (member : Nat) : TableEvent → Option ConnEvent
  | .conn other event => if other = member then some event else none
  | .admitted other bytes =>
      if other = member then some (.deliver bytes) else none
  | _ => none

/-- The channel that an event registers a connection for. -/
def TableEvent.openedChannel : TableEvent → Option UInt16
  | .opened channel _ => some channel
  | _ => none

/-- The history of one connection. -/
def connEvents (member : Nat) (trace : List TableEvent) : List ConnEvent :=
  trace.filterMap (TableEvent.concerns member)

theorem connEvents_snoc (member : Nat) (trace : List TableEvent)
    (event : TableEvent) :
    connEvents member (trace ++ [event]) =
      connEvents member trace ++ (event.concerns member).toList := by
  cases h : event.concerns member <;> simp [connEvents, h]

/-- No step removes a connection, and each moves by its own steps. -/
theorem TableMoves.conn_of_present {side : Side}
    {table next : ChannelTable} {event : TableEvent}
    (moved : TableMoves side table event next) {member : Nat} {conn : Conn}
    (present : table.conns[member]? = some conn) :
    ∃ conn', next.conns[member]? = some conn' ∧
      Projects (Conn.step side) (event.concerns member) conn conn' := by
  have bound := (List.getElem?_eq_some_iff.mp present).1
  cases moved with
  | opened free =>
      refine ⟨conn, ?_, rfl⟩
      rw [List.getElem?_append_left bound, present]
  | data free => exact ⟨conn, present, rfl⟩
  | closed free => exact ⟨conn, present, rfl⟩
  | dropped waiting other gone => exact ⟨conn, present, rfl⟩
  | @admitted other bytes conn' next' waiting found taken =>
      by_cases same : other = member
      · subst same
        rcases Option.some.inj (found.symm.trans present) with rfl
        refine ⟨next', ?_, ?_⟩
        · simp [List.getElem?_set_self bound]
        · simpa [TableEvent.concerns, Projects] using taken
      · refine ⟨conn, ?_, ?_⟩
        · simp [List.getElem?_set_ne same, present]
        · simp [TableEvent.concerns, same, Projects]
  | @conn other event conn' next' found permitted taken =>
      by_cases same : other = member
      · subst same
        rcases Option.some.inj (found.symm.trans present) with rfl
        refine ⟨next', ?_, ?_⟩
        · simp [ChannelTable.update, List.getElem?_set_self bound]
        · simpa [TableEvent.concerns, Projects] using taken
      · refine ⟨conn, ?_, ?_⟩
        · simp [ChannelTable.update, List.getElem?_set_ne same, present]
        · simp [TableEvent.concerns, same, Projects]

/-- Only a registered connection moves. -/
theorem TableMoves.concerns_of_absent {side : Side}
    {table next : ChannelTable} {event : TableEvent}
    (moved : TableMoves side table event next) {member : Nat}
    (absent : table.conns[member]? = none) :
    event.concerns member = none := by
  cases moved with
  | opened free => rfl
  | data free => rfl
  | closed free => rfl
  | dropped waiting present gone => rfl
  | @admitted other bytes conn next waiting present taken =>
      have different : other ≠ member := by
        rintro rfl
        rw [absent] at present
        cases present
      simp [TableEvent.concerns, different]
  | @conn other event conn next present permitted taken =>
      have different : other ≠ member := by
        rintro rfl
        rw [absent] at present
        cases present
      simp [TableEvent.concerns, different]

/-- A connection that is new after a step was registered by it. -/
theorem TableMoves.conn_of_absent {side : Side}
    {table next : ChannelTable} {event : TableEvent}
    (moved : TableMoves side table event next) {member : Nat} {conn : Conn}
    (absent : table.conns[member]? = none)
    (present : next.conns[member]? = some conn) :
    ∃ channel target, event = .opened channel target ∧
      member = table.conns.length ∧ table.delivering = none ∧
      conn = Conn.fresh side channel target ∧
      next.owner =
        Function.update table.owner channel (some member) ∧
      next.delivering = none := by
  have bound := List.getElem?_eq_none_iff.mp absent
  cases moved with
  | @opened channel target free =>
      have length := (List.getElem?_eq_some_iff.mp present).1
      rw [List.length_append, List.length_singleton] at length
      obtain rfl : member = table.conns.length := by omega
      simp only [List.getElem?_concat_length, Option.some.injEq] at present
      exact ⟨channel, target, rfl, rfl, free, present.symm, rfl, free⟩
  | data free => simp [absent] at present
  | closed free => simp [absent] at present
  | dropped waiting other gone => simp [absent] at present
  | admitted waiting found step =>
      have length := (List.getElem?_eq_some_iff.mp present).1
      rw [List.length_set] at length
      omega
  | conn found permitted step =>
      have length := (List.getElem?_eq_some_iff.mp present).1
      rw [ChannelTable.update, List.length_set] at length
      omega

/-- A step of one connection leaves the channels of all as they are. -/
theorem map_channel_set {conns : List Conn} {member : Nat}
    {conn next : Conn} (present : conns[member]? = some conn)
    (same : next.channel = conn.channel) :
    (conns.set member next).map Conn.channel = conns.map Conn.channel := by
  rcases List.getElem?_eq_some_iff.mp present with ⟨bound, rfl⟩
  rw [List.map_set, same, ← List.getElem_map Conn.channel,
    List.set_getElem_self]
  simpa using bound

/-- Only a registration adds to the channels of the connections. -/
theorem TableMoves.map_channel {side : Side} {table next : ChannelTable}
    {event : TableEvent} (moved : TableMoves side table event next) :
    next.conns.map Conn.channel =
      table.conns.map Conn.channel ++ event.openedChannel.toList := by
  cases moved with
  | opened free => simp [Conn.fresh, TableEvent.openedChannel]
  | data free => simp [TableEvent.openedChannel]
  | closed free => simp [TableEvent.openedChannel]
  | dropped waiting present gone => simp [TableEvent.openedChannel]
  | admitted waiting present taken =>
      simpa [TableEvent.openedChannel] using
        map_channel_set present (Moves.of_step taken).frame.1
  | conn present permitted taken =>
      simpa [TableEvent.openedChannel, ChannelTable.update] using
        map_channel_set present (Moves.of_step taken).frame.1

section Runs

variable {side : Side} {trace : List TableEvent} {table : ChannelTable}

/-- Every connection of a run has followed its own steps from the start. -/
theorem run_conn (run : Run (ChannelTable.step side) .empty trace table)
    {member : Nat} {conn : Conn}
    (present : table.conns[member]? = some conn) :
    Run (Conn.step side) (Conn.fresh side conn.channel conn.target)
      (connEvents member trace) conn := by
  have create : ∀ state event next,
      ChannelTable.step side state event = some next →
        state.conns[member]? = none → event.concerns member = none ∧
          (next.conns[member]? = none ∨ ∃ conn,
            (∃ channel target, conn = Conn.fresh side channel target) ∧
              next.conns[member]? = some conn) := by
    intro state event next taken absent
    have moved := TableMoves.of_step taken
    refine ⟨moved.concerns_of_absent absent, ?_⟩
    cases created : next.conns[member]? with
    | none => exact Or.inl rfl
    | some conn =>
        rcases moved.conn_of_absent absent created with
          ⟨channel, target, _, _, _, fresh, _⟩
        exact Or.inr ⟨conn, ⟨channel, target, fresh⟩, rfl⟩
  have simulate : ∀ state event next conn,
      ChannelTable.step side state event = some next →
        state.conns[member]? = some conn →
          ∃ conn', next.conns[member]? = some conn' ∧
            Projects (Conn.step side) (event.concerns member) conn
              conn' :=
    fun _ _ _ _ taken => (TableMoves.of_step taken).conn_of_present
  rcases run.project_created (fun table => table.conns[member]?)
    (TableEvent.concerns member)
    (fun conn => ∃ channel target, conn = Conn.fresh side channel target)
    rfl create simulate with
    ⟨absent, _⟩ | ⟨_, part, ⟨channel, target, rfl⟩, reached, connRun⟩
  · rw [present] at absent
    cases absent
  · rcases Option.some.inj (present.symm.trans reached) with rfl
    rcases keeps_frame connRun with ⟨sameChannel, sameTarget⟩
    rw [sameChannel, sameTarget]
    exact connRun

/-! ## The map and the waiting frame loop -/

/--
The map leads to registered connections of the right channel, and the frame
loop waits only for a connection that the map leads to.
-/
structure ChannelTable.Valid (table : ChannelTable) : Prop where
  owned : ∀ channel member, table.owner channel = some member →
    ∃ conn, table.conns[member]? = some conn ∧ conn.channel = channel
  waiting : ∀ member bytes, table.delivering = some (member, bytes) →
    ∃ conn, table.conns[member]? = some conn ∧
      table.owner conn.channel = some member

theorem ChannelTable.Valid.empty : ChannelTable.empty.Valid := by
  constructor
  · intro channel member held
    cases held
  · intro member bytes waiting
    cases waiting

/-- A connection keeps its place and its channel. -/
theorem TableMoves.keeps_channel {table next : ChannelTable}
    {event : TableEvent} (moved : TableMoves side table event next)
    {member : Nat} {conn : Conn}
    (present : table.conns[member]? = some conn) :
    ∃ conn', next.conns[member]? = some conn' ∧
      conn'.channel = conn.channel ∧ conn'.target = conn.target := by
  rcases moved.conn_of_present present with ⟨conn', present', moves⟩
  refine ⟨conn', present', ?_⟩
  cases concerned : event.concerns member with
  | none =>
      rw [concerned] at moves
      obtain rfl : conn' = conn := moves
      exact ⟨rfl, rfl⟩
  | some event =>
      rw [concerned] at moves
      exact (Moves.of_step moves).frame

/-- What the map holds after a step was there before, or was registered. -/
theorem TableMoves.owner_source {table next : ChannelTable}
    {event : TableEvent} (moved : TableMoves side table event next)
    {channel : UInt16} {member : Nat}
    (held : next.owner channel = some member) :
    table.owner channel = some member ∨
      ∃ target, event = .opened channel target ∧
        member = table.conns.length := by
  cases moved with
  | @opened other target free =>
      by_cases same : channel = other
      · subst same
        simp only [Function.update_self, Option.some.injEq] at held
        exact Or.inr ⟨target, rfl, held.symm⟩
      · left
        simpa [Function.update_of_ne same] using held
  | data free => exact Or.inl held
  | dropped waiting present gone => exact Or.inl held
  | admitted waiting present taken => exact Or.inl held
  | @closed other cause free =>
      by_cases same : channel = other
      · subst same
        simp at held
      · left
        simpa [Function.update_of_ne same] using held
  | @conn member event conn next present permitted taken =>
      simp only [ChannelTable.update] at held
      split at held
      · by_cases same : channel = next.channel
        · subst same
          simp at held
        · left
          simpa [Function.update_of_ne same] using held
      · exact Or.inl held

/-- What takes an entry out of the map, or puts another in its place. -/
theorem TableMoves.owner_lost {table next : ChannelTable}
    {event : TableEvent} (moved : TableMoves side table event next)
    {channel : UInt16} {member : Nat}
    (held : table.owner channel = some member)
    (lost : next.owner channel ≠ some member) :
    (∃ target, event = .opened channel target) ∨
      (∃ cause, event = .closed channel cause) ∨
        ∃ ended conn, event = .conn ended .removed ∧
          table.conns[ended]? = some conn ∧ conn.channel = channel := by
  cases moved with
  | @opened other target free =>
      by_cases same : channel = other
      · exact Or.inl ⟨target, by rw [same]⟩
      · simp only [Function.update_of_ne same] at lost
        exact (lost held).elim
  | @closed other cause free =>
      by_cases same : channel = other
      · exact Or.inr (Or.inl ⟨cause, by rw [same]⟩)
      · simp only [Function.update_of_ne same] at lost
        exact (lost held).elim
  | data free => exact (lost held).elim
  | admitted waiting present taken => exact (lost held).elim
  | dropped waiting present gone => exact (lost held).elim
  | @conn ended event conn next present permitted taken =>
      by_cases removed : event = .removed
      · subst removed
        simp only [ChannelTable.update, if_true] at lost
        by_cases same : channel = next.channel
        · refine Or.inr (Or.inr ⟨ended, conn, rfl, present, ?_⟩)
          rw [same, (Moves.of_step taken).frame.1]
        · simp only [Function.update_of_ne same] at lost
          exact (lost held).elim
      · simp only [ChannelTable.update, removed, if_false] at lost
        exact (lost held).elim

/-- While the frame loop waits it holds the lock, so that the map is fixed. -/
theorem TableMoves.owner_locked {table next : ChannelTable}
    {event : TableEvent} (moved : TableMoves side table event next)
    (locked : table.delivering.isSome) :
    next.owner = table.owner := by
  cases moved with
  | opened free => simp [free] at locked
  | data free => rfl
  | closed free => simp [free] at locked
  | admitted waiting present taken => rfl
  | dropped waiting present gone => rfl
  | @conn member event conn next present permitted taken =>
      have other : event ≠ .removed := by
        rintro rfl
        simp [ChannelTable.permits, Option.isNone_iff_eq_none] at permitted
        simp [permitted] at locked
      simp [ChannelTable.update, other]

/-- What the frame loop waits for after a step. -/
theorem TableMoves.waiting_source {table next : ChannelTable}
    {event : TableEvent} (moved : TableMoves side table event next)
    {member : Nat} {bytes : Bytes}
    (waiting : next.delivering = some (member, bytes)) :
    next.owner = table.owner ∧
      (table.delivering = some (member, bytes) ∨
        ∃ channel, event = .data channel bytes ∧
          table.owner channel = some member) := by
  cases moved with
  | opened free => simp [free] at waiting
  | closed free => simp [free] at waiting
  | admitted before present taken => cases waiting
  | dropped before present gone => cases waiting
  | @data channel data free =>
      rcases Option.map_eq_some_iff.mp waiting with ⟨other, held, same⟩
      rcases Prod.mk.inj same with ⟨rfl, rfl⟩
      exact ⟨rfl, Or.inr ⟨channel, rfl, held⟩⟩
  | conn present permitted taken =>
      have before : table.delivering = some (member, bytes) := waiting
      refine ⟨?_, Or.inl before⟩
      exact (TableMoves.conn present permitted taken).owner_locked
        (by simp [before])

theorem TableMoves.valid {table next : ChannelTable} {event : TableEvent}
    (moved : TableMoves side table event next) (valid : table.Valid) :
    next.Valid := by
  constructor
  · intro channel member held
    rcases moved.owner_source held with before | ⟨target, rfl, rfl⟩
    · rcases valid.owned _ _ before with ⟨conn, present, onChannel⟩
      rcases moved.keeps_channel present with ⟨conn', present', same, _⟩
      exact ⟨conn', present', same.trans onChannel⟩
    · cases moved with
      | opened free => exact ⟨_, List.getElem?_concat_length, rfl⟩
  · intro member bytes waiting
    rcases moved.waiting_source waiting with ⟨sameOwner, source⟩
    have before : ∃ conn, table.conns[member]? = some conn ∧
        table.owner conn.channel = some member := by
      rcases source with before | ⟨channel, rfl, held⟩
      · exact valid.waiting _ _ before
      · rcases valid.owned _ _ held with ⟨conn, present, onChannel⟩
        exact ⟨conn, present, by rw [onChannel, held]⟩
    rcases before with ⟨conn, present, held⟩
    rcases moved.keeps_channel present with ⟨conn', present', same, _⟩
    exact ⟨conn', present', by rw [sameOwner, same, held]⟩

theorem ChannelTable.Valid.of_run
    (run : Run (ChannelTable.step side) .empty trace table) : table.Valid :=
  run.invariant (motive := fun _ table => table.Valid)
    ChannelTable.Valid.empty
    (fun _ _ _ _ _ valid taken => (TableMoves.of_step taken).valid valid)

end Runs

end KubectlSshuttle.Rushtle.Channels
