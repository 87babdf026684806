import KubectlSshuttle.Rushtle.Channels

/-!
# From the frame loop to the socket

As long as a channel identifier serves one connection only, what the frame
loop is given for the channel reaches that connection: every `TCP_DATA` is
delivered in order while the connection's receiver lives, and the connection
stops writing only at the channel's end, after a failed write, or on an empty
buffer.
-/

namespace KubectlSshuttle.Rushtle.Channels

open KubectlSshuttle.Lib.RustText
open KubectlSshuttle.Lib.Transition
open KubectlSshuttle.Rushtle.Ssnet
open KubectlSshuttle.Rushtle.Connection

/-! ## What the frame loop is given for one channel -/

/-- What happens to one channel. -/
inductive ChannelEvent where
  | opened (target : Text × UInt16)
  | data (bytes : Bytes)
  | closed (cause : Closing)
deriving DecidableEq, Repr

/-- What a step of the table means to the channel. -/
def TableEvent.onChannel (channel : UInt16) :
    TableEvent → Option ChannelEvent
  | .opened other target =>
      if other = channel then some (.opened target) else none
  | .data other bytes => if other = channel then some (.data bytes) else none
  | .closed other cause =>
      if other = channel then some (.closed cause) else none
  | _ => none

/-- The history of one channel. -/
def channelEvents (channel : UInt16) (trace : List TableEvent) :
    List ChannelEvent :=
  trace.filterMap (TableEvent.onChannel channel)

theorem channelEvents_snoc (channel : UInt16) (trace : List TableEvent)
    (event : TableEvent) :
    channelEvents channel (trace ++ [event]) =
      channelEvents channel trace ++ (event.onChannel channel).toList := by
  cases h : event.onChannel channel <;> simp [channelEvents, h]

/-- The bytes that are offered to the holder. -/
def ChannelEvent.offered? : ChannelEvent → Option Bytes
  | .data bytes => some bytes
  | _ => none

/-- The buffers that the frame loop was to deliver. -/
def offered (events : List ChannelEvent) : List Bytes :=
  events.filterMap ChannelEvent.offered?

theorem offered_append (left right : List ChannelEvent) :
    offered (left ++ right) = offered left ++ offered right := by
  simp [offered]

@[simp]
theorem offered_data (datas : List Bytes) :
    offered (datas.map ChannelEvent.data) = datas := by
  induction datas with
  | nil => rfl
  | cons data rest induction =>
      simpa [offered, ChannelEvent.offered?] using induction

/-! ## Channels that are used once -/

/-- A channel that was registered and then fed. -/
def fed (target : Text × UInt16) (datas : List Bytes) : List ChannelEvent :=
  .opened target :: datas.map .data

theorem fed_snoc (target : Text × UInt16) (datas : List Bytes)
    (data : Bytes) :
    fed target (datas ++ [data]) = fed target datas ++ [.data data] := by
  simp [fed]

theorem closed_notMem_fed (target : Text × UInt16) (datas : List Bytes)
    (cause : Closing) : .closed cause ∉ fed target datas := by
  simp [fed]

/-- The channel was registered, fed and closed at most once, in this order. -/
inductive UsedOnce : List ChannelEvent → Prop where
  | unused : UsedOnce []
  | streaming (target : Text × UInt16) (datas : List Bytes) :
      UsedOnce (fed target datas)
  | ended (target : Text × UInt16) (datas : List Bytes) (cause : Closing) :
      UsedOnce (fed target datas ++ [.closed cause])

/-- Only a channel that has not been used is registered. -/
theorem UsedOnce.before_opened {events : List ChannelEvent}
    {target : Text × UInt16}
    (once : UsedOnce (events ++ [.opened target])) : events = [] := by
  generalize whole : events ++ [ChannelEvent.opened target] = all at once
  cases once with
  | unused => simp at whole
  | streaming other datas =>
      rcases List.eq_nil_or_concat datas with rfl | ⟨initial, final, rfl⟩
      · have alone : events ++ [.opened target] = [] ++ fed other [] :=
          whole
        exact (List.append_inj' alone rfl).1
      · rw [List.concat_eq_append, fed_snoc] at whole
        have same := (List.append_inj' whole rfl).2
        simp at same
  | ended other datas cause =>
      have same := (List.append_inj' whole rfl).2
      simp at same

/-- Only a registered channel is fed or closed, and only before its end. -/
theorem UsedOnce.before_other {events : List ChannelEvent}
    {event : ChannelEvent} (once : UsedOnce (events ++ [event]))
    (other : ∀ target, event ≠ .opened target) :
    ∃ target datas, events = fed target datas := by
  generalize whole : events ++ [event] = all at once
  cases once with
  | unused => simp at whole
  | streaming target datas =>
      rcases List.eq_nil_or_concat datas with rfl | ⟨initial, final, rfl⟩
      · have alone : events ++ [event] = [] ++ fed target [] := whole
        have same := (List.append_inj' alone rfl).2
        exact (other target (List.cons.inj same).1).elim
      · rw [List.concat_eq_append, fed_snoc] at whole
        exact ⟨target, initial, (List.append_inj' whole rfl).1⟩
  | ended target datas cause =>
      exact ⟨target, datas, (List.append_inj' whole rfl).1⟩

theorem UsedOnce.init {events : List ChannelEvent} {event : ChannelEvent}
    (once : UsedOnce (events ++ [event])) : UsedOnce events := by
  cases event with
  | opened target =>
      rw [once.before_opened]
      exact .unused
  | data bytes =>
      obtain ⟨target, datas, same⟩ := once.before_other (by simp)
      rw [same]
      exact .streaming target datas
  | closed cause =>
      obtain ⟨target, datas, same⟩ := once.before_other (by simp)
      rw [same]
      exact .streaming target datas

/-- Nothing follows the closing of a channel. -/
theorem UsedOnce.not_closed {events : List ChannelEvent}
    {event : ChannelEvent} (once : UsedOnce (events ++ [event]))
    (cause : Closing) : .closed cause ∉ events := by
  cases event with
  | opened target =>
      rw [once.before_opened]
      simp
  | data bytes =>
      obtain ⟨target, datas, rfl⟩ := once.before_other (by simp)
      exact closed_notMem_fed target datas cause
  | closed other =>
      obtain ⟨target, datas, rfl⟩ := once.before_other (by simp)
      exact closed_notMem_fed target datas cause

/-! ## The invariant of one connection -/

/-- The writing half ended for a reason that loses nothing. -/
def Settled (events : List ConnEvent) (channel : List ChannelEvent) : Prop :=
  .writeError ∈ events ∨ [] ∈ offered channel ∨
    (∃ cause, .closed cause ∈ channel) ∧
      written events = (offered channel).flatten

theorem Settled.snoc {events : List ConnEvent}
    {channel : List ChannelEvent} {event : ConnEvent}
    (settled : Settled events channel) (noWrite : event.written = []) :
    Settled (events ++ [event]) channel := by
  rcases settled with failed | empty | ⟨closed, same⟩
  · exact Or.inl (List.mem_append_left _ failed)
  · exact Or.inr (Or.inl empty)
  · refine Or.inr (Or.inr ⟨closed, ?_⟩)
    rw [written_snoc, noWrite, List.append_nil, same]

/-- The buffer that the frame loop waits to deliver to a connection. -/
def ChannelTable.waitingFor (table : ChannelTable) (member : Nat) :
    List Bytes :=
  match table.delivering with
  | some (other, bytes) => if other = member then [bytes] else []
  | none => []

theorem ChannelTable.waitingFor_of_free {table : ChannelTable}
    (free : table.delivering = none) (member : Nat) :
    table.waitingFor member = [] := by
  simp [ChannelTable.waitingFor, free]

/-- A lookup for another channel does not find the connection. -/
theorem ChannelTable.waitingFor_looked_up {table : ChannelTable}
    (valid : table.Valid) {member : Nat} {conn : Conn} {id : UInt16}
    {bytes : Bytes} (present : table.conns[member]? = some conn)
    (other : id ≠ conn.channel) :
    ChannelTable.waitingFor
      { table with
        delivering := (table.owner id).map fun found => (found, bytes) }
      member = [] := by
  cases held : table.owner id with
  | none => simp [ChannelTable.waitingFor]
  | some found =>
      have different : found ≠ member := by
        rintro rfl
        rcases valid.owned _ _ held with ⟨holder, present', onChannel⟩
        rcases Option.some.inj (present.symm.trans present') with rfl
        exact other onChannel.symm
      simp [ChannelTable.waitingFor, different]

/--
How the deliveries to a connection stand, as long as its channel is used
once.  `current` is the time before the channel is closed, `cut` the time
after it, and `isOver` says why the writing half ended.
-/
structure Delivery (table : ChannelTable) (member : Nat) (conn : Conn)
    (events : List ConnEvent) (channel : List ChannelEvent) : Prop where
  registered : channel ≠ []
  alone : ∀ other conn', table.conns[other]? = some conn' →
    conn'.channel = conn.channel → other = member
  within : delivered events <+: offered channel
  current : conn.receiverAlive = true →
    table.owner conn.channel = some member →
      offered channel = delivered events ++ table.waitingFor member
  cut : conn.receiverAlive = true →
    table.owner conn.channel ≠ some member →
      (∃ cause, .closed cause ∈ channel) ∧
        offered channel = delivered events
  isOver : (∃ reader, conn.phase = .streaming reader .shuttingDown) ∨
      .shutdown ∈ events →
    Settled events channel

section Step

variable {side : Side} {table next : ChannelTable} {member : Nat}
  {conn : Conn} {events : List ConnEvent} {channel : List ChannelEvent}

/-- A step that concerns neither the connection nor its channel. -/
theorem Delivery.unconcerned
    (delivery : Delivery table member conn events channel)
    (alone : ∀ other conn', next.conns[other]? = some conn' →
      conn'.channel = conn.channel → other = member)
    (owner : next.owner conn.channel = table.owner conn.channel)
    (waiting : next.waitingFor member = table.waitingFor member) :
    Delivery next member conn events channel where
  registered := delivery.registered
  alone := alone
  within := delivery.within
  current := by
    intro alive held
    rw [waiting]
    exact delivery.current alive (owner ▸ held)
  cut := by
    intro alive lost
    exact delivery.cut alive (owner ▸ lost)
  isOver := delivery.isOver

/-- A channel in use stays with its only connection. -/
theorem TableMoves.still_alone {event : TableEvent}
    (moved : TableMoves side table event next) {id : UInt16}
    (alone : ∀ other conn', table.conns[other]? = some conn' →
      conn'.channel = id → other = member)
    (notOpened : ∀ target, event ≠ .opened id target) :
    ∀ other conn', next.conns[other]? = some conn' →
      conn'.channel = id → other = member := by
  intro other conn' present same
  cases before : table.conns[other]? with
  | some earlier =>
      rcases moved.keeps_channel before with ⟨later, present', sameChannel, _⟩
      rcases Option.some.inj (present.symm.trans present') with rfl
      exact alone other earlier before (sameChannel ▸ same)
  | none =>
      rcases moved.conn_of_absent before present with
        ⟨id', target, rfl, _, _, rfl, _⟩
      obtain rfl : id' = id := same
      exact (notOpened target rfl).elim

/-- The frame loop looks the connection's channel up. -/
theorem Delivery.fed {bytes : Bytes}
    (delivery : Delivery table member conn events channel)
    (once : UsedOnce (channel ++ [.data bytes]))
    (free : table.delivering = none) :
    Delivery
      { table with
        delivering :=
          (table.owner conn.channel).map fun other => (other, bytes) }
      member conn events (channel ++ [.data bytes]) := by
  have idle := ChannelTable.waitingFor_of_free free member
  constructor
  · simp
  · exact delivery.alone
  · rw [offered_append]
    exact delivery.within.trans (List.prefix_append _ _)
  · intro alive held
    have before := delivery.current alive held
    rw [idle, List.append_nil] at before
    have held' : table.owner conn.channel = some member := held
    rw [offered_append, before]
    simp [ChannelTable.waitingFor, held', offered, ChannelEvent.offered?]
  · intro alive lost
    rcases delivery.cut alive lost with ⟨⟨cause, closed⟩, _⟩
    exact (once.not_closed cause closed).elim
  · intro ended
    rcases delivery.isOver ended with failed | empty | ⟨⟨cause, closed⟩, _⟩
    · exact Or.inl failed
    · refine Or.inr (Or.inl ?_)
      rw [offered_append]
      exact List.mem_append_left _ empty
    · exact (once.not_closed cause closed).elim

/-- The frame loop closes the connection's channel. -/
theorem Delivery.closed {cause : Closing}
    (delivery : Delivery table member conn events channel)
    (once : UsedOnce (channel ++ [.closed cause]))
    (free : table.delivering = none) :
    Delivery
      { table with
        owner := Function.update table.owner conn.channel none }
      member conn events (channel ++ [.closed cause]) := by
  have idle := ChannelTable.waitingFor_of_free free member
  have same : offered (channel ++ [.closed cause]) = offered channel := by
    simp [offered, ChannelEvent.offered?]
  constructor
  · simp
  · exact delivery.alone
  · rw [same]
    exact delivery.within
  · intro alive held
    simp at held
  · intro alive lost
    refine ⟨⟨cause, by simp⟩, ?_⟩
    rw [same]
    by_cases held : table.owner conn.channel = some member
    · simpa [idle] using delivery.current alive held
    · exact (delivery.cut alive held).2
  · intro ended
    rcases delivery.isOver ended with failed | empty | ⟨⟨earlier, closed⟩, _⟩
    · exact Or.inl failed
    · exact Or.inr (Or.inl (same ▸ empty))
    · exact (once.not_closed earlier closed).elim

/-- The buffer that the frame loop waits with is put in the queue. -/
theorem Delivery.admitted {bytes : Bytes}
    (delivery : Delivery table member conn events channel)
    (valid : table.Valid) (present : table.conns[member]? = some conn)
    (waiting : table.delivering = some (member, bytes))
    (alive : conn.receiverAlive = true) :
    Delivery
      { table with
        conns := table.conns.set member
          { conn with inbound := conn.inbound ++ [bytes] }
        delivering := none }
      member { conn with inbound := conn.inbound ++ [bytes] }
      (events ++ [.deliver bytes]) channel := by
  rcases valid.waiting _ _ waiting with ⟨holder, found, held⟩
  rcases Option.some.inj (present.symm.trans found) with rfl
  have now := delivery.current alive held
  simp only [ChannelTable.waitingFor, waiting, if_true] at now
  have history : delivered (events ++ [.deliver bytes]) =
      offered channel := by
    rw [now, delivered_snoc]
    rfl
  constructor
  · exact delivery.registered
  · intro other conn' found' same
    by_cases itself : other = member
    · exact itself
    · rw [List.getElem?_set_ne (Ne.symm itself)] at found'
      exact delivery.alone other conn' found' same
  · exact ⟨[], by rw [List.append_nil, history]⟩
  · intro _ _
    simp [history, ChannelTable.waitingFor]
  · intro _ lost
    exact (lost held).elim
  · intro ended
    refine (delivery.isOver ?_).snoc rfl
    rcases ended with shutting | shut
    · exact Or.inl shutting
    · exact Or.inr (by simpa using shut)

/-- The connection's receiver is gone when the frame loop's `send` fails. -/
theorem Delivery.dropped
    (delivery : Delivery table member conn events channel)
    (gone : conn.receiverAlive = false) :
    Delivery { table with delivering := none } member conn events
      channel where
  registered := delivery.registered
  alone := delivery.alone
  within := delivery.within
  current := by
    intro alive
    rw [gone] at alive
    cases alive
  cut := by
    intro alive
    rw [gone] at alive
    cases alive
  isOver := delivery.isOver

/-- No step of a connection brings its receiver back. -/
theorem receiverAlive_of_moves {event : ConnEvent} {conn' : Conn}
    (moved : Moves side conn event conn')
    (alive : conn'.receiverAlive = true) :
    conn.receiverAlive = true := by
  cases moved with
  | deliver wasAlive room => exact wasAlive
  | connected phase | connectFailed phase | announced phase
  | stopped phase | announceFailed phase | stopFailed phase
  | take phase queue | queueClosed phase queue | write phase nonempty
  | writeError phase =>
      simp [Conn.receiverAlive, phase]
  | sentData phase | sentEof phase | dataFailed phase | eofFailed phase
  | readBytes phase nonempty small | readEof phase | readError phase =>
      simpa [Conn.receiverAlive, phase] using alive
  | shutdown phase => simp [Conn.receiverAlive] at alive
  | joined phase => simp [Conn.receiverAlive] at alive
  | removed phase => simp [Conn.receiverAlive] at alive

/-- Why a step of the connection ends its writing half. -/
theorem Delivery.over_step {event : ConnEvent} {conn' : Conn}
    {target : Text × UInt16}
    (delivery : Delivery table member conn events channel)
    (connRun : Run (Conn.step side)
      (Conn.fresh side conn.channel target) events conn)
    (permitted : table.permits member conn event = true)
    (moved : Moves side conn event conn')
    (ended : (∃ reader, conn'.phase = .streaming reader .shuttingDown) ∨
      .shutdown ∈ events ++ [event]) :
    Settled (events ++ [event]) channel := by
  have shut := shut_of_shutdown connRun
  have isOver := delivery.isOver
  cases moved with
  | deliver alive room => cases permitted
  | writeError phase => exact Or.inl (by simp)
  | shutdown phase => exact (isOver (Or.inl ⟨_, phase⟩)).snoc rfl
  | queueClosed phase queue =>
      have lost : table.owner conn.channel ≠ some member := by
        simpa [ChannelTable.permits] using permitted
      obtain ⟨closed, same⟩ :=
        delivery.cut (by simp [Conn.receiverAlive, phase]) lost
      have whole := (WriteInv.of_run connRun).whole
        (by simp [phase, WriteTask.inLoop])
      refine Or.inr (Or.inr ⟨closed, ?_⟩)
      rw [written_snoc, same, ← whole]
      simp [ConnEvent.written, Conn.unwritten, phase, queue]
  | @take reader buffer rest phase queue =>
      rcases ended with ⟨other, shutting⟩ | shutdown
      · have empty : buffer = [] := by
          simp only [WriteTask.take, Phase.streaming.injEq] at shutting
          by_contra nonempty
          simp [nonempty] at shutting
        have queued := inbound_suffix connRun
        rw [queue, empty] at queued
        exact Or.inr (Or.inl (delivery.within.mem
          (queued.mem List.mem_cons_self)))
      · have before := shut (by simpa using shutdown)
        simp [phase, Phase.shut] at before
  | @write reader bytes rest phase nonempty =>
      rcases ended with ⟨other, shutting⟩ | shutdown
      · simp only [Phase.streaming.injEq] at shutting
        unfold WriteTask.after at shutting
        split at shutting <;> simp at shutting
      · have before := shut (by simpa using shutdown)
        simp [phase, Phase.shut] at before
  | connected phase | connectFailed phase | announced phase
  | stopped phase | announceFailed phase | stopFailed phase =>
      rcases ended with ⟨other, shutting⟩ | shutdown
      · simp at shutting
      · have before := shut (by simpa using shutdown)
        simp [phase, Phase.shut] at before
  | joined phase | removed phase =>
      rcases ended with ⟨other, shutting⟩ | shutdown
      · simp at shutting
      · exact (isOver (Or.inr (by simpa using shutdown))).snoc rfl
  | sentData phase | sentEof phase | dataFailed phase | eofFailed phase
  | readBytes phase nonempty small | readEof phase | readError phase =>
      refine (isOver ?_).snoc rfl
      rcases ended with ⟨other, shutting⟩ | shutdown
      · left
        simp only [Phase.streaming.injEq] at shutting
        rw [phase, shutting.2]
        exact ⟨_, rfl⟩
      · exact Or.inr (by simpa using shutdown)

/-- A task of the connection moves. -/
theorem Delivery.moved {event : ConnEvent} {conn' : Conn}
    {target : Text × UInt16}
    (delivery : Delivery table member conn events channel)
    (connRun : Run (Conn.step side)
      (Conn.fresh side conn.channel target) events conn)
    (present : table.conns[member]? = some conn)
    (permitted : table.permits member conn event = true)
    (taken : conn.step side event = some conn') :
    Delivery (table.update member conn' event) member conn'
      (events ++ [event]) channel := by
  have moved := Moves.of_step taken
  have alone := (TableMoves.conn present permitted taken).still_alone
    delivery.alone (by simp)
  have sameChannel := moved.frame.1
  have history : delivered (events ++ [event]) = delivered events := by
    cases event with
    | deliver buffer => cases permitted
    | _ => simp [delivered_snoc, ConnEvent.delivered?]
  have owner : conn'.receiverAlive = true →
      (table.update member conn' event).owner conn.channel =
        table.owner conn.channel := by
    intro alive
    by_cases removed : event = .removed
    · subst removed
      cases moved with
      | removed phase => simp [Conn.receiverAlive] at alive
    · simp [ChannelTable.update, removed]
  constructor
  · exact delivery.registered
  · rw [sameChannel]
    exact alone
  · rw [history]
    exact delivery.within
  · intro alive held
    rw [sameChannel, owner alive] at held
    rw [history]
    exact delivery.current (receiverAlive_of_moves moved alive) held
  · intro alive lost
    rw [sameChannel, owner alive] at lost
    rw [history]
    exact delivery.cut (receiverAlive_of_moves moved alive) lost
  · exact delivery.over_step connRun permitted moved

end Step

/-! ## Every connection of a run -/

/-- A connection that was not registered has no history. -/
theorem connEvents_of_absent {side : Side} {trace : List TableEvent}
    {table : ChannelTable}
    (run : Run (ChannelTable.step side) .empty trace table) {member : Nat}
    (absent : table.conns[member]? = none) :
    connEvents member trace = [] := by
  refine run.invariant
    (motive := fun trace table =>
      table.conns[member]? = none → connEvents member trace = [])
    (fun _ => rfl) ?_ absent
  intro trace table event next _ before taken absent
  have moved := TableMoves.of_step taken
  have wasAbsent : table.conns[member]? = none := by
    cases present : table.conns[member]? with
    | none => rfl
    | some conn =>
        rcases moved.conn_of_present present with ⟨conn', present', _⟩
        rw [absent] at present'
        cases present'
  rw [connEvents_snoc, before wasAbsent, moved.concerns_of_absent wasAbsent]
  rfl

/-- Every connection was registered, for its channel and its target. -/
theorem opened_mem_channelEvents {side : Side} {trace : List TableEvent}
    {table : ChannelTable}
    (run : Run (ChannelTable.step side) .empty trace table) {member : Nat}
    {conn : Conn} (present : table.conns[member]? = some conn) :
    .opened conn.target ∈ channelEvents conn.channel trace := by
  refine run.invariant
    (motive := fun trace table =>
      ∀ conn, table.conns[member]? = some conn →
        .opened conn.target ∈ channelEvents conn.channel trace)
    (fun conn present => by simp [ChannelTable.empty] at present)
    ?_ conn present
  intro trace table event next _ before taken conn present
  have moved := TableMoves.of_step taken
  rw [channelEvents_snoc]
  cases was : table.conns[member]? with
  | some earlier =>
      rcases moved.keeps_channel was with
        ⟨later, present', sameChannel, sameTarget⟩
      rcases Option.some.inj (present.symm.trans present') with rfl
      rw [sameChannel, sameTarget]
      exact List.mem_append_left _ (before earlier was)
  | none =>
      rcases moved.conn_of_absent was present with
        ⟨id, target, rfl, _, _, rfl, _⟩
      simp [TableEvent.onChannel, Conn.fresh]

/-- All connections whose channel is used once have their deliveries. -/
def Delivered (trace : List TableEvent) (table : ChannelTable) : Prop :=
  ∀ member conn, table.conns[member]? = some conn →
    UsedOnce (channelEvents conn.channel trace) →
      Delivery table member conn (connEvents member trace)
        (channelEvents conn.channel trace)

theorem Delivery.fresh {side : Side} {table : ChannelTable}
    {id : UInt16} {target : Text × UInt16} {channel : List ChannelEvent}
    (free : table.delivering = none)
    (opened : channel = [.opened target])
    (others : ∀ (other : Nat) (conn' : Conn),
      table.conns[other]? = some conn' → conn'.channel ≠ id) :
    Delivery
      { table with
        owner := Function.update table.owner id (some table.conns.length)
        conns := table.conns ++ [Conn.fresh side id target] }
      table.conns.length (Conn.fresh side id target) [] channel := by
  subst opened
  constructor
  · simp
  · intro other conn' present onChannel
    by_contra different
    rcases Nat.lt_or_ge other table.conns.length with before | after
    · dsimp only at present
      rw [List.getElem?_append_left before] at present
      exact others other conn' present onChannel
    · have bound := (List.getElem?_eq_some_iff.mp present).1
      rw [List.length_append, List.length_singleton] at bound
      omega
  · exact List.nil_prefix
  · intro _ _
    simp [offered, ChannelEvent.offered?, delivered,
      ChannelTable.waitingFor, free]
  · intro _ lost
    simp [Conn.fresh] at lost
  · rintro (⟨reader, shutting⟩ | shutdown)
    · cases side <;> cases shutting
    · cases shutdown

/-- A step that registers a connection. -/
theorem Delivered.created {side : Side} {trace : List TableEvent}
    {table next : ChannelTable} {event : TableEvent} {member : Nat}
    {conn : Conn}
    (run : Run (ChannelTable.step side) .empty trace table)
    (moved : TableMoves side table event next)
    (absent : table.conns[member]? = none)
    (present : next.conns[member]? = some conn)
    (once : UsedOnce (channelEvents conn.channel (trace ++ [event]))) :
    Delivery next member conn (connEvents member (trace ++ [event]))
      (channelEvents conn.channel (trace ++ [event])) := by
  rcases moved.conn_of_absent absent present with
    ⟨id, target, rfl, rfl, free, rfl, _⟩
  have onChannel : TableEvent.onChannel (Conn.fresh side id target).channel
      (.opened id target) = some (.opened target) := by
    simp [TableEvent.onChannel, Conn.fresh]
  rw [channelEvents_snoc, onChannel] at once ⊢
  have unused := once.before_opened
  rw [connEvents_snoc, connEvents_of_absent run absent]
  cases moved with
  | opened free =>
      refine Delivery.fresh free (by rw [unused]; rfl) ?_
      intro other conn' found same
      refine List.ne_nil_of_mem (opened_mem_channelEvents run found) ?_
      rw [same]
      exact unused

/-- A step of a run with the connection already there. -/
theorem Delivered.kept {side : Side} {trace : List TableEvent}
    {table next : ChannelTable} {event : TableEvent} {member : Nat}
    {conn conn' : Conn}
    (run : Run (ChannelTable.step side) .empty trace table)
    (before : Delivered trace table)
    (moved : TableMoves side table event next)
    (present : table.conns[member]? = some conn)
    (present' : next.conns[member]? = some conn')
    (once : UsedOnce (channelEvents conn.channel trace ++
      (event.onChannel conn.channel).toList)) :
    Delivery next member conn'
      (connEvents member trace ++ (event.concerns member).toList)
      (channelEvents conn.channel trace ++
        (event.onChannel conn.channel).toList) := by
  have valid := ChannelTable.Valid.of_run run
  have registered :=
    List.ne_nil_of_mem (opened_mem_channelEvents run present)
  have delivery := before member conn present (by
    cases onChannel : event.onChannel conn.channel with
    | none => simpa [onChannel] using once
    | some event =>
        rw [onChannel] at once
        exact once.init)
  cases moved with
  | @opened id target free =>
      have bound := (List.getElem?_eq_some_iff.mp present).1
      rw [List.getElem?_append_left bound, present] at present'
      rcases Option.some.inj present' with rfl
      have different : id ≠ conn.channel := by
        rintro rfl
        rw [TableEvent.onChannel, if_pos rfl] at once
        exact registered once.before_opened
      simp only [TableEvent.onChannel, different, if_false,
        TableEvent.concerns, Option.toList_none, List.append_nil]
      refine delivery.unconcerned ?_ ?_ rfl
      · have moved : TableMoves side table (.opened id target) _ :=
          .opened free
        exact moved.still_alone delivery.alone (by simp [different])
      · exact Function.update_of_ne (Ne.symm different) _ _
  | @data id bytes free =>
      rcases Option.some.inj (present.symm.trans present') with rfl
      simp only [TableEvent.concerns, Option.toList_none, List.append_nil]
      by_cases same : id = conn.channel
      · subst same
        simp only [TableEvent.onChannel, if_true, Option.toList_some]
          at once ⊢
        exact delivery.fed once free
      · simp only [TableEvent.onChannel, same, if_false,
          Option.toList_none, List.append_nil]
        refine delivery.unconcerned delivery.alone rfl ?_
        rw [ChannelTable.waitingFor_of_free free]
        exact ChannelTable.waitingFor_looked_up valid present same
  | @closed id cause free =>
      rcases Option.some.inj (present.symm.trans present') with rfl
      simp only [TableEvent.concerns, Option.toList_none, List.append_nil]
      by_cases same : id = conn.channel
      · subst same
        simp only [TableEvent.onChannel, if_true, Option.toList_some]
          at once ⊢
        exact delivery.closed once free
      · simp only [TableEvent.onChannel, same, if_false,
          Option.toList_none, List.append_nil]
        refine delivery.unconcerned delivery.alone ?_ rfl
        exact Function.update_of_ne (Ne.symm same) _ _
  | @admitted other bytes holder holder' waiting found taken =>
      simp only [TableEvent.onChannel, Option.toList_none, List.append_nil]
      by_cases same : other = member
      · subst same
        rcases Option.some.inj (present.symm.trans found) with rfl
        have bound := (List.getElem?_eq_some_iff.mp present).1
        simp only [List.getElem?_set_self bound, Option.some.injEq]
          at present'
        subst present'
        simp only [TableEvent.concerns, if_true, Option.toList_some]
        cases Moves.of_step taken with
        | deliver alive room =>
            exact delivery.admitted valid present waiting alive
      · simp only [List.getElem?_set_ne same, present, Option.some.injEq]
          at present'
        subst present'
        simp only [TableEvent.concerns, same, if_false, Option.toList_none,
          List.append_nil]
        refine delivery.unconcerned ?_ rfl ?_
        · exact (TableMoves.admitted waiting found taken).still_alone
            delivery.alone (by simp)
        · simp [ChannelTable.waitingFor, waiting, same]
  | @dropped other bytes holder waiting found gone =>
      rcases Option.some.inj (present.symm.trans present') with rfl
      simp only [TableEvent.onChannel, TableEvent.concerns,
        Option.toList_none, List.append_nil]
      by_cases same : other = member
      · subst same
        rcases Option.some.inj (present.symm.trans found) with rfl
        exact delivery.dropped gone
      · refine delivery.unconcerned delivery.alone rfl ?_
        simp [ChannelTable.waitingFor, waiting, same]
  | @conn other event holder holder' found permitted taken =>
      simp only [TableEvent.onChannel, Option.toList_none, List.append_nil]
      by_cases same : other = member
      · subst same
        rcases Option.some.inj (present.symm.trans found) with rfl
        have bound := (List.getElem?_eq_some_iff.mp present).1
        simp only [ChannelTable.update, List.getElem?_set_self bound,
          Option.some.injEq] at present'
        subst present'
        simp only [TableEvent.concerns, if_true, Option.toList_some]
        exact delivery.moved (run_conn run present) present permitted taken
      · simp only [ChannelTable.update, List.getElem?_set_ne same, present,
          Option.some.injEq] at present'
        subst present'
        simp only [TableEvent.concerns, same, if_false, Option.toList_none,
          List.append_nil]
        refine delivery.unconcerned ?_ ?_ rfl
        · exact (TableMoves.conn found permitted taken).still_alone
            delivery.alone (by simp)
        · have apart : conn.channel ≠ holder'.channel := by
            intro equal
            refine same (delivery.alone other holder found ?_)
            rw [equal, (Moves.of_step taken).frame.1]
          simp only [ChannelTable.update]
          split
          · exact Function.update_of_ne apart _ _
          · rfl

theorem Delivered.step {side : Side} {trace : List TableEvent}
    {table next : ChannelTable} {event : TableEvent}
    (run : Run (ChannelTable.step side) .empty trace table)
    (before : Delivered trace table)
    (taken : table.step side event = some next) :
    Delivered (trace ++ [event]) next := by
  have moved := TableMoves.of_step taken
  intro member conn' present' once
  cases present : table.conns[member]? with
  | none => exact Delivered.created run moved present present' once
  | some conn =>
      rcases moved.keeps_channel present with ⟨later, found, same, _⟩
      rcases Option.some.inj (present'.symm.trans found) with rfl
      rw [channelEvents_snoc, same] at once ⊢
      rw [connEvents_snoc]
      exact Delivered.kept run before moved present present' once

/-- The invariant holds throughout every run. -/
theorem Delivered.of_run {side : Side} {trace : List TableEvent}
    {table : ChannelTable}
    (run : Run (ChannelTable.step side) .empty trace table) :
    Delivered trace table :=
  run.invariant (motive := Delivered)
    (fun member conn present => by simp [ChannelTable.empty] at present)
    (fun _ _ _ _ earlier before taken => before.step earlier taken)

end KubectlSshuttle.Rushtle.Channels
