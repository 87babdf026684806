import KubectlSshuttle.Rushtle.Channels
import KubectlSshuttle.Rushtle.UdpFlows

/-!
# Tasks that come to their end by themselves

A task holds a sender of `out_tx` until it ends.  A connection whose target
still talks, or whose inbound queue the map keeps open, waits for somebody
else; and so does a UDP channel that is still listed.  The others need nothing
from outside: each can take a step until it is done, and no step of theirs
makes them wait again.
-/

namespace KubectlSshuttle.Rushtle.Channels

open KubectlSshuttle.Lib.RustText
open KubectlSshuttle.Lib.Transition
open KubectlSshuttle.Rushtle.Ssnet
open KubectlSshuttle.Rushtle.Connection

/-! ## Connections -/

/--
What a connection cannot do without the network.  A write to the socket is not
counted here, as if the peer always took it.
-/
def outsideConn : ConnEvent → Bool
  | .connected | .connectFailed | .read _ | .writeError => true
  | _ => false

/-- The reading task has seen the end of its socket. -/
def endingRead : ReadTask → Bool
  | .sendingEof | .done => true
  | .reading | .sending _ => false

/-- The writing task has left its loop. -/
def endingWrite : WriteTask → Bool
  | .shuttingDown | .done => true
  | .receiving | .writing _ => false

/--
The map does not keep the queue of a connection open: it holds no sender of
it, or somebody else with the same channel will take the entry away.
-/
def Released (table : ChannelTable) (member : Nat) (channel : UInt16) :
    Prop :=
  table.owner channel ≠ some member ∨ ∃ other conn, other ≠ member ∧
    table.conns[other]? = some conn ∧ conn.channel = channel ∧
      conn.phase ≠ .finished

/-- A connection that ends by itself. -/
def ConnWinds (table : ChannelTable) (member : Nat) (conn : Conn) : Prop :=
  match conn.phase with
  | .refused | .refusedLocking | .locking | .finished => True
  | .streaming reader writer =>
      endingRead reader = true ∧
        (endingWrite writer = true ∨ [] ∈ conn.inbound ∨
          Released table member conn.channel)
  | .connecting | .announcing | .abandoned => False

/-- All connections end by themselves. -/
structure TableWinds (table : ChannelTable) : Prop where
  free : table.delivering = none
  conns : ∀ member conn, table.conns[member]? = some conn →
    ConnWinds table member conn

/-- The writing task holds a buffer only while there is something in it. -/
def WritesSome (conn : Conn) : Prop :=
  ∀ reader rest, conn.phase = .streaming reader (.writing rest) → rest ≠ []

theorem WritesSome.step {side : Side} {conn next : Conn} {event : ConnEvent}
    (writes : WritesSome conn) (moved : Moves side conn event next) :
    WritesSome next := by
  intro reader rest phase
  cases moved with
  | deliver alive room => exact writes reader rest phase
  | sentData before | sentEof before | dataFailed before | eofFailed before
  | readBytes before nonempty small | readEof before | readError before =>
      cases phase
      exact writes _ rest before
  | @take reader' buffer rest' before queue =>
      simp only [Phase.streaming.injEq, WriteTask.take] at phase
      split at phase
      · cases phase.2
      · next nonempty =>
          rcases WriteTask.writing.inj phase.2 with rfl
          exact nonempty
  | @write reader' bytes rest' before nonempty =>
      simp only [Phase.streaming.injEq, WriteTask.after] at phase
      split at phase
      · cases phase.2
      · next nonempty =>
          rcases WriteTask.writing.inj phase.2 with rfl
          exact nonempty
  | _ => cases phase

theorem writesSome_of_run {side : Side} {trace : List TableEvent}
    {table : ChannelTable}
    (run : Run (ChannelTable.step side) .empty trace table) :
    ∀ conn ∈ table.conns, WritesSome conn := by
  intro conn member
  rcases List.mem_iff_getElem?.mp member with ⟨place, present⟩
  refine (run_conn run present).invariant
    (motive := fun _ conn => WritesSome conn) ?_ ?_
  · intro reader rest phase
    cases side <;> cases phase
  · exact fun _ _ _ _ _ writes taken => writes.step (Moves.of_step taken)

section Table

variable {table : ChannelTable} {member : Nat} {conn : Conn}

theorem step_conn {side : Side} {event : ConnEvent} {next : Conn}
    (present : table.conns[member]? = some conn)
    (permitted : table.permits member conn event = true)
    (taken : conn.step side event = some next) :
    table.step side (.conn member event) =
      some (table.update member next event) := by
  simp [ChannelTable.step, present, permitted, taken]

/-- A task whose frame is accepted goes on. -/
theorem sent_of_pending (side : Side) {frame : Frame}
    (present : table.conns[member]? = some conn)
    (pending : conn.pendingFrame = some frame) :
    ∃ next, table.step side (.conn member (.sent frame)) = some next := by
  have goes : ∃ phase, conn.phase.sent = some phase := by
    unfold Conn.pendingFrame at pending
    split at pending
    · next phase => exact ⟨_, by rw [phase, Phase.sent]⟩
    · next phase => exact ⟨_, by rw [phase, Phase.sent]⟩
    · next phase =>
        exact ⟨_, by rw [phase, Phase.sent, ReadTask.sent, Option.map_some]⟩
    · next phase =>
        exact ⟨_, by rw [phase, Phase.sent, ReadTask.sent, Option.map_some]⟩
    · cases pending
  rcases goes with ⟨phase, moved⟩
  exact ⟨_, step_conn present rfl (by
    rw [Conn.step, if_pos pending, moved, Option.map_some])⟩

/-- What a connection can do by itself. -/
def MovesAlone (table : ChannelTable) (member : Nat) (conn : Conn) : Prop :=
  (∃ frame, conn.pendingFrame = some frame) ∨
    ∃ event next, outsideConn event = false ∧
      ownTableEvent (.conn member event) = true ∧
        table.step .server (.conn member event) = some next

theorem movesAlone_of_step (event : ConnEvent)
    (inside : outsideConn event = false)
    (own : ownTableEvent (.conn member event) = true)
    (present : table.conns[member]? = some conn)
    (permitted : table.permits member conn event = true)
    (enabled : (conn.step .server event).isSome = true) :
    MovesAlone table member conn := by
  rcases Option.isSome_iff_exists.mp enabled with ⟨next, taken⟩
  exact .inr ⟨event, _, inside, own, step_conn present permitted taken⟩

/-- The queue is empty, and the writing task waits for the map. -/
def keptOpen (table : ChannelTable) (member : Nat) (conn : Conn) : Prop :=
  conn.phase = .streaming .done .receiving ∧ conn.inbound = [] ∧
    table.owner conn.channel = some member

theorem ConnWinds.moves (winds : ConnWinds table member conn)
    (free : table.delivering = none)
    (present : table.conns[member]? = some conn) (writes : WritesSome conn)
    (going : conn.phase ≠ .finished) (unkept : ¬ keptOpen table member conn) :
    MovesAlone table member conn := by
  rw [ConnWinds] at winds
  cases phase : conn.phase with
  | finished => exact (going phase).elim
  | connecting | announcing | abandoned =>
      rw [phase] at winds
      exact winds.elim
  | refused => exact .inl ⟨_, by rw [Conn.pendingFrame, phase]⟩
  | refusedLocking | locking =>
      have unlocked : table.permits member conn .removed = true := by
        simp [ChannelTable.permits, free]
      exact movesAlone_of_step .removed rfl rfl present unlocked
        (by simp [Conn.step, phase])
  | streaming reader writer =>
      rw [phase] at winds
      cases reader with
      | reading | sending => cases winds.1
      | sendingEof => exact .inl ⟨_, by rw [Conn.pendingFrame, phase]⟩
      | done =>
          cases writer with
          | done =>
              exact movesAlone_of_step .joined rfl rfl present rfl
                (by simp [Conn.step, phase])
          | shuttingDown =>
              exact movesAlone_of_step .shutdown rfl rfl present
                rfl (by simp [Conn.step, phase])
          | writing rest =>
              exact movesAlone_of_step (.write rest) rfl rfl present
                rfl (by simp [Conn.step, phase, writes _ rest phase])
          | receiving =>
              cases queue : conn.inbound with
              | cons buffer rest =>
                  exact movesAlone_of_step .take rfl rfl present
                    rfl (by simp [Conn.step, phase, queue])
              | nil =>
                  have unowned : table.owner conn.channel ≠ some member :=
                    fun owned => unkept ⟨phase, queue, owned⟩
                  exact movesAlone_of_step .queueClosed rfl rfl
                    present (by simpa [ChannelTable.permits] using unowned)
                    (by simp [Conn.step, phase, queue])

/-- Somebody can move as long as one of the connections is not done. -/
theorem TableWinds.moves (winds : TableWinds table)
    (writes : ∀ conn ∈ table.conns, WritesSome conn)
    (present : table.conns[member]? = some conn)
    (going : conn.phase ≠ .finished) :
    ∃ (mover : Nat) (moving : Conn), table.conns[mover]? = some moving ∧
      MovesAlone table mover moving := by
  have own := winds.conns member conn present
  by_cases kept : keptOpen table member conn
  · rcases kept with ⟨phase, queue, owned⟩
    simp only [ConnWinds, phase, queue, endingWrite, List.not_mem_nil,
      Bool.false_eq_true, false_or] at own
    rcases own.2 with unowned | ⟨other, conn', different, found, same, open'⟩
    · exact (unowned owned).elim
    · refine ⟨other, conn', found, (winds.conns _ _ found).moves winds.free
        found (writes _ (List.mem_of_getElem? found)) open' ?_⟩
      rintro ⟨_, _, others⟩
      rw [same, owned] at others
      exact different (Option.some.inj others).symm
  · exact ⟨member, conn, present, own.moves winds.free present
      (writes _ (List.mem_of_getElem? present)) going kept⟩

/-- A step of a connection does not take another's release back. -/
theorem Released.update {event : ConnEvent} {next : Conn}
    (present : table.conns[member]? = some conn)
    (moved : Moves .server conn event next) {waiting : Nat}
    {channel : UInt16} (released : Released table waiting channel) :
    Released (table.update member next event) waiting channel := by
  have same := moved.frame.1
  by_cases removed : event = .removed ∧ conn.channel = channel
  · rcases removed with ⟨rfl, rfl⟩
    left
    simp [ChannelTable.update, same]
  have owner : (table.update member next event).owner channel =
      table.owner channel := by
    simp only [ChannelTable.update]
    split
    · next ends =>
        have apart : channel ≠ next.channel := by
          rw [same]
          exact fun equal => removed ⟨ends, equal.symm⟩
        exact Function.update_of_ne apart _ _
    · rfl
  rcases released with unowned | ⟨other, conn', different, found, on, going⟩
  · left
    rwa [owner]
  right
  by_cases mover : member = other
  · subst mover
    rcases Option.some.inj (found.symm.trans present) with rfl
    have bound := (List.getElem?_eq_some_iff.mp found).1
    refine ⟨member, next, different, ?_, same.trans on, ?_⟩
    · simp [ChannelTable.update, List.getElem?_set_self bound]
    · intro finished
      cases moved with
      | removed phase => exact removed ⟨rfl, on⟩
      | deliver alive room => exact going finished
      | _ => cases finished
  · refine ⟨other, conn', different, ?_, on, going⟩
    simp [ChannelTable.update, List.getElem?_set_ne mover, found]

theorem ConnWinds.update {event : ConnEvent} {next : Conn}
    (present : table.conns[member]? = some conn)
    (moved : Moves .server conn event next) {waiting : Nat} {other : Conn}
    (winds : ConnWinds table waiting other) :
    ConnWinds (table.update member next event) waiting other := by
  rw [ConnWinds] at winds ⊢
  cases phase : other.phase with
  | streaming reader writer =>
      rw [phase] at winds
      exact ⟨winds.1,
        winds.2.imp_right (Or.imp_right (.update present moved))⟩
  | refused | refusedLocking | locking | finished => trivial
  | connecting | announcing | abandoned => rwa [phase] at winds

theorem connWinds_streaming {reader : ReadTask} {writer : WriteTask}
    (phase : conn.phase = .streaming reader writer) :
    ConnWinds table member conn ↔ endingRead reader = true ∧
      (endingWrite writer = true ∨ [] ∈ conn.inbound ∨
        Released table member conn.channel) := by
  rw [ConnWinds, phase]

/-- A connection that comes to its end goes on to do so. -/
theorem ConnWinds.step {event : ConnEvent} {next : Conn}
    (winds : ConnWinds table member conn)
    (moved : Moves .server conn event next)
    (undelivered : ∀ buffer, event ≠ .deliver buffer) :
    ConnWinds table member next := by
  cases moved with
  | deliver alive room => exact (undelivered _ rfl).elim
  | connected phase | connectFailed phase | announced phase
  | announceFailed phase =>
      rw [ConnWinds, phase] at winds
      exact winds.elim
  | stopped phase | stopFailed phase | joined phase | removed phase =>
      trivial
  | sentData phase | dataFailed phase | readBytes phase nonempty small
  | readEof phase | readError phase =>
      cases ((connWinds_streaming phase).mp winds).1
  | sentEof phase | eofFailed phase =>
      exact ⟨rfl, ((connWinds_streaming phase).mp winds).2⟩
  | queueClosed phase queue | writeError phase | shutdown phase =>
      exact ⟨((connWinds_streaming phase).mp winds).1, .inl rfl⟩
  | @write reader bytes rest phase nonempty =>
      rcases (connWinds_streaming phase).mp winds with ⟨ending, closes⟩
      exact ⟨ending, .inr (closes.resolve_left (by simp [endingWrite]))⟩
  | @take reader buffer rest phase queue =>
      rcases (connWinds_streaming phase).mp winds with ⟨ending, closes⟩
      refine ⟨ending, ?_⟩
      by_cases last : buffer = []
      · left
        simp [WriteTask.take, last, endingWrite]
      · right
        have waits := closes.resolve_left (by simp [endingWrite])
        rw [queue] at waits
        refine waits.imp_left fun closing => ?_
        exact (List.mem_cons.mp closing).resolve_left (Ne.symm last)

/-- The connections come to their end whatever they do. -/
theorem TableWinds.step {event : ConnEvent} {after : ChannelTable}
    (winds : TableWinds table)
    (moved : TableMoves .server table (.conn member event) after) :
    TableWinds after := by
  cases moved with
  | @conn member event conn next present permitted taken =>
      have inside := Moves.of_step taken
      refine ⟨winds.free, fun other conn' found => ?_⟩
      by_cases mover : member = other
      · subst mover
        have bound := (List.getElem?_eq_some_iff.mp present).1
        simp only [ChannelTable.update, List.getElem?_set_self bound,
          Option.some.injEq] at found
        subst found
        refine ConnWinds.update present inside
          ((winds.conns _ _ present).step inside ?_)
        rintro buffer rfl
        cases permitted
      · simp only [ChannelTable.update, List.getElem?_set_ne mover] at found
        exact (winds.conns _ _ found).update present inside

end Table

end KubectlSshuttle.Rushtle.Channels

namespace KubectlSshuttle.Rushtle.UdpFlows

/-! ## UDP channels -/

/-- The receiving task waits for no further datagram. -/
def FlowWinds (table : UdpTable) (flow : UdpFlow) : Prop :=
  flow.receiver = .done ∨
    flow.receiver ≠ .receiving ∧ table.owner flow.channel = none

/-- All UDP tasks end by themselves. -/
structure UdpWinds (table : UdpTable) : Prop where
  free : table.delivering = none
  flows : ∀ flow ∈ table.flows, FlowWinds table flow

theorem FlowWinds.step {table : UdpTable} {flow next : UdpFlow}
    {event : FlowEvent} (winds : FlowWinds table flow)
    (taken : flow.step (table.owner flow.channel).isSome event =
      some next) : FlowWinds table next := by
  cases event with
  | datagram peer body | receiveError =>
      simp only [UdpFlow.step, Option.ite_none_right_eq_some] at taken
      rcases winds with done | ⟨busy, _⟩
      · rw [done] at taken
        cases taken.1
      · exact (busy taken.1).elim
  | sent frame =>
      simp only [UdpFlow.step, Option.ite_none_right_eq_some,
        Option.some.injEq] at taken
      rcases taken with ⟨pending, rfl⟩
      rcases winds with done | ⟨busy, unlisted⟩
      · simp [UdpFlow.pendingFrame, done] at pending
      · exact .inr ⟨by simp, unlisted⟩
  | sendFailed =>
      simp only [UdpFlow.step, Option.ite_none_right_eq_some,
        Option.some.injEq] at taken
      rcases taken with ⟨_, rfl⟩
      exact .inl rfl
  | checked =>
      simp only [UdpFlow.step, Option.ite_none_right_eq_some,
        Option.some.injEq] at taken
      rcases taken with ⟨checks, rfl⟩
      rcases winds with done | ⟨busy, unlisted⟩
      · rw [done] at checks
        cases checks
      · exact .inl (by simp [unlisted])
  | sendTo address body =>
      simp only [UdpFlow.step] at taken
      split at taken
      · simp only [Option.ite_none_right_eq_some, Option.some.injEq] at taken
        rcases taken with ⟨_, rfl⟩
        exact winds
      · cases taken
  | queueClosed =>
      simp only [UdpFlow.step, Option.ite_none_right_eq_some,
        Option.some.injEq] at taken
      rcases taken with ⟨_, rfl⟩
      exact winds

theorem UdpWinds.step {table next : UdpTable} {member : Nat}
    {event : FlowEvent} (winds : UdpWinds table)
    (moved : UdpMoves table (.flow member event) next) : UdpWinds next := by
  cases moved with
  | @flow member event flow after present permitted taken =>
      refine ⟨winds.free, fun other found => ?_⟩
      rcases List.mem_or_eq_of_mem_set found with before | rfl
      · exact winds.flows other before
      · exact (winds.flows flow (List.mem_of_getElem? present)).step taken

/-- What a channel can do by itself. -/
theorem FlowWinds.moves {table : UdpTable} {member : Nat} {flow : UdpFlow}
    (winds : FlowWinds table flow) (free : table.delivering = none)
    (present : table.flows[member]? = some flow)
    (going : flow.receiver ≠ .done) :
    (∃ frame, flow.pendingFrame = some frame) ∨
      ∃ next, table.step (.flow member .checked) = some next := by
  have waits := winds.resolve_left going
  cases receiver : flow.receiver with
  | receiving => exact (waits.1 receiver).elim
  | done => exact (going receiver).elim
  | forwarding peer body =>
      exact .inl ⟨_, by rw [UdpFlow.pendingFrame, receiver]⟩
  | checking =>
      right
      refine Option.isSome_iff_exists.mp ?_
      simp [UdpTable.step, present, UdpTable.permits, free, UdpFlow.step,
        receiver]

end KubectlSshuttle.Rushtle.UdpFlows
