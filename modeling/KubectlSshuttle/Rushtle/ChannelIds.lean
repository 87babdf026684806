import KubectlSshuttle.Rushtle.ClientRuns

/-!
# The identifiers that the client hands out

Both accept loops and the DNS listener draw identifiers from one counter of 16
bits, which starts again at 1 after 65535.  Nobody asks whether an identifier
is still in use.  So an identifier is free when it is taken exactly if nothing
that is still open was taken a multiple of 65535 allocations before.
-/

namespace KubectlSshuttle.Rushtle

open KubectlSshuttle.Lib.RustText
open KubectlSshuttle.Lib.Address
open KubectlSshuttle.Lib.Transition
open KubectlSshuttle.Rushtle.Ssnet
open KubectlSshuttle.Rushtle.Connection
open KubectlSshuttle.Rushtle.Channels
open KubectlSshuttle.Rushtle.OutQueue

/-! ## The counter -/

/-- After how many allocations an identifier comes back. -/
def idCycle : Nat := 65535

/-- The identifier that an allocation takes, by its number. -/
def nthId (number : Nat) : UInt16 :=
  UInt16.ofNat (number % idCycle + 1)

theorem toNat_nthId (number : Nat) :
    (nthId number).toNat = number % idCycle + 1 := by
  have bound : number % idCycle < idCycle := Nat.mod_lt _ (by decide)
  rw [nthId, UInt16.toNat_ofNat']
  apply Nat.mod_eq_of_lt
  simp only [idCycle] at bound ⊢
  omega

theorem advance_nthId (number : Nat) :
    advance (nthId number) = nthId (number + 1) := by
  have value := toNat_nthId number
  have next := toNat_nthId (number + 1)
  unfold advance
  split
  · next room =>
      apply UInt16.toNat_inj.mp
      rw [UInt16.toNat_add, value, next]
      rw [value] at room
      simp only [idCycle] at room ⊢
      simp only [UInt16.reduceToNat]
      omega
  · next wraps =>
      apply UInt16.toNat_inj.mp
      rw [next]
      rw [value] at wraps
      simp only [idCycle] at wraps ⊢
      simp only [UInt16.reduceToNat]
      omega

theorem nthId_eq_iff {earlier later : Nat} (before : earlier ≤ later) :
    nthId earlier = nthId later ↔ idCycle ∣ later - earlier := by
  rw [← UInt16.toNat_inj, toNat_nthId, toNat_nthId]
  simp only [idCycle]
  omega

/-! ## The numbers of the allocations -/

/-- Which allocation everything that holds an identifier goes back to. -/
structure Ledger where
  /-- how many identifiers were taken -/
  taken : Nat
  accept : Family → Nat
  conns : List Nat
  listener : Nat
  inflight : UInt16 → Nat

/-- Nothing has been allocated. -/
def Ledger.empty : Ledger where
  taken := 0
  accept := fun _ => 0
  conns := []
  listener := 0
  inflight := fun _ => 0

/-- An allocation takes the next number, and its user keeps it. -/
def Ledger.record (ledger : Ledger) : ClientAction → Ledger
  | .accepted family _ _ =>
      { ledger with
        taken := ledger.taken + 1
        accept := Function.update ledger.accept family ledger.taken }
  | .registered family _ _ =>
      { ledger with conns := ledger.conns ++ [ledger.accept family] }
  | .queried _ _ _ =>
      { ledger with taken := ledger.taken + 1, listener := ledger.taken }
  | .inflight channel _ =>
      { ledger with
        inflight :=
          Function.update ledger.inflight channel ledger.listener }
  | _ => ledger

/-- The ledger after a run. -/
def ledgerOf (trace : List ClientAction) : Ledger :=
  trace.foldl Ledger.record .empty

theorem ledgerOf_snoc (trace : List ClientAction) (action : ClientAction) :
    ledgerOf (trace ++ [action]) = (ledgerOf trace).record action := by
  simp [ledgerOf]

theorem Ledger.record_of_plain {ledger : Ledger} {action : ClientAction}
    (plain : action.handlesId = false) : ledger.record action = ledger := by
  cases action <;> first | rfl | cases plain

/-- The ledger knows the identifiers that the client holds. -/
structure Ledger.Agrees (ledger : Ledger) (client : Client) : Prop where
  counter : client.nextId = nthId ledger.taken
  accept : ∀ family channel target,
    client.accept family = .inserting channel target →
      channel = nthId (ledger.accept family) ∧
        ledger.accept family < ledger.taken
  conns : client.channels.conns.map Conn.channel = ledger.conns.map nthId
  earlier : ∀ number ∈ ledger.conns, number < ledger.taken
  listener : ∀ channel peer query,
    client.listener = .registering channel peer query →
      channel = nthId ledger.listener ∧ ledger.listener < ledger.taken
  inflight : ∀ channel, client.dnsInflight channel ≠ none →
    channel = nthId (ledger.inflight channel) ∧
      ledger.inflight channel < ledger.taken

theorem Ledger.Agrees.start (dnsEnabled : Bool) :
    Ledger.empty.Agrees (.start dnsEnabled) := by
  constructor
  · rfl
  · intro family channel target inserting
    cases inserting
  · rfl
  · intro number member
    cases member
  · intro channel peer query registering
    cases registering
  · intro channel waiting
    exact (waiting rfl).elim

section Agrees

variable {ledger : Ledger} {client next : Client} {action : ClientAction}

theorem Ledger.Agrees.plain (agrees : ledger.Agrees client)
    {event : Option TableEvent} (kept : KeepsIds client next event) :
    ledger.Agrees next := by
  constructor
  · exact kept.counter.trans agrees.counter
  · rw [kept.accept]
    exact agrees.accept
  · exact kept.map_channel.trans agrees.conns
  · exact agrees.earlier
  · intro channel peer query registering
    exact agrees.listener channel peer query
      (kept.listener channel peer query registering)
  · intro channel waiting
    exact agrees.inflight channel (kept.inflight channel waiting)

/-- A further allocation keeps what is known about the earlier ones. -/
theorem Ledger.Agrees.taken (agrees : ledger.Agrees client) :
    ({ ledger with taken := ledger.taken + 1 } : Ledger).Agrees
      { client with nextId := advance client.nextId } := by
  constructor
  · simp only [agrees.counter, advance_nthId]
  · intro family channel target inserting
    rcases agrees.accept family channel target inserting with ⟨named, before⟩
    exact ⟨named, Nat.lt_succ_of_lt before⟩
  · exact agrees.conns
  · intro number member
    exact Nat.lt_succ_of_lt (agrees.earlier number member)
  · intro channel peer query registering
    rcases agrees.listener channel peer query registering with ⟨named, before⟩
    exact ⟨named, Nat.lt_succ_of_lt before⟩
  · intro channel waiting
    rcases agrees.inflight channel waiting with ⟨named, before⟩
    exact ⟨named, Nat.lt_succ_of_lt before⟩

theorem Ledger.Agrees.accepted (agrees : ledger.Agrees client)
    (family : Family) (address : SocketAddr) (target : Text × UInt16) :
    (ledger.record (.accepted family client.nextId address)).Agrees
      { client with
        nextId := advance client.nextId
        accept := Function.update client.accept family
          (.inserting client.nextId target) } := by
  have later := agrees.taken
  refine ⟨later.counter, ?_, later.conns, later.earlier, later.listener,
    later.inflight⟩
  intro other channel target' inserting
  by_cases same : other = family
  · subst same
    simp only [Function.update_self, AcceptTask.inserting.injEq] at inserting
    simp [Ledger.record, ← inserting.1, agrees.counter]
  · simp only [Function.update_of_ne same] at inserting
    simpa [Ledger.record, same] using
      later.accept other channel target' inserting

theorem Ledger.Agrees.queried (agrees : ledger.Agrees client)
    (peer : SocketAddr) (query held : Bytes) :
    (ledger.record (.queried client.nextId peer query)).Agrees
      { client with
        nextId := advance client.nextId
        listener := .registering client.nextId peer held } := by
  have later := agrees.taken
  refine ⟨later.counter, later.accept, later.conns, later.earlier, ?_,
    later.inflight⟩
  intro channel peer' query' registering
  simp only [ListenTask.registering.injEq] at registering
  simp [Ledger.record, ← registering.1, agrees.counter]

theorem Ledger.Agrees.registered (agrees : ledger.Agrees client)
    {family : Family} {channel : UInt16} {target : Text × UInt16}
    {channels : ChannelTable}
    (waits : client.accept family = .inserting channel target)
    (taken : client.channels.step .client (.opened channel target) =
      some channels) :
    (ledger.record (.registered family channel target)).Agrees
      { client with
        channels := channels
        accept := Function.update client.accept family .accepting } := by
  rcases agrees.accept family channel target waits with ⟨named, before⟩
  refine ⟨agrees.counter, ?_, ?_, ?_, agrees.listener, agrees.inflight⟩
  · intro other channel' target' inserting
    by_cases same : other = family
    · subst same
      simp at inserting
    · simp only [Function.update_of_ne same] at inserting
      exact agrees.accept other channel' target' inserting
  · rw [(TableMoves.of_step taken).map_channel, agrees.conns]
    simp [Ledger.record, TableEvent.openedChannel, named]
  · intro number member
    simp only [Ledger.record, List.mem_append, List.mem_singleton] at member
    rcases member with member | rfl
    · exact agrees.earlier number member
    · exact before

theorem Ledger.Agrees.inflighted (agrees : ledger.Agrees client)
    {channel : UInt16} {peer : SocketAddr} {query : Bytes}
    (waits : client.listener = .registering channel peer query) :
    (ledger.record (.inflight channel peer)).Agrees
      { client with
        dnsInflight :=
          Function.update client.dnsInflight channel (some peer)
        listener := .sending channel query } := by
  rcases agrees.listener channel peer query waits with ⟨named, before⟩
  refine ⟨agrees.counter, agrees.accept, agrees.conns, agrees.earlier, ?_,
    ?_⟩
  · intro other peer' query' registering
    cases registering
  · intro other waiting
    by_cases same : other = channel
    · subst same
      simpa [Ledger.record] using ⟨named, before⟩
    · simp only [ne_eq, Function.update_of_ne same] at waiting
      simpa [Ledger.record, same] using agrees.inflight other waiting

theorem Ledger.Agrees.step (agrees : ledger.Agrees client)
    (moved : ClientMoves client action next) :
    (ledger.record action).Agrees next := by
  cases plain : action.handlesId with
  | false =>
      rw [Ledger.record_of_plain plain]
      exact agrees.plain (moved.keepsIds plain)
  | true =>
      cases moved with
      | accepted up free => exact agrees.accepted _ _ _
      | registered up waits taken => exact agrees.registered waits taken
      | queried up free => exact agrees.queried _ _ _
      | inflight up waits => exact agrees.inflighted waits
      | link down taken =>
          cases LinkMoves.of_stepLink taken <;> cases plain
      | _ => cases plain

end Agrees

theorem Ledger.agrees_of_run {dnsEnabled : Bool} {trace : List ClientAction}
    {client : Client}
    (run : Run Client.step (.start dnsEnabled) trace client) :
    (ledgerOf trace).Agrees client :=
  run.invariant
    (motive := fun trace client => (ledgerOf trace).Agrees client)
    (Ledger.Agrees.start dnsEnabled)
    (fun trace _ action _ _ agrees taken => by
      rw [ledgerOf_snoc]
      exact agrees.step (ClientMoves.of_step taken))

/-! ## What is open -/

/-- The connection's `handle_conn` has not returned. -/
def running (conn : Conn) : Bool :=
  decide (conn.phase ≠ .finished) && decide (conn.phase ≠ .abandoned)

/-- No open connection has the channel. -/
def FreeFor (table : ChannelTable) (channel : UInt16) : Prop :=
  ∀ (member : Nat) (conn : Conn), table.conns[member]? = some conn →
    running conn = true → conn.channel ≠ channel

/-- The entry of an open connection's channel is its own. -/
def OwnEntries (table : ChannelTable) : Prop :=
  ∀ (member : Nat) (conn : Conn) other, table.conns[member]? = some conn →
    running conn = true → table.owner conn.channel = some other →
      other = member

/-- A connection that has returned does not come back. -/
theorem running_of_moves {side : Side} {conn next : Conn}
    {event : ConnEvent} (moved : Moves side conn event next)
    (going : running next = true) : running conn = true := by
  cases moved with
  | deliver alive room => exact going
  | removed phase => simp [running] at going
  | announceFailed phase => simp [running] at going
  | connected phase | connectFailed phase | announced phase
  | stopped phase | sentData phase | sentEof phase | stopFailed phase
  | dataFailed phase | eofFailed phase | readBytes phase nonempty small
  | readEof phase | readError phase | take phase queue
  | queueClosed phase queue | write phase nonempty | writeError phase
  | shutdown phase | joined phase => simp [running, phase]

section Table

variable {side : Side} {table next : ChannelTable} {event : TableEvent}

/-- An open connection was open before, or was just registered. -/
theorem running_source (moved : TableMoves side table event next)
    {member : Nat} {conn' : Conn}
    (present' : next.conns[member]? = some conn')
    (going : running conn' = true) :
    (∃ conn, table.conns[member]? = some conn ∧ running conn = true ∧
      conn'.channel = conn.channel) ∨
      ∃ target, event = .opened conn'.channel target ∧
        next.owner conn'.channel = some member := by
  cases present : table.conns[member]? with
  | none =>
      rcases moved.conn_of_absent present present' with
        ⟨channel, target, rfl, rfl, _, rfl, owner, _⟩
      exact Or.inr ⟨target, rfl, by simp [owner, Conn.fresh]⟩
  | some conn =>
      left
      rcases moved.conn_of_present present with ⟨kept, found, moves⟩
      rcases Option.some.inj (present'.symm.trans found) with rfl
      rcases moves.kept_or_step with ⟨_, rfl⟩ | ⟨own, _, stepped⟩
      · exact ⟨_, rfl, going, rfl⟩
      · have inside := Moves.of_step stepped
        exact ⟨conn, rfl, running_of_moves inside going, inside.frame.1⟩

theorem FreeFor.step {channel : UInt16} (free : FreeFor table channel)
    (moved : TableMoves side table event next)
    (other : ∀ target, event ≠ .opened channel target) :
    FreeFor next channel := by
  intro member conn present going same
  rcases running_source moved present going with
    ⟨before, found, was, kept⟩ | ⟨target, opened, _⟩
  · exact free member before found was (kept.symm.trans same)
  · rw [same] at opened
    exact other target opened

theorem OwnEntries.step (own : OwnEntries table)
    (moved : TableMoves side table event next)
    (free : ∀ channel target, event = .opened channel target →
      FreeFor table channel) :
    OwnEntries next := by
  intro member conn other present going held
  rcases running_source moved present going with
    ⟨before, found, was, kept⟩ | ⟨target, opened, own⟩
  · rw [kept] at held
    rcases moved.owner_source held with earlier | ⟨target, opened, _⟩
    · exact own member before other found was earlier
    · exact (free _ _ opened member before found was rfl).elim
  · exact Option.some.inj (held.symm.trans own)

end Table

/-! ## Identifiers in use -/

/-- The identifier that a step takes is not in use. -/
def TakesFree (client : Client) : ClientAction → Prop
  | .accepted _ channel _ => FreeFor client.channels channel ∧
      ∀ family target, client.accept family ≠ .inserting channel target
  | .queried channel _ _ => client.dnsInflight channel = none
  | _ => True

/--
A step that inserts into a map replaces no live entry, and the removal at the
end of a connection removes no entry of another one.
-/
def SparesOthers (client : Client) : ClientAction → Prop
  | .registered _ channel _ => ∀ member conn,
      client.channels.owner channel = some member →
        client.channels.conns[member]? = some conn → running conn = false
  | .inflight channel _ => client.dnsInflight channel = none
  | .channels (.conn member .removed) => ∀ conn other,
      client.channels.conns[member]? = some conn →
        client.channels.owner conn.channel = some other → other = member
  | _ => True

/--
Nothing that is open when an identifier is taken goes back to an allocation a
multiple of 65535 allocations before.
-/
def NotWrapped (ledger : Ledger) (client : Client) : ClientAction → Prop
  | .accepted _ _ _ =>
      (∀ (member : Nat) conn number,
        client.channels.conns[member]? = some conn → running conn = true →
          ledger.conns[member]? = some number →
            ¬ idCycle ∣ ledger.taken - number) ∧
        ∀ family, client.accept family ≠ .accepting →
          ¬ idCycle ∣ ledger.taken - ledger.accept family
  | .queried _ _ _ => ∀ channel, client.dnsInflight channel ≠ none →
      ¬ idCycle ∣ ledger.taken - ledger.inflight channel
  | _ => True

/-- The number of a connection's allocation gives its channel. -/
theorem Ledger.Agrees.channel_eq {ledger : Ledger} {client : Client}
    (agrees : ledger.Agrees client) {member : Nat} {conn : Conn}
    (present : client.channels.conns[member]? = some conn) :
    ∃ number, ledger.conns[member]? = some number ∧
      conn.channel = nthId number ∧ number < ledger.taken := by
  have listed : (ledger.conns.map nthId)[member]? = some conn.channel := by
    rw [← agrees.conns, List.getElem?_map, present]
    rfl
  rw [List.getElem?_map] at listed
  rcases Option.map_eq_some_iff.mp listed with ⟨number, found, named⟩
  exact ⟨number, found, named.symm,
    agrees.earlier number (List.mem_of_getElem? found)⟩

/-- The identifier of an earlier allocation comes up again after a cycle. -/
theorem Ledger.Agrees.nextId_ne_iff {ledger : Ledger} {client : Client}
    (agrees : ledger.Agrees client) {number : Nat}
    (before : number < ledger.taken) :
    nthId number ≠ client.nextId ↔ ¬ idCycle ∣ ledger.taken - number := by
  rw [agrees.counter, ne_eq, nthId_eq_iff before.le]

theorem takesFree_iff {ledger : Ledger} {client next : Client}
    {action : ClientAction} (agrees : ledger.Agrees client)
    (moved : ClientMoves client action next) :
    TakesFree client action ↔ NotWrapped ledger client action := by
  cases moved with
  | accepted up free =>
      constructor
      · rintro ⟨conns, pending⟩
        constructor
        · intro member conn number present going recorded
          rcases agrees.channel_eq present with ⟨same, found, named, before⟩
          rcases Option.some.inj (recorded.symm.trans found) with rfl
          rw [← agrees.nextId_ne_iff before, ← named]
          exact conns member conn present going
        · intro family busy
          cases inserting : client.accept family with
          | accepting => exact (busy inserting).elim
          | inserting channel target =>
              rcases agrees.accept _ _ _ inserting with ⟨named, before⟩
              rw [← agrees.nextId_ne_iff before, ← named]
              rintro rfl
              exact pending family target inserting
      · rintro ⟨conns, pending⟩
        constructor
        · intro member conn present going
          rcases agrees.channel_eq present with ⟨number, found, named, before⟩
          rw [named, agrees.nextId_ne_iff before]
          exact conns member conn number present going found
        · intro family target inserting
          rcases agrees.accept _ _ _ inserting with ⟨named, before⟩
          have apart := pending family (by simp [inserting])
          rw [← agrees.nextId_ne_iff before] at apart
          exact apart named.symm
  | queried up free =>
      constructor
      · intro unused channel waiting
        rcases agrees.inflight channel waiting with ⟨named, before⟩
        rw [← agrees.nextId_ne_iff before, ← named]
        rintro rfl
        exact waiting unused
      · intro apart
        by_contra waiting
        rcases agrees.inflight _ waiting with ⟨named, before⟩
        have fresh := apart _ waiting
        rw [← agrees.nextId_ne_iff before] at fresh
        exact fresh named.symm
  | link down taken =>
      cases LinkMoves.of_stepLink taken <;> exact Iff.rfl
  | _ => exact Iff.rfl

/-- Whatever holds an identifier holds it alone. -/
structure Exclusive (client : Client) : Prop where
  own : OwnEntries client.channels
  accept : ∀ family channel target,
    client.accept family = .inserting channel target →
      FreeFor client.channels channel ∧
        ∀ other target', client.accept other = .inserting channel target' →
          other = family
  listener : ∀ channel peer query,
    client.listener = .registering channel peer query →
      client.dnsInflight channel = none

theorem Exclusive.start (dnsEnabled : Bool) :
    Exclusive (.start dnsEnabled) := by
  constructor
  · intro member conn other present
    cases present
  · intro family channel target inserting
    cases inserting
  · intro channel peer query registering
    cases registering

section Exclusive

variable {client next : Client} {action : ClientAction}

theorem Exclusive.plain (exclusive : Exclusive client)
    {event : Option TableEvent} (kept : KeepsIds client next event) :
    Exclusive next := by
  have spares : OwnEntries next.channels ∧ ∀ channel,
      FreeFor client.channels channel → FreeFor next.channels channel := by
    rcases kept.table with same | ⟨event, moved, unopened⟩
    · rw [same]
      exact ⟨exclusive.own, fun _ => id⟩
    · constructor
      · refine exclusive.own.step moved ?_
        rintro channel target rfl
        exact (unopened channel target rfl).elim
      · intro channel free
        refine free.step moved ?_
        rintro target rfl
        exact unopened channel target rfl
  refine ⟨spares.1, ?_, ?_⟩
  · rw [kept.accept]
    intro family channel target inserting
    rcases exclusive.accept family channel target inserting with ⟨free, alone⟩
    exact ⟨spares.2 channel free, alone⟩
  · intro channel peer query registering
    have unused := exclusive.listener channel peer query
      (kept.listener channel peer query registering)
    by_contra waiting
    exact kept.inflight channel waiting unused

theorem Exclusive.step (exclusive : Exclusive client)
    (moved : ClientMoves client action next)
    (free : TakesFree client action) : Exclusive next := by
  cases plain : action.handlesId with
  | false => exact exclusive.plain (moved.keepsIds plain)
  | true =>
      cases moved with
      | @accepted family address up accepting =>
          refine ⟨exclusive.own, ?_, exclusive.listener⟩
          intro other channel target inserting
          by_cases same : other = family
          · subst same
            simp only [Function.update_self, AcceptTask.inserting.injEq]
              at inserting
            rcases inserting with ⟨rfl, rfl⟩
            refine ⟨free.1, ?_⟩
            intro third target thirdInserting
            by_contra different
            simp only [Function.update_of_ne different] at thirdInserting
            exact free.2 third target thirdInserting
          · simp only [Function.update_of_ne same] at inserting
            rcases exclusive.accept other channel target inserting with
              ⟨unused, alone⟩
            refine ⟨unused, ?_⟩
            intro third target' thirdInserting
            by_cases taker : third = family
            · subst taker
              simp only [Function.update_self, AcceptTask.inserting.injEq]
                at thirdInserting
              rcases thirdInserting with ⟨rfl, _⟩
              exact (free.2 other target inserting).elim
            · simp only [Function.update_of_ne taker] at thirdInserting
              exact alone third target' thirdInserting
      | @registered family channel target channels up waits taken =>
          rcases exclusive.accept family channel target waits with
            ⟨unused, alone⟩
          have tableMoved := TableMoves.of_step taken
          refine ⟨?_, ?_, exclusive.listener⟩
          · refine exclusive.own.step tableMoved ?_
            rintro other target' same
            rcases TableEvent.opened.inj same with ⟨rfl, _⟩
            exact unused
          · intro other channel' target' inserting
            have different : other ≠ family := by
              rintro rfl
              simp at inserting
            simp only [Function.update_of_ne different] at inserting
            rcases exclusive.accept other channel' target' inserting with
              ⟨unused', alone'⟩
            constructor
            · refine unused'.step tableMoved ?_
              rintro target'' same
              rcases TableEvent.opened.inj same with ⟨rfl, _⟩
              exact different (alone other target' inserting)
            · intro third target'' thirdInserting
              have third_different : third ≠ family := by
                rintro rfl
                simp at thirdInserting
              simp only [Function.update_of_ne third_different]
                at thirdInserting
              exact alone' third target'' thirdInserting
      | queried up waiting =>
          refine ⟨exclusive.own, exclusive.accept, ?_⟩
          intro channel peer query registering
          simp only [ListenTask.registering.injEq] at registering
          rcases registering with ⟨rfl, _⟩
          exact free
      | inflight up waits =>
          refine ⟨exclusive.own, exclusive.accept, ?_⟩
          intro channel peer query registering
          cases registering
      | link down taken =>
          cases LinkMoves.of_stepLink taken <;> cases plain
      | _ => cases plain

theorem Exclusive.sparesOthers (exclusive : Exclusive client)
    (valid : client.channels.Valid)
    (moved : ClientMoves client action next) :
    SparesOthers client action := by
  cases moved with
  | registered up waits taken =>
      intro member conn held present
      rcases valid.owned _ _ held with ⟨kept, found, onChannel⟩
      rcases Option.some.inj (present.symm.trans found) with rfl
      by_contra going
      have unused := (exclusive.accept _ _ _ waits).1
      exact unused member conn present (by simpa using going) onChannel
  | inflight up waits => exact exclusive.listener _ _ _ waits
  | @channels event channels up own taken =>
      cases event with
      | conn member event =>
          cases event with
          | removed =>
              intro conn other present held
              have going : running conn = true := by
                have tableMoved := TableMoves.of_step taken
                cases tableMoved with
                | conn found permitted moves =>
                    rcases Option.some.inj (present.symm.trans found) with rfl
                    have inside := Moves.of_step moves
                    cases inside with
                    | removed phase =>
                        rcases phase with phase | phase <;>
                          simp [running, phase]
              exact exclusive.own member conn other present going held
          | _ => trivial
      | _ => trivial
  | link down taken =>
      cases LinkMoves.of_stepLink taken <;> trivial
  | _ => trivial

end Exclusive

/--
The identifiers of a run are exclusive while they are in use exactly if none
of them comes up again while something of a former cycle still has it.
-/
theorem client_ids_exclusive_iff {dnsEnabled : Bool}
    {trace : List ClientAction} {client : Client}
    (run : Run Client.step (.start dnsEnabled) trace client) :
    Meets Client.step (.start dnsEnabled)
        (fun _ client action =>
          TakesFree client action ∧ SparesOthers client action) trace ↔
      Meets Client.step (.start dnsEnabled)
        (fun before client action =>
          NotWrapped (ledgerOf before) client action) trace := by
  constructor
  · rintro exclusive before action after middle rfl reached
    rcases run.step_at with ⟨other, next, again, taken, _⟩
    rcases again.deterministic reached with rfl
    rw [← takesFree_iff (Ledger.agrees_of_run reached)
      (ClientMoves.of_step taken)]
    exact (exclusive before action after other rfl reached).1
  · rintro apart
    have free : Meets Client.step (.start dnsEnabled)
        (fun _ client action => TakesFree client action) trace := by
      rintro before action after middle rfl reached
      rcases run.step_at with ⟨other, next, again, taken, _⟩
      rcases again.deterministic reached with rfl
      rw [takesFree_iff (Ledger.agrees_of_run reached)
        (ClientMoves.of_step taken)]
      exact apart before action after other rfl reached
    rintro before action after middle rfl reached
    rcases run.step_at with ⟨other, next, again, taken, _⟩
    rcases again.deterministic reached with rfl
    have exclusive : Exclusive other :=
      reached.invariant_of_meets
        (motive := fun _ client => Exclusive client)
        (.start dnsEnabled)
        (fun _ _ _ _ _ exclusive free taken =>
          exclusive.step (ClientMoves.of_step taken) free)
        free.take
    exact ⟨free before action after other rfl reached,
      exclusive.sparesOthers (.of_run (run_channels reached))
        (ClientMoves.of_step taken)⟩

/-! ## Before the counter comes around -/

theorem taken_le_of_append (before after : List ClientAction) :
    (ledgerOf before).taken ≤ (ledgerOf (before ++ after)).taken := by
  induction after using List.reverseRecOn with
  | nil => rw [List.append_nil]
  | append_singleton after action induction =>
      rw [← List.append_assoc, ledgerOf_snoc]
      refine induction.trans ?_
      cases action <;> first | exact Nat.le_refl _ | exact Nat.le_succ _

/-- In its first cycle the counter meets nothing of a former one. -/
theorem notWrapped_of_few {dnsEnabled : Bool} {trace : List ClientAction}
    {client : Client}
    (run : Run Client.step (.start dnsEnabled) trace client)
    (few : (ledgerOf trace).taken ≤ idCycle) :
    Meets Client.step (.start dnsEnabled)
      (fun before client action =>
        NotWrapped (ledgerOf before) client action) trace := by
  rintro before action after middle rfl reached
  have agrees := Ledger.agrees_of_run reached
  have later := taken_le_of_append (before ++ [action]) after
  rw [List.append_assoc, List.singleton_append, ledgerOf_snoc] at later
  have apart {number : Nat} (short : (ledgerOf before).taken < idCycle)
      (earlier : number < (ledgerOf before).taken) :
      ¬ idCycle ∣ (ledgerOf before).taken - number := by
    intro divides
    have long := Nat.le_of_dvd (Nat.sub_pos_of_lt earlier) divides
    omega
  cases action with
  | accepted family channel address =>
      have short : (ledgerOf before).taken < idCycle :=
        Nat.lt_of_succ_le (later.trans few)
      refine ⟨fun member conn number present _ listed => ?_,
        fun family busy => ?_⟩
      · exact apart short
          (agrees.earlier number (List.mem_of_getElem? listed))
      · cases task : middle.accept family with
        | accepting => exact (busy task).elim
        | inserting channel target =>
            exact apart short (agrees.accept family channel target task).2
  | queried channel peer query =>
      have short : (ledgerOf before).taken < idCycle :=
        Nat.lt_of_succ_le (later.trans few)
      exact fun channel open_ =>
        apart short (agrees.inflight channel open_).2
  | _ => trivial

/-! ## A counter that comes around -/

/-- Where an application connects to. -/
def someAddress : SocketAddr := ⟨.v4 ⟨10, 0, 0, 1⟩, 80⟩

/-- A connection is accepted on a link without a probe. -/
def accepting : List ClientAction :=
  [.synced false, .accepted .v4 1 someAddress,
    .registered .v4 1 (originalDst someAddress)]

/-- The client with one connection. -/
def Client.serving (phase : Phase) (out : Outbound) : Client :=
  { Client.start true with
    link := .up
    nextId := 2
    out := out
    channels :=
      { owner := Function.update (fun _ => none) 1 (some 0)
        conns :=
          [{ Conn.fresh .client 1 (originalDst someAddress) with
            phase := phase }]
        delivering := none }
    accept := fun _ => .accepting }

theorem run_accepted :
    Run Client.step (.start true)
      [.synced false, .accepted .v4 1 someAddress]
      { Client.start true with
        link := .up
        nextId := 2
        accept := Function.update (fun _ => .accepting) .v4
          (.inserting 1 (originalDst someAddress)) } :=
  run_of_execute (by rfl)

theorem run_accepting :
    Run Client.step (.start true) accepting
      (.serving .announcing .empty) := by
  refine run_accepted.extend ?_
  rw [Client.step, if_pos rfl]
  simp [Client.stepTask, ChannelTable.step, Client.start, Client.serving,
    ChannelTable.empty, Conn.fresh]

/-- A second connection, a query, and one more connection. -/
def sharingIds : List ClientAction :=
  accepting ++
    [.accepted .v6 2 someAddress,
      .registered .v6 2 (originalDst someAddress),
      .queried 3 someAddress [1], .inflight 3 someAddress,
      .accepted .v4 4 someAddress]

/-- Three things are in use when the fourth identifier is taken. -/
theorem client_ids_exclusive_shared :
    ∃ client, Run Client.step (.start true) sharingIds client ∧
      client.channels.conns.length = 2 ∧
      client.dnsInflight 3 = some someAddress ∧
      Meets Client.step (.start true)
        (fun _ client action =>
          TakesFree client action ∧ SparesOthers client action)
        sharingIds := by
  rcases run_of_execute_any Client.step (.start true) sharingIds
    (fun client => client.channels.conns.length = 2 ∧
      client.dnsInflight 3 = some someAddress) (by decide +kernel) with
    ⟨client, run, open_⟩
  rcases of_decide_eq_true open_ with ⟨conns, query⟩
  exact ⟨client, run, conns, query,
    (client_ids_exclusive_iff run).mpr (notWrapped_of_few run (by decide))⟩

/-- The writer passes the only frame of the queue on. -/
theorem run_drain {client : Client} {frame : Frame} (up : client.link = .up)
    (waiting : client.out = ⟨[frame], .receiving⟩)
    (fits : frame.data.length ≤ maxPayload) :
    Run Client.step client
      [.writer .take, .writer (.write (frameBytes frame))]
      { client with out := .empty } := by
  have takes : client.step (.writer .take) =
      some { client with out := ⟨[], .writing (frameBytes frame)⟩ } := by
    rw [Client.step, if_pos up]
    simp [Client.stepTask, ownOutEvent, waiting, Outbound.step,
      Outbound.begin, writeFrame_fits fits]
  have writes : ({ client with
      out := ⟨[], .writing (frameBytes frame)⟩ } : Client).step
        (.writer (.write (frameBytes frame))) =
          some { client with out := .empty } := by
    rw [Client.step, if_pos up]
    simp [Client.stepTask, ownOutEvent, Outbound.step, frameBytes_ne_nil,
      WriterTask.after, Outbound.empty]
  exact (Run.single takes).extend writes

/-- What the client does for one DNS query. -/
def dnsRound (channel : UInt16) : List ClientAction :=
  [.queried channel someAddress [], .inflight channel someAddress,
    .enqueued .listener ⟨channel, cmdDnsReq, []⟩, .writer .take,
    .writer (.write (frameBytes ⟨channel, cmdDnsReq, []⟩))]

/-- The client waits for something to do. -/
structure Waiting (channels : ChannelTable) (client : Client) : Prop where
  up : client.link = .up
  dnsEnabled : client.dnsEnabled = true
  accept : client.accept = fun _ => .accepting
  channels : client.channels = channels
  out : client.out = .empty
  listener : client.listener = .waiting

theorem Waiting.dnsRound {channels : ChannelTable} {client : Client}
    (waiting : Waiting channels client) :
    ∃ next, Run Client.step client (dnsRound client.nextId) next ∧
      Waiting channels next ∧ next.nextId = advance client.nextId := by
  have asked : Run Client.step client
      [.queried client.nextId someAddress [],
        .inflight client.nextId someAddress,
        .enqueued .listener ⟨client.nextId, cmdDnsReq, []⟩]
      { client with
        nextId := advance client.nextId
        dnsInflight := Function.update client.dnsInflight client.nextId
          (some someAddress)
        out := ⟨[⟨client.nextId, cmdDnsReq, []⟩], .receiving⟩ } := by
    refine run_of_execute ?_
    simp [execute, Client.step, Client.stepTask, waiting.up,
      waiting.dnsEnabled, waiting.listener, waiting.out, Client.pendingFrame,
      Outbound.step, Outbound.empty, WriterTask.inLoop, outCapacity,
      Client.sent]
  refine ⟨_, asked.trans (run_drain waiting.up rfl (Nat.zero_le _)), ?_,
    rfl⟩
  exact ⟨waiting.up, waiting.dnsEnabled, waiting.accept, waiting.channels,
    rfl, waiting.listener⟩

theorem Waiting.dnsRounds {channels : ChannelTable} (rounds : Nat)
    {client : Client} (waiting : Waiting channels client) (number : Nat)
    (counter : client.nextId = nthId number) :
    ∃ trace next, Run Client.step client trace next ∧
      Waiting channels next ∧ next.nextId = nthId (number + rounds) := by
  induction rounds with
  | zero => exact ⟨[], client, .start, waiting, counter⟩
  | succ rounds induction =>
      rcases induction with ⟨trace, middle, run, waits, reached⟩
      rcases waits.dnsRound with ⟨next, round, after, advanced⟩
      refine ⟨_, next, run.trans round, after, ?_⟩
      rw [advanced, reached, advance_nthId, Nat.add_assoc]

/-- The channels of a client with one connection in its transfer. -/
def servedChannels : ChannelTable where
  owner := Function.update (fun _ => none) 1 (some 0)
  conns :=
    [{ Conn.fresh .client 1 (originalDst someAddress) with
      phase := .streaming .reading .receiving }]
  delivering := none

/-- After 65534 queries the counter is back at an open connection's channel. -/
theorem run_wrapping :
    ∃ trace client, Run Client.step (.start true) trace client ∧
      Waiting servedChannels client ∧ client.nextId = 1 := by
  have announced : Run Client.step (.serving .announcing .empty)
      [.enqueued (.conn 0) (connectFrame 1 (originalDst someAddress))]
      (.serving (.streaming .reading .receiving)
        ⟨[connectFrame 1 (originalDst someAddress)], .receiving⟩) :=
    run_of_execute (by rfl)
  have fits := (length_connectFrame_le 1 someAddress).trans
    (show chunk ≤ maxPayload by decide)
  have idle := (run_accepting.trans announced).trans
    (run_drain rfl rfl fits)
  have waiting : Waiting servedChannels
      (.serving (.streaming .reading .receiving) .empty) :=
    ⟨rfl, rfl, rfl, rfl, rfl, rfl⟩
  obtain ⟨trace, client, rounds, waits, counter⟩ :=
    waiting.dnsRounds 65534 1 (by decide)
  exact ⟨_, client, idle.trans rounds, waits, counter.trans (by decide)⟩

/--
The next connection takes the identifier of a connection that is still open,
and replaces its entry.
-/
theorem open_id_taken_again :
    ∃ trace client next last,
      Run Client.step (.start true) trace client ∧
      client.step (.accepted .v4 1 someAddress) = some next ∧
      ¬ TakesFree client (.accepted .v4 1 someAddress) ∧
      next.step (.registered .v4 1 (originalDst someAddress)) = some last ∧
      ¬ SparesOthers next
        (.registered .v4 1 (originalDst someAddress)) ∧
      next.channels.owner 1 = some 0 ∧ last.channels.owner 1 = some 1 := by
  rcases run_wrapping with ⟨trace, client, run, waits, wrapped⟩
  refine ⟨trace, client,
    { client with
      nextId := advance client.nextId
      accept := Function.update client.accept .v4
        (.inserting 1 (originalDst someAddress)) },
    { client with
      nextId := advance client.nextId
      channels :=
        { servedChannels with
          owner := Function.update servedChannels.owner 1 (some 1)
          conns := servedChannels.conns ++
            [Conn.fresh .client 1 (originalDst someAddress)] } },
    run, ?_, ?_, ?_, ?_, ?_, ?_⟩
  · rw [Client.step, if_pos waits.up]
    simp [Client.stepTask, waits.accept, wrapped]
  · rintro ⟨free, _⟩
    rw [waits.channels] at free
    exact free 0 _ rfl rfl rfl
  · rw [Client.step, if_pos waits.up]
    simp [Client.stepTask, ChannelTable.step, waits.channels, waits.accept,
      servedChannels]
  · intro spares
    have closed := spares 0
      { Conn.fresh .client 1 (originalDst someAddress) with
        phase := .streaming .reading .receiving }
      (by simp [waits.channels, servedChannels])
      (by simp [waits.channels, servedChannels])
    cases closed
  · simp [waits.channels, servedChannels]
  · simp

end KubectlSshuttle.Rushtle
