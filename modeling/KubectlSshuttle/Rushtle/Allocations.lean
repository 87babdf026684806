import Mathlib.Data.List.Nodup
import KubectlSshuttle.Rushtle.ChannelIds
import KubectlSshuttle.Rushtle.FrameCap

/-!
# What identifiers are used for

Every identifier in use goes back to an allocation: that of an accepted
connection is with its accept loop or in the list of connections, and that of
a query is with the DNS listener or in a `DNS_REQ` frame.  So after at most
65535 allocations no identifier is used twice, and none for both purposes.
-/

namespace KubectlSshuttle.Rushtle

open KubectlSshuttle.Lib.RustText
open KubectlSshuttle.Lib.Address
open KubectlSshuttle.Lib.Transition
open KubectlSshuttle.Rushtle.Ssnet
open KubectlSshuttle.Rushtle.Connection
open KubectlSshuttle.Rushtle.Channels
open KubectlSshuttle.Rushtle.OutQueue

/-! ## Allocations of one identifier -/

/-- A connection is accepted and takes the channel. -/
def ClientAction.accepts (channel : UInt16) : ClientAction → Bool
  | .accepted _ taken _ => decide (taken = channel)
  | _ => false

/-- A DNS query takes the channel. -/
def ClientAction.queries (channel : UInt16) : ClientAction → Bool
  | .queried taken _ _ => decide (taken = channel)
  | _ => false

/-- How often an accept loop has taken the identifier. -/
def acceptedOn (channel : UInt16) (trace : List ClientAction) : Nat :=
  trace.countP (ClientAction.accepts channel)

/-- How often the DNS listener has taken the identifier. -/
def queriedOn (channel : UInt16) (trace : List ClientAction) : Nat :=
  trace.countP (ClientAction.queries channel)

/-- How often the identifier is among the first ones that are taken. -/
def allocatedOn (channel : UInt16) (taken : Nat) : Nat :=
  ((List.range taken).map nthId).count channel

theorem allocatedOn_succ (channel : UInt16) (taken : Nat) :
    allocatedOn channel (taken + 1) =
      allocatedOn channel taken + (if nthId taken = channel then 1 else 0) := by
  simp [allocatedOn, List.range_succ, List.count_singleton]

/-- One round of the counter repeats nothing. -/
theorem allocatedOn_le_one {channel : UInt16} {taken : Nat}
    (few : taken ≤ idCycle) : allocatedOn channel taken ≤ 1 := by
  have distinct : ((List.range taken).map nthId).Nodup := by
    apply List.Nodup.map_on _ List.nodup_range
    intro left leftBound right rightBound same
    simp only [List.mem_range] at leftBound rightBound
    rcases Nat.le_total left right with order | order
    · have cycle := (nthId_eq_iff order).mp same
      have small : right - left < idCycle := by omega
      have zero := Nat.eq_zero_of_dvd_of_lt cycle small
      omega
    · have cycle := (nthId_eq_iff order).mp same.symm
      have small : left - right < idCycle := by omega
      have zero := Nat.eq_zero_of_dvd_of_lt cycle small
      omega
  exact List.nodup_iff_count_le_one.mp distinct channel

theorem allocatedOn_zero (taken : Nat) : allocatedOn 0 taken = 0 := by
  apply List.count_eq_zero.mpr
  intro member
  rcases List.mem_map.mp member with ⟨number, _, zero⟩
  have value := congrArg UInt16.toNat zero
  rw [toNat_nthId] at value
  simp at value

theorem taken_le_snoc (trace : List ClientAction) (action : ClientAction) :
    (ledgerOf trace).taken ≤ (ledgerOf (trace ++ [action])).taken := by
  rw [ledgerOf_snoc]
  cases action <;> first | exact le_rfl | exact Nat.le_succ _

/-! ## Who holds an identifier -/

/-- Whether the task is about to insert the channel, as a number. -/
def AcceptTask.holds (channel : UInt16) : AcceptTask → Nat
  | .accepting => 0
  | .inserting taken _ => if taken = channel then 1 else 0

/-- Whether the task still has to use the channel, as a number. -/
def ListenTask.holds (channel : UInt16) : ListenTask → Nat
  | .registering taken _ _ | .sending taken _ =>
      if taken = channel then 1 else 0
  | .waiting | .done => 0

@[simp]
theorem AcceptTask.holds_accepting (channel : UInt16) :
    AcceptTask.accepting.holds channel = 0 := rfl

@[simp]
theorem AcceptTask.holds_inserting (channel taken : UInt16)
    (target : Text × UInt16) :
    (AcceptTask.inserting taken target).holds channel =
      if taken = channel then 1 else 0 := rfl

/-- How often the identifier stands for a TCP connection. -/
def Client.tcpUses (client : Client) (channel : UInt16) : Nat :=
  (client.channels.conns.map Conn.channel).count channel +
    ((client.accept .v4).holds channel + (client.accept .v6).holds channel)

/-- The frame is a DNS query on the channel. -/
def isRequest (channel : UInt16) (frame : Frame) : Bool :=
  decide (frame.cmd = cmdDnsReq ∧ frame.channel = channel)

theorem holds_update (accept : Family → AcceptTask) (family : Family)
    (task : AcceptTask) (channel : UInt16) :
    (Function.update accept family task .v4).holds channel +
        (Function.update accept family task .v6).holds channel +
      (accept family).holds channel =
    (accept .v4).holds channel + (accept .v6).holds channel +
      task.holds channel := by
  cases family with
  | v4 =>
      rw [Function.update_self, Function.update_of_ne Family.noConfusion]
      omega
  | v6 =>
      rw [Function.update_self, Function.update_of_ne Family.noConfusion]
      omega

section Step

variable {client next : Client} {action : ClientAction}

/-- Identifiers of connections come from the accept loops alone. -/
theorem ClientMoves.tcpUses (moved : ClientMoves client action next)
    (channel : UInt16) :
    next.tcpUses channel =
      client.tcpUses channel +
        (if action.accepts channel then 1 else 0) := by
  cases plain : action.handlesId with
  | false =>
      have kept := moved.keepsIds plain
      have none : action.accepts channel = false := by
        cases action <;> first | rfl | cases plain
      simp [Client.tcpUses, kept.map_channel, kept.accept, none]
  | true =>
      cases moved with
      | @accepted family address up free =>
          have held := holds_update client.accept family
            (.inserting client.nextId (originalDst address)) channel
          rw [free, AcceptTask.holds_accepting,
            AcceptTask.holds_inserting] at held
          simp only [Client.tcpUses, ClientAction.accepts,
            decide_eq_true_eq]
          omega
      | @registered family taken target channels up waits opened =>
          have held := holds_update client.accept family .accepting channel
          rw [waits, AcceptTask.holds_accepting,
            AcceptTask.holds_inserting] at held
          simp only [Client.tcpUses, ClientAction.accepts,
            (TableMoves.of_step opened).map_channel,
            TableEvent.openedChannel, Option.toList_some,
            List.count_append, List.count_singleton, beq_iff_eq]
          simp only [Bool.false_eq_true, if_false]
          omega
      | queried up free => rfl
      | inflight up waits => rfl
      | link down taken =>
          cases LinkMoves.of_stepLink taken <;> cases plain
      | _ => cases plain

/-- Identifiers of queries come from the DNS listener alone. -/
theorem ClientMoves.dnsUses (moved : ClientMoves client action next)
    (channel : UInt16) :
    next.listener.holds channel +
        action.enqueued?.toList.countP (isRequest channel) ≤
      client.listener.holds channel +
        (if action.queries channel then 1 else 0) := by
  cases moved with
  | link down taken =>
      cases LinkMoves.of_stepLink taken <;> exact le_rfl
  | queried up free =>
      simp [free, ListenTask.holds, ClientAction.queries,
        ClientAction.enqueued?]
  | inflight up waits =>
      simp [waits, ListenTask.holds, ClientAction.queries,
        ClientAction.enqueued?]
  | recv up idle free dispatched => cases dispatched <;> exact le_rfl
  | pongSent up busy queued =>
      have other : cmdPong ≠ cmdDnsReq := by decide
      simp [ClientAction.queries, ClientAction.enqueued?, isRequest, other]
  | querySent up busy queued =>
      simp [busy, ListenTask.holds, ClientAction.queries,
        ClientAction.enqueued?, isRequest, List.countP_cons]
  | @connSent member frame out channels up queued taken =>
      have other : frame.cmd ≠ cmdDnsReq := by
        cases TableMoves.of_step taken with
        | conn present permitted sent =>
            cases Moves.of_step sent <;> exact fun same => by cases same
      simp [ClientAction.queries, ClientAction.enqueued?, isRequest, other]
  | queryRefused up refused =>
      simp [ListenTask.holds, ClientAction.enqueued?]
  | _ => exact le_rfl

end Step

/-! ## Runs -/

/-- Everything that uses the identifier goes back to an allocation of it. -/
structure Uses (channel : UInt16) (trace : List ClientAction)
    (client : Client) : Prop where
  tcp : client.tcpUses channel = acceptedOn channel trace
  dns : client.listener.holds channel +
      (clientFrames trace).countP (isRequest channel) ≤
    queriedOn channel trace
  taken : acceptedOn channel trace + queriedOn channel trace =
    allocatedOn channel (ledgerOf trace).taken

theorem Uses.step {channel : UInt16} {trace : List ClientAction}
    {client next : Client} {action : ClientAction}
    (uses : Uses channel trace client)
    (agrees : (ledgerOf trace).Agrees client)
    (taken : client.step action = some next) :
    Uses channel (trace ++ [action]) next := by
  have moved := ClientMoves.of_step taken
  constructor
  · rw [moved.tcpUses channel, uses.tcp]
    simp [acceptedOn, List.countP_cons]
  · have step := moved.dnsUses channel
    have before := uses.dns
    rw [clientFrames_snoc taken, List.countP_append]
    simp only [queriedOn, List.countP_append, List.countP_cons,
      List.countP_nil] at before ⊢
    omega
  · have before := uses.taken
    simp only [acceptedOn, queriedOn, List.countP_append, List.countP_cons,
      List.countP_nil, ledgerOf_snoc] at before ⊢
    cases plain : action.handlesId with
    | false =>
        rw [Ledger.record_of_plain plain, ← before]
        cases action <;> first | rfl | cases plain
    | true =>
        cases moved with
        | accepted up free =>
            simp only [Ledger.record, allocatedOn_succ, ← agrees.counter,
              ClientAction.accepts, ClientAction.queries,
              decide_eq_true_eq, Bool.false_eq_true, if_false]
            omega
        | queried up free =>
            simp only [Ledger.record, allocatedOn_succ, ← agrees.counter,
              ClientAction.accepts, ClientAction.queries,
              decide_eq_true_eq, Bool.false_eq_true, if_false]
            omega
        | registered up waits taken => exact before
        | inflight up waits => exact before
        | link down taken =>
            cases LinkMoves.of_stepLink taken <;> cases plain
        | _ => cases plain

theorem Uses.of_run {dnsEnabled : Bool} {trace : List ClientAction}
    {client : Client}
    (run : Run Client.step (.start dnsEnabled) trace client)
    (channel : UInt16) : Uses channel trace client := by
  apply run.invariant (motive := Uses channel)
  · exact ⟨rfl, le_rfl, rfl⟩
  · intro trace client action next earlier uses taken
    exact uses.step (Ledger.agrees_of_run earlier) taken

/-! ## One round of the counter -/

section OneRound

variable {dnsEnabled : Bool} {trace : List ClientAction} {client : Client}

/-- An identifier is taken once, for a connection or for a query. -/
theorem takenOn_le_one
    (run : Run Client.step (.start dnsEnabled) trace client)
    (few : (ledgerOf trace).taken ≤ idCycle) (channel : UInt16) :
    acceptedOn channel trace + queriedOn channel trace ≤ 1 := by
  rw [(Uses.of_run run channel).taken]
  exact allocatedOn_le_one few

/-- Two connections have two channels. -/
theorem conn_unique
    (run : Run Client.step (.start dnsEnabled) trace client)
    (few : (ledgerOf trace).taken ≤ idCycle) {member other : Nat}
    {conn conn' : Conn} (present : client.channels.conns[member]? = some conn)
    (present' : client.channels.conns[other]? = some conn')
    (same : conn'.channel = conn.channel) : other = member := by
  have distinct : (client.channels.conns.map Conn.channel).Nodup := by
    apply List.nodup_iff_count_le_one.mpr
    intro channel
    have once := takenOn_le_one run few channel
    rw [← (Uses.of_run run channel).tcp, Client.tcpUses] at once
    omega
  apply (List.getElem?_inj _ distinct).mp
  · rw [List.getElem?_map, List.getElem?_map, present, present',
      Option.map_some, Option.map_some, same]
  · rw [List.length_map]
    exact (List.getElem?_eq_some_iff.mp present').1

/-- A connection's channel was taken by an accept loop, and by nobody else. -/
theorem acceptedOn_conn
    (run : Run Client.step (.start dnsEnabled) trace client)
    (few : (ledgerOf trace).taken ≤ idCycle) {conn : Conn}
    (member : conn ∈ client.channels.conns) :
    acceptedOn conn.channel trace = 1 ∧ queriedOn conn.channel trace = 0 := by
  have once := takenOn_le_one run few conn.channel
  have uses := (Uses.of_run run conn.channel).tcp
  have positive : 0 < (client.channels.conns.map Conn.channel).count
      conn.channel :=
    List.count_pos_iff.mpr (List.mem_map_of_mem member)
  rw [Client.tcpUses] at uses
  omega

end OneRound

end KubectlSshuttle.Rushtle
