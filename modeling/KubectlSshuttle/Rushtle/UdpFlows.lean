import Mathlib.Logic.Function.Basic
import KubectlSshuttle.Lib.Transition
import KubectlSshuttle.Rushtle.Ssnet

/-!
# The server's UDP channels

`UDP_OPEN` binds a socket and starts two tasks for it: one sends the datagrams
of the channel's inbound queue, the other reads datagrams from the socket,
forwards each as `UDP_DATA`, and looks after each forwarding whether the map
still has an entry for its channel, whichever socket that entry is for.

The sockets are numbered in the order of the `UDP_OPEN` frames that bound
them.
-/

namespace KubectlSshuttle.Rushtle.UdpFlows

open KubectlSshuttle.Lib.RustText
open KubectlSshuttle.Lib.Address
open KubectlSshuttle.Lib.Transition
open KubectlSshuttle.Rushtle.Ssnet

/-- Destination address, destination port and body. -/
abbrev Outgoing := Text × UInt16 × Bytes

/-- `mpsc::channel::<(String, u16, Vec<u8>)>(64)`. -/
def udpCapacity : Nat := 64

/-- The size of the buffer that `recv_from` fills; the rest is cut off. -/
def datagramSize : Nat := 4096

/-- Where the task that reads the socket stands. -/
inductive ReceiveTask where
  | receiving
  | forwarding (peer : SocketAddr) (body : Bytes)
  /-- waits for the map's lock to look its channel up -/
  | checking
  | done
deriving DecidableEq

/-- One UDP socket with its two tasks. -/
structure UdpFlow where
  channel : UInt16
  family : UInt16
  /-- the inbound queue, oldest datagram first -/
  inbound : List Outgoing
  /-- the task that serves the inbound queue still runs -/
  sending : Bool
  receiver : ReceiveTask
deriving DecidableEq

/-- The socket has just been bound. -/
def UdpFlow.fresh (channel family : UInt16) : UdpFlow where
  channel := channel
  family := family
  inbound := []
  sending := true
  receiver := .receiving

/-- The text that the sending task parses as a socket address. -/
def sendAddress (ip : Text) (port : UInt16) : Text :=
  ip ++ ':' :: decimal port.toNat

/-- The frame that the receiving task is putting on `out_tx`. -/
def UdpFlow.pendingFrame (flow : UdpFlow) : Option Frame :=
  match flow.receiver with
  | .forwarding peer body =>
      some ⟨flow.channel, cmdUdpData,
        encodeUdpData peer.ip.toText peer.port body⟩
  | _ => none

/-- What the tasks of one socket do. -/
inductive FlowEvent where
  /-- `recv_from` returns a datagram -/
  | datagram (peer : SocketAddr) (body : Bytes)
  | receiveError
  | sent (frame : Frame)
  | sendFailed
  /-- `contains_key`, under the map's lock -/
  | checked
  /-- a queued datagram goes out, or its address turns out to be bad -/
  | sendTo (address : Text) (body : Bytes)
  | queueClosed
deriving DecidableEq

/--
One step of a flow's tasks; `listed` is what `contains_key` answers.  That
`send_to` may wait until the socket is writable is left out: its step may
simply come late.
-/
def UdpFlow.step (flow : UdpFlow) (listed : Bool) :
    FlowEvent → Option UdpFlow
  | .datagram peer body =>
      if flow.receiver = .receiving then
        some
          { flow with receiver := .forwarding peer (body.take datagramSize) }
      else none
  | .receiveError =>
      if flow.receiver = .receiving then
        some { flow with receiver := .done }
      else none
  | .sent frame =>
      if flow.pendingFrame = some frame then
        some { flow with receiver := .checking }
      else none
  | .sendFailed =>
      if flow.pendingFrame.isSome then
        some { flow with receiver := .done }
      else none
  | .checked =>
      if flow.receiver = .checking then
        some { flow with receiver := if listed then .receiving else .done }
      else none
  | .sendTo address body =>
      match flow.inbound with
      | (ip, port, queued) :: rest =>
          if flow.sending ∧ address = sendAddress ip port ∧ body = queued then
            some { flow with inbound := rest }
          else none
      | [] => none
  | .queueClosed =>
      if flow.sending ∧ flow.inbound = [] then
        some { flow with sending := false }
      else none

/-- The map of UDP channels and all sockets there have been. -/
structure UdpTable where
  /-- the flow whose sender the map holds for a channel -/
  owner : UInt16 → Option Nat
  flows : List UdpFlow
  /-- the frame loop holds the lock and waits for room in a queue -/
  delivering : Option (Nat × Outgoing)

/-- No socket has been opened. -/
def UdpTable.empty : UdpTable where
  owner := fun _ => none
  flows := []
  delivering := none

/-- What the frame loop and the sockets do to the table. -/
inductive UdpEvent where
  | opened (channel family : UInt16)
  | data (channel : UInt16) (datagram : Outgoing)
  | closed (channel : UInt16)
  | admitted (member : Nat) (datagram : Outgoing)
  | dropped (member : Nat) (datagram : Outgoing)
  | flow (member : Nat) (event : FlowEvent)
deriving DecidableEq

/-- What a flow's own step needs from the map and its lock. -/
def UdpTable.permits (table : UdpTable) (member : Nat) (flow : UdpFlow) :
    FlowEvent → Bool
  | .checked => table.delivering.isNone
  | .queueClosed => table.owner flow.channel != some member
  | _ => true

/-- One step of the table. -/
def UdpTable.step (table : UdpTable) : UdpEvent → Option UdpTable
  | .opened channel family =>
      if table.delivering = none then
        some
          { table with
            owner :=
              Function.update table.owner channel (some table.flows.length)
            flows := table.flows ++ [UdpFlow.fresh channel family] }
      else none
  | .data channel datagram =>
      if table.delivering = none then
        some
          { table with
            delivering :=
              (table.owner channel).map fun member => (member, datagram) }
      else none
  | .closed channel =>
      if table.delivering = none then
        some
          { table with owner := Function.update table.owner channel none }
      else none
  | .admitted member datagram =>
      if table.delivering = some (member, datagram) then
        match table.flows[member]? with
        | none => none
        | some flow =>
            if flow.sending ∧ flow.inbound.length < udpCapacity then
              some
                { table with
                  flows := table.flows.set member
                    { flow with inbound := flow.inbound ++ [datagram] }
                  delivering := none }
            else none
      else none
  | .dropped member datagram =>
      if table.delivering = some (member, datagram) then
        match table.flows[member]? with
        | none => none
        | some flow =>
            if flow.sending then none
            else some { table with delivering := none }
      else none
  | .flow member event =>
      match table.flows[member]? with
      | none => none
      | some flow =>
          if table.permits member flow event then
            (flow.step (table.owner flow.channel).isSome event).map
              fun next =>
                { table with flows := table.flows.set member next }
          else none

/-! ## What one step of the UDP channels can do -/

/-- All that one step can do, with its guards. -/
inductive UdpMoves (table : UdpTable) : UdpEvent → UdpTable → Prop where
  | opened {channel family : UInt16} (free : table.delivering = none) :
      UdpMoves table (.opened channel family)
        { table with
          owner :=
            Function.update table.owner channel (some table.flows.length)
          flows := table.flows ++ [UdpFlow.fresh channel family] }
  | data {channel : UInt16} {datagram : Outgoing}
      (free : table.delivering = none) :
      UdpMoves table (.data channel datagram)
        { table with
          delivering :=
            (table.owner channel).map fun member => (member, datagram) }
  | closed {channel : UInt16} (free : table.delivering = none) :
      UdpMoves table (.closed channel)
        { table with owner := Function.update table.owner channel none }
  | admitted {member : Nat} {datagram : Outgoing} {flow : UdpFlow}
      (waiting : table.delivering = some (member, datagram))
      (present : table.flows[member]? = some flow) :
      UdpMoves table (.admitted member datagram)
        { table with
          flows := table.flows.set member
            { flow with inbound := flow.inbound ++ [datagram] }
          delivering := none }
  | dropped {member : Nat} {datagram : Outgoing}
      (waiting : table.delivering = some (member, datagram)) :
      UdpMoves table (.dropped member datagram)
        { table with delivering := none }
  | flow {member : Nat} {event : FlowEvent} {flow next : UdpFlow}
      (present : table.flows[member]? = some flow)
      (permitted : table.permits member flow event = true)
      (taken : flow.step (table.owner flow.channel).isSome event =
        some next) :
      UdpMoves table (.flow member event)
        { table with flows := table.flows.set member next }

theorem UdpMoves.of_step {table next : UdpTable} {event : UdpEvent}
    (taken : table.step event = some next) : UdpMoves table event next := by
  cases event with
  | opened channel family =>
      simp only [UdpTable.step, Option.ite_none_right_eq_some,
        Option.some.injEq] at taken
      rcases taken with ⟨free, rfl⟩
      exact .opened free
  | data channel datagram =>
      simp only [UdpTable.step, Option.ite_none_right_eq_some,
        Option.some.injEq] at taken
      rcases taken with ⟨free, rfl⟩
      exact .data free
  | closed channel =>
      simp only [UdpTable.step, Option.ite_none_right_eq_some,
        Option.some.injEq] at taken
      rcases taken with ⟨free, rfl⟩
      exact .closed free
  | admitted member datagram =>
      simp only [UdpTable.step, Option.ite_none_right_eq_some] at taken
      rcases taken with ⟨waiting, taken⟩
      split at taken
      · cases taken
      · next flow present =>
          simp only [Option.ite_none_right_eq_some,
            Option.some.injEq] at taken
          rcases taken with ⟨_, rfl⟩
          exact .admitted waiting present
  | dropped member datagram =>
      simp only [UdpTable.step, Option.ite_none_right_eq_some] at taken
      rcases taken with ⟨waiting, taken⟩
      split at taken
      · cases taken
      · next flow present =>
          split at taken
          · cases taken
          · simp only [Option.some.injEq] at taken
            subst taken
            exact .dropped waiting
  | flow member event =>
      simp only [UdpTable.step] at taken
      split at taken
      · cases taken
      · next flow present =>
          split at taken
          · next permitted =>
              rcases Option.map_eq_some_iff.mp taken with ⟨flow', moved, rfl⟩
              exact .flow present permitted moved
          · cases taken

/-- Without a new flow there is none. -/
theorem UdpMoves.no_flows {table next : UdpTable} {event : UdpEvent}
    (moved : UdpMoves table event next) (none : table.flows = [])
    (unopened : ∀ channel family, event ≠ .opened channel family) :
    next.flows = [] := by
  cases moved with
  | opened free => exact (unopened _ _ rfl).elim
  | data free => exact none
  | closed free => exact none
  | dropped waiting => exact none
  | admitted waiting present => simp [none] at present
  | flow present permitted taken => simp [none] at present

end KubectlSshuttle.Rushtle.UdpFlows
