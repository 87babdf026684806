import KubectlSshuttle.Lib.PostOffice
import KubectlSshuttle.Rushtle.UdpPeers

/-!
# The server's UDP channels as a relay

What the UDP channels are for can be said without their queues and tasks: a
datagram for a channel goes to the socket that the channel was opened for
last, and what a socket receives goes to its channel.  The queue of a socket,
the frame loop that waits for room in it and the two tasks delay datagrams,
and they neither lose nor reorder any.  Nor do they hold the frame loop up for
good, as a connection may.
-/

namespace KubectlSshuttle.Rushtle

open KubectlSshuttle.Lib
open KubectlSshuttle.Lib.RustText
open KubectlSshuttle.Lib.Address
open KubectlSshuttle.Lib.Transition
open KubectlSshuttle.Rushtle.Ssnet
open KubectlSshuttle.Rushtle.OutQueue
open KubectlSshuttle.Rushtle.UdpFlows

/-! ## What is to be relayed -/

/-- What a frame asks of the relay. -/
def postOf (frame : Frame) : Option (PostEvent UInt16 Outgoing) :=
  match frame.command with
  | .udpData =>
      match parseUdpData frame.data with
      | .ok datagram => some (.posted frame.channel datagram)
      | .error _ => none
  | .udpClose => some (.closed frame.channel)
  | _ => none

/-- The relay opens a box once the socket of a `UDP_OPEN` is bound. -/
def ServerAction.post : ServerAction → Option (PostEvent UInt16 Outgoing)
  | .recv frame => postOf frame
  | .bound channel _ => some (.opened channel)
  | _ => none

/-- The datagrams for each socket, in the order of their frames. -/
def mail (trace : List ServerAction) : PostOffice UInt16 Outgoing :=
  delivered (trace.filterMap ServerAction.post)

/-- What a socket receives, cut to the buffer. -/
def UdpFlows.UdpEvent.received (member : Nat) :
    UdpEvent → Option (SocketAddr × Bytes)
  | .flow target (.datagram peer body) =>
      if target = member then some (peer, body.take datagramSize) else none
  | _ => none

/-- The frame that the receiving task of a socket puts on `out_tx`. -/
def UdpFlows.UdpEvent.forwarded (member : Nat) : UdpEvent → Option Frame
  | .flow target (.sent frame) => if target = member then some frame else none
  | _ => none

/-- The datagrams that a socket receives. -/
def receivedBy (member : Nat) (trace : List ServerAction) :
    List (SocketAddr × Bytes) :=
  trace.filterMap fun
    | .udp event => event.received member
    | _ => none

/-- The frames that its task sends. -/
def forwardedBy (member : Nat) (trace : List ServerAction) : List Frame :=
  trace.filterMap fun
    | .enqueued (.udp target) frame =>
        if target = member then some frame else none
    | _ => none

/-- The frame for a datagram that a socket of the channel received. -/
def relayFrame (channel : UInt16) (received : SocketAddr × Bytes) : Frame :=
  ⟨channel, cmdUdpData,
    encodeUdpData received.1.ip.toText received.1.port received.2⟩

/-! ## Sockets that are sent to -/

/-- The datagram that the frame loop holds for a socket. -/
def heldFor (member : Nat) (table : UdpTable) : List Outgoing :=
  match table.delivering with
  | some (target, datagram) => if target = member then [datagram] else []
  | none => []

/-- What the map of UDP channels holds is served. -/
structure UdpFlows.UdpTable.Served (table : UdpTable) : Prop where
  /-- an entry is that of a socket on its channel -/
  owned : ∀ channel member, table.owner channel = some member →
    ∃ flow, table.flows[member]? = some flow ∧ flow.channel = channel
  /-- the queue of an entry's socket is read -/
  sending : ∀ (member : Nat) flow, table.flows[member]? = some flow →
    table.owner flow.channel = some member → flow.sending = true
  /-- the frame loop waits for a socket of the map -/
  waiting : ∀ member datagram, table.delivering = some (member, datagram) →
    ∃ channel, table.owner channel = some member

section Served

variable {table next : UdpTable} {event : UdpEvent}

theorem UdpFlows.UdpTable.Served.holds (served : table.Served) {member : Nat}
    {datagram : Outgoing}
    (waiting : table.delivering = some (member, datagram)) :
    ∃ flow, table.flows[member]? = some flow ∧ flow.sending = true := by
  rcases served.waiting _ _ waiting with ⟨channel, owner⟩
  rcases served.owned _ _ owner with ⟨flow, present, rfl⟩
  exact ⟨flow, present, served.sending _ _ present owner⟩

/-- So the frame loop drops no datagram. -/
theorem UdpFlows.UdpTable.Served.undropped (served : table.Served) (member : Nat)
    (datagram : Outgoing) : table.step (.dropped member datagram) = none := by
  simp only [UdpTable.step]
  split
  · next waiting =>
      rcases served.holds waiting with ⟨flow, present, sending⟩
      simp [present, sending]
  · rfl

/-- The sending task of a flow ends only when its queue is closed. -/
theorem UdpFlow.sending_of_step {flow after : UdpFlow} {listed : Bool}
    {inner : FlowEvent} (taken : flow.step listed inner = some after)
    (open_ : inner ≠ .queueClosed) : after.sending = flow.sending := by
  cases inner with
  | queueClosed => exact (open_ rfl).elim
  | sendTo address body =>
      simp only [UdpFlow.step] at taken
      split at taken
      · simp only [Option.ite_none_right_eq_some, Option.some.injEq] at taken
        rw [← taken.2]
      · cases taken
  | _ =>
      simp only [UdpFlow.step, Option.ite_none_right_eq_some,
        Option.some.injEq] at taken
      rw [← taken.2]

/-- A flow that is replaced keeps the map served. -/
theorem UdpFlows.UdpTable.Served.replace (served : table.Served) {member : Nat}
    {flow after : UdpFlow} (present : table.flows[member]? = some flow)
    (channel : after.channel = flow.channel)
    (sending : table.owner flow.channel = some member →
      after.sending = flow.sending)
    {delivering : Option (Nat × Outgoing)}
    (waits : ∀ target datagram, delivering = some (target, datagram) →
      ∃ channel, table.owner channel = some target) :
    UdpTable.Served
      { table with
        flows := table.flows.set member after
        delivering := delivering } := by
  have bound := (List.getElem?_eq_some_iff.mp present).1
  constructor
  · intro key target owner
    rcases served.owned key target owner with ⟨found, there, same⟩
    by_cases here : target = member
    · subst here
      rcases Option.some.inj (there.symm.trans present) with rfl
      exact ⟨after, by simp [bound], channel.trans same⟩
    · refine ⟨found, ?_, same⟩
      rw [← there]
      exact List.getElem?_set_ne (Ne.symm here)
  · intro target found there owner
    by_cases here : target = member
    · subst here
      have same : after = found := by simpa [bound] using there
      subst same
      dsimp only at owner
      rw [channel] at owner
      rw [sending owner]
      exact served.sending _ _ present owner
    · dsimp only at there
      rw [List.getElem?_set_ne (Ne.symm here)] at there
      exact served.sending target found there owner
  · exact waits

theorem UdpFlows.UdpTable.Served.step (served : table.Served)
    (taken : table.step event = some next) : next.Served := by
  cases UdpMoves.of_step taken with
  | @opened channel family free =>
      constructor
      · intro key member owner
        by_cases same : key = channel
        · subst same
          dsimp only at owner
          rw [Function.update_self] at owner
          rcases Option.some.inj owner with rfl
          exact ⟨_, List.getElem?_concat_length, rfl⟩
        · dsimp only at owner
          rw [Function.update_of_ne same] at owner
          rcases served.owned key member owner with ⟨flow, present, rfl⟩
          have bound := (List.getElem?_eq_some_iff.mp present).1
          refine ⟨flow, ?_, rfl⟩
          rw [← present]
          exact List.getElem?_append_left bound
      · intro member flow present owner
        dsimp only at present owner
        by_cases old : member < table.flows.length
        · rw [List.getElem?_append_left old] at present
          by_cases same : flow.channel = channel
          · rw [same, Function.update_self] at owner
            rcases Option.some.inj owner with rfl
            exact (Nat.lt_irrefl _ old).elim
          · rw [Function.update_of_ne same] at owner
            exact served.sending member flow present owner
        · have new : member = table.flows.length := by
            have bound := (List.getElem?_eq_some_iff.mp present).1
            rw [List.length_append, List.length_singleton] at bound
            omega
          subst new
          rw [List.getElem?_concat_length] at present
          rcases Option.some.inj present with rfl
          rfl
      · intro member datagram waiting
        dsimp only at waiting
        rw [free] at waiting
        cases waiting
  | @data channel datagram free =>
      refine ⟨served.owned, served.sending, fun member brought waiting => ?_⟩
      rcases Option.map_eq_some_iff.mp waiting with ⟨holder, owner, pair⟩
      rcases Prod.mk.inj pair with ⟨rfl, rfl⟩
      exact ⟨channel, owner⟩
  | @closed channel free =>
      constructor
      · intro key member owner
        by_cases same : key = channel
        · subst same
          dsimp only at owner
          rw [Function.update_self] at owner
          cases owner
        · dsimp only at owner
          rw [Function.update_of_ne same] at owner
          exact served.owned key member owner
      · intro member flow present owner
        by_cases same : flow.channel = channel
        · dsimp only at owner
          rw [same, Function.update_self] at owner
          cases owner
        · dsimp only at owner
          rw [Function.update_of_ne same] at owner
          exact served.sending member flow present owner
      · intro member datagram waiting
        dsimp only at waiting
        rw [free] at waiting
        cases waiting
  | admitted waiting present =>
      apply served.replace present
      · rfl
      · exact fun _ => rfl
      · intro target datagram never
        cases never
  | dropped waiting =>
      rw [served.undropped] at taken
      cases taken
  | @flow member inner flow after present permitted moved =>
      refine served.replace present (UdpFlow.step_spec moved).1 ?_
        served.waiting
      intro owner
      refine UdpFlow.sending_of_step moved ?_
      rintro rfl
      simp [UdpTable.permits, owner] at permitted

theorem UdpFlows.UdpTable.Served.of_run {trace : List UdpEvent}
    (run : Run UdpTable.step .empty trace table) : table.Served :=
  run.invariant (motive := fun _ table => table.Served)
    { owned := fun channel member owner => by cases owner
      sending := fun member flow present => by
        simp [UdpTable.empty] at present
      waiting := fun member datagram waiting => by cases waiting }
    fun _ _ _ _ _ served taken => served.step taken

/-- A datagram that the frame loop holds goes on by the tasks' own steps. -/
theorem UdpFlows.UdpTable.Served.goesOn (served : table.Served) {member : Nat}
    {datagram : Outgoing}
    (waiting : table.delivering = some (member, datagram)) :
    (table.step (.admitted member datagram)).isSome = true ∨
      ∃ address body,
        (table.step (.flow member (.sendTo address body))).isSome = true := by
  rcases served.holds waiting with ⟨flow, present, sending⟩
  by_cases room : flow.inbound.length < udpCapacity
  · exact .inl (by simp [UdpTable.step, waiting, present, sending, room])
  · cases queue : flow.inbound with
    | nil => exact absurd room (by simp [queue, udpCapacity])
    | cons first rest =>
        refine .inr ⟨sendAddress first.1 first.2.1, first.2.2, ?_⟩
        simp [UdpTable.step, present, UdpTable.permits, UdpFlow.step, queue,
          sending]

end Served

/-! ## From the frames to the sockets -/

/-- What an event of the map of UDP channels means for the relay. -/
def UdpFlows.UdpEvent.post : UdpEvent → Option (PostEvent UInt16 Outgoing)
  | .opened channel _ => some (.opened channel)
  | .data channel datagram => some (.posted channel datagram)
  | .closed channel => some (.closed channel)
  | _ => none

theorem postOf_eq (frame : Frame) :
    postOf frame = (udpCommand frame).bind UdpEvent.post := by
  unfold postOf udpCommand
  cases frame.command <;> try rfl
  cases parseUdpData frame.data <;> rfl

theorem ServerMoves.post_eq {server next : Server} {action : ServerAction}
    (moved : ServerMoves server action next) :
    action.post = action.udp?.bind UdpEvent.post := by
  cases moved with
  | recv idle dispatched => exact postOf_eq _
  | @udp event udp own taken => cases event <;> first | rfl | cases own
  | _ => rfl

/-- The relay and the map of UDP channels, event by event. -/
structure Posts (trace : List UdpEvent) (table : UdpTable) : Prop where
  owner : (delivered (trace.filterMap UdpEvent.post)).owner = table.owner
  count : (delivered (trace.filterMap UdpEvent.post)).count =
    table.flows.length
  box : ∀ member, (delivered (trace.filterMap UdpEvent.post)).box member =
    queuedFor member trace ++ heldFor member table

section Outward

variable {table next : UdpTable} {event : UdpEvent} {trace : List UdpEvent}

theorem delivered_snoc (trace : List UdpEvent) (event : UdpEvent) :
    delivered ((trace ++ [event]).filterMap UdpEvent.post) =
      match event.post with
      | none => delivered (trace.filterMap UdpEvent.post)
      | some post => (delivered (trace.filterMap UdpEvent.post)).step post := by
  cases concerned : event.post with
  | none => simp [concerned]
  | some post => simp [concerned, delivered_append]

theorem queuedFor_snoc (member : Nat) (trace : List UdpEvent)
    (event : UdpEvent) :
    queuedFor member (trace ++ [event]) =
      queuedFor member trace ++ queuedFor member [event] :=
  List.filterMap_append

theorem heldFor_of_free (free : table.delivering = none) (member : Nat) :
    heldFor member table = [] := by
  rw [heldFor, free]

theorem Posts.step (posts : Posts trace table) (served : table.Served)
    (taken : table.step event = some next) :
    Posts (trace ++ [event]) next := by
  cases UdpMoves.of_step taken with
  | @opened channel family free =>
      constructor
      · rw [delivered_snoc, ← posts.owner, ← posts.count]
        rfl
      · rw [delivered_snoc, List.length_append, ← posts.count]
        rfl
      · intro member
        rw [delivered_snoc, queuedFor_snoc]
        refine (posts.box member).trans ?_
        simp [queuedFor, heldFor]
  | @data channel datagram free =>
      constructor
      · rw [delivered_snoc, ← posts.owner]
        rfl
      · rw [delivered_snoc, ← posts.count]
        rfl
      · intro member
        have before := posts.box member
        rw [heldFor_of_free free, List.append_nil] at before
        rw [delivered_snoc, queuedFor_snoc]
        simp only [UdpEvent.post, PostOffice.step, posts.owner, before]
        cases owner : table.owner channel with
        | none => simp [queuedFor, heldFor]
        | some holder =>
            by_cases same : holder = member <;>
              simp [queuedFor, heldFor, same]
  | @closed channel free =>
      constructor
      · rw [delivered_snoc, ← posts.owner]
        rfl
      · rw [delivered_snoc, ← posts.count]
        rfl
      · intro member
        rw [delivered_snoc, queuedFor_snoc]
        refine (posts.box member).trans ?_
        simp [queuedFor, heldFor]
  | @admitted target datagram flow waiting present =>
      refine ⟨posts.owner ▸ congrArg _ (delivered_snoc _ _), ?_, ?_⟩
      · rw [delivered_snoc, List.length_set, ← posts.count]
        rfl
      · intro member
        rw [delivered_snoc, queuedFor_snoc]
        refine (posts.box member).trans ?_
        by_cases same : target = member <;>
          simp [queuedFor, heldFor, waiting, same]
  | dropped waiting =>
      rw [served.undropped] at taken
      cases taken
  | @flow target inner flow after present permitted moved =>
      refine ⟨posts.owner ▸ congrArg _ (delivered_snoc _ _), ?_, ?_⟩
      · rw [delivered_snoc, List.length_set, ← posts.count]
        rfl
      · intro member
        rw [delivered_snoc, queuedFor_snoc]
        refine (posts.box member).trans ?_
        simp [queuedFor, heldFor]

theorem Posts.of_run (run : Run UdpTable.step .empty trace table) :
    Posts trace table := by
  induction run with
  | start => exact ⟨rfl, rfl, fun _ => rfl⟩
  | extend earlier taken induction =>
      exact induction.step (.of_run earlier) taken

end Outward

/-! ## From the sockets to the frames -/

/--
What came in at a socket went out on its channel, in order; only a frame that
finds `out_tx` closed is lost, and with it the task ends.
-/
def Forwards (flow : UdpFlow) (received : List (SocketAddr × Bytes))
    (forwarded : List Frame) (refused : Prop) : Prop :=
  ∃ kept lost, received = kept ++ lost ∧
    forwarded ++ flow.pendingFrame.toList =
      kept.map (relayFrame flow.channel) ∧
    (lost ≠ [] → lost.length = 1 ∧ flow.receiver = .done ∧ refused)

/-- The datagram that is received, cut to the buffer. -/
def UdpFlows.FlowEvent.received : FlowEvent → Option (SocketAddr × Bytes)
  | .datagram peer body => some (peer, body.take datagramSize)
  | _ => none

/-- The frame that is sent. -/
def UdpFlows.FlowEvent.forwarded : FlowEvent → Option Frame
  | .sent frame => some frame
  | _ => none

/-- While the task runs, nothing is lost. -/
theorem Forwards.whole {flow : UdpFlow}
    {received : List (SocketAddr × Bytes)} {forwarded : List Frame}
    {refused : Prop} (forwards : Forwards flow received forwarded refused)
    (runs : flow.receiver ≠ .done) :
    forwarded ++ flow.pendingFrame.toList =
      received.map (relayFrame flow.channel) := by
  rcases forwards with ⟨kept, lost, rfl, sent, ends⟩
  cases lost with
  | nil => rwa [List.append_nil]
  | cons first rest => exact (runs (ends (by simp)).2.1).elim

theorem Forwards.of_whole {flow : UdpFlow}
    {received : List (SocketAddr × Bytes)} {forwarded : List Frame}
    {refused : Prop}
    (whole : forwarded ++ flow.pendingFrame.toList =
      received.map (relayFrame flow.channel)) :
    Forwards flow received forwarded refused :=
  ⟨received, [], by simp, whole, fun lost => (lost rfl).elim⟩

/-- The steps that only concern the other task keep what is forwarded. -/
theorem Forwards.frame {flow after : UdpFlow}
    {received : List (SocketAddr × Bytes)} {forwarded : List Frame}
    {refused : Prop} (forwards : Forwards flow received forwarded refused)
    (channel : after.channel = flow.channel)
    (receiver : after.receiver = flow.receiver) :
    Forwards after received forwarded refused := by
  simpa only [Forwards, UdpFlow.pendingFrame, channel, receiver]
    using forwards

theorem Forwards.step {flow after : UdpFlow} {listed : Bool}
    {event : FlowEvent} {received : List (SocketAddr × Bytes)}
    {forwarded : List Frame} {refused : Prop}
    (forwards : Forwards flow received forwarded refused)
    (taken : flow.step listed event = some after) :
    Forwards after (received ++ event.received.toList)
      (forwarded ++ event.forwarded.toList)
      (refused ∨ event = .sendFailed) := by
  have channel := (UdpFlow.step_spec taken).1
  cases event with
  | datagram peer body =>
      simp only [UdpFlow.step, Option.ite_none_right_eq_some,
        Option.some.injEq] at taken
      rcases taken with ⟨receiving, rfl⟩
      have whole := forwards.whole (by simp [receiving])
      apply Forwards.of_whole
      simpa [UdpFlow.pendingFrame, receiving, FlowEvent.received,
        FlowEvent.forwarded, relayFrame] using whole
  | receiveError =>
      simp only [UdpFlow.step, Option.ite_none_right_eq_some,
        Option.some.injEq] at taken
      rcases taken with ⟨receiving, rfl⟩
      have whole := forwards.whole (by simp [receiving])
      apply Forwards.of_whole
      simpa [UdpFlow.pendingFrame, receiving, FlowEvent.received,
        FlowEvent.forwarded] using whole
  | checked =>
      simp only [UdpFlow.step, Option.ite_none_right_eq_some,
        Option.some.injEq] at taken
      rcases taken with ⟨checking, rfl⟩
      have whole := forwards.whole (by simp [checking])
      apply Forwards.of_whole
      cases listed <;>
        simpa [UdpFlow.pendingFrame, checking, FlowEvent.received,
          FlowEvent.forwarded] using whole
  | sent frame =>
      simp only [UdpFlow.step, Option.ite_none_right_eq_some,
        Option.some.injEq] at taken
      rcases taken with ⟨pending, rfl⟩
      have runs : flow.receiver ≠ .done := by
        intro done
        simp [UdpFlow.pendingFrame, done] at pending
      have whole := forwards.whole runs
      rw [pending] at whole
      apply Forwards.of_whole
      simpa [UdpFlow.pendingFrame, FlowEvent.received, FlowEvent.forwarded]
        using whole
  | sendFailed =>
      simp only [UdpFlow.step, Option.ite_none_right_eq_some,
        Option.some.injEq] at taken
      rcases taken with ⟨isSome, rfl⟩
      rcases Option.isSome_iff_exists.mp isSome with ⟨frame, pending⟩
      have runs : flow.receiver ≠ .done := by
        intro done
        simp [UdpFlow.pendingFrame, done] at pending
      have whole := forwards.whole runs
      rw [pending, Option.toList_some] at whole
      -- the refused frame is that of the last datagram
      rcases List.map_eq_append_iff.mp whole.symm with
        ⟨kept, lost, split, sent, last⟩
      refine ⟨kept, lost, by simp [split, FlowEvent.received], ?_, ?_⟩
      · simpa [UdpFlow.pendingFrame, FlowEvent.forwarded] using sent.symm
      · intro _
        have length := congrArg List.length last
        simp only [List.length_map, List.length_singleton] at length
        exact ⟨length, rfl, .inr rfl⟩
  | sendTo address body =>
      have receiver : after.receiver = flow.receiver := by
        simp only [UdpFlow.step] at taken
        split at taken
        · simp only [Option.ite_none_right_eq_some,
            Option.some.injEq] at taken
          rw [← taken.2]
        · cases taken
      simpa [FlowEvent.received, FlowEvent.forwarded]
        using forwards.frame channel receiver
  | queueClosed =>
      simp only [UdpFlow.step, Option.ite_none_right_eq_some,
        Option.some.injEq] at taken
      have receiver : after.receiver = flow.receiver := by
        rw [← taken.2]
      simpa [FlowEvent.received, FlowEvent.forwarded]
        using forwards.frame channel receiver

section Homeward

variable {table next : UdpTable} {trace : List UdpEvent}

theorem UdpFlows.UdpEvent.received_flow (member : Nat) (inner : FlowEvent) :
    UdpEvent.received member (.flow member inner) = inner.received := by
  cases inner <;> simp [UdpEvent.received, FlowEvent.received]

theorem UdpFlows.UdpEvent.forwarded_flow (member : Nat) (inner : FlowEvent) :
    UdpEvent.forwarded member (.flow member inner) = inner.forwarded := by
  cases inner <;> simp [UdpEvent.forwarded, FlowEvent.forwarded]

/-- The other events of the map say nothing of what a socket receives. -/
theorem UdpFlows.UdpEvent.unconcerned {member : Nat} {event : UdpEvent}
    (other : ∀ inner, event ≠ .flow member inner) :
    event.received member = none ∧ event.forwarded member = none := by
  cases event with
  | flow target inner =>
      have apart : target ≠ member := fun same => other inner (by rw [same])
      cases inner <;>
        simp [UdpEvent.received, UdpEvent.forwarded, apart]
  | _ => exact ⟨rfl, rfl⟩

theorem filterMap_snoc {Item : Type} (read : UdpEvent → Option Item)
    (trace : List UdpEvent) (event : UdpEvent) :
    (trace ++ [event]).filterMap read =
      trace.filterMap read ++ (read event).toList := by
  cases chosen : read event <;> simp [chosen]

/-- A socket that no task of its own moved is as before, or new. -/
theorem UdpFlows.UdpMoves.flow_cases {event : UdpEvent} {member : Nat}
    (moved : UdpMoves table event next)
    (other : ∀ inner, event ≠ .flow member inner) :
    table.flows.length ≤ next.flows.length ∧
      ∀ flow, next.flows[member]? = some flow →
        (∃ earlier, table.flows[member]? = some earlier ∧
          flow.channel = earlier.channel ∧
            flow.receiver = earlier.receiver) ∨
        table.flows.length ≤ member ∧ flow.pendingFrame = none := by
  have replaced {target : Nat} {flow after found : UdpFlow}
      (present : table.flows[target]? = some flow)
      (channel : after.channel = flow.channel)
      (receiver : target = member → after.receiver = flow.receiver)
      (there : (table.flows.set target after)[member]? = some found) :
      ∃ earlier, table.flows[member]? = some earlier ∧
        found.channel = earlier.channel ∧
          found.receiver = earlier.receiver := by
    by_cases same : target = member
    · subst same
      have bound := (List.getElem?_eq_some_iff.mp present).1
      have here : after = found := by simpa [bound] using there
      exact ⟨flow, present, here ▸ channel, here ▸ receiver rfl⟩
    · rw [List.getElem?_set_ne same] at there
      exact ⟨found, there, rfl, rfl⟩
  cases moved with
  | opened free =>
      refine ⟨by simp, fun flow there => ?_⟩
      by_cases old : member < table.flows.length
      · dsimp only at there
        rw [List.getElem?_append_left old] at there
        exact .inl ⟨flow, there, rfl, rfl⟩
      · have bound := (List.getElem?_eq_some_iff.mp there).1
        rw [List.length_append, List.length_singleton] at bound
        have new : member = table.flows.length := by omega
        subst new
        dsimp only at there
        rw [List.getElem?_concat_length] at there
        rcases Option.some.inj there with rfl
        exact .inr ⟨Nat.le_refl _, rfl⟩
  | data free | closed free | dropped waiting =>
      exact ⟨Nat.le_refl _, fun flow there => .inl ⟨flow, there, rfl, rfl⟩⟩
  | admitted waiting present =>
      refine ⟨by simp, fun found there => .inl ?_⟩
      refine replaced present ?_ ?_ there <;> simp
  | @flow target inner flow after present permitted taken =>
      refine ⟨by simp, fun found there => .inl ?_⟩
      refine replaced present (UdpFlow.step_spec taken).1 ?_ there
      rintro rfl
      exact (other inner rfl).elim

theorem forwards_of_run (run : Run UdpTable.step .empty trace table)
    (member : Nat) :
    (table.flows.length ≤ member →
        trace.filterMap (UdpEvent.received member) = [] ∧
          trace.filterMap (UdpEvent.forwarded member) = []) ∧
      ∀ flow, table.flows[member]? = some flow →
        Forwards flow (trace.filterMap (UdpEvent.received member))
          (trace.filterMap (UdpEvent.forwarded member))
          (.flow member .sendFailed ∈ trace) := by
  induction run with
  | start =>
      refine ⟨fun _ => ⟨rfl, rfl⟩, fun flow present => ?_⟩
      simp [UdpTable.empty] at present
  | @extend trace table next event earlier taken induction =>
      rcases induction with ⟨silent, forwards⟩
      have moved := UdpMoves.of_step taken
      by_cases own : ∃ inner, event = .flow member inner
      · rcases own with ⟨inner, rfl⟩
        cases moved with
        | @flow _ _ flow after present permitted moved =>
            have bound := (List.getElem?_eq_some_iff.mp present).1
            constructor
            · intro beyond
              rw [List.length_set] at beyond
              omega
            · intro found there
              have same : after = found := by simpa [bound] using there
              subst same
              rw [filterMap_snoc, filterMap_snoc, UdpEvent.received_flow,
                UdpEvent.forwarded_flow]
              have stepped := (forwards flow present).step moved
              simpa [eq_comm] using stepped
      · have other : ∀ inner, event ≠ .flow member inner :=
          fun inner same => own ⟨inner, same⟩
        rcases UdpEvent.unconcerned other with ⟨unreceived, unforwarded⟩
        have unfailed : .flow member .sendFailed ∈ trace ++ [event] ↔
            .flow member .sendFailed ∈ trace := by
          simp [(other .sendFailed).symm]
        simp only [filterMap_snoc, unreceived, unforwarded, unfailed,
          Option.toList_none, List.append_nil]
        rcases moved.flow_cases other with ⟨grown, kept⟩
        refine ⟨fun beyond => silent (grown.trans beyond), ?_⟩
        intro flow there
        rcases kept flow there with
          ⟨before, present, channel, receiver⟩ | ⟨new, idle⟩
        · exact (forwards before present).frame channel receiver
        · rcases silent new with ⟨unheard, unsent⟩
          rw [unheard, unsent]
          exact Forwards.of_whole (by simp [idle])

end Homeward

/-! ## Runs of the server -/

/-- While it holds a datagram the frame loop is in its loop. -/
theorem reading_of_held {resolvers : List SocketAddr}
    {trace : List ServerAction} {server : Server}
    (run : Run Server.step (.start resolvers) trace server)
    (held : server.udp.delivering ≠ none) : server.main = .reading := by
  refine run.invariant
    (motive := fun _ server =>
      server.udp.delivering ≠ none → server.main = .reading)
    (fun held => (held rfl).elim) ?_ held
  intro trace server action next _ reads taken held
  have moved := ServerMoves.of_step taken
  have unheld {main : MainTask} (elsewhere : server.main = main)
      (other : main ≠ .reading) (same : server.udp.delivering ≠ none) :
      False := other (elsewhere.symm.trans (reads same))
  cases moved with
  | recv idle dispatched =>
      have free : server.udp.delivering = none := by
        simp only [Server.idle, Bool.and_eq_true, Option.isNone_iff_eq_none]
          at idle
        exact idle.2
      have reading : server.main = .reading := by
        simp only [Server.idle, Bool.and_eq_true, decide_eq_true_eq] at idle
        exact idle.1.1
      cases dispatched with
      | main asked noTcp noUdp => exact (held free).elim
      | _ => exact reading
  | stop idle =>
      simp only [Server.idle, Bool.and_eq_true, Option.isNone_iff_eq_none]
        at idle
      exact (held idle.2).elim
  | udpSent queued stepped | udpRefused refused stepped
  | udp own stepped =>
      dsimp only at held ⊢
      cases UdpMoves.of_step stepped with
      | flow present permitted inner => exact reads held
      | _ => first | exact (held rfl).elim | cases own
  | header main | headerFailed main | replySent main | replyRefused main
  | bindFailed main | hosts main | exited main =>
      exact (unheld main (by simp) held).elim
  | bound main stepped => rfl
  | _ => exact reads held

section Runs

variable {resolvers : List SocketAddr} {trace : List ServerAction}
  {server : Server}

/-- What a run tells is told by the events of its map of UDP channels. -/
theorem filterMap_udpEvents {Item : Type}
    (run : Run Server.step (.start resolvers) trace server)
    (read : ServerAction → Option Item) (view : UdpEvent → Option Item)
    (agree : ∀ server next action, ServerMoves server action next →
      read action = action.udp?.bind view) :
    trace.filterMap read = (udpEvents trace).filterMap view := by
  induction run with
  | start => rfl
  | @extend trace middle next action earlier taken induction =>
      have same := agree middle next action (.of_step taken)
      rw [udpEvents_snoc, List.filterMap_append, List.filterMap_append,
        induction]
      cases concerned : action.udp? with
      | none => simp [same, concerned]
      | some event =>
          rw [concerned, Option.bind_some] at same
          simp [List.filterMap_cons, same]

theorem udpCommand_unreceived (frame : Frame) (member : Nat) :
    (udpCommand frame).bind (UdpEvent.received member) = none ∧
      (udpCommand frame).bind (UdpEvent.forwarded member) = none := by
  unfold udpCommand
  split
  · split <;> exact ⟨rfl, rfl⟩
  · exact ⟨rfl, rfl⟩
  · exact ⟨rfl, rfl⟩

theorem receivedBy_eq
    (run : Run Server.step (.start resolvers) trace server) (member : Nat) :
    receivedBy member trace =
      (udpEvents trace).filterMap (UdpEvent.received member) := by
  refine filterMap_udpEvents run _ _ fun _ _ _ moved => ?_
  cases moved with
  | recv idle dispatched => exact (udpCommand_unreceived _ member).1.symm
  | _ => rfl

theorem forwardedBy_eq
    (run : Run Server.step (.start resolvers) trace server) (member : Nat) :
    forwardedBy member trace =
      (udpEvents trace).filterMap (UdpEvent.forwarded member) := by
  refine filterMap_udpEvents run _ _ fun _ _ _ moved => ?_
  cases moved with
  | recv idle dispatched => exact (udpCommand_unreceived _ member).2.symm
  | @udp event udp own stepped =>
      cases event with
      | flow target inner => cases inner <;> first | rfl | cases own
      | _ => rfl
  | _ => rfl

/-- A frame of a socket is refused only as the writer is gone. -/
theorem refused_of_sendFailed
    (run : Run Server.step (.start resolvers) trace server) {member : Nat}
    (failed : .flow member .sendFailed ∈ udpEvents trace) :
    ∃ frame, .refused (.udp member) frame ∈ trace := by
  induction run with
  | start => cases failed
  | @extend trace middle next action earlier taken induction =>
      rw [udpEvents_snoc] at failed
      rcases List.mem_append.mp failed with before | now
      · rcases induction before with ⟨frame, member⟩
        exact ⟨frame, List.mem_append_left _ member⟩
      · have concerned := Option.mem_toList.mp now
        cases ServerMoves.of_step taken with
        | @recv frame next idle dispatched =>
            simp only [ServerAction.udp?] at concerned
            unfold udpCommand at concerned
            split at concerned
            · split at concerned <;> cases concerned
            · cases concerned
            · cases concerned
        | @udpRefused target frame out udp refused stepped =>
            cases Option.some.inj concerned
            exact ⟨frame, by simp⟩
        | udp own stepped =>
            cases Option.some.inj concerned
            cases own
        | _ => cases concerned

/-- The server relays the datagrams of every socket. -/
structure Relays (trace : List ServerAction) (server : Server) : Prop where
  /-- the map has the sockets of the relay -/
  sockets : (mail trace).owner = server.udp.owner ∧
    (mail trace).count = server.udp.flows.length
  /-- what is addressed to a socket was sent by it, or waits for it -/
  outward : ∀ member, ((mail trace).box member).map rendered =
    sentBy member (udpEvents trace) ++
      (waitingFor member server.udp ++ heldFor member server.udp).map rendered
  /-- what it received went out, but for a frame that the writer left -/
  homeward : ∀ member flow, server.udp.flows[member]? = some flow →
    Forwards flow (receivedBy member trace) (forwardedBy member trace)
      (∃ frame, .refused (.udp member) frame ∈ trace)
  /-- the frame loop is never held up for good -/
  goesOn : ∀ member datagram,
    server.udp.delivering = some (member, datagram) →
      (server.step (.udp (.admitted member datagram))).isSome = true ∨
        ∃ address body, (server.step
          (.udp (.flow member (.sendTo address body)))).isSome = true

/--
Over every run of the server, each socket sends the datagrams that are
addressed to it and its channel gets those that it receives, in order, each
once and none left out; what waits for a full queue can go on.
-/
theorem relays_of_run
    (run : Run Server.step (.start resolvers) trace server) :
    Relays trace server := by
  have tableRun := run_udp run
  have posts := Posts.of_run tableRun
  have same : mail trace =
      delivered ((udpEvents trace).filterMap UdpEvent.post) :=
    congrArg delivered (filterMap_udpEvents run _ _
      fun _ _ _ moved => moved.post_eq)
  constructor
  · exact same ▸ ⟨posts.owner, posts.count⟩
  · intro member
    rw [same, posts.box, List.map_append, queuedFor_eq member tableRun,
      List.map_append, List.append_assoc]
  · intro member flow present
    rw [receivedBy_eq run, forwardedBy_eq run]
    rcases (forwards_of_run tableRun member).2 flow present with
      ⟨kept, lost, whole, sent, ends⟩
    exact ⟨kept, lost, whole, sent, fun some_ =>
      ⟨(ends some_).1, (ends some_).2.1,
        refused_of_sendFailed run (ends some_).2.2⟩⟩
  · intro member datagram waiting
    have reading := reading_of_held run (by simp [waiting])
    rcases (UdpTable.Served.of_run tableRun).goesOn waiting with
      admitted | ⟨address, body, sent⟩
    · exact .inl (by simp [Server.step, reading, ownUdpEvent, admitted])
    · exact .inr ⟨address, body, by
        simp [Server.step, reading, ownUdpEvent, sent]⟩

end Runs

/-- A datagram comes home and its answer goes out. -/
theorem relays_exchange :
    forwardedBy 0 (exchange somePeer) =
        (receivedBy 0 (exchange somePeer)).map (relayFrame 5) ∧
      ((mail (exchange somePeer)).box 0).map rendered =
        sentBy 0 (udpEvents (exchange somePeer)) := by
  rcases run_of_execute_any Server.step (.start []) (exchange somePeer)
    (fun server => decide (server.udp.delivering = none ∧
      server.udp.flows =
        [{ UdpFlow.fresh 5 afInet6 with receiver := .checking }]))
    (by decide +kernel) with ⟨server, run, test⟩
  rcases of_decide_eq_true test with ⟨free, sockets⟩
  have relays := relays_of_run run
  constructor
  · have whole := (relays.homeward 0 _ (by rw [sockets]; rfl)).whole
      (by simp)
    simpa [UdpFlow.pendingFrame, UdpFlow.fresh] using whole
  · rw [relays.outward, waitingFor, sockets, heldFor_of_free free]
    simp [UdpFlow.fresh]

end KubectlSshuttle.Rushtle
