import KubectlSshuttle.Rushtle.Server

/-!
# Where a DNS answer comes from

Each attempt of `spawn_dns` opens a socket of its own, sends the query to one
resolver and takes the first datagram that reaches the socket.  The socket is
not connected, so anybody can reach it.
-/

namespace KubectlSshuttle.Rushtle.DnsSources

open KubectlSshuttle.Lib.RustText
open KubectlSshuttle.Lib.Address
open KubectlSshuttle.Lib.Transition
open KubectlSshuttle.Rushtle.Ssnet
open KubectlSshuttle.Rushtle.UdpFlows

/-! ## A query and its sockets -/

/-- What arrives at a socket, and from where. -/
structure Datagram where
  source : SocketAddr
  body : Bytes
deriving DecidableEq

/-- The task of a query, and what waits at the socket of its attempt. -/
structure Asking where
  query : DnsQuery
  socket : List Datagram
deriving DecidableEq

/-- What happens at the socket of a query. -/
inductive SocketEvent where
  /-- a datagram arrives at the socket of the attempt -/
  | arrives (datagram : Datagram)
  /-- `recv` returns the datagram -/
  | received (datagram : Datagram)
  /-- bind, send or receive fails, or the timeout passes -/
  | attemptFailed
  | sent (frame : Frame)
  | sendFailed
deriving DecidableEq

/-- A query with no socket yet. -/
def Asking.start (resolvers : List SocketAddr) (channel : UInt16)
    (bytes : Bytes) : Asking where
  query := .spawn resolvers channel bytes
  socket := []

/-- The query takes a step, and its socket is closed. -/
def Asking.close (asking : Asking) (event : DnsEvent) : Option Asking :=
  (asking.query.step event).map fun query =>
    { query := query, socket := [] }

/-- The socket takes datagrams from any source. -/
def Asking.step (asking : Asking) (event : SocketEvent) : Option Asking :=
  match event with
  | .arrives datagram =>
      match asking.query.task with
      | .asking _ _ =>
          some { asking with socket := asking.socket ++ [datagram] }
      | _ => none
  | .received datagram =>
      if asking.socket.head? = some datagram then
        asking.close (.datagram datagram.source datagram.body)
      else none
  | .attemptFailed => asking.close .attemptFailed
  | .sent frame => asking.close (.sent frame)
  | .sendFailed => asking.close .sendFailed

/-- What an event means to the task. -/
def SocketEvent.dns? : SocketEvent → Option DnsEvent
  | .arrives _ => none
  | .received datagram => some (.datagram datagram.source datagram.body)
  | .attemptFailed => some .attemptFailed
  | .sent frame => some (.sent frame)
  | .sendFailed => some .sendFailed

section Query

variable {resolvers : List SocketAddr} {channel : UInt16} {bytes : Bytes}

theorem Asking.close_eq_some {asking next : Asking} {event : DnsEvent}
    (closed : asking.close event = some next) :
    asking.query.step event = some next.query ∧ next.socket = [] := by
  rcases Option.map_eq_some_iff.mp closed with ⟨query, taken, rfl⟩
  exact ⟨taken, rfl⟩

/-- With its sockets, the task does what it does without. -/
theorem query_of_run {trace : List SocketEvent} {asking : Asking}
    (run : Run Asking.step (.start resolvers channel bytes) trace asking) :
    Run DnsQuery.step (.spawn resolvers channel bytes)
      (trace.filterMap SocketEvent.dns?) asking.query := by
  refine run.project Asking.query SocketEvent.dns? ?_
  intro state event next taken
  cases event with
  | arrives datagram =>
      simp only [Asking.step] at taken
      split at taken
      · rcases Option.some.inj taken with rfl
        rfl
      · cases taken
  | received datagram =>
      simp only [Asking.step, Option.ite_none_right_eq_some] at taken
      exact (Asking.close_eq_some taken.2).1
  | attemptFailed => exact (Asking.close_eq_some taken).1
  | sent frame => exact (Asking.close_eq_some taken).1
  | sendFailed => exact (Asking.close_eq_some taken).1

end Query

/-! ## What has happened -/

/-- The attempts that have failed. -/
def failures (trace : List SocketEvent) : Nat :=
  trace.count .attemptFailed

/-- What has arrived at the socket that was opened last. -/
def arrivals (trace : List SocketEvent) : List Datagram :=
  trace.foldl
    (fun arrived event =>
      match event with
      | .arrives datagram => arrived ++ [datagram]
      | .attemptFailed => []
      | _ => arrived) []

/-- The datagrams that `recv` has returned. -/
def received (trace : List SocketEvent) : List Datagram :=
  trace.filterMap fun
    | .received datagram => some datagram
    | _ => none

/-- The responses put on `out_tx`. -/
def responses (trace : List SocketEvent) : List Frame :=
  trace.filterMap fun
    | .sent frame => some frame
    | _ => none

/--
The response carries a datagram that `recv` has returned and that comes from
the resolver of that attempt; or it is the empty one, behind attempts that
have all failed.
-/
inductive FromAsked (resolvers : List SocketAddr)
    (trace : List SocketEvent) (frame : Frame) : Prop where
  | answered {nameserver : SocketAddr} {datagram : Datagram}
      (asked : resolvers[failures trace]? = some nameserver)
      (returned : datagram ∈ received trace)
      (source : datagram.source = nameserver)
      (data : frame.data = datagram.body.take datagramSize)
  | allFailed (failed : failures trace = resolvers.length)
      (nothing : received trace = []) (data : frame.data = [])

/-- What first reached the last socket comes from the resolver asked. -/
def FirstFromAsked (resolvers : List SocketAddr)
    (trace : List SocketEvent) : Prop :=
  ∀ nameserver, resolvers[failures trace]? = some nameserver →
    (arrivals trace).head?.map Datagram.source = some nameserver

section Snoc

variable (trace : List SocketEvent) (event : SocketEvent)

theorem arrivals_concat :
    arrivals (trace ++ [event]) =
      match event with
      | .arrives datagram => arrivals trace ++ [datagram]
      | .attemptFailed => []
      | _ => arrivals trace := by
  rw [arrivals, List.foldl_concat]
  rfl

theorem failures_concat :
    failures (trace ++ [event]) =
      failures trace + if event = .attemptFailed then 1 else 0 := by
  rw [failures, failures, List.count_append, List.count_singleton]
  simp

theorem received_concat :
    received (trace ++ [event]) =
      received trace ++
        match event with
        | .received datagram => [datagram]
        | _ => [] := by
  rw [received, received, List.filterMap_append]
  cases event <;> rfl

theorem responses_concat :
    responses (trace ++ [event]) =
      responses trace ++
        match event with
        | .sent frame => [frame]
        | _ => [] := by
  rw [responses, responses, List.filterMap_append]
  cases event <;> rfl

end Snoc

/-! ## The invariant -/

/-- What the reply of a task that has stopped asking is. -/
inductive Settled (resolvers : List SocketAddr) (trace : List SocketEvent)
    (reply : Bytes) : Prop where
  | answered {nameserver : SocketAddr} {datagram : Datagram}
      (asked : resolvers[failures trace]? = some nameserver)
      (first : (arrivals trace).head? = some datagram)
      (returned : received trace = [datagram])
      (data : reply = datagram.body.take datagramSize)
  | allFailed (failed : failures trace = resolvers.length)
      (nothing : received trace = []) (data : reply = [])

/-- Where a query stands, by what has happened. -/
inductive Stands (resolvers : List SocketAddr) (trace : List SocketEvent)
    (asking : Asking) : Prop where
  | asking {nameserver : SocketAddr} {untried : List SocketAddr}
      (task : asking.query.task = .asking nameserver untried)
      (order : resolvers.drop (failures trace) = nameserver :: untried)
      (waiting : asking.socket = arrivals trace)
      (nothing : received trace = []) (unsent : responses trace = [])
  | responding {reply : Bytes}
      (task : asking.query.task = .responding reply)
      (settled : Settled resolvers trace reply)
      (unsent : responses trace = [])
  | done {reply : Bytes} (task : asking.query.task = .done)
      (settled : Settled resolvers trace reply)
      (sent : ∀ frame ∈ responses trace, frame.data = reply)

section Runs

variable {resolvers : List SocketAddr} {channel : UInt16} {bytes : Bytes}
  {trace : List SocketEvent} {asking next : Asking}

/-- Whatever is left to ask is asked next. -/
theorem Stands.tryNext {untried : List SocketAddr}
    (task : asking.query.task = .tryNext untried)
    (order : resolvers.drop (failures trace) = untried)
    (most : failures trace ≤ resolvers.length)
    (waiting : asking.socket = arrivals trace)
    (nothing : received trace = []) (unsent : responses trace = []) :
    Stands resolvers trace asking := by
  cases untried with
  | nil =>
      have failed : failures trace = resolvers.length :=
        Nat.le_antisymm most (List.drop_eq_nil_iff.mp order)
      exact .responding task (.allFailed failed nothing rfl) unsent
  | cons nameserver others => exact .asking task order waiting nothing unsent

theorem Stands.start :
    Stands resolvers [] (.start resolvers channel bytes) :=
  .tryNext rfl rfl (Nat.zero_le _) rfl rfl rfl

/-- The first datagram that waits settles the reply. -/
theorem Stands.recv {datagram : Datagram}
    (stands : Stands resolvers trace asking)
    (front : asking.socket.head? = some datagram)
    (taken : asking.query.step (.datagram datagram.source datagram.body) =
      some next.query) :
    Stands resolvers (trace ++ [.received datagram]) next := by
  simp only [DnsQuery.step] at taken
  cases stands with
  | responding task settled unsent => simp [task] at taken
  | done task settled sent => simp [task] at taken
  | @asking nameserver untried task order waiting nothing unsent =>
      rw [task] at taken
      have stops := congrArg DnsQuery.task (Option.some.inj taken)
      have asked : resolvers[failures (trace ++ [.received datagram])]? =
          some nameserver := by
        rw [failures_concat, if_neg SocketEvent.noConfusion, Nat.add_zero,
          ← List.head?_drop, order, List.head?_cons]
      have first : (arrivals (trace ++ [.received datagram])).head? =
          some datagram := by
        rw [arrivals_concat, ← waiting, front]
      have returned : received (trace ++ [.received datagram]) =
          [datagram] := by
        rw [received_concat, nothing, List.nil_append]
      refine .responding stops.symm (.answered asked first returned rfl) ?_
      rw [responses_concat, unsent, List.append_nil]

theorem Stands.attemptFailed
    (stands : Stands resolvers trace asking)
    (taken : asking.query.step .attemptFailed = some next.query)
    (closed : next.socket = []) :
    Stands resolvers (trace ++ [.attemptFailed]) next := by
  simp only [DnsQuery.step] at taken
  cases stands with
  | responding task settled unsent => simp [task] at taken
  | done task settled sent => simp [task] at taken
  | @asking nameserver untried task order waiting nothing unsent =>
      rw [task] at taken
      have goesOn := congrArg DnsQuery.task (Option.some.inj taken)
      have more : failures (trace ++ [.attemptFailed]) =
          failures trace + 1 := by
        rw [failures_concat, if_pos rfl]
      have within : failures trace < resolvers.length := by
        rw [← not_le]
        intro beyond
        rw [List.drop_eq_nil_of_le beyond] at order
        cases order
      refine .tryNext goesOn.symm ?_ ?_ ?_ ?_ ?_
      · rw [more, ← List.tail_drop, order, List.tail_cons]
      · omega
      · rw [closed, arrivals_concat]
      · rw [received_concat, nothing, List.append_nil]
      · rw [responses_concat, unsent, List.append_nil]

/-- What is settled stays settled. -/
theorem Settled.concat {reply : Bytes} {event : SocketEvent}
    (settled : Settled resolvers trace reply)
    (ends : (∃ frame, event = .sent frame) ∨ event = .sendFailed) :
    Settled resolvers (trace ++ [event]) reply := by
  have sameFailures : failures (trace ++ [event]) = failures trace := by
    rcases ends with ⟨frame, rfl⟩ | rfl <;> simp [failures_concat]
  have sameArrivals : arrivals (trace ++ [event]) = arrivals trace := by
    rcases ends with ⟨frame, rfl⟩ | rfl <;> simp [arrivals_concat]
  have sameReceived : received (trace ++ [event]) = received trace := by
    rcases ends with ⟨frame, rfl⟩ | rfl <;> simp [received_concat]
  cases settled with
  | answered asked first returned data =>
      exact .answered (sameFailures ▸ asked) (sameArrivals ▸ first)
        (sameReceived ▸ returned) data
  | allFailed failed nothing data =>
      exact .allFailed (sameFailures ▸ failed) (sameReceived ▸ nothing) data

/-- The task stops with its reply sent, or with nobody to send it to. -/
theorem Stands.finish {event : SocketEvent}
    (stands : Stands resolvers trace asking)
    (ends : event = .sendFailed ∨
      ∃ frame, event = .sent frame ∧
        asking.query.pendingFrame = some frame)
    (pending : asking.query.pendingFrame.isSome = true)
    (stopped : next.query.task = .done) :
    Stands resolvers (trace ++ [event]) next := by
  cases stands with
  | asking task order waiting nothing unsent =>
      simp [DnsQuery.pendingFrame, task] at pending
  | done task settled sent =>
      simp [DnsQuery.pendingFrame, task] at pending
  | @responding reply task settled unsent =>
      rcases ends with rfl | ⟨frame, rfl, held⟩
      · refine .done stopped (settled.concat (.inr rfl)) ?_
        simp [responses_concat, unsent]
      · refine .done stopped (settled.concat (.inl ⟨frame, rfl⟩)) ?_
        rw [DnsQuery.pendingFrame, task] at held
        rcases Option.some.inj held with rfl
        simp [responses_concat, unsent]

theorem Stands.arrives {datagram : Datagram}
    (stands : Stands resolvers trace asking)
    (taken : asking.step (.arrives datagram) = some next) :
    Stands resolvers (trace ++ [.arrives datagram]) next := by
  simp only [Asking.step] at taken
  cases stands with
  | responding task settled unsent => simp [task] at taken
  | done task settled sent => simp [task] at taken
  | @asking nameserver untried task order waiting nothing unsent =>
      rw [task] at taken
      rcases Option.some.inj taken with rfl
      refine .asking task ?_ ?_ ?_ ?_
      · rw [failures_concat, if_neg SocketEvent.noConfusion, Nat.add_zero]
        exact order
      · rw [arrivals_concat, waiting]
      · rw [received_concat, nothing, List.append_nil]
      · rw [responses_concat, unsent, List.append_nil]

theorem Stands.step {event : SocketEvent}
    (stands : Stands resolvers trace asking)
    (taken : asking.step event = some next) :
    Stands resolvers (trace ++ [event]) next := by
  cases event with
  | arrives datagram => exact stands.arrives taken
  | received datagram =>
      simp only [Asking.step, Option.ite_none_right_eq_some] at taken
      exact stands.recv taken.1 (Asking.close_eq_some taken.2).1
  | attemptFailed =>
      rcases Asking.close_eq_some taken with ⟨moved, closed⟩
      exact stands.attemptFailed moved closed
  | sent frame =>
      have moved := (Asking.close_eq_some taken).1
      simp only [DnsQuery.step, Option.ite_none_right_eq_some,
        Option.some.injEq] at moved
      rcases moved with ⟨pending, stopped⟩
      exact stands.finish (.inr ⟨frame, rfl, pending⟩)
        (by rw [pending]; rfl) (by rw [← stopped])
  | sendFailed =>
      have moved := (Asking.close_eq_some taken).1
      simp only [DnsQuery.step, Option.ite_none_right_eq_some,
        Option.some.injEq] at moved
      exact stands.finish (.inl rfl) moved.1 (by rw [← moved.2])

theorem stands_of_run
    (run : Run Asking.step (.start resolvers channel bytes) trace asking) :
    Stands resolvers trace asking :=
  run.invariant .start fun _ _ _ _ _ stands taken => stands.step taken

/-! ## The answer -/

/--
A response comes from the resolver asked exactly if what first reaches the
socket of the last attempt does.
-/
theorem fromAsked_iff {frame : Frame}
    (run : Run Asking.step (.start resolvers channel bytes) trace asking)
    (responded : frame ∈ responses trace) :
    FromAsked resolvers trace frame ↔ FirstFromAsked resolvers trace := by
  cases stands_of_run run with
  | asking task order waiting nothing unsent => simp [unsent] at responded
  | responding task settled unsent => simp [unsent] at responded
  | @done reply task settled sent =>
      have data := sent frame responded
      cases settled with
      | allFailed failed nothing isEmpty =>
          refine iff_of_true (.allFailed failed nothing (data.trans isEmpty))
            fun nameserver asked => ?_
          have within := (List.getElem?_eq_some_iff.mp asked).1
          omega
      | @answered nameserver datagram asked first returned carried =>
          constructor
          · intro fromAsked other same
            cases fromAsked with
            | allFailed failed nothing empty =>
                rw [returned] at nothing
                cases nothing
            | answered asked' returned' source data' =>
                rw [returned, List.mem_singleton] at returned'
                subst returned'
                rw [first, Option.map_some, source, ← asked', same]
          · intro fromAsked
            have source := fromAsked nameserver asked
            rw [first, Option.map_some, Option.some.injEq] at source
            exact .answered asked (by simp [returned]) source
              (data.trans carried)

end Runs

/-! ## Two runs -/

/-- A resolver inside the cluster. -/
def address (last : UInt8) : SocketAddr where
  ip := .v4 ⟨10, 96, 0, last⟩
  port := 53

/-- The first resolver is silent, the second answers. -/
def honestTrace : List SocketEvent :=
  [.attemptFailed, .arrives ⟨address 11, [7]⟩, .arrives ⟨address 66, [9]⟩,
    .received ⟨address 11, [7]⟩, .sent ⟨3, cmdDnsResponse, [7]⟩]

theorem fromAsked_iff_honest :
    ∃ asking, Run Asking.step
        (.start [address 10, address 11] 3 [1]) honestTrace asking ∧
      (FromAsked [address 10, address 11] honestTrace
          ⟨3, cmdDnsResponse, [7]⟩ ↔
        FirstFromAsked [address 10, address 11] honestTrace) := by
  have run : Run Asking.step (.start [address 10, address 11] 3 [1])
      honestTrace ⟨⟨3, [1], .done⟩, []⟩ := run_of_execute (by decide)
  exact ⟨_, run, fromAsked_iff run (by decide)⟩

/-- A forged datagram reaches the socket first. -/
def forgedTrace : List SocketEvent :=
  [.arrives ⟨address 66, [9]⟩, .arrives ⟨address 10, [7]⟩,
    .received ⟨address 66, [9]⟩, .sent ⟨3, cmdDnsResponse, [9]⟩]

/-- The forged datagram is forwarded as the answer. -/
theorem forged_answer_forwarded :
    ∃ asking, Run Asking.step (.start [address 10] 3 [1]) forgedTrace
        asking ∧
      ⟨3, cmdDnsResponse, [9]⟩ ∈ responses forgedTrace ∧
      ¬ FromAsked [address 10] forgedTrace ⟨3, cmdDnsResponse, [9]⟩ := by
  have run : Run Asking.step (.start [address 10] 3 [1]) forgedTrace
      ⟨⟨3, [1], .done⟩, []⟩ := run_of_execute (by decide)
  refine ⟨_, run, by decide, fun fromAsked => ?_⟩
  cases fromAsked with
  | allFailed failed nothing data => cases data
  | @answered nameserver datagram asked returned source data =>
      have forged : datagram = ⟨address 66, [9]⟩ :=
        List.mem_singleton.mp returned
      subst forged
      rw [← source] at asked
      exact absurd asked (by decide)

end KubectlSshuttle.Rushtle.DnsSources
