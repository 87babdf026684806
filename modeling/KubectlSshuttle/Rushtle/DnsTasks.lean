import KubectlSshuttle.Rushtle.Grammar

/-!
# The server's DNS tasks

Each `DNS_REQ` that the server reads starts one task, which asks the resolvers
in their order until one of them answers.  A task that is done has put one
response on `out_tx`: the first answer, or an empty one where every attempt
has failed.  Nothing else sends a response.
-/

namespace KubectlSshuttle.Rushtle

open KubectlSshuttle.Lib.RustText
open KubectlSshuttle.Lib.Address
open KubectlSshuttle.Lib.Transition
open KubectlSshuttle.Rushtle.Ssnet
open KubectlSshuttle.Rushtle.OutQueue
open KubectlSshuttle.Rushtle.UdpFlows

/-! ## One task -/

/-- How an attempt ends: with the bytes of `dns_query_one`, or without. -/
def DnsEvent.outcome? : DnsEvent → Option (Option Bytes)
  | .datagram _ body => some (some (body.take datagramSize))
  | .attemptFailed => some none
  | .sent _ | .sendFailed => none

/-- The frame that the query sends. -/
def DnsEvent.sent? : DnsEvent → Option Frame
  | .sent frame => some frame
  | .datagram _ _ | .attemptFailed | .sendFailed => none

/-- How the attempts of a task have ended so far, in order. -/
def outcomes (events : List DnsEvent) : List (Option Bytes) :=
  events.filterMap DnsEvent.outcome?

/-- What a task has put on `out_tx`. -/
def taskFrames (events : List DnsEvent) : List Frame :=
  events.filterMap DnsEvent.sent?

/-- The reply that the outcomes of the attempts call for. -/
inductive FirstAnswer (resolvers : List SocketAddr)
    (outcomes : List (Option Bytes)) : Bytes → Prop where
  | found {tried untried : List SocketAddr} {nameserver : SocketAddr}
      {reply : Bytes} (order : resolvers = tried ++ nameserver :: untried)
      (ended : outcomes = tried.map (fun _ => none) ++ [some reply]) :
      FirstAnswer resolvers outcomes reply
  | allFailed (ended : outcomes = resolvers.map fun _ => none) :
      FirstAnswer resolvers outcomes []

/-- Where a task stands, by what has happened to it. -/
inductive DnsProgress (resolvers : List SocketAddr) (events : List DnsEvent)
    (query : DnsQuery) : Prop where
  | asking {tried untried : List SocketAddr} {nameserver : SocketAddr}
      (task : query.task = .asking nameserver untried)
      (order : resolvers = tried ++ nameserver :: untried)
      (ended : outcomes events = tried.map fun _ => none)
      (unsent : taskFrames events = [])
  | responding {reply : Bytes} (task : query.task = .responding reply)
      (answer : FirstAnswer resolvers (outcomes events) reply)
      (unsent : taskFrames events = [])
  | done {reply : Bytes} (task : query.task = .done)
      (answer : FirstAnswer resolvers (outcomes events) reply)
      (sent : taskFrames events = [⟨query.channel, cmdDnsResponse, reply⟩])

section Task

variable {resolvers : List SocketAddr} {events : List DnsEvent}
  {query next : DnsQuery} {event : DnsEvent}

theorem outcomes_snoc : outcomes (events ++ [event]) =
    outcomes events ++ event.outcome?.toList := by
  cases h : event.outcome? <;> simp [outcomes, h]

theorem taskFrames_snoc : taskFrames (events ++ [event]) =
    taskFrames events ++ event.sent?.toList := by
  cases h : event.sent? <;> simp [taskFrames, h]

theorem DnsProgress.spawn (channel : UInt16) (bytes : Bytes) :
    DnsProgress resolvers [] (.spawn resolvers channel bytes) := by
  cases resolvers with
  | nil => exact .responding rfl (.allFailed rfl) rfl
  | cons nameserver untried =>
      have order : nameserver :: untried = [] ++ nameserver :: untried := rfl
      exact .asking rfl order rfl rfl

/-- An attempt ends. -/
theorem DnsProgress.attempted {untried : List SocketAddr}
    {nameserver : SocketAddr} {outcome : Option Bytes}
    (progress : DnsProgress resolvers events query)
    (task : query.task = .asking nameserver untried)
    (isOutcome : event.outcome? = some outcome) (unsent : event.sent? = none)
    (goesOn : next.task = match outcome with
      | some reply => .responding reply
      | none => .tryNext untried) :
    DnsProgress resolvers (events ++ [event]) next := by
  cases progress with
  | responding other answer none => simp [task] at other
  | done other answer sent => simp [task] at other
  | @asking tried untried' nameserver' asks order ended none =>
      rw [task] at asks
      rcases DnsTask.asking.inj asks with ⟨rfl, rfl⟩
      have nothing : taskFrames (events ++ [event]) = [] := by
        simp [taskFrames_snoc, none, unsent]
      have known : outcomes (events ++ [event]) =
          tried.map (fun _ => .none) ++ [outcome] := by
        simp [outcomes_snoc, ended, isOutcome]
      cases outcome with
      | some reply => exact .responding goesOn (.found order known) nothing
      | none =>
          cases untried with
          | nil =>
              refine .responding goesOn (.allFailed ?_) nothing
              rw [known, order]
              simp
          | cons further untried =>
              have further : resolvers =
                  (tried ++ [nameserver]) ++ further :: untried := by
                rw [order]
                simp
              refine .asking goesOn further ?_ nothing
              rw [known]
              simp

theorem DnsProgress.step (progress : DnsProgress resolvers events query)
    (taken : query.step event = some next) (sends : event ≠ .sendFailed) :
    DnsProgress resolvers (events ++ [event]) next := by
  cases event with
  | datagram source body =>
      simp only [DnsQuery.step] at taken
      split at taken
      · next nameserver untried task =>
          rcases Option.some.inj taken with rfl
          exact progress.attempted task rfl rfl rfl
      · cases taken
  | attemptFailed =>
      simp only [DnsQuery.step] at taken
      split at taken
      · next nameserver untried task =>
          rcases Option.some.inj taken with rfl
          exact progress.attempted task rfl rfl rfl
      · cases taken
  | sent frame =>
      simp only [DnsQuery.step, Option.ite_none_right_eq_some,
        Option.some.injEq] at taken
      rcases taken with ⟨pending, rfl⟩
      unfold DnsQuery.pendingFrame at pending
      cases progress with
      | asking task order ended unsent => simp [task] at pending
      | done task answer sent => simp [task] at pending
      | @responding reply task answer unsent =>
          simp only [task, Option.some.injEq] at pending
          subst pending
          have sent : taskFrames (events ++
              [.sent ⟨query.channel, cmdDnsResponse, reply⟩]) =
                [⟨query.channel, cmdDnsResponse, reply⟩] := by
            simp [taskFrames_snoc, unsent, DnsEvent.sent?]
          refine .done rfl ?_ sent
          simpa [outcomes_snoc, DnsEvent.outcome?] using answer
  | sendFailed => exact (sends rfl).elim

/-- A task that is done has put one frame on `out_tx`, any other none. -/
theorem DnsProgress.length_taskFrames
    (progress : DnsProgress resolvers events query) :
    (taskFrames events).length = if query.task = .done then 1 else 0 := by
  cases progress with
  | asking task order ended unsent => simp [task, unsent]
  | responding task answer unsent => simp [task, unsent]
  | done task answer sent => simp [task, sent]

end Task

/-! ## What a step of the server means for the tasks -/

/-- What a frame asks of a resolver. -/
def dnsRequest? (frame : Frame) : Option (UInt16 × Bytes) :=
  if frame.command = .dnsReq then some (frame.channel, frame.data) else none

/-- The queries that the frames carry, in order. -/
def requestsOf (frames : List Frame) : List (UInt16 × Bytes) :=
  frames.filterMap dnsRequest?

/-- What an action does to the task with the number. -/
def ServerAction.dns? : ServerAction → Option (Nat × DnsEvent)
  | .dns number event => some (number, event)
  | .enqueued (.dns number) frame => some (number, .sent frame)
  | .refused (.dns number) _ => some (number, .sendFailed)
  | _ => none

/-- What a step means to one query. -/
def ServerAction.dnsOf (number : Nat) (action : ServerAction) :
    Option DnsEvent :=
  action.dns?.bind fun event =>
    if event.1 = number then some event.2 else none

/-- What has happened to the task with the number. -/
def dnsEvents (number : Nat) (trace : List ServerAction) : List DnsEvent :=
  trace.filterMap (ServerAction.dnsOf number)

/-- The answer that is sent, with the number of its query. -/
def ServerAction.answer? : ServerAction → Option (Nat × Frame)
  | .enqueued (.dns number) frame => some (number, frame)
  | _ => none

/-- The responses put on `out_tx`, each with the number of its task. -/
def answersOf (trace : List ServerAction) : List (Nat × Frame) :=
  trace.filterMap ServerAction.answer?

/-- What a step means for the tasks. -/
inductive DnsMoved (server : Server) (action : ServerAction) (next : Server) :
    Prop where
  | still (unconcerned : action.dns? = none)
      (unasked : action.received?.bind dnsRequest? = none)
      (same : next.dns = server.dns)
  | asked {channel : UInt16} {bytes : Bytes}
      (unconcerned : action.dns? = none)
      (request : action.received?.bind dnsRequest? = some (channel, bytes))
      (added : next.dns =
        server.dns ++ [DnsQuery.spawn server.resolvers channel bytes])
  | moved {number : Nat} {event : DnsEvent} {query query' : DnsQuery}
      (concerned : action.dns? = some (number, event))
      (failure : event = .sendFailed →
        ∃ source frame, action = .refused source frame)
      (unasked : action.received?.bind dnsRequest? = none)
      (found : server.dns[number]? = some query)
      (taken : query.step event = some query')
      (updated : next.dns = server.dns.set number query')

/-- The frame loop starts a task for a `DNS_REQ` and for nothing else. -/
theorem Server.dns_of_dispatch {server next : Server} {frame : Frame}
    (taken : server.dispatch frame = some next) :
    next.resolvers = server.resolvers ∧
      next.dns = server.dns ++ (dnsRequest? frame).toList.map fun request =>
        DnsQuery.spawn server.resolvers request.1 request.2 := by
  unfold Server.dispatch at taken
  unfold dnsRequest?
  cases command : frame.command <;> rw [command] at taken <;>
    dsimp only at taken
  case tcpConnect =>
    split at taken
    · rcases Option.some.inj taken with rfl
      exact ⟨rfl, by simp⟩
    · rcases Option.map_eq_some_iff.mp taken with ⟨tcp, _, rfl⟩
      exact ⟨rfl, by simp⟩
  case udpData =>
    split at taken
    · rcases Option.some.inj taken with rfl
      exact ⟨rfl, by simp⟩
    · rcases Option.map_eq_some_iff.mp taken with ⟨udp, _, rfl⟩
      exact ⟨rfl, by simp⟩
  case tcpData | tcpEof | tcpStopSending | udpClose =>
    rcases Option.map_eq_some_iff.mp taken with ⟨table, _, rfl⟩
    exact ⟨rfl, by simp⟩
  all_goals
    rcases Option.some.inj taken with rfl
    exact ⟨rfl, by simp⟩

theorem DnsMoved.of_step {server next : Server} {action : ServerAction}
    (taken : server.step action = some next) :
    next.resolvers = server.resolvers ∧ DnsMoved server action next := by
  cases ServerMoves.of_step taken with
  | @recv frame next idle dispatched =>
      have dispatch : server.dispatch frame = some next := by
        unfold Server.step at taken
        split at taken
        · cases taken
        · simpa [idle] using taken
      rcases Server.dns_of_dispatch dispatch with ⟨same, added⟩
      refine ⟨same, ?_⟩
      cases request : dnsRequest? frame with
      | none =>
          rw [request] at added
          exact .still rfl request (by simpa using added)
      | some request' =>
          rw [request] at added
          exact .asked rfl request added
  | dnsSent queued found moved =>
      exact ⟨rfl, .moved rfl DnsEvent.noConfusion rfl found moved rfl⟩
  | dnsRefused refused found moved =>
      exact ⟨rfl, .moved rfl (fun _ => ⟨_, _, rfl⟩) rfl found moved rfl⟩
  | dns own found moved =>
      refine ⟨rfl, .moved rfl ?_ rfl found moved rfl⟩
      rintro rfl
      cases own
  | _ => exact ⟨rfl, .still rfl rfl rfl⟩

/-- What a step puts on `out_tx` for a query. -/
theorem ServerAction.answer_of_step {server next : Server}
    {action : ServerAction} (taken : server.step action = some next) :
    action.answer? = action.dns?.bind fun event =>
      event.2.sent?.map fun frame => (event.1, frame) := by
  cases action with
  | dns number event =>
      cases ServerMoves.of_step taken with
      | dns own found moved =>
          cases event with
          | sent frame => cases own
          | _ => rfl
  | enqueued source frame => cases source <;> rfl
  | refused source frame => cases source <;> rfl
  | _ => rfl

/-! ## The tasks of a run -/

section Snoc

variable (number : Nat) (trace : List ServerAction) (action : ServerAction)

theorem dnsEvents_snoc : dnsEvents number (trace ++ [action]) =
    dnsEvents number trace ++ (action.dnsOf number).toList := by
  cases h : action.dnsOf number <;> simp [dnsEvents, h]

theorem answersOf_snoc : answersOf (trace ++ [action]) =
    answersOf trace ++ action.answer?.toList := by
  cases h : action.answer? <;> simp [answersOf, h]

end Snoc

theorem requestsOf_append (left right : List Frame) :
    requestsOf (left ++ right) = requestsOf left ++ requestsOf right :=
  List.filterMap_append

theorem requestsOf_toList (frame : Option Frame) :
    requestsOf frame.toList = (frame.bind dnsRequest?).toList := by
  cases frame with
  | none => rfl
  | some frame =>
      cases h : dnsRequest? frame <;> simp [requestsOf, h]

/-- The query that a task was started for. -/
def DnsQuery.request (query : DnsQuery) : UInt16 × Bytes :=
  (query.channel, query.query)

section Runs

variable {resolvers : List SocketAddr} {trace : List ServerAction}
  {server : Server}

/-- There is one task for each query read, in order. -/
theorem tasks_of_run
    (run : Run Server.step (.start resolvers) trace server) :
    server.dns.map DnsQuery.request = requestsOf (serverReads trace) := by
  apply run.invariant (motive := fun trace server =>
    server.dns.map DnsQuery.request = requestsOf (serverReads trace)) rfl
  intro trace server action next earlier known taken
  rw [serverReads_snoc, requestsOf_append, requestsOf_toList, ← known]
  rcases DnsMoved.of_step taken with ⟨_, moved⟩
  cases moved with
  | still unconcerned unasked same => simp [unasked, same]
  | asked unconcerned request added =>
      simp [request, added, DnsQuery.request, DnsQuery.spawn]
  | @moved number event query query' concerned failure unasked found taken
      updated =>
      rcases DnsQuery.keeps_query taken with ⟨sameChannel, sameBytes⟩
      rcases List.getElem?_eq_some_iff.mp found with ⟨within, present⟩
      have kept : (server.dns.set number query').map DnsQuery.request =
          server.dns.map DnsQuery.request := by
        apply List.ext_getElem?
        intro place
        by_cases same : number = place
        · subst same
          simp [within, present, DnsQuery.request, sameChannel, sameBytes]
        · simp [List.getElem?_set_ne same]
      rw [updated, kept, unasked]
      simp

/-- Every task has done its work so far, and no other has done any. -/
structure DnsServed (resolvers : List SocketAddr)
    (trace : List ServerAction) (server : Server) : Prop where
  order : server.resolvers = resolvers
  unborn : ∀ number, server.dns[number]? = none →
    dnsEvents number trace = []
  progress : ∀ number query, server.dns[number]? = some query →
    DnsProgress resolvers (dnsEvents number trace) query

theorem DnsServed.step {action : ServerAction} {next : Server}
    (served : DnsServed resolvers trace server)
    (taken : server.step action = some next)
    (sends : ∀ source frame, action ≠ .refused source frame) :
    DnsServed resolvers (trace ++ [action]) next := by
  rcases DnsMoved.of_step taken with ⟨sameResolvers, moved⟩
  have untouched : action.dns? = none → ∀ number,
      dnsEvents number (trace ++ [action]) = dnsEvents number trace := by
    intro unconcerned number
    simp [dnsEvents_snoc, ServerAction.dnsOf, unconcerned]
  refine ⟨sameResolvers.trans served.order, ?_, ?_⟩
  · intro number missing
    cases moved with
    | still unconcerned unasked same =>
        rw [untouched unconcerned]
        exact served.unborn number (same ▸ missing)
    | asked unconcerned request added =>
        rw [untouched unconcerned]
        apply served.unborn
        rw [added, List.getElem?_eq_none_iff, List.length_append] at missing
        exact List.getElem?_eq_none_iff.mpr (by omega)
    | @moved member event query query' concerned failure unasked found taken
        updated =>
        have within := (List.getElem?_eq_some_iff.mp found).1
        rw [updated, List.getElem?_eq_none_iff, List.length_set] at missing
        have other : member ≠ number := by omega
        rw [dnsEvents_snoc, served.unborn number
          (List.getElem?_eq_none_iff.mpr missing)]
        simp [ServerAction.dnsOf, concerned, other]
  · intro number query present
    cases moved with
    | still unconcerned unasked same =>
        rw [untouched unconcerned]
        exact served.progress number query (same ▸ present)
    | asked unconcerned request added =>
        rw [untouched unconcerned]
        rw [added] at present
        rcases Nat.lt_trichotomy number server.dns.length with
          before | new | beyond
        · rw [List.getElem?_append_left before] at present
          exact served.progress number query present
        · rw [new, List.getElem?_concat_length] at present
          rw [← Option.some.inj present, served.order,
            served.unborn number (by simp [new])]
          exact .spawn _ _
        · rw [List.getElem?_eq_none (by simp; omega)] at present
          cases present
    | @moved member event query' after concerned failure unasked found taken
        updated =>
        rw [updated] at present
        by_cases same : member = number
        · subst same
          have within := (List.getElem?_eq_some_iff.mp found).1
          rw [List.getElem?_set_self within] at present
          rw [← Option.some.inj present, dnsEvents_snoc]
          have event_is : action.dnsOf member = some event := by
            simp [ServerAction.dnsOf, concerned]
          rw [event_is]
          apply (served.progress member query' found).step taken
          intro failed
          rcases failure failed with ⟨source, frame, refused⟩
          exact sends source frame refused
        · rw [List.getElem?_set_ne same] at present
          have none : action.dnsOf number = none := by
            simp [ServerAction.dnsOf, concerned, same]
          rw [dnsEvents_snoc, none]
          simpa using served.progress number query present

theorem DnsServed.of_run
    (run : Run Server.step (.start resolvers) trace server)
    (sends : ∀ source frame, .refused source frame ∉ trace) :
    DnsServed resolvers trace server := by
  refine run.invariant (motive := fun trace server =>
    (∀ source frame, .refused source frame ∉ trace) →
      DnsServed resolvers trace server) ?_ ?_ sends
  · intro _
    refine ⟨rfl, fun _ _ => rfl, ?_⟩
    intro number query present
    cases present
  · intro trace server action next earlier served taken sends
    apply (served fun source frame refused =>
      sends source frame (List.mem_append_left _ refused)).step taken
    rintro source frame rfl
    exact sends source frame (by simp)

/-! ## The responses -/

/-- The answers of the task with the number. -/
def answersBy (number : Nat) (answers : List (Nat × Frame)) : List Frame :=
  answers.filterMap fun answer =>
    if answer.1 = number then some answer.2 else none

/-- What a task has put on `out_tx` is among the answers. -/
theorem taskFrames_dnsEvents
    (run : Run Server.step (.start resolvers) trace server) (number : Nat) :
    taskFrames (dnsEvents number trace) =
      answersBy number (answersOf trace) := by
  apply run.invariant (motive := fun trace _ =>
    taskFrames (dnsEvents number trace) =
      answersBy number (answersOf trace)) rfl
  intro trace server action next earlier known taken
  have now : taskFrames (action.dnsOf number).toList =
      answersBy number action.answer?.toList := by
    rw [ServerAction.answer_of_step taken, ServerAction.dnsOf]
    cases action.dns? with
    | none => rfl
    | some event =>
        by_cases same : event.1 = number
        · cases sent : event.2.sent? <;>
            simp [taskFrames, answersBy, same, sent]
        · cases sent : event.2.sent? <;>
            simp [taskFrames, answersBy, same, sent]
  rw [dnsEvents_snoc, answersOf_snoc, taskFrames, List.filterMap_append,
    answersBy, List.filterMap_append]
  exact congrArg₂ (· ++ ·) known now

theorem count_answersBy (number : Nat) (answers : List (Nat × Frame)) :
    (answers.map Prod.fst).count number =
      (answersBy number answers).length := by
  induction answers with
  | nil => rfl
  | cons answer rest induction =>
      by_cases same : answer.1 = number <;>
        simp [answersBy, same, induction]

/-- No task answers twice. -/
theorem DnsServed.nodup_answers
    (served : DnsServed resolvers trace server)
    (run : Run Server.step (.start resolvers) trace server) :
    ((answersOf trace).map Prod.fst).Nodup := by
  apply List.nodup_iff_count_le_one.mpr
  intro number
  rw [count_answersBy, ← taskFrames_dnsEvents run]
  cases present : server.dns[number]? with
  | none => simp [served.unborn number present, taskFrames]
  | some query =>
      rw [(served.progress number query present).length_taskFrames]
      split <;> omega

/-- Every response is that of a task which is done, on its channel. -/
theorem DnsServed.of_answer (served : DnsServed resolvers trace server)
    (run : Run Server.step (.start resolvers) trace server)
    {number : Nat} {frame : Frame}
    (answers : (number, frame) ∈ answersOf trace) :
    ∃ query reply, server.dns[number]? = some query ∧ query.task = .done ∧
      frame = ⟨query.channel, cmdDnsResponse, reply⟩ ∧
        FirstAnswer resolvers (outcomes (dnsEvents number trace)) reply := by
  have sent : frame ∈ taskFrames (dnsEvents number trace) := by
    rw [taskFrames_dnsEvents run]
    exact List.mem_filterMap.mpr ⟨_, answers, by simp⟩
  cases present : server.dns[number]? with
  | none =>
      rw [served.unborn number present] at sent
      cases sent
  | some query =>
      cases served.progress number query present with
      | asking task order ended unsent =>
          rw [unsent] at sent
          cases sent
      | responding task answer unsent =>
          rw [unsent] at sent
          cases sent
      | @done reply task answer all =>
          rw [all] at sent
          exact ⟨query, reply, rfl, task, List.mem_singleton.mp sent, answer⟩

/-- The frame is a `DNS_RESPONSE`. -/
def isResponse (frame : Frame) : Bool :=
  decide (frame.command = .dnsResponse)

theorem isResponse_of_dns {number : Nat} {frame : Frame}
    (known : frame.cmd ∈ (Source.dns number).commands) :
    isResponse frame = true := by
  rw [isResponse, Frame.command, List.mem_singleton.mp known]
  decide

/-- No other task sends a response. -/
theorem isResponse_of_other {source : Source} {frame : Frame}
    (known : frame.cmd ∈ source.commands)
    (other : ∀ number, source ≠ .dns number) : isResponse frame = false := by
  have member : frame.cmd ∈ Source.commands .main ++
      Source.commands (.conn 0) ++ Source.commands (.udp 0) := by
    rw [List.mem_append, List.mem_append]
    cases source with
    | main => exact .inl (.inl known)
    | conn member => exact .inl (.inr known)
    | udp member => exact .inr known
    | dns number => exact (other number rfl).elim
  have others : (Source.commands .main ++ Source.commands (.conn 0) ++
      Source.commands (.udp 0)).all
        (fun code => Command.ofCode code ≠ .dnsResponse) = true := by
    decide
  have differs := List.all_eq_true.mp others _ member
  exact decide_eq_false (of_decide_eq_true differs)

/-- The tasks send all responses that the server sends. -/
theorem responses_of_run
    (run : Run Server.step (.start resolvers) trace server) :
    (serverFrames trace).filter isResponse =
      (answersOf trace).map Prod.snd := by
  apply run.invariant (motive := fun trace _ =>
    (serverFrames trace).filter isResponse =
      (answersOf trace).map Prod.snd) rfl
  intro trace server action next earlier known taken
  have now : action.enqueued?.toList.filter isResponse =
      action.answer?.toList.map Prod.snd := by
    cases action with
    | enqueued source frame =>
        have sent := Server.cmd_of_pending (Server.pending_of_enqueued taken)
        cases source with
        | dns number =>
            have response := isResponse_of_dns sent
            simp [ServerAction.enqueued?, ServerAction.answer?, response]
        | main | conn member | udp member =>
            have other := isResponse_of_other sent (by simp)
            simp [ServerAction.enqueued?, ServerAction.answer?, other]
    | _ => rfl
  rw [serverFrames_snoc taken, answersOf_snoc, List.filter_append,
    List.map_append, known, now]

end Runs

end KubectlSshuttle.Rushtle
