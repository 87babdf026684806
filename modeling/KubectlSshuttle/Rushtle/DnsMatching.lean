import KubectlSshuttle.Rushtle.DnsBooks

/-!
# Queries and answers

The responses come in the order in which the server's tasks are done.  As long
as no query takes an identifier on which another still waits, every response
finds the entry of its own query, and what it carries goes to the peer of that
query, once.
-/

namespace KubectlSshuttle.Rushtle

open KubectlSshuttle.Lib.RustText
open KubectlSshuttle.Lib.Address
open KubectlSshuttle.Lib.Transition
open KubectlSshuttle.Rushtle.Ssnet
open KubectlSshuttle.Rushtle.Channels
open KubectlSshuttle.Rushtle.OutQueue

/-! ## From one process to the other -/

section Snoc

variable (trace : List ClientAction) (action : ClientAction)

theorem queriesOf_snoc : queriesOf (trace ++ [action]) =
    queriesOf trace ++ action.query?.toList := by
  cases h : action.query? <;> simp [queriesOf, h]

theorem entriesOf_snoc : entriesOf (trace ++ [action]) =
    entriesOf trace ++ action.entry?.toList := by
  cases h : action.entry? <;> simp [entriesOf, h]

theorem responsesRead_snoc : responsesRead (trace ++ [action]) =
    responsesRead trace ++ action.received?.toList.filter isResponse := by
  cases h : action.received? <;> simp [responsesRead, h]

theorem repliesSent_snoc : repliesSent (trace ++ [action]) =
    repliesSent trace ++ action.reply?.toList := by
  cases h : action.reply? <;> simp [repliesSent, h]

end Snoc

section Runs

variable {dnsEnabled : Bool} {resolvers : List SocketAddr}
  {trace : List SystemAction} {system : System}

theorem served_of_run
    (run : Run System.step (.start dnsEnabled resolvers) trace system) :
    DnsServed resolvers (serverTrace trace) system.server :=
  .of_run (run_server run) (serverRefused_notMem run)

/-- The server's tasks are for the requests that the client has sent. -/
theorem tasks_isPrefix
    (run : Run System.step (.start dnsEnabled resolvers) trace system) :
    system.server.dns.map DnsQuery.request <+:
      requestsOf (clientFrames (clientTrace trace)) := by
  have probes := (ClientStream.of_run (run_client run)).probes
  have noRequest : requestsOf (probesSent (clientTrace trace)) = [] := by
    apply List.filterMap_eq_nil_iff.mpr
    intro frame member
    have ping := (probe_frame (probes frame member)).1
    rw [dnsRequest?, Frame.command, ping, if_neg (by decide)]
  rw [tasks_of_run (run_server run)]
  have read := (serverReads_isPrefix run).filterMap dnsRequest?
  rw [← requestsOf, ← requestsOf, requestsOf_append, noRequest,
    List.nil_append] at read
  exact read

/-- Before the link is up the server has no query. -/
theorem answers_of_down
    (run : Run System.step (.start dnsEnabled resolvers) trace system)
    (down : system.client.link ≠ .up) :
    answersOf (serverTrace trace) = [] := by
  have quiet := (ClientStream.of_run (run_client run)).quiet down
  have tasks := tasks_isPrefix run
  rw [clientFrames, quiet] at tasks
  have none := List.map_eq_nil_iff.mp (List.prefix_nil.mp tasks)
  apply List.eq_nil_iff_forall_not_mem.mpr
  rintro ⟨number, frame⟩ answers
  rcases (served_of_run run).of_answer (run_server run) answers with
    ⟨query, _, present, _⟩
  simp [none] at present

/-- The link probe reads no response. -/
theorem filter_clientReads
    (run : Run System.step (.start dnsEnabled resolvers) trace system) :
    (clientReads (clientTrace trace)).filter isResponse =
      responsesRead (clientTrace trace) := by
  apply run.invariant (motive := fun trace _ =>
    (clientReads (clientTrace trace)).filter isResponse =
      responsesRead (clientTrace trace)) rfl
  intro trace system action next earlier known taken
  have later := earlier.extend taken
  cases SystemMoves.of_step taken with
  | server drained moved => simpa using known
  | @client action client down drained moved =>
      rw [clientTrace_client, clientReads_snoc, responsesRead_snoc,
        List.filter_append, known]
      cases action with
      | probeRead frame =>
          cases ClientMoves.of_step moved with
          | link isDown linkMoved =>
              have other : isResponse frame = false := by
                apply Bool.eq_false_iff.mpr
                intro response
                have read := (clientReads_isPrefix later).subset
                  (show frame ∈ _ by
                    simp [clientReads_snoc, ClientAction.read?])
                rw [serverTrace_client] at read
                have sent := List.mem_filter.mpr ⟨read, response⟩
                rw [responses_of_run (run_server earlier),
                  answers_of_down earlier isDown] at sent
                cases sent
              simp [ClientAction.read?, ClientAction.received?, other]
      | _ => rfl

/-- The client reads the responses in the order of the answers. -/
theorem responsesRead_isPrefix
    (run : Run System.step (.start dnsEnabled resolvers) trace system) :
    responsesRead (clientTrace trace) <+:
      (answersOf (serverTrace trace)).map Prod.snd := by
  rw [← filter_clientReads run, ← responses_of_run (run_server run)]
  exact (clientReads_isPrefix run).filter isResponse

end Runs

/-! ## The books of a run -/

/-- The books after a run. -/
def booksOf (trace : List SystemAction) : DnsBooks where
  queries := queriesOf (clientTrace trace)
  entries := entriesOf (clientTrace trace)
  requests := requestsOf (clientFrames (clientTrace trace))
  -- the client reads the answers of the server in their order
  answers := (answersOf (serverTrace trace)).take
    (responsesRead (clientTrace trace)).length
  replies := repliesSent (clientTrace trace)

/--
A query of at most 4096 bytes, on an identifier on which no earlier query is
unanswered.
-/
def Spaced (before : List SystemAction) (_ : System) : SystemAction → Prop
  | .client (.queried channel _ bytes) =>
      bytes.length ≤ 4096 ∧
        ∀ number query, (booksOf before).queries[number]? = some query →
          query.channel = channel → (booksOf before).Answered number
  | _ => True

section Runs

variable {dnsEnabled : Bool} {resolvers : List SocketAddr}
  {trace : List SystemAction} {system next : System}

/-- An action that is not a response adds what it says to the books. -/
theorem booksOf_client {action : ClientAction} {client after : Client}
    (taken : client.step action = some after)
    (noResponse : action.received?.toList.filter isResponse = []) :
    booksOf (trace ++ [.client action]) =
      { queries := (booksOf trace).queries ++ action.query?.toList
        entries := (booksOf trace).entries ++ action.entry?.toList
        requests := (booksOf trace).requests ++
          requestsOf action.enqueued?.toList
        answers := (booksOf trace).answers
        replies := (booksOf trace).replies ++ action.reply?.toList } := by
  simp only [booksOf, clientTrace_client, serverTrace_client, queriesOf_snoc,
    entriesOf_snoc, clientFrames_snoc taken, requestsOf_append,
    responsesRead_snoc, noResponse, List.append_nil, repliesSent_snoc]

/-- The books are the client's. -/
theorem booksOf_server {action : ServerAction}
    (run : Run System.step (.start dnsEnabled resolvers) trace system) :
    booksOf (trace ++ [.server action]) = booksOf trace := by
  have few := (responsesRead_isPrefix run).length_le
  rw [List.length_map] at few
  simp only [booksOf, clientTrace_server, serverTrace_server, answersOf_snoc,
    List.take_append_of_le_length few]

/-- An answer is for a request that the client has sent. -/
theorem request_of_answer {number : Nat} {frame : Frame}
    (run : Run System.step (.start dnsEnabled resolvers) trace system)
    (answers : (number, frame) ∈ answersOf (serverTrace trace)) :
    ∃ bytes, (booksOf trace).requests[number]? =
      some (frame.channel, bytes) := by
  rcases (served_of_run run).of_answer (run_server run) answers with
    ⟨query, reply, present, _, rfl, _⟩
  rcases tasks_isPrefix run with ⟨rest, whole⟩
  have within := (List.getElem?_eq_some_iff.mp present).1
  refine ⟨query.query, ?_⟩
  rw [booksOf, ← whole, List.getElem?_append_left (by simpa using within),
    List.getElem?_map, present]
  rfl

/-- The response that was read is the next answer. -/
theorem booksOf_response {frame : Frame}
    (run : Run System.step (.start dnsEnabled resolvers) trace system)
    (response : isResponse frame = true)
    (taken : system.step (.client (.recv frame)) = some next) :
    ∃ number,
      booksOf (trace ++ [.client (.recv frame)]) =
        { booksOf trace with
          answers := (booksOf trace).answers ++ [(number, frame)] } ∧
      (number, frame) ∈ answersOf (serverTrace trace) ∧
        ¬ (booksOf trace).Answered number := by
  have read := responsesRead_isPrefix (run.extend taken)
  have now : (ClientAction.recv frame).received?.toList.filter isResponse =
      [frame] := by
    simp [ClientAction.received?, response]
  rw [clientTrace_client, serverTrace_client, responsesRead_snoc, now] at read
  have here : ((answersOf (serverTrace trace)).map Prod.snd)[
      (responsesRead (clientTrace trace)).length]? = some frame := by
    rcases read with ⟨rest, whole⟩
    rw [← whole]
    simp
  rw [List.getElem?_map] at here
  rcases Option.map_eq_some_iff.mp here with ⟨⟨number, answer⟩, found, same⟩
  have isFrame : answer = frame := same
  subst isFrame
  have added : (answersOf (serverTrace trace)).take
      ((responsesRead (clientTrace trace)).length + 1) =
        (booksOf trace).answers ++ [(number, answer)] := by
    rw [List.take_add_one, found]
    rfl
  refine ⟨number, ?_, List.mem_of_getElem? found, ?_⟩
  · cases SystemMoves.of_step taken with
    | client drained moved =>
        simp only [booksOf, clientTrace_client, serverTrace_client,
          queriesOf_snoc, entriesOf_snoc, repliesSent_snoc, responsesRead_snoc,
          clientFrames_snoc moved, now, List.length_append,
          List.length_singleton, added, ClientAction.query?,
          ClientAction.entry?, ClientAction.reply?, ClientAction.enqueued?,
          Option.toList_none, List.append_nil]
  · have once := (served_of_run run).nodup_answers (run_server run)
    have early := List.take_sublist
      ((responsesRead (clientTrace trace)).length + 1)
      (answersOf (serverTrace trace))
    rw [added] at early
    have part := once.sublist (early.map Prod.fst)
    rw [List.map_append, List.nodup_append] at part
    intro answered
    exact part.2.2 number answered number (by simp) rfl

theorem Matching.start (dnsEnabled : Bool) :
    Matching (booksOf []) (.start dnsEnabled) where
  enabled := fun some => (some rfl).elim
  requested := rfl
  entered := rfl
  asked := by
    intro answer member
    cases member
  once := List.nodup_nil
  distinct := by
    intro first second query other found
    cases found
  inflight := by
    intro channel peer
    constructor
    · intro found
      cases found
    · rintro ⟨number, found, _⟩
      cases found
  replied := rfl

theorem Matching.step {action : SystemAction}
    (matching : Matching (booksOf trace) system.client)
    (run : Run System.step (.start dnsEnabled resolvers) trace system)
    (taken : system.step action = some next)
    (spaced : Spaced trace system action) :
    Matching (booksOf (trace ++ [action])) next.client := by
  cases SystemMoves.of_step taken with
  | server drained moved =>
      rw [booksOf_server run]
      exact matching
  | @client action client down drained moved =>
      rcases DnsTurn.of_step (run_client run) moved with ⟨sameEnabled, turn⟩
      cases turn with
      | queried enabled waiting listener inflight demux =>
          rw [booksOf_client moved rfl]
          simpa [ClientAction.query?, ClientAction.entry?,
            ClientAction.enqueued?, ClientAction.reply?, requestsOf] using
            matching.queried enabled waiting spaced.1 spaced.2 sameEnabled
              listener inflight demux
      | entered registering =>
          rw [booksOf_client moved rfl]
          simpa [ClientAction.query?, ClientAction.entry?,
            ClientAction.enqueued?, ClientAction.reply?, requestsOf] using
            matching.enters registering
      | @requested channel bytes out sending =>
          have request : requestsOf [⟨channel, cmdDnsReq, bytes⟩] =
              [(channel, bytes)] := rfl
          rw [booksOf_client moved rfl]
          simpa [ClientAction.query?, ClientAction.entry?,
            ClientAction.enqueued?, ClientAction.reply?, request] using
            matching.requests sending
      | @refused source frame =>
          have absent := clientRefused_notMem (run.extend taken) source frame
          rw [clientTrace_client] at absent
          exact (absent (by simp)).elim
      | answered response idle =>
          rcases booksOf_response run response taken with
            ⟨number, books, answers, waits⟩
          rcases request_of_answer run answers with ⟨bytes, asked⟩
          rcases matching.finds asked waits with
            ⟨query, found, same, entry, _⟩
          rw [books]
          exact matching.answers idle (List.getElem?_eq_some_iff.mp asked).1
            found entry waits (congrArg Prod.fst same).symm
      | replied busy =>
          rw [booksOf_client moved rfl]
          simpa [ClientAction.query?, ClientAction.entry?,
            ClientAction.enqueued?, ClientAction.reply?, requestsOf] using
            matching.replies busy
      | still noQuery noEntry noRequest noResponse noReply listener inflight
          demux =>
          rw [booksOf_client moved noResponse, noQuery, noEntry, noRequest,
            noReply]
          simpa using matching.still sameEnabled listener inflight demux

theorem Matching.of_run
    (run : Run System.step (.start dnsEnabled resolvers) trace system)
    (meets : Meets System.step (.start dnsEnabled resolvers) Spaced trace) :
    Matching (booksOf trace) system.client :=
  run.invariant_of_meets
    (motive := fun trace system => Matching (booksOf trace) system.client)
    (.start dnsEnabled)
    (fun _ _ _ _ earlier matching spaced taken =>
      matching.step earlier taken spaced) meets

/-! ## One answer for each query -/

/-- A response finds the entry of its own query, and takes out that alone. -/
def TakesOwnEntry (before : List SystemAction) (system : System) :
    SystemAction → Prop
  | .client (.recv frame) =>
      frame.command = .dnsResponse →
        ∀ next, system.step (.client (.recv frame)) = some next →
          ∃ number query,
            (booksOf (before ++ [.client (.recv frame)])).answers =
                (booksOf before).answers ++ [(number, frame)] ∧
              (booksOf before).queries[number]? = some query ∧
              frame.channel = query.channel ∧
              system.client.dnsInflight query.channel = some query.peer ∧
              next.client =
                { system.client with
                  dnsInflight := Function.update system.client.dnsInflight
                    query.channel none
                  demux := if frame.data = [] then .reading
                    else .replying query.peer frame.data }
  | _ => True

theorem takesOwnEntry
    (run : Run System.step (.start dnsEnabled resolvers) trace system)
    (meets : Meets System.step (.start dnsEnabled resolvers) Spaced trace)
    (action : SystemAction) : TakesOwnEntry trace system action := by
  cases action with
  | server action => trivial
  | client action =>
      cases action with
      | recv frame =>
          intro command next taken
          have response : isResponse frame = true := decide_eq_true command
          have matching := Matching.of_run run meets
          rcases booksOf_response run response taken with
            ⟨number, books, answers, waits⟩
          rcases request_of_answer run answers with ⟨bytes, asked⟩
          rcases matching.finds asked waits with
            ⟨query, found, same, entry, waiting⟩
          have sameChannel : frame.channel = query.channel :=
            (congrArg Prod.fst same).symm
          refine ⟨number, query, by rw [books], found, sameChannel, waiting,
            ?_⟩
          rw [← sameChannel] at waiting ⊢
          rw [← matching.answering found waiting]
          cases SystemMoves.of_step taken with
          | client drained moved =>
              rcases DnsTurn.of_step (run_client run) moved with ⟨_, turn⟩
              cases turn with
              | answered response idle => rfl
              | still noQuery noEntry noRequest noResponse noReply listener
                  inflight demux =>
                  simp [ClientAction.received?, response] at noResponse
      | _ => trivial

/-- What holds of the queries and their answers in every state. -/
structure DnsMatched (dnsEnabled : Bool) (resolvers : List SocketAddr)
    (trace : List SystemAction) (system : System) : Prop where
  /-- the server's tasks are for the client's queries, one for each -/
  tasks : system.server.dns.map DnsQuery.request <+:
    (queriesOf (clientTrace trace)).map LocalQuery.request
  /-- a task that is done has sent one response, with the first answer -/
  done : ∀ number task, system.server.dns[number]? = some task →
    task.task = .done →
      ∃ reply, answersBy number (answersOf (serverTrace trace)) =
          [⟨task.channel, cmdDnsResponse, reply⟩] ∧
        FirstAnswer resolvers
          (outcomes (dnsEvents number (serverTrace trace))) reply
  /-- any other task has sent nothing -/
  undone : ∀ number task, system.server.dns[number]? = some task →
    task.task ≠ .done → answersBy number (answersOf (serverTrace trace)) = []
  /-- and nothing but these tasks sends a response -/
  answers : (serverFrames (serverTrace trace)).filter isResponse =
    (answersOf (serverTrace trace)).map Prod.snd
  numbered : ∀ answer ∈ answersOf (serverTrace trace),
    answer.1 < system.server.dns.length
  /-- the client reads each answer once, in the order of the server -/
  read : responsesRead (clientTrace trace) =
    (booksOf trace).answers.map Prod.snd
  once : ((booksOf trace).answers.map Prod.fst).Nodup
  /-- and sends what is not empty to the peer of the query -/
  replied : repliesSent (clientTrace trace) ++
      system.client.demux.unreplied =
    (booksOf trace).answers.filterMap (replyTo (booksOf trace).queries)
  /-- the entries are those of the unanswered queries -/
  inflight : ∀ channel peer,
    system.client.dnsInflight channel = some peer ↔
      ∃ number, (booksOf trace).entries[number]? = some (channel, peer) ∧
        ¬ (booksOf trace).Answered number
  removed : Meets System.step (.start dnsEnabled resolvers) TakesOwnEntry
    trace

theorem dns_matched
    (run : Run System.step (.start dnsEnabled resolvers) trace system)
    (meets : Meets System.step (.start dnsEnabled resolvers) Spaced trace) :
    DnsMatched dnsEnabled resolvers trace system := by
  have matching := Matching.of_run run meets
  have served := served_of_run run
  have serverRun := run_server run
  constructor
  · apply (tasks_isPrefix run).trans
    exact ⟨_, matching.requested⟩
  · intro number task present isDone
    rw [← taskFrames_dnsEvents serverRun]
    cases served.progress number task present with
    | asking asks order ended unsent => simp [isDone] at asks
    | responding responds answer unsent => simp [isDone] at responds
    | done isDone answer sent => exact ⟨_, sent, answer⟩
  · intro number task present notDone
    rw [← taskFrames_dnsEvents serverRun]
    apply List.eq_nil_of_length_eq_zero
    rw [(served.progress number task present).length_taskFrames, if_neg notDone]
  · exact responses_of_run serverRun
  · rintro ⟨number, frame⟩ member
    rcases served.of_answer serverRun member with ⟨task, _, present, _⟩
    exact (List.getElem?_eq_some_iff.mp present).1
  · have read := List.prefix_iff_eq_take.mp (responsesRead_isPrefix run)
    rw [read, booksOf, List.map_take]
  · exact matching.once
  · exact matching.replied
  · exact matching.inflight
  · intro before action after state equal reached
    subst equal
    exact takesOwnEntry reached meets.take action

end Runs

/-! ## A query that the second resolver answers -/

/-- The socket that a local resolver asks from. -/
def stubResolver : SocketAddr := ⟨.v4 ⟨127, 0, 0, 1⟩, 5353⟩

/-- The resolvers of the remote host. -/
def twoResolvers : List SocketAddr :=
  [⟨.v4 ⟨10, 0, 0, 53⟩, 53⟩, ⟨.v4 ⟨10, 0, 1, 53⟩, 53⟩]

/-- The server puts the frame on its pipe. -/
def serverWrites (frame : Frame) : List SystemAction :=
  [.server (.writer .take), .server (.writer (.write (frameBytes frame)))]

/-- The first query, up to the server's reading of it. -/
def askingActions (query : Bytes) : List SystemAction :=
  [.client (.inflight 1 stubResolver),
    .client (.enqueued .listener ⟨1, cmdDnsReq, query⟩),
    .client (.writer .take),
    .client (.writer (.write (frameBytes ⟨1, cmdDnsReq, query⟩))),
    .server (.recv ⟨1, cmdDnsReq, query⟩)]

/-- The first resolver fails, the second one answers. -/
def answeringActions (reply : Bytes) : List SystemAction :=
  let chicken := MainReply.chicken.frame
  let routes := MainReply.routes.frame
  [.server (.dns 0 .attemptFailed),
    .server (.dns 0 (.datagram ⟨.v4 ⟨10, 0, 1, 53⟩, 53⟩ reply)),
    .server (.enqueued (.dns 0) ⟨1, cmdDnsResponse, reply⟩)] ++
  serverWrites chicken ++ serverWrites routes ++
  serverWrites ⟨1, cmdDnsResponse, reply⟩ ++
  [.client (.recv chicken),
    .client (.enqueued .demux ⟨chicken.channel, cmdPong, chicken.data⟩),
    .client (.recv routes), .client (.recv ⟨1, cmdDnsResponse, reply⟩),
    .client (.replied stubResolver reply)]

/-- The link is up. -/
def linkActions : List SystemAction :=
  greeting.map .server ++ [.client (.synced false)]

/-- A query of one byte and an answer of one byte. -/
def answeredSecond : List SystemAction :=
  linkActions ++ [.client (.queried 1 stubResolver [7])] ++
    (askingActions [7] ++ answeringActions [9])

theorem spaced_of_other {before : List SystemAction} {system : System}
    {action : SystemAction}
    (other : action.client?.bind ClientAction.query? = none) :
    Spaced before system action := by
  cases action with
  | server action => trivial
  | client action =>
      cases action with
      | queried channel peer bytes => cases other
      | _ => trivial

theorem dns_matched_second :
    ∃ system, Run System.step (.start true twoResolvers) answeredSecond
        system ∧
      Meets System.step (.start true twoResolvers) Spaced
        answeredSecond ∧
      repliesSent (clientTrace answeredSecond) = [(stubResolver, [9])] ∧
      DnsMatched true twoResolvers answeredSecond system := by
  rcases run_of_execute_any System.step (.start true twoResolvers)
    answeredSecond (fun _ => true) (by decide +kernel) with
    ⟨system, run, _⟩
  rcases run.take with ⟨_, asked, _⟩
  rcases asked.last with ⟨_, linked, _⟩
  have others : ∀ action ∈ linkActions ++
      (askingActions [7] ++ answeringActions [9]),
        action.client?.bind ClientAction.query? = none := by
    decide
  have before : Meets System.step (.start true twoResolvers) Spaced
      linkActions := by
    apply Meets.of_forall
    intro action member before state
    exact spaced_of_other (others action (List.mem_append_left _ member))
  have first : ∀ state, Spaced linkActions state
      (.client (.queried 1 stubResolver [7])) := by
    intro state
    refine ⟨by decide, ?_⟩
    intro number query found
    have none : (booksOf linkActions).queries = [] := by decide
    rw [none] at found
    cases found
  have spaced : Meets System.step (.start true twoResolvers) Spaced
      answeredSecond := by
    apply (before.extend linked (first _)).append
    intro action member before state
    exact spaced_of_other (others action (List.mem_append_right _ member))
  exact ⟨system, run, spaced, by decide, dns_matched run spaced⟩

end KubectlSshuttle.Rushtle
