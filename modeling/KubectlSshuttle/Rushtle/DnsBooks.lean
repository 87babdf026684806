import KubectlSshuttle.Rushtle.DnsTasks

/-!
# The books of the client's queries

The client remembers the peer of a query by its channel alone.  The books say
what has become of each query: whether its entry is made, its request sent,
its response read and its reply sent.  As long as no two unanswered queries
share their channel, the map agrees with the books, whatever the order in
which the responses come.
-/

namespace KubectlSshuttle.Rushtle

open KubectlSshuttle.Lib.RustText
open KubectlSshuttle.Lib.Address
open KubectlSshuttle.Lib.Transition
open KubectlSshuttle.Rushtle.Ssnet
open KubectlSshuttle.Rushtle.Channels
open KubectlSshuttle.Rushtle.OutQueue

/-! ## Queries, responses and replies -/

/-- A query as it comes to the DNS listener. -/
structure LocalQuery where
  channel : UInt16
  peer : SocketAddr
  bytes : Bytes
deriving DecidableEq

/-- The query as its frame carries it. -/
def LocalQuery.request (query : LocalQuery) : UInt16 × Bytes :=
  (query.channel, query.bytes)

/-- The entry that the query makes in the map. -/
def LocalQuery.entry (query : LocalQuery) : UInt16 × SocketAddr :=
  (query.channel, query.peer)

/-- The query that is received. -/
def ClientAction.query? : ClientAction → Option LocalQuery
  | .queried channel peer bytes => some ⟨channel, peer, bytes⟩
  | _ => none

/-- The entry that is made. -/
def ClientAction.entry? : ClientAction → Option (UInt16 × SocketAddr)
  | .inflight channel peer => some (channel, peer)
  | _ => none

/-- The reply that is sent. -/
def ClientAction.reply? : ClientAction → Option (SocketAddr × Bytes)
  | .replied peer reply => some (peer, reply)
  | _ => none

/-- The queries that the DNS listener has taken, in order. -/
def queriesOf (trace : List ClientAction) : List LocalQuery :=
  trace.filterMap ClientAction.query?

/-- The entries that it has made in `dns_inflight`, in order. -/
def entriesOf (trace : List ClientAction) : List (UInt16 × SocketAddr) :=
  trace.filterMap ClientAction.entry?

/-- The responses that the demux task has read, in order. -/
def responsesRead (trace : List ClientAction) : List Frame :=
  (trace.filterMap ClientAction.received?).filter isResponse

/-- The datagrams that it has sent to local peers, in order. -/
def repliesSent (trace : List ClientAction) : List (SocketAddr × Bytes) :=
  trace.filterMap ClientAction.reply?

/-- The query for which the listener has not sent a request yet. -/
def ListenTask.unsent : ListenTask → List (UInt16 × Bytes)
  | .registering channel _ query | .sending channel query =>
      [(channel, query)]
  | .waiting | .done => []

/-- The query for which it has not made an entry yet. -/
def ListenTask.unentered : ListenTask → List (UInt16 × SocketAddr)
  | .registering channel peer _ => [(channel, peer)]
  | .waiting | .sending _ _ | .done => []

/-- The datagram that the demux task is about to send. -/
def DemuxTask.unreplied : DemuxTask → List (SocketAddr × Bytes)
  | .replying peer reply => [(peer, reply)]
  | .reading | .ponging _ _ | .ended => []

/-! ## What a step of the client means for the queries -/

/-- What follows for the demux task when it has read a response. -/
def Client.answering (client : Client) (frame : Frame) : DemuxTask :=
  match client.dnsInflight frame.channel with
  | some peer =>
      if client.dnsEnabled ∧ frame.data ≠ [] then .replying peer frame.data
      else .reading
  | none => .reading

/-- The entry of a response is gone when it has been read. -/
def Client.answer (client : Client) (frame : Frame) : Client :=
  { client with
    dnsInflight := Function.update client.dnsInflight frame.channel none
    demux := client.answering frame }

/-- The steps that bear on DNS, with what they change. -/
inductive DnsTurn (client : Client) : ClientAction → Client → Prop where
  | queried {channel : UInt16} {peer : SocketAddr} {bytes : Bytes}
      {next : Client} (enabled : client.dnsEnabled = true)
      (waiting : client.listener = .waiting)
      (listener : next.listener = .registering channel peer (bytes.take 4096))
      (inflight : next.dnsInflight = client.dnsInflight)
      (demux : next.demux = client.demux) :
      DnsTurn client (.queried channel peer bytes) next
  | entered {channel : UInt16} {peer : SocketAddr} {bytes : Bytes}
      (registering : client.listener = .registering channel peer bytes) :
      DnsTurn client (.inflight channel peer)
        { client with
          dnsInflight :=
            Function.update client.dnsInflight channel (some peer)
          listener := .sending channel bytes }
  | requested {channel : UInt16} {bytes : Bytes} {out : Outbound}
      (sending : client.listener = .sending channel bytes) :
      DnsTurn client (.enqueued .listener ⟨channel, cmdDnsReq, bytes⟩)
        { client with out := out, listener := .waiting }
  | refused {source : ClientSource} {frame : Frame} {next : Client} :
      DnsTurn client (.refused source frame) next
  | answered {frame : Frame} (response : isResponse frame = true)
      (idle : client.demux = .reading) :
      DnsTurn client (.recv frame) (client.answer frame)
  | replied {peer : SocketAddr} {reply : Bytes}
      (busy : client.demux = .replying peer reply) :
      DnsTurn client (.replied peer reply) { client with demux := .reading }
  | still {action : ClientAction} {next : Client}
      (noQuery : action.query? = none) (noEntry : action.entry? = none)
      (noRequest : requestsOf action.enqueued?.toList = [])
      (noResponse : action.received?.toList.filter isResponse = [])
      (noReply : action.reply? = none)
      (listener : next.listener = client.listener)
      (inflight : next.dnsInflight = client.dnsInflight)
      (demux : next.demux.unreplied = client.demux.unreplied) :
      DnsTurn client action next

/-- A response only takes its entry out of `dns_inflight`. -/
theorem Client.dispatch_of_response {client : Client} {frame : Frame}
    (response : isResponse frame = true) (idle : client.demux = .reading) :
    client.dispatch frame = some (client.answer frame) := by
  have command : frame.command = .dnsResponse := of_decide_eq_true response
  unfold Client.dispatch Client.answer Client.answering
  rw [command]
  cases waiting : client.dnsInflight frame.channel with
  | none => simp [idle]
  | some peer =>
      by_cases replies : client.dnsEnabled = true ∧ frame.data ≠ []
      · simp [replies]
      · simp [replies, idle]

/-- Any other frame leaves queries and replies alone. -/
theorem Client.dispatch_of_other {client next : Client} {frame : Frame}
    (other : isResponse frame = false) (idle : client.demux = .reading)
    (taken : client.dispatch frame = some next) :
    next.dnsEnabled = client.dnsEnabled ∧ next.listener = client.listener ∧
      next.dnsInflight = client.dnsInflight ∧ next.demux.unreplied = [] := by
  have notResponse : frame.command ≠ .dnsResponse := of_decide_eq_false other
  unfold Client.dispatch at taken
  cases command : frame.command <;> rw [command] at taken <;>
    dsimp only at taken
  case dnsResponse => exact (notResponse command).elim
  case tcpData | tcpEof | tcpStopSending =>
    rcases Option.map_eq_some_iff.mp taken with ⟨channels, _, rfl⟩
    exact ⟨rfl, rfl, rfl, by simp [idle, DemuxTask.unreplied]⟩
  all_goals
    rcases Option.some.inj taken with rfl
    exact ⟨rfl, rfl, rfl, by simp [idle, DemuxTask.unreplied]⟩

theorem Client.dispatch_of_recv {client next : Client} {frame : Frame}
    (up : client.link = .up) (taken : client.step (.recv frame) = some next) :
    client.dispatch frame = some next := by
  rw [Client.step, if_pos up] at taken
  simp only [Client.stepTask, Option.ite_none_right_eq_some] at taken
  exact taken.2

/-- No frame of a connection, and no `PONG`, is a request. -/
theorem dnsRequest?_of_tcp {frame : Frame}
    (tcp : forTcp frame.command = true) : dnsRequest? frame = none := by
  rw [dnsRequest?, if_neg]
  intro request
  rw [request] at tcp
  cases tcp

theorem DnsTurn.of_step {dnsEnabled : Bool} {trace : List ClientAction}
    {client next : Client} {action : ClientAction}
    (run : Run Client.step (.start dnsEnabled) trace client)
    (taken : client.step action = some next) :
    next.dnsEnabled = client.dnsEnabled ∧ DnsTurn client action next := by
  cases ClientMoves.of_step taken with
  | link down moved =>
      cases LinkMoves.of_stepLink moved <;>
        exact ⟨rfl, .still rfl rfl rfl rfl rfl rfl rfl rfl⟩
  | queried up free =>
      have enabled : client.dnsEnabled = true := by
        rw [Client.step, if_pos up] at taken
        simp only [Client.stepTask, Option.ite_none_right_eq_some] at taken
        exact taken.1.1
      exact ⟨rfl, .queried enabled free rfl rfl rfl⟩
  | inflight up waits => exact ⟨rfl, .entered waits⟩
  | querySent up busy queued => exact ⟨rfl, .requested busy⟩
  | pongRefused up refused => exact ⟨rfl, .refused⟩
  | queryRefused up refused => exact ⟨rfl, .refused⟩
  | connRefused up refused moved => exact ⟨rfl, .refused⟩
  | @recv frame next up idle free dispatched =>
      have dispatch := Client.dispatch_of_recv up taken
      cases response : isResponse frame with
      | true =>
          rw [Client.dispatch_of_response response idle] at dispatch
          rcases Option.some.inj dispatch with rfl
          exact ⟨rfl, .answered response idle⟩
      | false =>
          rcases Client.dispatch_of_other response idle dispatch with
            ⟨sameEnabled, sameListener, sameInflight, silent⟩
          refine ⟨sameEnabled, .still rfl rfl rfl ?_ rfl sameListener
            sameInflight ?_⟩
          · simp [ClientAction.received?, response]
          · rw [silent, idle]
            rfl
  | replied up busy => exact ⟨rfl, .replied busy⟩
  | demuxEnded up idle =>
      exact ⟨rfl, .still rfl rfl rfl rfl rfl rfl rfl (by rw [idle]; rfl)⟩
  | pongSent up busy queued =>
      exact ⟨rfl, .still rfl rfl rfl rfl rfl rfl rfl (by rw [busy]; rfl)⟩
  | @connSent member frame out channels up queued moved =>
      have tcp : forTcp frame.command = true := by
        rcases ConnSends.of_table (run_channels run) moved with
          ⟨conn, _, sends⟩
        cases sends <;> rfl
      refine ⟨rfl, .still rfl rfl ?_ rfl rfl rfl rfl rfl⟩
      simp [requestsOf, ClientAction.enqueued?, dnsRequest?_of_tcp tcp]
  | _ => exact ⟨rfl, .still rfl rfl rfl rfl rfl rfl rfl rfl⟩

/-! ## The books -/

/-- What has become of the queries, each list in its own order. -/
structure DnsBooks where
  queries : List LocalQuery
  entries : List (UInt16 × SocketAddr)
  requests : List (UInt16 × Bytes)
  /-- the responses read, each with the number of its query -/
  answers : List (Nat × Frame)
  replies : List (SocketAddr × Bytes)

/-- The response to the query with the number was read. -/
def DnsBooks.Answered (books : DnsBooks) (number : Nat) : Prop :=
  number ∈ books.answers.map Prod.fst

/-- The datagram that an answer calls for. -/
def replyTo (queries : List LocalQuery) (answer : Nat × Frame) :
    Option (SocketAddr × Bytes) :=
  if answer.2.data = [] then none
  else queries[answer.1]?.map fun query => (query.peer, answer.2.data)

/-- The client's tasks and map agree with the books. -/
structure Matching (books : DnsBooks) (client : Client) : Prop where
  enabled : books.queries ≠ [] → client.dnsEnabled = true
  requested : books.requests ++ client.listener.unsent =
    books.queries.map LocalQuery.request
  entered : books.entries ++ client.listener.unentered =
    books.queries.map LocalQuery.entry
  asked : ∀ answer ∈ books.answers, answer.1 < books.requests.length
  once : (books.answers.map Prod.fst).Nodup
  /-- no two unanswered queries share their channel -/
  distinct : ∀ first second query other,
    books.queries[first]? = some query →
      books.queries[second]? = some other →
        ¬ books.Answered first → ¬ books.Answered second →
          query.channel = other.channel → first = second
  inflight : ∀ channel peer, client.dnsInflight channel = some peer ↔
    ∃ number, books.entries[number]? = some (channel, peer) ∧
      ¬ books.Answered number
  replied : books.replies ++ client.demux.unreplied =
    books.answers.filterMap (replyTo books.queries)

section Books

variable {books : DnsBooks} {client next : Client}

theorem ListenTask.length_unentered (listener : ListenTask) :
    listener.unentered.length ≤ listener.unsent.length := by
  cases listener <;> simp [ListenTask.unentered, ListenTask.unsent]

/-- Whatever was asked for has its entry made. -/
theorem Matching.entry_of_asked (matching : Matching books client)
    {number : Nat} {request : UInt16 × Bytes}
    (present : books.requests[number]? = some request) :
    ∃ query, books.queries[number]? = some query ∧
      query.request = request ∧
        books.entries[number]? = some query.entry := by
  have within := (List.getElem?_eq_some_iff.mp present).1
  have asked := congrArg (·[number]?) matching.requested
  simp only [List.getElem?_append_left within, present,
    List.getElem?_map] at asked
  rcases Option.map_eq_some_iff.mp asked.symm with ⟨query, found, same⟩
  refine ⟨query, found, same, ?_⟩
  have early : number < books.entries.length := by
    have requests := congrArg List.length matching.requested
    have entries := congrArg List.length matching.entered
    have fewer := client.listener.length_unentered
    simp only [List.length_append, List.length_map] at requests entries
    omega
  have entry := congrArg (·[number]?) matching.entered
  simpa only [List.getElem?_append_left early, List.getElem?_map, found,
    Option.map_some] using entry

theorem Matching.still (matching : Matching books client)
    (enabled : next.dnsEnabled = client.dnsEnabled)
    (listener : next.listener = client.listener)
    (inflight : next.dnsInflight = client.dnsInflight)
    (demux : next.demux.unreplied = client.demux.unreplied) :
    Matching books next where
  enabled := enabled ▸ matching.enabled
  requested := listener ▸ matching.requested
  entered := listener ▸ matching.entered
  asked := matching.asked
  once := matching.once
  distinct := matching.distinct
  inflight := inflight ▸ matching.inflight
  replied := demux ▸ matching.replied

theorem getElem?_snoc {element : Type} {list : List element}
    {last found : element} {place : Nat}
    (present : (list ++ [last])[place]? = some found) :
    list[place]? = some found ∨ place = list.length ∧ found = last := by
  rcases Nat.lt_trichotomy place list.length with before | at_end | beyond
  · rw [List.getElem?_append_left before] at present
    exact Or.inl present
  · subst at_end
    rw [List.getElem?_concat_length] at present
    exact Or.inr ⟨rfl, (Option.some.inj present).symm⟩
  · rw [List.getElem?_eq_none (by simp; omega)] at present
    cases present

theorem Matching.requests_le (matching : Matching books client) :
    books.requests.length ≤ books.queries.length := by
  have requests := congrArg List.length matching.requested
  simp only [List.length_append, List.length_map] at requests
  omega

/-- An answered query is among the requests. -/
theorem Matching.asked_of_answered (matching : Matching books client)
    {number : Nat} (answered : books.Answered number) :
    number < books.requests.length := by
  rcases List.mem_map.mp answered with ⟨answer, member, rfl⟩
  exact matching.asked answer member

/-- The listener takes a query. -/
theorem Matching.queried {query : LocalQuery}
    (matching : Matching books client) (enabled : client.dnsEnabled = true)
    (waiting : client.listener = .waiting) (small : query.bytes.length ≤ 4096)
    (spaced : ∀ number other, books.queries[number]? = some other →
      other.channel = query.channel → books.Answered number)
    (stillEnabled : next.dnsEnabled = client.dnsEnabled)
    (listener : next.listener =
      .registering query.channel query.peer (query.bytes.take 4096))
    (inflight : next.dnsInflight = client.dnsInflight)
    (demux : next.demux = client.demux) :
    Matching { books with queries := books.queries ++ [query] } next where
  enabled := fun _ => stillEnabled.trans enabled
  requested := by
    have before := matching.requested
    rw [waiting, ListenTask.unsent, List.append_nil] at before
    rw [listener, List.take_of_length_le small, ListenTask.unsent, before]
    simp [LocalQuery.request]
  entered := by
    have before := matching.entered
    rw [waiting, ListenTask.unentered, List.append_nil] at before
    rw [listener, ListenTask.unentered, before]
    simp [LocalQuery.entry]
  asked := matching.asked
  once := matching.once
  distinct := by
    intro first second one other firstFound secondFound firstWaits
      secondWaits same
    rcases getElem?_snoc firstFound with old | ⟨firstNew, rfl⟩
    · rcases getElem?_snoc secondFound with older | ⟨secondNew, rfl⟩
      · exact matching.distinct first second one other old older firstWaits
          secondWaits same
      · exact (firstWaits (spaced first one old same)).elim
    · rcases getElem?_snoc secondFound with old | ⟨secondNew, _⟩
      · exact (secondWaits (spaced second other old same.symm)).elim
      · exact firstNew.trans secondNew.symm
  inflight := inflight ▸ matching.inflight
  replied := by
    rw [demux, matching.replied]
    apply List.filterMap_congr
    intro answer member
    have early : answer.1 < books.queries.length :=
      (matching.asked answer member).trans_le matching.requests_le
    simp [replyTo, List.getElem?_append_left early]

/-- The query that waits for its entry is the last and unanswered. -/
theorem Matching.entering {channel : UInt16} {peer : SocketAddr}
    {bytes : Bytes} (matching : Matching books client)
    (registering : client.listener = .registering channel peer bytes) :
    books.entries ++ [(channel, peer)] =
        books.queries.map LocalQuery.entry ∧
      ¬ books.Answered books.entries.length := by
  have entries := matching.entered
  rw [registering, ListenTask.unentered] at entries
  refine ⟨entries, ?_⟩
  intro answered
  have asked := matching.asked_of_answered answered
  have requests := congrArg List.length matching.requested
  have made := congrArg List.length entries
  simp only [registering, ListenTask.unsent, List.length_append,
    List.length_map, List.length_singleton] at requests made
  omega

/-- An entry replaces no other that is still wanted. -/
theorem Matching.inflight_of_entry {channel : UInt16} {peer : SocketAddr}
    {bytes : Bytes} (matching : Matching books client)
    (registering : client.listener = .registering channel peer bytes)
    (other : UInt16) (otherPeer : SocketAddr) :
    Function.update client.dnsInflight channel (some peer) other =
        some otherPeer ↔
      ∃ number, (books.entries ++ [(channel, peer)])[number]? =
        some (other, otherPeer) ∧ ¬ books.Answered number := by
  rcases matching.entering registering with ⟨entries, unanswered⟩
  have queryOf : ∀ {number : Nat} {entry : UInt16 × SocketAddr},
      (books.entries ++ [(channel, peer)])[number]? = some entry →
        ∃ query, books.queries[number]? = some query ∧
          query.entry = entry := by
    intro number entry present
    rw [entries, List.getElem?_map] at present
    exact Option.map_eq_some_iff.mp present
  by_cases same : other = channel
  · subst same
    rw [Function.update_self]
    constructor
    · intro found
      rcases Option.some.inj found with rfl
      exact ⟨_, List.getElem?_concat_length, unanswered⟩
    · rintro ⟨number, present, waits⟩
      rcases queryOf present with ⟨query, found, entry⟩
      rcases queryOf List.getElem?_concat_length with
        ⟨newest, foundNewest, newestEntry⟩
      have sameChannel : query.channel = newest.channel :=
        (congrArg Prod.fst entry).trans (congrArg Prod.fst newestEntry).symm
      have sameNumber := matching.distinct _ _ _ _ found foundNewest waits
        unanswered sameChannel
      rw [sameNumber, List.getElem?_concat_length] at present
      exact congrArg some (congrArg Prod.snd (Option.some.inj present))
  · rw [Function.update_of_ne same, matching.inflight]
    constructor
    · rintro ⟨number, present, waits⟩
      have within := (List.getElem?_eq_some_iff.mp present).1
      exact ⟨number, (List.getElem?_append_left within).trans present, waits⟩
    · rintro ⟨number, present, waits⟩
      rcases getElem?_snoc present with old | ⟨_, new⟩
      · exact ⟨number, old, waits⟩
      · exact (same (congrArg Prod.fst new)).elim

/-- It makes an entry for the peer. -/
theorem Matching.enters {channel : UInt16} {peer : SocketAddr} {bytes : Bytes}
    (matching : Matching books client)
    (registering : client.listener = .registering channel peer bytes) :
    Matching { books with entries := books.entries ++ [(channel, peer)] }
      { client with
        dnsInflight := Function.update client.dnsInflight channel (some peer)
        listener := .sending channel bytes } where
  enabled := matching.enabled
  requested := by
    have before := matching.requested
    rw [registering, ListenTask.unsent] at before
    exact before
  entered := by
    rw [ListenTask.unentered, List.append_nil]
    exact (matching.entering registering).1
  asked := matching.asked
  once := matching.once
  distinct := matching.distinct
  inflight := matching.inflight_of_entry registering
  replied := matching.replied

/-- It puts the request on `out_tx`. -/
theorem Matching.requests {channel : UInt16} {bytes : Bytes} {out : Outbound}
    (matching : Matching books client)
    (sending : client.listener = .sending channel bytes) :
    Matching { books with requests := books.requests ++ [(channel, bytes)] }
      { client with out := out, listener := .waiting } where
  enabled := matching.enabled
  requested := by
    have before := matching.requested
    rw [sending, ListenTask.unsent] at before
    rw [ListenTask.unsent, List.append_nil]
    exact before
  entered := by
    have before := matching.entered
    rw [sending, ListenTask.unentered] at before
    exact before
  asked := by
    intro answer member
    have early := matching.asked answer member
    rw [List.length_append]
    omega
  once := matching.once
  distinct := matching.distinct
  inflight := matching.inflight
  replied := matching.replied

/-- The demux task sends a datagram. -/
theorem Matching.replies {peer : SocketAddr} {reply : Bytes}
    (matching : Matching books client)
    (busy : client.demux = .replying peer reply) :
    Matching { books with replies := books.replies ++ [(peer, reply)] }
      { client with demux := .reading } where
  enabled := matching.enabled
  requested := matching.requested
  entered := matching.entered
  asked := matching.asked
  once := matching.once
  distinct := matching.distinct
  inflight := matching.inflight
  replied := by
    have before := matching.replied
    rw [busy, DemuxTask.unreplied] at before
    rw [DemuxTask.unreplied, List.append_nil]
    exact before

/-! ## The processed response -/

/-- A response that was read finds the entry of its own query. -/
theorem Matching.finds {number : Nat} {request : UInt16 × Bytes}
    (matching : Matching books client)
    (present : books.requests[number]? = some request)
    (waits : ¬ books.Answered number) :
    ∃ query, books.queries[number]? = some query ∧
      query.request = request ∧
        books.entries[number]? = some query.entry ∧
          client.dnsInflight query.channel = some query.peer := by
  rcases matching.entry_of_asked present with ⟨query, found, same, entry⟩
  exact ⟨query, found, same, entry,
    (matching.inflight _ _).mpr ⟨number, entry, waits⟩⟩

theorem DnsBooks.answered_snoc {number other : Nat} {frame : Frame} :
    ({ books with answers := books.answers ++ [(number, frame)] } :
      DnsBooks).Answered other ↔ books.Answered other ∨ other = number := by
  simp [DnsBooks.Answered]

/-- Taking the entry of an answered query out leaves all others. -/
theorem Matching.inflight_of_answer {number : Nat} {query : LocalQuery}
    {frame : Frame} (matching : Matching books client)
    (found : books.queries[number]? = some query)
    (entry : books.entries[number]? = some query.entry)
    (waits : ¬ books.Answered number) (other : UInt16)
    (peer : SocketAddr) :
    Function.update client.dnsInflight query.channel none other =
        some peer ↔
      ∃ place, books.entries[place]? = some (other, peer) ∧
        ¬ ({ books with answers := books.answers ++ [(number, frame)] } :
          DnsBooks).Answered place := by
  simp only [DnsBooks.answered_snoc, not_or]
  by_cases same : other = query.channel
  · subst same
    rw [Function.update_self]
    constructor
    · intro found
      cases found
    · rintro ⟨place, present, stillWaits, different⟩
      have within := (List.getElem?_eq_some_iff.mp present).1
      have entries := congrArg (·[place]?) matching.entered
      simp only [List.getElem?_append_left within, present,
        List.getElem?_map] at entries
      rcases Option.map_eq_some_iff.mp entries.symm with
        ⟨another, foundAnother, anotherEntry⟩
      exact (different (matching.distinct _ _ _ _ foundAnother found
        stillWaits waits (congrArg Prod.fst anotherEntry))).elim
  · rw [Function.update_of_ne same, matching.inflight]
    constructor
    · rintro ⟨place, present, stillWaits⟩
      refine ⟨place, present, stillWaits, ?_⟩
      rintro rfl
      rw [entry] at present
      exact same (congrArg Prod.fst (Option.some.inj present)).symm
    · rintro ⟨place, present, stillWaits, _⟩
      exact ⟨place, present, stillWaits⟩

/-- What the demux task does next is to send the answer to its peer. -/
theorem Matching.answering {number : Nat} {query : LocalQuery}
    {frame : Frame} (matching : Matching books client)
    (found : books.queries[number]? = some query)
    (waiting : client.dnsInflight frame.channel = some query.peer) :
    client.answering frame = (if frame.data = [] then .reading
      else .replying query.peer frame.data) := by
  have enabled : client.dnsEnabled = true := by
    apply matching.enabled
    rintro none
    simp [none] at found
  rw [Client.answering, waiting]
  by_cases empty : frame.data = [] <;> simp [enabled, empty]

/-- The demux task has read a response. -/
theorem Matching.answers {number : Nat} {query : LocalQuery}
    {frame : Frame} (matching : Matching books client)
    (idle : client.demux = .reading)
    (asked : number < books.requests.length)
    (found : books.queries[number]? = some query)
    (entry : books.entries[number]? = some query.entry)
    (waits : ¬ books.Answered number)
    (sameChannel : frame.channel = query.channel) :
    Matching { books with answers := books.answers ++ [(number, frame)] }
      (client.answer frame) where
  enabled := matching.enabled
  requested := matching.requested
  entered := matching.entered
  asked := by
    intro answer member
    rcases List.mem_append.mp member with before | now
    · exact matching.asked answer before
    · rw [List.mem_singleton.mp now]
      exact asked
  once := by
    rw [List.map_append, List.nodup_append]
    refine ⟨matching.once, by simp, ?_⟩
    intro before answered now isNew same
    rw [List.mem_singleton.mp isNew] at same
    have isNumber : before = number := same
    rw [isNumber] at answered
    exact waits answered
  distinct := by
    intro first second one other firstFound secondFound firstWaits
      secondWaits same
    rw [DnsBooks.answered_snoc, not_or] at firstWaits secondWaits
    exact matching.distinct first second one other firstFound secondFound
      firstWaits.1 secondWaits.1 same
  inflight := by
    rw [Client.answer, sameChannel]
    exact matching.inflight_of_answer found entry waits
  replied := by
    have waiting : client.dnsInflight frame.channel = some query.peer := by
      rw [sameChannel]
      exact (matching.inflight _ _).mpr ⟨number, entry, waits⟩
    have before := matching.replied
    rw [idle, DemuxTask.unreplied, List.append_nil] at before
    rw [Client.answer, matching.answering found waiting,
      List.filterMap_append, before]
    by_cases empty : frame.data = [] <;>
      simp [replyTo, found, empty, DemuxTask.unreplied]

end Books

end KubectlSshuttle.Rushtle
