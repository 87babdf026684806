import KubectlSshuttle.Rushtle.Client
import KubectlSshuttle.Rushtle.SsnetPayloads

/-!
# What a step of the client can do

The inversion of a step, and the projections of a run of the client to runs
of its channel map and its outbound queue.
-/

namespace KubectlSshuttle.Rushtle

open KubectlSshuttle.Lib.RustText
open KubectlSshuttle.Lib.Address
open KubectlSshuttle.Lib.Transition
open KubectlSshuttle.Rushtle.Ssnet
open KubectlSshuttle.Rushtle.Connection
open KubectlSshuttle.Rushtle.Channels
open KubectlSshuttle.Rushtle.OutQueue

/-! ## The arms of the demux task by what they touch -/

/-- What a frame asks of the map of channels. -/
def channelCommand (frame : Frame) : Option TableEvent :=
  match frame.command with
  | .tcpData => some (.data frame.channel frame.data)
  | .tcpEof => some (.closed frame.channel .eof)
  | .tcpStopSending => some (.closed frame.channel .stopSending)
  | _ => none

/-- All that one frame can do to the client. -/
inductive ClientDispatched (client : Client) (frame : Frame) :
    Client → Prop where
  | ignored (noCommand : channelCommand frame = none)
      (noPing : frame.command ≠ .ping) :
      ClientDispatched client frame client
  | ping (command : frame.command = .ping)
      (noCommand : channelCommand frame = none) :
      ClientDispatched client frame
        { client with demux := .ponging frame.channel frame.data }
  | channels {event : TableEvent} {channels : ChannelTable}
      (asked : channelCommand frame = some event)
      (noPing : frame.command ≠ .ping)
      (taken : client.channels.step .client event = some channels) :
      ClientDispatched client frame { client with channels := channels }
  | answered {demux : DemuxTask} (command : frame.command = .dnsResponse)
      (noCommand : channelCommand frame = none)
      (noPong : ∀ channel data, demux ≠ .ponging channel data) :
      ClientDispatched client frame
        { client with
          dnsInflight :=
            Function.update client.dnsInflight frame.channel none
          demux := demux }

theorem ClientDispatched.of_dispatch {client next : Client} {frame : Frame}
    (idle : client.demux = .reading)
    (taken : client.dispatch frame = some next) :
    ClientDispatched client frame next := by
  unfold Client.dispatch at taken
  cases command : frame.command <;> rw [command] at taken <;>
    dsimp only at taken
  case ping =>
    simp only [Option.some.injEq] at taken
    subst taken
    exact .ping command (by simp [channelCommand, command])
  case tcpData =>
    rcases Option.map_eq_some_iff.mp taken with ⟨channels, moved, rfl⟩
    exact .channels (by simp [channelCommand, command])
      (by simp [command]) moved
  case tcpEof =>
    rcases Option.map_eq_some_iff.mp taken with ⟨channels, moved, rfl⟩
    exact .channels (by simp [channelCommand, command])
      (by simp [command]) moved
  case tcpStopSending =>
    rcases Option.map_eq_some_iff.mp taken with ⟨channels, moved, rfl⟩
    exact .channels (by simp [channelCommand, command])
      (by simp [command]) moved
  case dnsResponse =>
    have noCommand : channelCommand frame = none := by
      simp [channelCommand, command]
    have unchanged : ClientDispatched client frame
        { client with
          dnsInflight :=
            Function.update client.dnsInflight frame.channel none } := by
      have noPong : ∀ channel data,
          client.demux ≠ .ponging channel data := by
        simp [idle]
      exact .answered command noCommand noPong
    split at taken
    · split at taken
      · simp only [Option.some.injEq] at taken
        subst taken
        exact .answered command noCommand (by simp)
      · simp only [Option.some.injEq] at taken
        subst taken
        exact unchanged
    · simp only [Option.some.injEq] at taken
      subst taken
      exact unchanged
  all_goals
    simp only [Option.some.injEq] at taken
    subst taken
    exact .ignored (by simp [channelCommand, command]) (by simp [command])

/-- What a frame makes the demux task put out. -/
theorem Client.demux_of_dispatch {client next : Client} {frame : Frame}
    (taken : client.dispatch frame = some next) :
    next.demux = client.demux ∨
      (frame.command = .ping ∧
        next.demux = .ponging frame.channel frame.data) ∨
      ∃ peer, frame.command = .dnsResponse ∧ frame.data ≠ [] ∧
        client.dnsInflight frame.channel = some peer ∧
          next.demux = .replying peer frame.data := by
  unfold Client.dispatch at taken
  cases command : frame.command <;> rw [command] at taken <;>
    dsimp only at taken
  case ping =>
    rcases Option.some.inj taken with rfl
    exact .inr (.inl ⟨rfl, rfl⟩)
  case tcpData | tcpEof | tcpStopSending =>
    rcases Option.map_eq_some_iff.mp taken with ⟨channels, _, rfl⟩
    exact .inl rfl
  case dnsResponse =>
    split at taken
    · next peer waiting =>
        split at taken
        · next answers =>
            rcases Option.some.inj taken with rfl
            exact .inr (.inr ⟨peer, rfl, answers.2, waiting, rfl⟩)
        · rcases Option.some.inj taken with rfl
          exact .inl rfl
    · rcases Option.some.inj taken with rfl
      exact .inl rfl
  all_goals
    rcases Option.some.inj taken with rfl
    exact .inl rfl

/-! ## What one step can do -/

/-- All that one step can do, with its guards. -/
inductive ClientMoves (client : Client) : ClientAction → Client → Prop where
  | link {action : ClientAction} {next : Client}
      (down : client.link ≠ .up)
      (taken : client.stepLink action = some next) :
      ClientMoves client action next
  | accepted {family : Family} {address : SocketAddr}
      (up : client.link = .up) (free : client.accept family = .accepting) :
      ClientMoves client (.accepted family client.nextId address)
        { client with
          nextId := advance client.nextId
          accept := Function.update client.accept family
            (.inserting client.nextId (originalDst address)) }
  | registered {family : Family} {channel : UInt16}
      {target : Text × UInt16} {channels : ChannelTable}
      (up : client.link = .up)
      (waits : client.accept family = .inserting channel target)
      (taken : client.channels.step .client (.opened channel target) =
        some channels) :
      ClientMoves client (.registered family channel target)
        { client with
          channels := channels
          accept := Function.update client.accept family .accepting }
  | queried {peer : SocketAddr} {query : Bytes} (up : client.link = .up)
      (free : client.listener = .waiting) :
      ClientMoves client (.queried client.nextId peer query)
        { client with
          nextId := advance client.nextId
          listener := .registering client.nextId peer (query.take 4096) }
  | inflight {channel : UInt16} {peer : SocketAddr} {query : Bytes}
      (up : client.link = .up)
      (waits : client.listener = .registering channel peer query) :
      ClientMoves client (.inflight channel peer)
        { client with
          dnsInflight :=
            Function.update client.dnsInflight channel (some peer)
          listener := .sending channel query }
  | recv {frame : Frame} {next : Client} (up : client.link = .up)
      (idle : client.demux = .reading)
      (free : client.channels.delivering = none)
      (dispatched : ClientDispatched client frame next) :
      ClientMoves client (.recv frame) next
  | demuxEnded (up : client.link = .up) (idle : client.demux = .reading) :
      ClientMoves client .demuxEnded { client with demux := .ended }
  | replied {peer : SocketAddr} {reply : Bytes} (up : client.link = .up)
      (busy : client.demux = .replying peer reply) :
      ClientMoves client (.replied peer reply)
        { client with demux := .reading }
  | pongSent {channel : UInt16} {data : Bytes} {out : Outbound}
      (up : client.link = .up) (busy : client.demux = .ponging channel data)
      (queued : client.out.step (.enqueued ⟨channel, cmdPong, data⟩) =
        some out) :
      ClientMoves client (.enqueued .demux ⟨channel, cmdPong, data⟩)
        { client with out := out, demux := .reading }
  | querySent {channel : UInt16} {query : Bytes} {out : Outbound}
      (up : client.link = .up)
      (busy : client.listener = .sending channel query)
      (queued : client.out.step (.enqueued ⟨channel, cmdDnsReq, query⟩) =
        some out) :
      ClientMoves client (.enqueued .listener ⟨channel, cmdDnsReq, query⟩)
        { client with out := out, listener := .waiting }
  | connSent {member : Nat} {frame : Frame} {out : Outbound}
      {channels : ChannelTable} (up : client.link = .up)
      (queued : client.out.step (.enqueued frame) = some out)
      (taken : client.channels.step .client (.conn member (.sent frame)) =
        some channels) :
      ClientMoves client (.enqueued (.conn member) frame)
        { client with out := out, channels := channels }
  | pongRefused {frame : Frame} {out : Outbound} (up : client.link = .up)
      (refused : client.out.step (.refused frame) = some out) :
      ClientMoves client (.refused .demux frame)
        { client with out := out, demux := .reading }
  | queryRefused {frame : Frame} {out : Outbound} (up : client.link = .up)
      (refused : client.out.step (.refused frame) = some out) :
      ClientMoves client (.refused .listener frame)
        { client with out := out, listener := .done }
  | connRefused {member : Nat} {frame : Frame} {out : Outbound}
      {channels : ChannelTable} (up : client.link = .up)
      (refused : client.out.step (.refused frame) = some out)
      (taken : client.channels.step .client (.conn member .sendFailed) =
        some channels) :
      ClientMoves client (.refused (.conn member) frame)
        { client with out := out, channels := channels }
  | writer {event : OutEvent} {out : Outbound} (up : client.link = .up)
      (own : ownOutEvent event = true) (unclosed : event ≠ .closed)
      (taken : client.out.step event = some out) :
      ClientMoves client (.writer event) { client with out := out }
  | channels {event : TableEvent} {channels : ChannelTable}
      (up : client.link = .up) (own : ownTableEvent event = true)
      (taken : client.channels.step .client event = some channels) :
      ClientMoves client (.channels event)
        { client with channels := channels }

theorem ClientMoves.of_enqueued {client next : Client}
    {source : ClientSource} {frame : Frame} (up : client.link = .up)
    (pending : client.pendingFrame source = some frame)
    (taken : ((client.out.step (.enqueued frame)).bind fun out =>
      ({ client with out := out } : Client).sent frame source) =
        some next) :
    ClientMoves client (.enqueued source frame) next := by
  rcases Option.bind_eq_some_iff.mp taken with ⟨out, queued, sent⟩
  cases source with
  | demux =>
      rcases Option.some.inj sent with rfl
      simp only [Client.pendingFrame] at pending
      split at pending
      · next channel data busy =>
          rcases Option.some.inj pending with rfl
          exact .pongSent up busy queued
      · cases pending
  | listener =>
      rcases Option.some.inj sent with rfl
      simp only [Client.pendingFrame] at pending
      split at pending
      · next channel query busy =>
          rcases Option.some.inj pending with rfl
          exact .querySent up busy queued
      · cases pending
  | conn member =>
      rcases Option.map_eq_some_iff.mp sent with ⟨channels, moved, rfl⟩
      exact .connSent up queued moved

theorem ClientMoves.of_refused {client next : Client}
    {source : ClientSource} {frame : Frame} (up : client.link = .up)
    (taken : ((client.out.step (.refused frame)).bind fun out =>
      ({ client with out := out } : Client).sendFailed source) =
        some next) :
    ClientMoves client (.refused source frame) next := by
  rcases Option.bind_eq_some_iff.mp taken with ⟨out, refused, failed⟩
  cases source with
  | demux =>
      rcases Option.some.inj failed with rfl
      exact .pongRefused up refused
  | listener =>
      rcases Option.some.inj failed with rfl
      exact .queryRefused up refused
  | conn member =>
      rcases Option.map_eq_some_iff.mp failed with ⟨channels, moved, rfl⟩
      exact .connRefused up refused moved

/-- Inversion of a step of the tasks. -/
theorem ClientMoves.of_stepTask {client next : Client}
    {action : ClientAction} (up : client.link = .up)
    (taken : client.stepTask action = some next) :
    ClientMoves client action next := by
  cases action with
  | accepted family channel address =>
      simp only [Client.stepTask, Option.ite_none_right_eq_some,
        Option.some.injEq] at taken
      rcases taken with ⟨⟨free, rfl⟩, rfl⟩
      exact .accepted up free
  | registered family channel target =>
      simp only [Client.stepTask, Option.ite_none_right_eq_some] at taken
      rcases taken with ⟨waits, mapped⟩
      rcases Option.map_eq_some_iff.mp mapped with ⟨channels, moved, rfl⟩
      exact .registered up waits moved
  | queried channel peer query =>
      simp only [Client.stepTask, Option.ite_none_right_eq_some,
        Option.some.injEq] at taken
      rcases taken with ⟨⟨_, free, rfl⟩, rfl⟩
      exact .queried up free
  | inflight channel peer =>
      simp only [Client.stepTask] at taken
      split at taken
      · next channel' peer' query waits =>
          simp only [Option.ite_none_right_eq_some,
            Option.some.injEq] at taken
          rcases taken with ⟨⟨rfl, rfl⟩, rfl⟩
          exact .inflight up waits
      · cases taken
  | recv frame =>
      simp only [Client.stepTask, Option.ite_none_right_eq_some] at taken
      rcases taken with ⟨⟨idle, free⟩, dispatched⟩
      exact .recv up idle free (.of_dispatch idle dispatched)
  | demuxEnded =>
      simp only [Client.stepTask, Option.ite_none_right_eq_some,
        Option.some.injEq] at taken
      rcases taken with ⟨⟨idle, _⟩, rfl⟩
      exact .demuxEnded up idle
  | replied peer reply =>
      simp only [Client.stepTask, Option.ite_none_right_eq_some,
        Option.some.injEq] at taken
      rcases taken with ⟨busy, rfl⟩
      exact .replied up busy
  | enqueued source frame =>
      simp only [Client.stepTask, Option.ite_none_right_eq_some] at taken
      exact .of_enqueued up taken.1 taken.2
  | refused source frame =>
      simp only [Client.stepTask, Option.ite_none_right_eq_some] at taken
      exact .of_refused up taken.2
  | writer event =>
      simp only [Client.stepTask, Option.ite_none_right_eq_some] at taken
      rcases taken with ⟨⟨own, unclosed⟩, mapped⟩
      rcases Option.map_eq_some_iff.mp mapped with ⟨out, moved, rfl⟩
      exact .writer up own unclosed moved
  | channels event =>
      simp only [Client.stepTask, Option.ite_none_right_eq_some] at taken
      rcases taken with ⟨own, mapped⟩
      rcases Option.map_eq_some_iff.mp mapped with ⟨channels, moved, rfl⟩
      exact .channels up own moved
  | _ => cases taken

/-- Inversion of a step. -/
theorem ClientMoves.of_step {client next : Client} {action : ClientAction}
    (taken : client.step action = some next) :
    ClientMoves client action next := by
  unfold Client.step at taken
  split at taken
  · next up => exact .of_stepTask up taken
  · next down => exact .link down taken

/-- What the set-up of the link can do. -/
inductive LinkMoves (client : Client) : ClientAction → Client → Prop where
  | synced {probe : Bool} (syncing : client.link = .syncing) :
      LinkMoves client (.synced probe)
        { client with
          link := if probe then .probing false probeFrames else .up }
  | probeSent {retried : Bool} {frame : Frame} {rest : List Frame}
      (probing : client.link = .probing retried (frame :: rest)) :
      LinkMoves client (.probeSent frame)
        { client with
          link :=
            if rest = [] then .awaiting retried else .probing retried rest }
  | probeRead {retried : Bool} {frame : Frame}
      (awaiting : client.link = .awaiting retried) :
      LinkMoves client (.probeRead frame) client
  | probeRetry (awaiting : client.link = .awaiting false) :
      LinkMoves client .probeRetry
        { client with link := .probing true probeFrames }
  | linkUp {retried : Bool} (awaiting : client.link = .awaiting retried) :
      LinkMoves client .linkUp { client with link := .up }
  | linkFailed (down : client.link ≠ .up) :
      LinkMoves client .linkFailed { client with link := .failed }

theorem LinkMoves.of_stepLink {client next : Client} {action : ClientAction}
    (taken : client.stepLink action = some next) :
    LinkMoves client action next := by
  cases action with
  | synced probe =>
      simp only [Client.stepLink, Option.ite_none_right_eq_some,
        Option.some.injEq] at taken
      rcases taken with ⟨syncing, rfl⟩
      exact .synced syncing
  | probeSent frame =>
      simp only [Client.stepLink] at taken
      split at taken
      · next retried first rest probing =>
          simp only [Option.ite_none_right_eq_some,
            Option.some.injEq] at taken
          rcases taken with ⟨rfl, rfl⟩
          exact .probeSent probing
      · cases taken
  | probeRead frame =>
      simp only [Client.stepLink] at taken
      split at taken
      · next retried awaiting =>
          rcases Option.some.inj taken with rfl
          exact .probeRead awaiting
      · cases taken
  | probeRetry =>
      simp only [Client.stepLink, Option.ite_none_right_eq_some,
        Option.some.injEq] at taken
      rcases taken with ⟨awaiting, rfl⟩
      exact .probeRetry awaiting
  | linkUp =>
      simp only [Client.stepLink] at taken
      split at taken
      · next retried awaiting =>
          rcases Option.some.inj taken with rfl
          exact .linkUp awaiting
      · cases taken
  | linkFailed =>
      simp only [Client.stepLink] at taken
      split at taken
      · cases taken
      · next down =>
          rcases Option.some.inj taken with rfl
          exact .linkFailed down
  | _ => cases taken

/-- The link set-up touches nothing but the link. -/
theorem Client.stepLink_spec {client next : Client} {action : ClientAction}
    (taken : client.stepLink action = some next) :
    ∃ link, next = { client with link := link } := by
  cases LinkMoves.of_stepLink taken <;> exact ⟨_, rfl⟩

/-! ## Projections -/

/-- What an action means for the map of channels. -/
def ClientAction.channels? : ClientAction → Option TableEvent
  | .registered _ channel target => some (.opened channel target)
  | .recv frame => channelCommand frame
  | .enqueued (.conn member) frame => some (.conn member (.sent frame))
  | .refused (.conn member) _ => some (.conn member .sendFailed)
  | .channels event => some event
  | _ => none

/-- What an action means for the outbound queue. -/
def ClientAction.out? : ClientAction → Option OutEvent
  | .enqueued _ frame => some (.enqueued frame)
  | .refused _ frame => some (.refused frame)
  | .writer event => some event
  | _ => none

section Projections

variable {client next : Client} {action : ClientAction}

theorem ClientMoves.projects_channels
    (moved : ClientMoves client action next) :
    Projects (ChannelTable.step .client) action.channels? client.channels
      next.channels := by
  cases moved with
  | link down taken =>
      cases LinkMoves.of_stepLink taken <;> rfl
  | recv up idle free dispatched =>
      cases dispatched with
      | channels asked noPing taken =>
          simpa [ClientAction.channels?, asked, Projects] using taken
      | ignored noCommand noPing | ping command noCommand
      | answered command noCommand noPong =>
          simp [ClientAction.channels?, noCommand, Projects]
  | registered up waits taken => exact taken
  | connSent up queued taken => exact taken
  | connRefused up refused taken => exact taken
  | channels up own taken => exact taken
  | _ => rfl

theorem ClientMoves.projects_out (moved : ClientMoves client action next) :
    Projects Outbound.step action.out? client.out next.out := by
  cases moved with
  | link down taken =>
      cases LinkMoves.of_stepLink taken <;> rfl
  | recv up idle free dispatched => cases dispatched <;> rfl
  | pongSent up busy queued => exact queued
  | querySent up busy queued => exact queued
  | connSent up queued taken => exact queued
  | pongRefused up refused => exact refused
  | queryRefused up refused => exact refused
  | connRefused up refused taken => exact refused
  | writer up own unclosed taken => exact taken
  | _ => rfl

end Projections

/-- The events of a run that concern the map of channels. -/
def channelTrace (trace : List ClientAction) : List TableEvent :=
  trace.filterMap ClientAction.channels?

/-- The events of a run that concern the outbound queue. -/
def clientOutEvents (trace : List ClientAction) : List OutEvent :=
  trace.filterMap ClientAction.out?

section Runs

variable {dnsEnabled : Bool} {trace : List ClientAction} {client : Client}

theorem run_channels
    (run : Run Client.step (.start dnsEnabled) trace client) :
    Run (ChannelTable.step .client) .empty (channelTrace trace)
      client.channels :=
  run.project Client.channels ClientAction.channels?
    (fun _ _ _ taken => (ClientMoves.of_step taken).projects_channels)

theorem run_clientOut
    (run : Run Client.step (.start dnsEnabled) trace client) :
    Run Outbound.step .empty (clientOutEvents trace) client.out :=
  run.project Client.out ClientAction.out?
    (fun _ _ _ taken => (ClientMoves.of_step taken).projects_out)

end Runs

/-! ## What handles the identifiers -/

/-- The actions that take an identifier or register it somewhere. -/
def ClientAction.handlesId : ClientAction → Bool
  | .accepted _ _ _ | .registered _ _ _ | .queried _ _ _
  | .inflight _ _ => true
  | _ => false

/-- What all other actions leave alone. -/
structure KeepsIds (client next : Client) (event : Option TableEvent) :
    Prop where
  counter : next.nextId = client.nextId
  accept : next.accept = client.accept
  listener : ∀ channel peer query,
    next.listener = .registering channel peer query →
      client.listener = .registering channel peer query
  inflight : ∀ channel, next.dnsInflight channel ≠ none →
    client.dnsInflight channel ≠ none
  channels : Projects (ChannelTable.step .client) event client.channels
    next.channels
  unopened : ∀ channel target, event ≠ some (.opened channel target)

theorem channelCommand_ne_opened {frame : Frame} {channel : UInt16}
    {target : Text × UInt16} :
    channelCommand frame ≠ some (.opened channel target) := by
  unfold channelCommand
  split <;> simp

theorem ClientMoves.keepsIds {client next : Client} {action : ClientAction}
    (moved : ClientMoves client action next)
    (plain : action.handlesId = false) :
    KeepsIds client next action.channels? := by
  have projected := moved.projects_channels
  cases moved with
  | link down taken =>
      cases LinkMoves.of_stepLink taken <;>
        exact ⟨rfl, rfl, fun _ _ _ => id, fun _ => id, projected, by
          simp [ClientAction.channels?]⟩
  | accepted up free => cases plain
  | registered up waits taken => cases plain
  | queried up free => cases plain
  | inflight up waits => cases plain
  | recv up idle free dispatched =>
      cases dispatched with
      | ignored noCommand noPing =>
          exact ⟨rfl, rfl, fun _ _ _ => id, fun _ => id, projected,
            fun _ _ => channelCommand_ne_opened⟩
      | ping command noCommand =>
          exact ⟨rfl, rfl, fun _ _ _ => id, fun _ => id, projected,
            fun _ _ => channelCommand_ne_opened⟩
      | channels asked noPing taken =>
          exact ⟨rfl, rfl, fun _ _ _ => id, fun _ => id, projected,
            fun _ _ => channelCommand_ne_opened⟩
      | answered command noCommand noPong =>
          refine ⟨rfl, rfl, fun _ _ _ => id, ?_, projected,
            fun _ _ => channelCommand_ne_opened⟩
          intro channel waiting answered
          exact waiting (by simp [Function.update_apply, answered])
  | querySent up busy queued =>
      refine ⟨rfl, rfl, ?_, fun _ => id, projected, ?_⟩
      · intro channel peer query registering
        cases registering
      · simp [ClientAction.channels?]
  | queryRefused up refused =>
      refine ⟨rfl, rfl, ?_, fun _ => id, projected, ?_⟩
      · intro channel peer query registering
        cases registering
      · simp [ClientAction.channels?]
  | channels up own taken =>
      refine ⟨rfl, rfl, fun _ _ _ => id, fun _ => id, projected, ?_⟩
      rintro channel target same
      rcases Option.some.inj same with rfl
      cases own
  | demuxEnded up idle | replied up busy | pongSent up busy queued
  | connSent up queued taken | pongRefused up refused
  | connRefused up refused taken | writer up own unclosed taken =>
      refine ⟨rfl, rfl, fun _ _ _ => id, fun _ => id, projected, ?_⟩
      simp [ClientAction.channels?]

/-! ## The targets of the connections -/

theorem length_connectFrame_le (channel : UInt16) (address : SocketAddr) :
    (connectFrame channel (originalDst address)).data.length ≤ chunk := by
  have whole := length_encodeConnect_le
    (familyOf (originalDst address).1) (originalDst address).1
    (originalDst address).2
  have host : (originalDst address).1.length ≤ 82 :=
    address.ip.length_toText_le
  simp only [connectFrame, chunk]
  omega

theorem comma_notMem_originalDst (address : SocketAddr) :
    ',' ∉ (originalDst address).1 :=
  address.ip.comma_notMem_toText

/-- Nothing is added to the table. -/
theorem KeepsIds.table {client next : Client} {event : Option TableEvent}
    (kept : KeepsIds client next event) :
    next.channels = client.channels ∨
      ∃ event, TableMoves .client client.channels event next.channels ∧
        ∀ channel target, event ≠ .opened channel target := by
  have projected := kept.channels
  have unopened := kept.unopened
  cases event with
  | none => exact .inl projected
  | some event =>
      exact .inr ⟨event, TableMoves.of_step projected,
        fun channel target opened =>
          unopened channel target (congrArg some opened)⟩

theorem KeepsIds.map_channel {client next : Client}
    {event : Option TableEvent} (kept : KeepsIds client next event) :
    next.channels.conns.map Conn.channel =
      client.channels.conns.map Conn.channel := by
  rcases kept.table with same | ⟨event, moved, unopened⟩
  · rw [same]
  · rw [moved.map_channel]
    cases event with
    | opened channel target => exact (unopened _ _ rfl).elim
    | _ => simp [TableEvent.openedChannel]

/-- Connections lead to where an accepted connection was going. -/
structure KnownTargets (client : Client) : Prop where
  accept : ∀ family channel target,
    client.accept family = .inserting channel target →
      ∃ address, target = originalDst address
  conns : ∀ conn ∈ client.channels.conns,
    ∃ address, conn.target = originalDst address

/-- A connection leads where it did before, or was just registered. -/
theorem target_source {side : Side} {table next : ChannelTable}
    {event : TableEvent} (moved : TableMoves side table event next)
    {conn' : Conn} (member : conn' ∈ next.conns) :
    (∃ conn ∈ table.conns, conn'.target = conn.target) ∨
      ∃ channel, event = .opened channel conn'.target := by
  rcases List.mem_iff_getElem?.mp member with ⟨place, present'⟩
  cases present : table.conns[place]? with
  | none =>
      rcases moved.conn_of_absent present present' with
        ⟨channel, target, rfl, _, _, rfl, _⟩
      exact Or.inr ⟨channel, rfl⟩
  | some conn =>
      rcases moved.keeps_channel present with ⟨kept, found, _, sameTarget⟩
      rcases Option.some.inj (present'.symm.trans found) with rfl
      exact Or.inl ⟨conn, List.mem_of_getElem? present, sameTarget⟩

theorem KnownTargets.step {client next : Client} {action : ClientAction}
    (known : KnownTargets client)
    (moved : ClientMoves client action next) : KnownTargets next := by
  cases plain : action.handlesId with
  | false =>
      have kept := moved.keepsIds plain
      constructor
      · rw [kept.accept]
        exact known.accept
      · intro conn' member
        rcases kept.table with same | ⟨event, tableMoved, unopened⟩
        · exact known.conns conn' (same ▸ member)
        · rcases target_source tableMoved member with
            ⟨conn, before, sameTarget⟩ | ⟨channel, opened⟩
          · rw [sameTarget]
            exact known.conns conn before
          · exact (unopened _ _ opened).elim
  | true =>
      cases moved with
      | @accepted family address up free =>
          refine ⟨?_, known.conns⟩
          intro other channel target inserting
          by_cases same : other = family
          · subst same
            simp only [Function.update_self, AcceptTask.inserting.injEq]
              at inserting
            exact ⟨address, inserting.2.symm⟩
          · simp only [Function.update_of_ne same] at inserting
            exact known.accept other channel target inserting
      | @registered family channel target channels up waits taken =>
          constructor
          · intro other channel' target' inserting
            by_cases same : other = family
            · subst same
              simp at inserting
            · simp only [Function.update_of_ne same] at inserting
              exact known.accept other channel' target' inserting
          · intro conn' member
            rcases target_source (TableMoves.of_step taken) member with
              ⟨conn, before, sameTarget⟩ | ⟨other, same⟩
            · rw [sameTarget]
              exact known.conns conn before
            · rw [← (TableEvent.opened.inj same).2]
              exact known.accept family channel target waits
      | queried up free => exact ⟨known.accept, known.conns⟩
      | inflight up waits => exact ⟨known.accept, known.conns⟩
      | link down taken =>
          cases LinkMoves.of_stepLink taken <;> cases plain
      | _ => cases plain

theorem knownTargets_of_run {dnsEnabled : Bool} {trace : List ClientAction}
    {client : Client}
    (run : Run Client.step (.start dnsEnabled) trace client) :
    KnownTargets client := by
  refine run.invariant (motive := fun _ client => KnownTargets client)
    ?_ ?_
  · constructor
    · intro family channel target inserting
      cases inserting
    · intro conn member
      cases member
  · intro trace client action next _ known taken
    exact known.step (ClientMoves.of_step taken)

end KubectlSshuttle.Rushtle
