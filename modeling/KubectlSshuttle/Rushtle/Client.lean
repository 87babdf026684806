import KubectlSshuttle.Rushtle.Channels
import KubectlSshuttle.Rushtle.OutQueue

/-!
# The client process

The client first sets its link up: it reads the synchronization header and
probes the pipe with a burst of `PING` frames.  Then its tasks start: the
writer behind `out_tx`, the demux task that reads the server's frames, two
accept loops, the DNS listener, and the connections.  The accept loops and the
DNS listener draw channel identifiers from one counter.

The link set-up is modelled up to what it reads and writes: when a probe ends,
and whether it succeeds, is left open.
-/

namespace KubectlSshuttle.Rushtle

open KubectlSshuttle.Lib.RustText
open KubectlSshuttle.Lib.Address
open KubectlSshuttle.Lib.Transition
open KubectlSshuttle.Rushtle.Ssnet
open KubectlSshuttle.Rushtle.Connection
open KubectlSshuttle.Rushtle.Channels
open KubectlSshuttle.Rushtle.OutQueue

/-! ## The link probe -/

/-- The first channel of the probe. -/
def probeChannelBase : Nat := 0xFF00

/-- How many PINGs one burst has. -/
def probeBurstFrames : Nat := 16

/-- How many bytes each of them carries. -/
def probeFramePayload : Nat := 256

/-- The payloads of one burst, no two of them alike. -/
def makeProbePayloads : List Bytes :=
  (List.range probeBurstFrames).map fun i =>
    (List.range probeFramePayload).map fun j => UInt8.ofNat (i * 31 + j)

/-- The burst that `probe_once` writes. -/
def probeFrames : List Frame :=
  makeProbePayloads.mapIdx fun i payload =>
    ⟨UInt16.ofNat (probeChannelBase + i), cmdPing, payload⟩

/-- Where the link set-up stands. -/
inductive LinkTask where
  /-- reads the synchronization header -/
  | syncing
  /-- writes the rest of the burst; `retried` in the second probe -/
  | probing (retried : Bool) (rest : List Frame)
  /-- reads the answers -/
  | awaiting (retried : Bool)
  | up
  | failed
deriving DecidableEq

/-! ## Tasks -/

/-- The two accept loops. -/
inductive Family where
  | v4
  | v6
deriving DecidableEq

/-- Where an accept loop stands. -/
inductive AcceptTask where
  | accepting
  /-- has an identifier and waits for the lock of `channels` -/
  | inserting (channel : UInt16) (target : Text × UInt16)
deriving DecidableEq

/-- Where the DNS listener stands. -/
inductive ListenTask where
  | waiting
  /-- has an identifier and waits for the lock of `dns_inflight` -/
  | registering (channel : UInt16) (peer : SocketAddr) (query : Bytes)
  | sending (channel : UInt16) (query : Bytes)
  | done
deriving DecidableEq

/-- Where the demux task stands. -/
inductive DemuxTask where
  /-- waits for a frame, or for room in the queue of a channel -/
  | reading
  | ponging (channel : UInt16) (data : Bytes)
  | replying (peer : SocketAddr) (reply : Bytes)
  | ended
deriving DecidableEq

/-- The state of the client process behind its start-up. -/
structure Client where
  link : LinkTask
  nextId : UInt16
  out : Outbound
  channels : ChannelTable
  accept : Family → AcceptTask
  dnsEnabled : Bool
  dnsInflight : UInt16 → Option SocketAddr
  listener : ListenTask
  demux : DemuxTask

/-- The remote process has been spawned. -/
def Client.start (dnsEnabled : Bool) : Client where
  link := .syncing
  nextId := 1
  out := .empty
  channels := .empty
  accept := fun _ => .accepting
  dnsEnabled := dnsEnabled
  dnsInflight := fun _ => none
  listener := .waiting
  demux := .reading

/-- `checked_add(1).unwrap_or(1)`. -/
def advance (id : UInt16) : UInt16 :=
  if id.toNat + 1 < 2 ^ 16 then id + 1 else 1

/-! ## Steps -/

/-- Which task puts a frame on `out_tx`. -/
inductive ClientSource where
  | demux
  | listener
  | conn (member : Nat)
deriving DecidableEq

/-- What the tasks of the client do. -/
inductive ClientAction where
  /-- the synchronization header was read; `probe` is off without a fallback -/
  | synced (probe : Bool)
  | probeSent (frame : Frame)
  | probeRead (frame : Frame)
  /-- the first probe failed and a second one starts -/
  | probeRetry
  | linkUp
  | linkFailed
  /-- an accept loop takes a connection to `address`, and an identifier -/
  | accepted (family : Family) (channel : UInt16) (address : SocketAddr)
  | registered (family : Family) (channel : UInt16)
      (target : Text × UInt16)
  /-- the DNS listener takes a query, and an identifier -/
  | queried (channel : UInt16) (peer : SocketAddr) (query : Bytes)
  | inflight (channel : UInt16) (peer : SocketAddr)
  /-- the demux task's `read_frame` returns a frame -/
  | recv (frame : Frame)
  /-- the demux task's `read_frame` returns the end of the stream or an error -/
  | demuxEnded
  | replied (peer : SocketAddr) (reply : Bytes)
  | enqueued (source : ClientSource) (frame : Frame)
  | refused (source : ClientSource) (frame : Frame)
  | writer (event : OutEvent)
  | channels (event : TableEvent)
deriving DecidableEq

/-- `SO_ORIGINAL_DST` as text. -/
def originalDst (address : SocketAddr) : Text × UInt16 :=
  (address.ip.toText, address.port)

/-- The arms of the demux task. -/
def Client.dispatch (client : Client) (frame : Frame) : Option Client :=
  match frame.command with
  | .ping =>
      some { client with demux := .ponging frame.channel frame.data }
  | .pong => some client
  | .tcpData =>
      (client.channels.step .client (.data frame.channel frame.data)).map
        fun channels => { client with channels := channels }
  | .tcpEof =>
      (client.channels.step .client (.closed frame.channel .eof)).map
        fun channels => { client with channels := channels }
  | .tcpStopSending =>
      (client.channels.step .client (.closed frame.channel .stopSending)).map
        fun channels => { client with channels := channels }
  | .dnsResponse =>
      let inflight := Function.update client.dnsInflight frame.channel none
      match client.dnsInflight frame.channel with
      | some peer =>
          if client.dnsEnabled ∧ frame.data ≠ [] then
            some
              { client with
                dnsInflight := inflight
                demux := .replying peer frame.data }
          else some { client with dnsInflight := inflight }
      | none => some { client with dnsInflight := inflight }
  | .exit | .tcpConnect | .routes | .hostReq | .hostList | .dnsReq
  | .udpOpen | .udpData | .udpClose | .unknown => some client

/-- The frame that a task is putting on `out_tx`. -/
def Client.pendingFrame (client : Client) : ClientSource → Option Frame
  | .demux =>
      match client.demux with
      | .ponging channel data => some ⟨channel, cmdPong, data⟩
      | _ => none
  | .listener =>
      match client.listener with
      | .sending channel query => some ⟨channel, cmdDnsReq, query⟩
      | _ => none
  | .conn member => client.channels.conns[member]?.bind Conn.pendingFrame

/-- The task goes on after its frame was put on `out_tx`. -/
def Client.sent (client : Client) (frame : Frame) :
    ClientSource → Option Client
  | .demux => some { client with demux := .reading }
  | .listener => some { client with listener := .waiting }
  | .conn member =>
      (client.channels.step .client (.conn member (.sent frame))).map
        fun channels => { client with channels := channels }

/-- The task goes on after `out_tx` turned out to be closed. -/
def Client.sendFailed (client : Client) : ClientSource → Option Client
  | .demux => some { client with demux := .reading }
  | .listener => some { client with listener := .done }
  | .conn member =>
      (client.channels.step .client (.conn member .sendFailed)).map
        fun channels => { client with channels := channels }

/-- The link set-up, before the tasks start. -/
def Client.stepLink (client : Client) : ClientAction → Option Client
  | .synced probe =>
      if client.link = .syncing then
        some
          { client with
            link := if probe then .probing false probeFrames else .up }
      else none
  | .probeSent frame =>
      match client.link with
      | .probing retried (next :: rest) =>
          if frame = next then
            some
              { client with
                link :=
                  if rest = [] then .awaiting retried
                  else .probing retried rest }
          else none
      | _ => none
  | .probeRead _ =>
      match client.link with
      | .awaiting _ => some client
      | _ => none
  | .probeRetry =>
      if client.link = .awaiting false then
        some { client with link := .probing true probeFrames }
      else none
  | .linkUp =>
      match client.link with
      | .awaiting _ => some { client with link := .up }
      | _ => none
  | .linkFailed =>
      match client.link with
      | .up => none
      | _ => some { client with link := .failed }
  | _ => none

/-- The tasks, once the link is up. -/
def Client.stepTask (client : Client) : ClientAction → Option Client
  | .accepted family channel address =>
      if client.accept family = .accepting ∧ channel = client.nextId then
        some
          { client with
            nextId := advance client.nextId
            accept := Function.update client.accept family
              (.inserting channel (originalDst address)) }
      else none
  | .registered family channel target =>
      if client.accept family = .inserting channel target then
        (client.channels.step .client (.opened channel target)).map
          fun channels =>
            { client with
              channels := channels
              accept := Function.update client.accept family .accepting }
      else none
  | .queried channel peer query =>
      if client.dnsEnabled ∧ client.listener = .waiting ∧
          channel = client.nextId then
        some
          { client with
            nextId := advance client.nextId
            listener := .registering channel peer (query.take 4096) }
      else none
  | .inflight channel peer =>
      match client.listener with
      | .registering channel' peer' query =>
          if channel = channel' ∧ peer = peer' then
            some
              { client with
                dnsInflight :=
                  Function.update client.dnsInflight channel (some peer)
                listener := .sending channel query }
          else none
      | _ => none
  | .recv frame =>
      if client.demux = .reading ∧ client.channels.delivering = none then
        client.dispatch frame
      else none
  | .demuxEnded =>
      if client.demux = .reading ∧ client.channels.delivering = none then
        some { client with demux := .ended }
      else none
  | .replied peer reply =>
      if client.demux = .replying peer reply then
        some { client with demux := .reading }
      else none
  | .enqueued source frame =>
      if client.pendingFrame source = some frame then
        (client.out.step (.enqueued frame)).bind fun out =>
          ({ client with out := out } : Client).sent frame source
      else none
  | .refused source frame =>
      if client.pendingFrame source = some frame then
        (client.out.step (.refused frame)).bind fun out =>
          ({ client with out := out } : Client).sendFailed source
      else none
  | .writer event =>
      -- the main task keeps a sender, so that the queue is never closed
      if ownOutEvent event ∧ event ≠ .closed then
        (client.out.step event).map fun out => { client with out := out }
      else none
  | .channels event =>
      if ownTableEvent event then
        (client.channels.step .client event).map
          fun channels => { client with channels := channels }
      else none
  | _ => none

/-- The tasks start once the link is up. -/
def Client.step (client : Client) (action : ClientAction) : Option Client :=
  if client.link = .up then client.stepTask action
  else client.stepLink action

end KubectlSshuttle.Rushtle
