import KubectlSshuttle.Rushtle.ServerRuns
import KubectlSshuttle.Rushtle.ClientRuns

/-!
# The two ends of the tunnel

Client and server treat `TCP_DATA` and the closing commands alike.  What both
share is collected here: a program around a map of channels, together with
the frames that it reads and the frames that it puts on `out_tx`.
-/

namespace KubectlSshuttle.Rushtle

open KubectlSshuttle.Lib.RustText
open KubectlSshuttle.Lib.Address
open KubectlSshuttle.Lib.Transition
open KubectlSshuttle.Rushtle.Ssnet
open KubectlSshuttle.Rushtle.Connection
open KubectlSshuttle.Rushtle.Channels

/-- An end of the tunnel, as far as its map of channels goes. -/
structure Party (State Action : Type) where
  side : Side
  start : State
  step : Stepper State Action
  table : State → ChannelTable
  /-- what an action means for the map of channels -/
  concern : Action → Option TableEvent
  /-- the frame that an action reads -/
  received : Action → Option Frame
  /-- the frame that an action puts on `out_tx` -/
  enqueued : Action → Option Frame
  empty : table start = .empty
  moves : ∀ {state action next}, step state action = some next →
    Projects (ChannelTable.step side) (concern action) (table state)
      (table next)
  looksUp : ∀ {action frame}, received action = some frame →
    frame.command = .tcpData →
      concern action = some (.data frame.channel frame.data)
  /-- only the connections send `TCP_DATA` -/
  sends : ∀ {state action next frame}, step state action = some next →
    enqueued action = some frame → frame.command = .tcpData →
      ∃ member, concern action = some (.conn member (.sent frame))

section Party

variable {State Action : Type} (party : Party State Action)

/-- The history of the map of channels. -/
def Party.events (trace : List Action) : List TableEvent :=
  trace.filterMap party.concern

theorem Party.events_snoc (trace : List Action) (action : Action) :
    party.events (trace ++ [action]) =
      party.events trace ++ (party.concern action).toList := by
  cases h : party.concern action <;> simp [Party.events, h]

theorem Party.run_table {trace : List Action} {state : State}
    (run : Run party.step party.start trace state) :
    Run (ChannelTable.step party.side) .empty (party.events trace)
      (party.table state) := by
  rw [← party.empty]
  exact run.project party.table party.concern
    (fun _ _ _ taken => party.moves taken)

end Party

/-! ## The server -/

/-- The frame that the server reads. -/
def ServerAction.received? : ServerAction → Option Frame
  | .recv frame => some frame
  | _ => none

/-- The frame that the server sends. -/
def ServerAction.enqueued? : ServerAction → Option Frame
  | .enqueued _ frame => some frame
  | _ => none

theorem Server.conn_of_tcpData {server next : Server} {source : Source}
    {frame : Frame} (taken : server.step (.enqueued source frame) = some next)
    (command : frame.command = .tcpData) :
    ∃ member, source = .conn member := by
  have known := Server.cmd_of_pending (Server.pending_of_enqueued taken)
  cases source with
  | conn member => exact ⟨member, rfl⟩
  | main =>
      simp only [Source.commands, List.mem_cons, List.not_mem_nil,
        or_false] at known
      rw [Frame.command] at command
      rcases known with known | known | known | known | known <;>
        exact absurd (known ▸ command) (by decide)
  | dns member =>
      rw [Frame.command, List.mem_singleton.mp known] at command
      exact absurd command (by decide)
  | udp member =>
      rw [Frame.command, List.mem_singleton.mp known] at command
      exact absurd command (by decide)

/-- The server, as a party. -/
def serverParty (resolvers : List SocketAddr) :
    Party Server ServerAction where
  side := .server
  start := .start resolvers
  step := Server.step
  table := Server.tcp
  concern := ServerAction.tcp?
  received := ServerAction.received?
  enqueued := ServerAction.enqueued?
  empty := rfl
  moves := fun taken => (ServerMoves.of_step taken).projects_tcp
  looksUp := by
    intro action frame received command
    cases action <;> cases received
    simp [ServerAction.tcp?, tcpCommand, command]
  sends := by
    intro state action next frame taken enqueued command
    cases action <;> cases enqueued
    rcases Server.conn_of_tcpData taken command with ⟨member, rfl⟩
    exact ⟨member, rfl⟩

/-! ## The client -/

/-- The frame that the client reads. -/
def ClientAction.received? : ClientAction → Option Frame
  | .recv frame => some frame
  | _ => none

/-- The frame that the client sends. -/
def ClientAction.enqueued? : ClientAction → Option Frame
  | .enqueued _ frame => some frame
  | _ => none

theorem Client.conn_of_tcpData {client next : Client}
    {source : ClientSource} {frame : Frame}
    (taken : client.step (.enqueued source frame) = some next)
    (command : frame.command = .tcpData) :
    ∃ member, source = .conn member := by
  have moved := ClientMoves.of_step taken
  cases moved with
  | link down taken =>
      cases LinkMoves.of_stepLink taken
  | connSent up queued taken => exact ⟨_, rfl⟩
  | pongSent up busy queued =>
      exact absurd command
        (show Command.ofCode cmdPong ≠ .tcpData by decide)
  | querySent up busy queued =>
      exact absurd command
        (show Command.ofCode cmdDnsReq ≠ .tcpData by decide)

/-- The client, as a party. -/
def clientParty (dnsEnabled : Bool) : Party Client ClientAction where
  side := .client
  start := .start dnsEnabled
  step := Client.step
  table := Client.channels
  concern := ClientAction.channels?
  received := ClientAction.received?
  enqueued := ClientAction.enqueued?
  empty := rfl
  moves := fun taken => (ClientMoves.of_step taken).projects_channels
  looksUp := by
    intro action frame received command
    cases action <;> cases received
    simp [ClientAction.channels?, channelCommand, command]
  sends := by
    intro state action next frame taken enqueued command
    cases action <;> cases enqueued
    rcases Client.conn_of_tcpData taken command with ⟨member, rfl⟩
    exact ⟨member, rfl⟩

end KubectlSshuttle.Rushtle
