import KubectlSshuttle.Rushtle.Parties

/-!
# A client and a server

One client and one server are joined by two pipes that lose nothing and keep
the order.  A step of the whole is a step of one of them, together with what
it reads from one pipe and writes to the other.  The pipes stay open and both
processes keep running, so that no write fails and no stream ends.
-/

namespace KubectlSshuttle.Rushtle

open KubectlSshuttle.Lib
open KubectlSshuttle.Lib.RustText
open KubectlSshuttle.Lib.Address
open KubectlSshuttle.Lib.Transition
open KubectlSshuttle.Rushtle.Ssnet
open KubectlSshuttle.Rushtle.Connection
open KubectlSshuttle.Rushtle.Channels
open KubectlSshuttle.Rushtle.OutQueue

/-! ## Reading and writing the pipes -/

/-- What a pipe holds after `read_frame` has returned the frame. -/
def takeFrame (pipe : Bytes) (frame : Frame) : Option Bytes :=
  match readFrame pipe with
  | .frame found rest => if found = frame then some rest else none
  | .closed | .failed _ => none

/-- `read_frame` fails on the pipe, whatever is still to come. -/
def misaligned (pipe : Bytes) : Bool :=
  match readFrame pipe with
  | .failed (.badMagic _ _) => true
  | .failed _ | .closed | .frame _ _ => false

/--
What an action of the client leaves in the pipe that it reads from.  A retry
of the probe loses nothing here, as one between two frames does; what a timer
within a frame loses belongs to the runs of `TimedRun`.
-/
def ClientAction.drain (pipe : Bytes) : ClientAction → Option Bytes
  | .synced _ =>
      match readSyncHeader pipe with
      | .ok rest => some rest
      | .error _ => none
  | .probeRead frame | .recv frame => takeFrame pipe frame
  | .demuxEnded => if misaligned pipe then some pipe else none
  | .linkFailed => none
  | .writer .writeFailed => none
  | _ => some pipe

/-- What an action of the client writes to the pipe. -/
def ClientAction.written : ClientAction → Bytes
  | .probeSent frame => frameBytes frame
  | .writer event => event.written
  | _ => []

/-- What an action of the server leaves in the pipe that it reads from. -/
def ServerAction.drain (pipe : Bytes) : ServerAction → Option Bytes
  | .recv frame => takeFrame pipe frame
  | .stop => if misaligned pipe then some pipe else none
  | .headerFailed => none
  | .writer .writeFailed => none
  | _ => some pipe

/-- What an action of the server writes to the pipe. -/
def ServerAction.written : ServerAction → Bytes
  | .header bytes => bytes
  | .writer event => event.written
  | _ => []

/-! ## The joined processes -/

/-- Both ends and the pipes between them. -/
structure System where
  client : Client
  server : Server
  /-- written by the client and not read by the server yet -/
  up : Bytes
  /-- written by the server and not read by the client yet -/
  down : Bytes

/-- Nothing has been written yet. -/
def System.start (dnsEnabled : Bool) (resolvers : List SocketAddr) :
    System where
  client := .start dnsEnabled
  server := .start resolvers
  up := []
  down := []

/-- A step of either end. -/
inductive SystemAction where
  | client (action : ClientAction)
  | server (action : ServerAction)
deriving DecidableEq

/-- What an end writes goes into its pipe, whose room has no bound. -/
def System.step (system : System) : SystemAction → Option System
  | .client action =>
      match action.drain system.down, system.client.step action with
      | some down, some client =>
          some
            { system with
              client := client
              up := system.up ++ action.written
              down := down }
      | _, _ => none
  | .server action =>
      match action.drain system.up, system.server.step action with
      | some up, some server =>
          some
            { system with
              server := server
              up := up
              down := system.down ++ action.written }
      | _, _ => none

/-- Inversion of a step. -/
inductive SystemMoves (system : System) : SystemAction → System → Prop where
  | client {action : ClientAction} {client : Client} {down : Bytes}
      (drained : action.drain system.down = some down)
      (taken : system.client.step action = some client) :
      SystemMoves system (.client action)
        { system with
          client := client
          up := system.up ++ action.written
          down := down }
  | server {action : ServerAction} {server : Server} {up : Bytes}
      (drained : action.drain system.up = some up)
      (taken : system.server.step action = some server) :
      SystemMoves system (.server action)
        { system with
          server := server
          up := up
          down := system.down ++ action.written }

theorem SystemMoves.of_step {system next : System} {action : SystemAction}
    (taken : system.step action = some next) :
    SystemMoves system action next := by
  cases action with
  | client action =>
      simp only [System.step] at taken
      split at taken
      · next down client drained moved =>
          rcases Option.some.inj taken with rfl
          exact .client drained moved
      · cases taken
  | server action =>
      simp only [System.step] at taken
      split at taken
      · next up server drained moved =>
          rcases Option.some.inj taken with rfl
          exact .server drained moved
      · cases taken

/-! ## The two processes of a run -/

/-- The step of the client, if it is one. -/
def SystemAction.client? : SystemAction → Option ClientAction
  | .client action => some action
  | .server _ => none

/-- The step of the server, if it is one. -/
def SystemAction.server? : SystemAction → Option ServerAction
  | .client _ => none
  | .server action => some action

/-- The steps of the client in a run. -/
def clientTrace (trace : List SystemAction) : List ClientAction :=
  trace.filterMap SystemAction.client?

/-- The steps of the server in a run. -/
def serverTrace (trace : List SystemAction) : List ServerAction :=
  trace.filterMap SystemAction.server?

section Snoc

variable (trace : List SystemAction)

@[simp]
theorem clientTrace_client (action : ClientAction) :
    clientTrace (trace ++ [.client action]) =
      clientTrace trace ++ [action] := by
  simp [clientTrace, SystemAction.client?]

@[simp]
theorem clientTrace_server (action : ServerAction) :
    clientTrace (trace ++ [.server action]) = clientTrace trace := by
  simp [clientTrace, SystemAction.client?]

@[simp]
theorem serverTrace_client (action : ClientAction) :
    serverTrace (trace ++ [.client action]) = serverTrace trace := by
  simp [serverTrace, SystemAction.server?]

@[simp]
theorem serverTrace_server (action : ServerAction) :
    serverTrace (trace ++ [.server action]) =
      serverTrace trace ++ [action] := by
  simp [serverTrace, SystemAction.server?]

end Snoc

section Runs

variable {dnsEnabled : Bool} {resolvers : List SocketAddr}
  {trace : List SystemAction} {system : System}

theorem run_client
    (run : Run System.step (.start dnsEnabled resolvers) trace system) :
    Run Client.step (.start dnsEnabled) (clientTrace trace)
      system.client :=
  run.project System.client SystemAction.client? (by
    intro system action next taken
    cases SystemMoves.of_step taken with
    | client drained moved => exact moved
    | server drained moved => rfl)

theorem run_server
    (run : Run System.step (.start dnsEnabled resolvers) trace system) :
    Run Server.step (.start resolvers) (serverTrace trace)
      system.server :=
  run.project System.server SystemAction.server? (by
    intro system action next taken
    cases SystemMoves.of_step taken with
    | client drained moved => rfl
    | server drained moved => exact moved)

end Runs

end KubectlSshuttle.Rushtle
