import KubectlSshuttle.Rushtle.Classification
import KubectlSshuttle.Rushtle.HostSignals
import KubectlSshuttle.Rushtle.LinkSetup
import KubectlSshuttle.Rushtle.ResolvConf

/-!
# The start of the client

`run` binds its sockets, sets the link up, and only then installs the
redirect; where the installation fails it is taken back.  So at no time is
traffic redirected to a port on which nothing listens, and a start that fails
leaves the tables as it found them.

The subnets of both families come in one list and are told apart by their
colons.
-/

namespace KubectlSshuttle.Rushtle.StartUp

open KubectlSshuttle.Lib
open KubectlSshuttle.Lib.Script
open KubectlSshuttle.Lib.RustText
open KubectlSshuttle.Lib.Address
open KubectlSshuttle.Lib.Transition
open KubectlSshuttle.Rushtle.Ssnet (Error)
open KubectlSshuttle.Rushtle.Firewall
open KubectlSshuttle.Rushtle.ResolvConf

/-! ## The arguments -/

/-- The arguments of the client. -/
structure ClientArgs where
  remoteCmd : Text
  subnets : List Text
  listenPort : UInt16
  manageIptables : Bool
  dns : Bool
  dnsListenPort : UInt16
  probeFallbackUs : Nat

/-- The TCP port if none is asked for. -/
def redirectPortTcp : UInt16 := 12300

/-- The DNS port if none is asked for. -/
def redirectPortDns : UInt16 := 12353

/-- The port for redirected connections. -/
def ClientArgs.port (args : ClientArgs) : UInt16 :=
  if args.listenPort = 0 then redirectPortTcp else args.listenPort

/-- The port for redirected queries. -/
def ClientArgs.dnsPort (args : ClientArgs) : UInt16 :=
  if args.dnsListenPort = 0 then redirectPortDns else args.dnsListenPort

/-- One round of the loop in `split_subnets_by_family`. -/
def pushSubnet (families : List Text × List Text) (subnet : Text) :
    List Text × List Text :=
  if subnet.contains ':' then (families.1, families.2 ++ [subnet])
  else (families.1 ++ [subnet], families.2)

/-- `split_subnets_by_family` -/
def splitSubnetsByFamily (subnets : List Text) : List Text × List Text :=
  subnets.foldl pushSubnet ([], [])

/-- The IPv4 subnets. -/
def ClientArgs.subnetsV4 (args : ClientArgs) : List Text :=
  (splitSubnetsByFamily args.subnets).1

/-- The IPv6 subnets. -/
def ClientArgs.subnetsV6 (args : ClientArgs) : List Text :=
  (splitSubnetsByFamily args.subnets).2

/-- What the process finds on its host. -/
structure Machine where
  pid : Nat
  /-- `RUSHTLE_FRAME_DELAY_US` -/
  frameDelay : Option Text
  /-- `/etc/resolv.conf` -/
  etc : Option Text
  /-- `/run/systemd/resolve/resolv.conf` -/
  systemd : Option Text

/-- What `firewall::install` is called with. -/
def ClientArgs.redirect (args : ClientArgs) (machine : Machine) :
    Redirect where
  manages := args.manageIptables
  pid := machine.pid
  tcpPort := args.port
  dnsPort := args.dnsPort
  subnetsV4 := args.subnetsV4
  subnetsV6 := args.subnetsV6
  dns := args.dns
  nameservers := readLocalNameserversV4 machine.etc machine.systemd

/-! ## The process -/

/-- The sockets that the redirect points to. -/
inductive Socket where
  /-- `127.0.0.1:{port}` -/
  | tcpV4
  /-- `[::1]:{port}` -/
  | tcpV6
  /-- `UDP 127.0.0.1:{dns_port}` -/
  | dns
deriving DecidableEq

/-- The port that a socket is bound to. -/
def ClientArgs.portOf (args : ClientArgs) : Socket → UInt16
  | .tcpV4 | .tcpV6 => args.port
  | .dns => args.dnsPort

/-- The sockets that `run` binds, in this order. -/
def ClientArgs.sockets (args : ClientArgs) : List Socket :=
  .tcpV4 :: ((if args.subnetsV6 = [] then [] else [.tcpV6]) ++
    if args.dns then [.dns] else [])

/-- What the start fails at. -/
inductive StartError where
  /-- `bind ...` -/
  | bind (socket : Socket) (error : Error)
  /-- of `link_setup` -/
  | link (message : Text)
  | install (command : Command)

/-- Where `run` stands. -/
inductive Stage where
  /-- binds the first of these sockets -/
  | binding (socket : Socket) (later : List Socket)
  | settingUp (setup : LinkSetup.Setup)
  | installing (rest : Fallible Command)
  | undoing (failed : Command) (rest : Script Command Unit)
  /-- in the accept loops -/
  | started
  | failed (error : StartError)

/-- The process during its start, and the tables of its host. -/
structure Process where
  stage : Stage
  /-- the ports that the process listens on -/
  bound : Socket → Option UInt16
  tables : NatTables

/-- What happens during the start. -/
inductive StartAction where
  | bound (result : Except Error Unit)
  | link (event : LinkSetup.Event)
  | linkReturned
  /-- the next command of `install`, which may fail for any reason -/
  | install (ok : Bool)
  | installReturned
  | undo
  | undoReturned
deriving DecidableEq

/-- `run` returns, and its sockets are closed. -/
def Process.fail (error : StartError) (process : Process) : Process :=
  { process with stage := .failed error, bound := fun _ => none }

/-- The first socket is about to be bound. -/
def Process.start (args : ClientArgs) (tables : NatTables) : Process where
  stage := .binding .tcpV4 args.sockets.tail
  bound := fun _ => none
  tables := tables

section Program

variable (cause : Error → Text) (args : ClientArgs) (machine : Machine)

/-- The stage behind a socket that is bound. -/
def Stage.bindNext : List Socket → Stage
  | [] => .settingUp (.start machine.frameDelay)
  | socket :: later => .binding socket later

/-- One step of the start. -/
def Process.step (process : Process) (action : StartAction) :
    Option Process :=
  match process.stage, action with
  | .binding socket later, .bound (.ok ()) =>
      some
        { process with
          stage := .bindNext machine later
          bound := Function.update process.bound socket
            (some (args.portOf socket)) }
  | .binding socket _, .bound (.error error) =>
      some (process.fail (.bind socket error))
  | .settingUp setup, .link event =>
      (LinkSetup.step cause args.remoteCmd args.probeFallbackUs setup
        event).map fun setup => { process with stage := .settingUp setup }
  | .settingUp ⟨.finished (.ok ()), _⟩, .linkReturned =>
      some
        { process with
          stage := .installing (args.redirect machine).install }
  | .settingUp ⟨.finished (.error message), _⟩, .linkReturned =>
      some (process.fail (.link message))
  | .installing rest, .install ok =>
      (rest.attempt Command.apply ok process.tables).map
        fun (rest, tables) =>
          { process with stage := .installing rest, tables := tables }
  | .installing (.finished (.ok ())), .installReturned =>
      some { process with stage := .started }
  | .installing (.finished (.error command)), .installReturned =>
      some
        { process with
          stage := .undoing command (args.redirect machine).remove }
  | .undoing command rest, .undo =>
      (rest.advance Command.apply process.tables).map
        fun (rest, tables) =>
          { process with stage := .undoing command rest, tables := tables }
  | .undoing command (.finished ()), .undoReturned =>
      some (process.fail (.install command))
  | _, _ => none

end Program

/-- Inversion of a step. -/
inductive StartMoves (args : ClientArgs) (machine : Machine)
    (process : Process) : Process → Prop where
  | bound {socket : Socket} {later : List Socket}
      (stage : process.stage = .binding socket later) :
      StartMoves args machine process
        { process with
          stage := .bindNext machine later
          bound := Function.update process.bound socket
            (some (args.portOf socket)) }
  | unbound {socket : Socket} {later : List Socket} {error : Error}
      (stage : process.stage = .binding socket later) :
      StartMoves args machine process (process.fail (.bind socket error))
  | link {setup later : LinkSetup.Setup}
      (stage : process.stage = .settingUp setup) :
      StartMoves args machine process
        { process with stage := .settingUp later }
  | linked {setup : LinkSetup.Setup}
      (stage : process.stage = .settingUp setup) :
      StartMoves args machine process
        { process with
          stage := .installing (args.redirect machine).install }
  | unlinked {setup : LinkSetup.Setup} {message : Text}
      (stage : process.stage = .settingUp setup) :
      StartMoves args machine process (process.fail (.link message))
  | install {ok : Bool} {rest later : Fallible Command}
      {tables : NatTables} (stage : process.stage = .installing rest)
      (attempted :
        rest.attempt Command.apply ok process.tables =
          some (later, tables)) :
      StartMoves args machine process
        { process with stage := .installing later, tables := tables }
  | installed
      (stage : process.stage = .installing (.finished (.ok ()))) :
      StartMoves args machine process { process with stage := .started }
  | installFailed {command : Command}
      (stage : process.stage = .installing (.finished (.error command))) :
      StartMoves args machine process
        { process with
          stage := .undoing command (args.redirect machine).remove }
  | undo {command : Command} {rest later : Script Command Unit}
      {tables : NatTables} (stage : process.stage = .undoing command rest)
      (advanced :
        rest.advance Command.apply process.tables = some (later, tables)) :
      StartMoves args machine process
        { process with stage := .undoing command later, tables := tables }
  | undone {command : Command}
      (stage : process.stage = .undoing command (.finished ())) :
      StartMoves args machine process (process.fail (.install command))

theorem StartMoves.of_step {cause : Error → Text} {args : ClientArgs}
    {machine : Machine} {process next : Process} {action : StartAction}
    (taken : process.step cause args machine action = some next) :
    StartMoves args machine process next := by
  unfold Process.step at taken
  split at taken
  case h_1 socket later stage =>
    rcases Option.some.inj taken with rfl
    exact .bound stage
  case h_2 socket later error stage =>
    rcases Option.some.inj taken with rfl
    exact .unbound stage
  case h_3 setup event stage =>
    rcases Option.map_eq_some_iff.mp taken with ⟨later, _, rfl⟩
    exact .link stage
  case h_4 delay stage =>
    rcases Option.some.inj taken with rfl
    exact .linked stage
  case h_5 message delay stage =>
    rcases Option.some.inj taken with rfl
    exact .unlinked stage
  case h_6 rest ok stage =>
    rcases Option.map_eq_some_iff.mp taken with
      ⟨⟨later, tables⟩, attempted, rfl⟩
    exact .install stage attempted
  case h_7 stage =>
    rcases Option.some.inj taken with rfl
    exact .installed stage
  case h_8 command stage =>
    rcases Option.some.inj taken with rfl
    exact .installFailed stage
  case h_9 command rest stage =>
    rcases Option.map_eq_some_iff.mp taken with
      ⟨⟨later, tables⟩, advanced, rfl⟩
    exact .undo stage advanced
  case h_10 command stage =>
    rcases Option.some.inj taken with rfl
    exact .undone stage
  case h_11 => cases taken

/-! ## The phases of a start -/

section Phases

variable {cause : Error → Text} {args : ClientArgs} {machine : Machine}
  {initial : NatTables}

/-- These sockets are bound to their ports, and no others. -/
def Process.holds (args : ClientArgs) (process : Process)
    (sockets : List Socket) : Prop :=
  ∀ socket, process.bound socket =
    if socket ∈ sockets then some (args.portOf socket) else none

/-- How the stage, the sockets and the tables go together. -/
inductive StartPhase (args : ClientArgs) (machine : Machine)
    (initial : NatTables) (process : Process) : Prop where
  | binding {done : List Socket} {socket : Socket} {later : List Socket}
      (stage : process.stage = .binding socket later)
      (order : args.sockets = done ++ socket :: later)
      (holds : process.holds args done) (same : process.tables = initial)
  | settingUp {setup : LinkSetup.Setup}
      (stage : process.stage = .settingUp setup)
      (holds : process.holds args args.sockets)
      (same : process.tables = initial)
  | installing {rest : Fallible Command}
      (stage : process.stage = .installing rest)
      (holds : process.holds args args.sockets)
      (continues : ∀ result final,
        Outcome Command.apply rest process.tables result final →
          Outcome Command.apply (args.redirect machine).install initial
            result final)
  | undoing {command : Command} {rest : Script Command Unit}
      (stage : process.stage = .undoing command rest)
      (holds : process.holds args args.sockets)
      (removing :
        (args.redirect machine).Removing initial rest process.tables)
  | started (stage : process.stage = .started)
      (holds : process.holds args args.sockets)
      (outcome : Outcome Command.apply (args.redirect machine).install
        initial (.ok ()) process.tables)
  | refused {error : StartError} (stage : process.stage = .failed error)
      (same : process.tables = initial)
  | undone {error : StartError} (stage : process.stage = .failed error)
      (removing : (args.redirect machine).Removing initial (.finished ())
        process.tables)

/-- One more socket is bound. -/
theorem StartPhase.bound {process : Process} {done : List Socket}
    {socket : Socket} {later : List Socket}
    (order : args.sockets = done ++ socket :: later)
    (holds : process.holds args done) (same : process.tables = initial) :
    StartPhase args machine initial
      { process with
        stage := .bindNext machine later
        bound := Function.update process.bound socket
          (some (args.portOf socket)) } := by
  have more : Process.holds args
      { process with
        stage := .bindNext machine later
        bound := Function.update process.bound socket
          (some (args.portOf socket)) } (done ++ [socket]) := by
    intro other
    by_cases here : other = socket
    · subst here
      simp
    · simp [here, holds other]
  cases later with
  | nil => exact .settingUp rfl (order ▸ more) same
  | cons first rest =>
      exact .binding rfl (by rw [order, List.append_assoc]; rfl) more same

theorem StartPhase.step {process next : Process} {action : StartAction}
    (phase : StartPhase args machine initial process)
    (taken : process.step cause args machine action = some next) :
    StartPhase args machine initial next := by
  rcases process with ⟨stage, bound, tables⟩
  cases StartMoves.of_step taken with
  | bound stage =>
      cases stage
      cases phase with
      | binding stage order holds same =>
          cases stage
          exact .bound order holds same
      | settingUp stage | installing stage | undoing stage | started stage
      | refused stage | undone stage => cases stage
  | unbound stage =>
      cases stage
      cases phase with
      | binding stage order holds same => exact .refused rfl same
      | settingUp stage | installing stage | undoing stage | started stage
      | refused stage | undone stage => cases stage
  | link stage =>
      cases stage
      cases phase with
      | settingUp stage holds same => exact .settingUp rfl holds same
      | binding stage | installing stage | undoing stage | started stage
      | refused stage | undone stage => cases stage
  | linked stage =>
      cases stage
      cases phase with
      | settingUp stage holds same =>
          cases same
          exact .installing rfl holds fun _ _ outcome => outcome
      | binding stage | installing stage | undoing stage | started stage
      | refused stage | undone stage => cases stage
  | unlinked stage =>
      cases stage
      cases phase with
      | settingUp stage holds same => exact .refused rfl same
      | binding stage | installing stage | undoing stage | started stage
      | refused stage | undone stage => cases stage
  | install stage attempted =>
      cases stage
      cases phase with
      | installing stage holds continues =>
          cases stage
          exact .installing rfl holds fun result final outcome =>
            continues result final (outcome.of_attempt attempted)
      | binding stage | settingUp stage | undoing stage | started stage
      | refused stage | undone stage => cases stage
  | installed stage =>
      cases stage
      cases phase with
      | installing stage holds continues =>
          cases stage
          exact .started rfl holds (continues _ _ (.finished _ _))
      | binding stage | settingUp stage | undoing stage | started stage
      | refused stage | undone stage => cases stage
  | installFailed stage =>
      cases stage
      cases phase with
      | installing stage holds continues =>
          cases stage
          exact .undoing rfl holds
            (.start (continues _ _ (.finished _ _)))
      | binding stage | settingUp stage | undoing stage | started stage
      | refused stage | undone stage => cases stage
  | undo stage advanced =>
      cases stage
      cases phase with
      | undoing stage holds removing =>
          cases stage
          exact .undoing rfl holds (removing.advance advanced)
      | binding stage | settingUp stage | installing stage | started stage
      | refused stage | undone stage => cases stage
  | undone stage =>
      cases stage
      cases phase with
      | undoing stage holds removing =>
          cases stage
          exact .undone rfl removing
      | binding stage | settingUp stage | installing stage | started stage
      | refused stage | undone stage => cases stage

theorem StartPhase.of_run {trace : List StartAction} {process : Process}
    (run : Run (Process.step cause args machine) (.start args initial)
      trace process) : StartPhase args machine initial process := by
  refine run.invariant (motive := fun _ process =>
    StartPhase args machine initial process) ?_
      (fun _ _ _ _ _ phase taken => phase.step taken)
  exact @StartPhase.binding _ _ _ _ [] _ _ rfl rfl (fun _ => rfl) rfl

end Phases

/-! ## The families of the subnets -/

section Families

variable {args : ClientArgs} {packet : Packet}

theorem splitSubnetsByFamily_eq (subnets : List Text) :
    splitSubnetsByFamily subnets =
      (subnets.filter fun subnet => !subnet.contains ':',
        subnets.filter fun subnet => subnet.contains ':') := by
  rw [splitSubnetsByFamily]
  induction subnets using List.reverseRecOn with
  | nil => rfl
  | append_singleton subnets subnet induction =>
      rw [List.foldl_append, induction, List.filter_append,
        List.filter_append]
      by_cases colon : ':' ∈ subnet
      · simp [pushSubnet, colon]
      · simp [pushSubnet, colon]

/-- A network holds addresses of its own family only. -/
theorem isIpv4_of_inNetwork {subnet : Text} {address : IpAddr}
    (inside : inNetwork subnet address = true) :
    address.isIpv4 = true ↔ ':' ∉ subnet := by
  rw [inNetwork] at inside
  cases read : parseNetwork subnet with
  | none =>
      rw [read] at inside
      cases inside
  | some network =>
      rw [read, Option.any_some] at inside
      simp only [Network.contains, Bool.and_eq_true, beq_iff_eq] at inside
      rw [← inside.1]
      exact isIpv4_of_parseNetwork read

/-- Where the given subnets of one family are all that matter. -/
theorem toSubnet_filter {subnets : List Text} {keep : Text → Bool}
    (kept : ∀ subnet, inNetwork subnet packet.destination = true →
      keep subnet = true) :
    ToSubnet (subnets.filter keep) packet ↔ ToSubnet subnets packet := by
  constructor
  · rintro ⟨tcp, subnet, member, inside⟩
    exact ⟨tcp, subnet, (List.mem_filter.mp member).1, inside⟩
  · rintro ⟨tcp, subnet, member, inside⟩
    exact ⟨tcp, subnet, List.mem_filter.mpr ⟨member, kept subnet inside⟩,
      inside⟩

theorem toSubnet_v4 (family : packet.destination.isIpv4 = true) :
    ToSubnet args.subnetsV4 packet ↔ ToSubnet args.subnets packet := by
  rw [ClientArgs.subnetsV4, splitSubnetsByFamily_eq]
  refine toSubnet_filter fun subnet inside => ?_
  simpa using (isIpv4_of_inNetwork inside).mp family

theorem toSubnet_v6 (family : packet.destination.isIpv4 = false) :
    ToSubnet args.subnetsV6 packet ↔ ToSubnet args.subnets packet := by
  rw [ClientArgs.subnetsV6, splitSubnetsByFamily_eq]
  refine toSubnet_filter fun subnet inside => ?_
  have colon := (isIpv4_of_inNetwork inside).not.mp (by simp [family])
  simpa using colon

end Families

/-! ## What a start keeps -/

/-- The process listens where the packet is redirected to. -/
def Process.listens (process : Process) (packet : Packet) :
    Protocol → UInt16 → Prop
  | .tcp, port =>
      process.bound (if packet.destination.isIpv4 then .tcpV4 else .tcpV6) =
        some port
  | .udp, port =>
      packet.destination.isIpv4 = true ∧ process.bound .dns = some port

/-- The name servers that the client finds on its host, each once. -/
def Machine.nameservers (machine : Machine) : List Ipv4Addr :=
  (((machine.etc.map lines).getD [] ++
    (machine.systemd.map lines).getD []).filterMap lineIpv4).eraseDups

/-- TCP to the subnets of the command line; `::1` stays outside. -/
def ClientArgs.tunnels (args : ClientArgs) (packet : Packet) : Prop :=
  packet.destination ≠ loopbackV6 ∧ ToSubnet args.subnets packet

/-- A query over IPv4, where queries were asked for. -/
def ClientArgs.asks (args : ClientArgs) (machine : Machine)
    (packet : Packet) : Prop :=
  args.dns = true ∧ packet.destination.isIpv4 = true ∧
    ToNameserver machine.nameservers packet

/-- What the rules of a chain do with a packet. -/
structure Served (args : ClientArgs) (machine : Machine) (process : Process)
    (rules : List Rule) (packet : Packet) : Prop where
  heard : ∀ protocol port,
    chainVerdict packet rules = .redirected protocol port →
      process.listens packet protocol port
  /-- the subnets are those of the command line, of both families -/
  tcp : chainVerdict packet rules = .redirected .tcp args.port ↔
    args.tunnels packet
  query : chainVerdict packet rules = .redirected .udp args.dnsPort ↔
    args.asks machine packet
  other : ¬ args.tunnels packet → ¬ args.asks machine packet →
    chainVerdict packet rules = .untouched

/-- What holds of every state of a start. -/
structure Kept (args : ClientArgs) (machine : Machine)
    (initial : NatTables) (process : Process) : Prop where
  /-- the tables are touched only behind the sockets -/
  behind : process.tables ≠ initial →
    (∃ error, process.stage = .failed error) ∨
      ∀ socket ∈ args.sockets,
        process.bound socket = some (args.portOf socket)
  failed : ∀ error, process.stage = .failed error →
    ∀ bin, process.tables.of bin = initial.of bin ∨
      Restored (args.redirect machine).chain (initial.of bin)
        (process.tables.of bin)
  servedV4 : process.stage = .started → args.manageIptables = true →
    ∃ rules, Hooked .iptables (args.redirect machine).chain rules
        process.tables ∧
      ∀ packet, packet.destination.isIpv4 = true →
        Served args machine process rules packet
  servedV6 : process.stage = .started → args.manageIptables = true →
    (∃ subnet ∈ args.subnets, ':' ∈ subnet) →
      ∃ rules, Hooked .ip6tables (args.redirect machine).chain rules
          process.tables ∧
        ∀ packet, packet.destination.isIpv4 = false →
          Served args machine process rules packet

section Kept

variable {cause : Error → Text} {args : ClientArgs} {machine : Machine}
  {initial : NatTables} {process : Process}

/-- The sockets that serve the redirect. -/
theorem Process.holds.bound (holds : process.holds args args.sockets) :
    process.bound .tcpV4 = some args.port ∧
      (args.subnetsV6 ≠ [] → process.bound .tcpV6 = some args.port) ∧
      (args.dns = true → process.bound .dns = some args.dnsPort) := by
  refine ⟨?_, fun some_ => ?_, fun dns => ?_⟩
  · rw [holds, if_pos (by simp [ClientArgs.sockets])]
    rfl
  · rw [holds, if_pos (by simp [ClientArgs.sockets, some_])]
    rfl
  · rw [holds, if_pos (by simp [ClientArgs.sockets, dns])]
    rfl

/-- The chain for IPv4 redirects to sockets of the process. -/
theorem Served.v4 (holds : process.holds args args.sockets)
    {packet : Packet} (family : packet.destination.isIpv4 = true) :
    Served args machine process
      (dnsRules args.dns (machine.nameservers.map Ipv4Addr.toText)
          args.dnsPort ++
        subnetRules args.subnetsV4 args.port ++ [localRule]) packet := by
  rcases holds.bound with ⟨tcp, _, dns⟩
  have classifies : ClassifiesV4 args.port args.dnsPort args.subnetsV4
      args.dns machine.nameservers _ packet := classifiesV4 packet
  have tunnels : ToSubnet args.subnetsV4 packet ↔ args.tunnels packet := by
    have noLoopback : packet.destination ≠ loopbackV6 := by
      intro same
      rw [same] at family
      cases family
    rw [toSubnet_v4 family]
    exact ⟨fun subnet => ⟨noLoopback, subnet⟩, And.right⟩
  have asks : args.dns = true ∧ ToNameserver machine.nameservers packet ↔
      args.asks machine packet :=
    ⟨fun query => ⟨query.1, family, query.2⟩,
      fun query => ⟨query.1, query.2.2⟩⟩
  refine ⟨?_, classifies.tcp.trans tunnels, classifies.query.trans asks, ?_⟩
  · intro protocol port verdict
    by_cases subnet : ToSubnet args.subnetsV4 packet
    · have redirects := classifies.tcp.mpr subnet
      rw [verdict] at redirects
      cases redirects
      simpa [Process.listens, family] using tcp
    by_cases query : args.dns = true ∧
        ToNameserver machine.nameservers packet
    · have redirects := classifies.query.mpr query
      rw [verdict] at redirects
      cases redirects
      exact ⟨family, dns query.1⟩
    have untouched := classifies.other subnet query
    rw [verdict] at untouched
    cases untouched
  · rw [← tunnels, ← asks]
    exact classifies.other

/-- So does the chain for IPv6, which has no rules for queries. -/
theorem Served.v6 (holds : process.holds args args.sockets)
    (given : args.subnetsV6 ≠ []) {packet : Packet}
    (family : packet.destination.isIpv4 = false) :
    Served args machine process
      (loopbackRule :: subnetRules args.subnetsV6 args.port) packet := by
  have tcp := holds.bound.2.1 given
  have classifies : ClassifiesV6 args.port args.subnetsV6 _ packet :=
    classifiesV6 packet
  have tunnels : packet.destination ≠ loopbackV6 ∧
      ToSubnet args.subnetsV6 packet ↔ args.tunnels packet := by
    rw [toSubnet_v6 family, ClientArgs.tunnels]
  have verdicts : ∀ protocol port,
      chainVerdict packet
          (loopbackRule :: subnetRules args.subnetsV6 args.port) =
        .redirected protocol port → protocol = .tcp ∧ port = args.port := by
    intro protocol port verdict
    by_cases subnet : packet.destination ≠ loopbackV6 ∧
        ToSubnet args.subnetsV6 packet
    · have redirects := classifies.tcp.mpr subnet
      rw [verdict] at redirects
      cases redirects
      exact ⟨rfl, rfl⟩
    · have untouched := classifies.other subnet
      rw [verdict] at untouched
      cases untouched
  refine ⟨?_, classifies.tcp.trans tunnels, ?_, ?_⟩
  · intro protocol port verdict
    rcases verdicts protocol port verdict with ⟨rfl, rfl⟩
    simpa [Process.listens, family] using tcp
  · constructor
    · intro verdict
      cases (verdicts _ _ verdict).1
    · rintro ⟨_, isIpv4, _⟩
      rw [family] at isIpv4
      cases isIpv4
  · rw [← tunnels]
    exact fun subnet _ => classifies.other subnet

/-- A successful installation hooks both chains. -/
theorem hooked_of_install {redirect : Redirect} {tables : NatTables}
    (manages : redirect.manages = true)
    (outcome : Outcome Command.apply redirect.install initial (.ok ())
      tables) :
    Hooked .iptables redirect.chain
        (dnsRules redirect.dns redirect.nameservers redirect.dnsPort ++
          subnetRules redirect.subnetsV4 redirect.tcpPort ++ [localRule])
        tables ∧
      (redirect.subnetsV6 ≠ [] → Hooked .ip6tables redirect.chain
        (loopbackRule :: subnetRules redirect.subnetsV6 redirect.tcpPort)
        tables) := by
  have apart := redirect.chain_ne_outputChain
  rw [Redirect.install, if_pos manages] at outcome
  rcases outcome.ok_of_andThen with ⟨middle, first, second⟩
  have hooked := (hooked_of_installOne apart first).1
  split at second
  · next none =>
      rcases second.of_finished with ⟨_, rfl⟩
      exact ⟨hooked, fun given => (given none).elim⟩
  · next given =>
      rcases hooked_of_installOne apart second with ⟨hookedV6, alone⟩
      have same : tables.v4 = middle.v4 := alone .iptables (by decide)
      refine ⟨⟨?_, ?_⟩, fun _ => hookedV6⟩
      · rw [NatTables.of, same]
        exact hooked.filled
      · rw [NatTables.of, same]
        exact hooked.jump

/-- A removal that is over has restored what it works on. -/
theorem restored_of_removing {redirect : Redirect} {tables : NatTables}
    (stale : ∀ bin, Removable redirect.chain maxDrained (initial.of bin))
    (removing : redirect.Removing initial (.finished ()) tables)
    (bin : Backend) :
    tables.of bin = initial.of bin ∨
      Restored redirect.chain (initial.of bin) (tables.of bin) := by
  rcases removing with ⟨result, installed, outcome, same⟩
  have apart := redirect.chain_ne_outputChain
  by_cases manages : redirect.manages = true
  · rw [Redirect.install, if_pos manages] at outcome
    rw [Redirect.remove, if_pos manages, eval] at same
    rcases touched_of_install apart stale outcome with ⟨touched, noV6⟩
    rcases eval_remove apart (fun bin => (touched bin).removable)
      redirect.hasV6 with ⟨restored, alone⟩
    rw [← same] at restored alone
    by_cases asked : bin = .iptables ∨ redirect.hasV6 = true
    · exact .inr ((restored bin asked).of_touched (touched bin))
    · rw [not_or, Bool.not_eq_true] at asked
      have isV6 : bin = .ip6tables := by
        cases bin with
        | iptables => exact (asked.1 rfl).elim
        | ip6tables => rfl
      have empty : redirect.subnetsV6 = [] := by
        simpa [Redirect.hasV6] using asked.2
      rw [isV6]
      exact .inl ((alone asked.2).trans (noV6 empty))
  · rw [Redirect.install, if_neg manages] at outcome
    rw [Redirect.remove, if_neg manages, eval, eval] at same
    rcases outcome.of_finished with ⟨_, rfl⟩
    exact .inl (congrArg (NatTables.of · bin) (Prod.mk.inj same).2)

/--
The tables are touched only while every socket of the redirect is bound, and
a start that fails takes back what it did.  One that succeeds redirects TCP to
the given subnets and, if asked, the queries to the name servers, nothing
else; and whatever it redirects, the process listens there.
-/
theorem start_keeps {trace : List StartAction}
    (run : Run (Process.step cause args machine) (.start args initial)
      trace process)
    (stale : ∀ bin, Removable (args.redirect machine).chain maxDrained
      (initial.of bin)) : Kept args machine initial process := by
  have bound (holds : process.holds args args.sockets) :
      ∀ socket ∈ args.sockets,
        process.bound socket = some (args.portOf socket) :=
    fun socket member => (holds socket).trans (if_pos member)
  cases StartPhase.of_run run with
  | binding stage order holds same =>
      exact ⟨fun touched => (touched same).elim, by simp [stage],
        by simp [stage], by simp [stage]⟩
  | settingUp stage holds same =>
      exact ⟨fun touched => (touched same).elim, by simp [stage],
        by simp [stage], by simp [stage]⟩
  | installing stage holds continues =>
      exact ⟨fun _ => .inr (bound holds), by simp [stage], by simp [stage],
        by simp [stage]⟩
  | undoing stage holds removing =>
      exact ⟨fun _ => .inr (bound holds), by simp [stage], by simp [stage],
        by simp [stage]⟩
  | refused stage same =>
      refine ⟨fun touched => (touched same).elim, fun _ _ bin => .inl ?_,
        by simp [stage], by simp [stage]⟩
      rw [same]
  | undone stage removing =>
      exact ⟨fun _ => .inl ⟨_, stage⟩,
        fun _ _ bin => restored_of_removing stale removing bin,
        by simp [stage], by simp [stage]⟩
  | started stage holds outcome =>
      refine ⟨fun _ => .inr (bound holds), by simp [stage], ?_, ?_⟩
      · intro _ manages
        refine ⟨_, (hooked_of_install manages outcome).1, ?_⟩
        intro packet family
        have names := (Nameservers.found_both machine.etc
          machine.systemd).out
        rw [← List.filterMap_append] at names
        rw [ClientArgs.redirect, readLocalNameserversV4, names]
        exact .v4 holds family
      · rintro _ manages ⟨subnet, member, colon⟩
        have given : args.subnetsV6 ≠ [] := by
          refine List.ne_nil_of_mem (a := subnet) ?_
          rw [ClientArgs.subnetsV6, splitSubnetsByFamily_eq]
          exact List.mem_filter.mpr ⟨member, by simpa using colon⟩
        exact ⟨_, (hooked_of_install manages outcome).2 given,
          fun packet family => .v6 holds given family⟩

end Kept

/-! ## A start on a table that an earlier run has left -/

/-- Arguments with a subnet of each family, and DNS. -/
def someArgs : ClientArgs where
  remoteCmd := "kubectl exec".toList
  subnets := ["10.0.0.0/8".toList, "fd00::/8".toList]
  listenPort := 0
  manageIptables := true
  dns := true
  dnsListenPort := 0
  probeFallbackUs := 2000

/-- A machine with one name server. -/
def someMachine : Machine :=
  ⟨4711, none, some "nameserver 10.0.0.2\n".toList, none⟩

/-- TCP to an address of the second subnet. -/
def somePacket : Packet :=
  ⟨.v6 ⟨[0xfd00, 0, 0, 0, 0, 0, 0, 1], rfl⟩, .tcp 443, false⟩

/-- A query to the name server. -/
def someQuery : Packet :=
  ⟨.v4 ⟨10, 0, 0, 2⟩, .udp 53, false⟩

/-- The chains are there already, so that creating them fails. -/
def startActions : List StartAction :=
  [.bound (.ok ()), .bound (.ok ()), .bound (.ok ()),
    .link (.spawned (.ok ())), .link (.synced (.ok ())),
    .link (.probed (.ok ())), .linkReturned] ++
    .install false :: List.replicate 6 (.install true) ++
    .install false :: List.replicate 5 (.install true) ++
    [.installReturned]

/-- The start has succeeded. -/
def Stage.isStarted : Stage → Bool
  | .started => true
  | _ => false

theorem start_keeps_stale :
    ∃ (process : Process) (rulesV4 rulesV6 : List Rule),
      process.stage = .started ∧
        Hooked .iptables someChain rulesV4 process.tables ∧
        Hooked .ip6tables someChain rulesV6 process.tables ∧
        chainVerdict someQuery rulesV4 =
          .redirected .udp redirectPortDns ∧
        process.bound .dns = some redirectPortDns ∧
        chainVerdict somePacket rulesV6 =
          .redirected .tcp redirectPortTcp ∧
        process.bound .tcpV6 = some redirectPortTcp := by
  rcases run_of_execute_any
    (Process.step (fun _ => []) someArgs someMachine)
    (.start someArgs staleTables) startActions
    (fun process => process.stage.isStarted) (by decide +kernel)
    with ⟨process, run, started⟩
  have stage : process.stage = .started := by
    cases at_ : process.stage with
    | started => rfl
    | binding | settingUp | installing | undoing | failed =>
        rw [at_] at started
        cases started
  have chain : (someArgs.redirect someMachine).chain = someChain := by
    decide
  have kept := start_keeps run (by
    intro bin
    rw [chain]
    cases bin <;> exact removable_staleTable)
  rcases kept.servedV4 stage rfl with ⟨rulesV4, hookedV4, servedV4⟩
  rcases kept.servedV6 stage rfl
    ⟨"fd00::/8".toList, by decide, by decide⟩ with
    ⟨rulesV6, hookedV6, servedV6⟩
  rw [chain] at hookedV4 hookedV6
  have known : ToNameserver someMachine.nameservers someQuery := by
    decide +kernel
  have query := (servedV4 someQuery rfl).query.mpr ⟨rfl, rfl, known⟩
  have packet := (servedV6 somePacket rfl).tcp.mpr
    ⟨by decide, by decide⟩
  exact ⟨process, rulesV4, rulesV6, stage, hookedV4, hookedV6, query,
    ((servedV4 someQuery rfl).heard _ _ query).2, packet,
    (servedV6 somePacket rfl).heard _ _ packet⟩

end KubectlSshuttle.Rushtle.StartUp
