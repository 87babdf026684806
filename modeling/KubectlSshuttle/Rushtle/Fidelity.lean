import KubectlSshuttle.Rushtle.Traffic

/-!
# Byte streams end to end

Every connection of the server is the other end of one connection of the
client.  As long as no identifier is used twice, what one end writes to its
socket is a part of what the other end has read from its own, and nothing of
any other connection.
-/

namespace KubectlSshuttle.Rushtle

open KubectlSshuttle.Lib.RustText
open KubectlSshuttle.Lib.Address
open KubectlSshuttle.Lib.Transition
open KubectlSshuttle.Rushtle.Ssnet
open KubectlSshuttle.Rushtle.Connection
open KubectlSshuttle.Rushtle.Channels

/-! ## The two ends of a tunnel -/

/-- The steps of a connection of the client. -/
def nearEvents (trace : List SystemAction) (near : Nat) : List ConnEvent :=
  connEvents near (channelTrace (clientTrace trace))

/-- The steps of a connection of the server. -/
def farEvents (trace : List SystemAction) (far : Nat) : List ConnEvent :=
  connEvents far (tcpEvents (serverTrace trace))

/-- A connection of the client and one of the server are the two ends. -/
def Joined (system : System) (near far : Nat) : Prop :=
  ∃ here there : Conn,
    system.client.channels.conns[near]? = some here ∧
      system.server.tcp.conns[far]? = some there ∧
        there.channel = here.channel ∧ there.target = here.target

/-- Every socket is written what the socket at the other end has given. -/
structure Fidelity (trace : List SystemAction) (system : System) : Prop where
  /-- a connection of the server was asked for by one of the client -/
  asked : ∀ far < system.server.tcp.conns.length,
    ∃ near, Joined system near far
  oneFar : ∀ near far far', Joined system near far →
    Joined system near far' → far' = far
  oneNear : ∀ near near' far, Joined system near far →
    Joined system near' far → near' = near
  /-- from the application to the target -/
  outward : ∀ near far, Joined system near far →
    Faithful (farEvents trace far) (nearEvents trace near)
  /-- from the target to the application -/
  homeward : ∀ near far, Joined system near far →
    Faithful (nearEvents trace near) (farEvents trace far)
  /-- an application without a target is written nothing -/
  waiting : ∀ near < system.client.channels.conns.length,
    (∀ far, ¬ Joined system near far) →
      Faithful (nearEvents trace near) []

theorem Follows.opened_target {target other : Text × UInt16}
    {speaker : List ConnEvent} {events : List ChannelEvent}
    (follows : Follows target speaker events)
    (opened : .opened other ∈ events) : other = target := by
  cases follows with
  | unused => cases opened
  | streaming chunks nonempty within =>
      simpa [fed] using opened
  | ended chunks cause nonempty whole isOver =>
      simpa [fed] using opened

section Runs

variable {dnsEnabled : Bool} {resolvers : List SocketAddr}
  {trace : List SystemAction} {system : System}

/-- Two connections on one channel are the ends of one tunnel. -/
theorem joined_of_channel
    (run : Run System.step (.start dnsEnabled resolvers) trace system)
    (few : (ledgerOf (clientTrace trace)).taken ≤ idCycle)
    {near far : Nat} {here there : Conn}
    (present : system.client.channels.conns[near]? = some here)
    (remote : system.server.tcp.conns[far]? = some there)
    (same : there.channel = here.channel) : Joined system near far := by
  have opened := opened_mem_channelEvents (run_tcp (run_server run)) remote
  have follows := server_follows run few present
  rw [← same] at follows
  exact ⟨here, there, present, remote, same, follows.opened_target opened⟩

theorem joined_of_far
    (run : Run System.step (.start dnsEnabled resolvers) trace system)
    (few : (ledgerOf (clientTrace trace)).taken ≤ idCycle) {far : Nat}
    {there : Conn} (remote : system.server.tcp.conns[far]? = some there) :
    ∃ near, Joined system near far := by
  rcases client_of_serverConn run remote with ⟨near, here, present, same⟩
  exact ⟨near, joined_of_channel run few present remote same.symm⟩

theorem Joined.oneFar
    (run : Run System.step (.start dnsEnabled resolvers) trace system)
    (few : (ledgerOf (clientTrace trace)).taken ≤ idCycle)
    {near far far' : Nat} (joined : Joined system near far)
    (other : Joined system near far') : far' = far := by
  rcases joined with ⟨here, there, present, remote, same, _⟩
  rcases other with ⟨here', there', present', remote', same', _⟩
  rcases Option.some.inj (present.symm.trans present') with rfl
  have once := (server_follows run few present).usedOnce
  rw [← same] at once
  have delivery := Delivered.of_run (run_tcp (run_server run)) far there
    remote once
  exact delivery.alone far' there' remote' (same'.trans same.symm)

theorem Joined.oneNear
    (run : Run System.step (.start dnsEnabled resolvers) trace system)
    (few : (ledgerOf (clientTrace trace)).taken ≤ idCycle)
    {near near' far : Nat} (joined : Joined system near far)
    (other : Joined system near' far) : near' = near := by
  rcases joined with ⟨here, there, present, remote, same, _⟩
  rcases other with ⟨here', there', present', remote', same', _⟩
  rcases Option.some.inj (remote.symm.trans remote') with rfl
  exact conn_unique (run_client run) few present present'
    (same'.symm.trans same)

/-- The target is written what the application has given. -/
theorem Joined.outward
    (run : Run System.step (.start dnsEnabled resolvers) trace system)
    (few : (ledgerOf (clientTrace trace)).taken ≤ idCycle)
    {near far : Nat} (joined : Joined system near far) :
    Faithful (farEvents trace far) (nearEvents trace near) := by
  rcases joined with ⟨here, there, present, remote, same, _⟩
  have follows := server_follows run few present
  rw [← same] at follows
  exact Faithful.of_follows (run_tcp (run_server run)) remote follows

/-- The application is written what the target has given. -/
theorem Joined.homeward
    (run : Run System.step (.start dnsEnabled resolvers) trace system)
    (few : (ledgerOf (clientTrace trace)).taken ≤ idCycle)
    {near far : Nat} (joined : Joined system near far) :
    Faithful (nearEvents trace near) (farEvents trace far) := by
  rcases joined with ⟨here, there, present, remote, same, _⟩
  exact Faithful.of_follows (run_channels (run_client run)) present
    (client_follows run few present remote same)

/-- An application whose target is not there yet is written nothing. -/
theorem faithful_to_nobody
    (run : Run System.step (.start dnsEnabled resolvers) trace system)
    (few : (ledgerOf (clientTrace trace)).taken ≤ idCycle) {near : Nat}
    {here : Conn}
    (present : system.client.channels.conns[near]? = some here)
    (apart : ∀ far, ¬ Joined system near far) :
    Faithful (nearEvents trace near) [] := by
  apply Faithful.of_follows (run_channels (run_client run)) present
  apply client_follows_nobody run few present
  intro there inConns same
  rcases List.mem_iff_getElem?.mp inConns with ⟨far, remote⟩
  exact apart far (joined_of_channel run few present remote same)

theorem streams_faithful
    (run : Run System.step (.start dnsEnabled resolvers) trace system)
    (few : (ledgerOf (clientTrace trace)).taken ≤ idCycle) :
    Fidelity trace system := by
  constructor
  · intro far bound
    exact joined_of_far run few (List.getElem?_eq_getElem bound)
  · exact fun near far far' => Joined.oneFar run few
  · exact fun near near' far => Joined.oneNear run few
  · exact fun near far => Joined.outward run few
  · exact fun near far => Joined.homeward run few
  · intro near bound
    exact faithful_to_nobody run few (List.getElem?_eq_getElem bound)

end Runs

theorem streams_faithful_talk :
    ∃ system, Run System.step (.start false []) talk system ∧
      system.server.tcp.conns.length = 2 ∧
      (written (farEvents talk 0) = [1, 2] ∧
        written (farEvents talk 1) = [9] ∧
          written (nearEvents talk 1) = [8]) ∧
      Fidelity talk system := by
  rcases run_talk with ⟨system, run, two, few⟩
  exact ⟨system, run, two, by decide +kernel, streams_faithful run few⟩

end KubectlSshuttle.Rushtle
