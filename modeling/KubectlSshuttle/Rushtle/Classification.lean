import KubectlSshuttle.Lib.Network
import KubectlSshuttle.Rushtle.Firewall

/-!
# What the installed chains do with a packet

A locally generated packet that reaches the jump in `OUTPUT` passes the rules
of the chain up to the first that matches.  The chains redirect exactly the
traffic to the given subnets and, for IPv4, the queries to the name servers.
-/

namespace KubectlSshuttle.Rushtle.Firewall

open KubectlSshuttle.Lib
open KubectlSshuttle.Lib.Script
open KubectlSshuttle.Lib.RustText
open KubectlSshuttle.Lib.Address

/-! ## Packets and verdicts -/

/-- The transport of a packet, with its destination port. -/
inductive Transport where
  | tcp (dport : UInt16)
  | udp (dport : UInt16)
  | other
deriving DecidableEq

/-- The protocol that a rule can ask for. -/
def Transport.protocol : Transport → Option Protocol
  | .tcp _ => some .tcp
  | .udp _ => some .udp
  | .other => none

/-- The destination port, where there is one. -/
def Transport.dport : Transport → Option UInt16
  | .tcp dport | .udp dport => some dport
  | .other => none

/-- What the rules look at. -/
structure Packet where
  destination : IpAddr
  transport : Transport
  /-- the destination is an address of the host -/
  dstLocal : Bool
deriving DecidableEq

/-- What becomes of a packet in a chain. -/
inductive Verdict where
  /-- it goes to the listener on that port -/
  | redirected (protocol : Protocol) (port : UInt16)
  | untouched
  /-- another chain, or a target that the client never uses, decides -/
  | elsewhere
deriving DecidableEq

/-- The address lies in the network that the text describes. -/
def inNetwork (text : Text) (address : IpAddr) : Bool :=
  (parseNetwork text).any fun network => network.contains address

/-- Every condition of the rule is met. -/
def Rule.matches (rule : Rule) (packet : Packet) : Bool :=
  (rule.protocol.all fun protocol =>
      packet.transport.protocol == some protocol) &&
    (rule.destination.all fun text => inNetwork text packet.destination) &&
    (rule.dport.all fun port => packet.transport.dport == some port) &&
    (!rule.dstLocal || packet.dstLocal) && rule.foreign.isEmpty

/-- A redirection keeps the protocol of the packet. -/
def Target.verdict (packet : Packet) : Target → Verdict
  | .redirect port =>
      match packet.transport.protocol with
      | some protocol => .redirected protocol port
      | none => .elsewhere
  | .returns => .untouched
  | .jump _ | .foreign _ => .elsewhere

/-- The first rule that matches decides. -/
def chainVerdict (packet : Packet) : List Rule → Verdict
  | [] => .untouched
  | rule :: rest =>
      if rule.matches packet then rule.target.verdict packet
      else chainVerdict packet rest

section Verdicts

variable {packet : Packet} {tcpPort dnsPort : UInt16}
  {subnets : List Text} {dns : Bool} {nameservers : List Ipv4Addr}

/-- Rules that agree on their verdict act as one. -/
theorem chainVerdict_append {rules : List Rule} {verdict : Verdict}
    (agree : ∀ rule ∈ rules, rule.matches packet = true →
      rule.target.verdict packet = verdict) (rest : List Rule) :
    chainVerdict packet (rules ++ rest) =
      if ∃ rule ∈ rules, rule.matches packet = true then verdict
      else chainVerdict packet rest := by
  induction rules with
  | nil => simp
  | cons rule others induction =>
      rw [List.cons_append, chainVerdict]
      by_cases here : rule.matches packet = true
      · rw [if_pos here, agree rule List.mem_cons_self here,
          if_pos ⟨rule, List.mem_cons_self, here⟩]
      · rw [if_neg here, induction fun other member =>
          agree other (List.mem_cons_of_mem _ member)]
        simp [here]

/-! ## What the rules match -/

theorem inNetwork_toText {server : Ipv4Addr} {address : IpAddr} :
    inNetwork server.toText address = true ↔ address = .v4 server := by
  rw [inNetwork, parseNetwork_v4, Option.any_some, Network.contains_host]

/-- The address `::1`. -/
def loopbackV6 : IpAddr :=
  .v6 ⟨List.replicate 7 0 ++ [1], rfl⟩

theorem inNetwork_loopback {address : IpAddr} :
    inNetwork "::1/128".toList address = true ↔ address = loopbackV6 := by
  have read : parseNetwork "::1/128".toList =
      some (.host loopbackV6) := by decide
  rw [inNetwork, read, Option.any_some, Network.contains_host]

/-- TCP to one of the subnets. -/
def ToSubnet (subnets : List Text) (packet : Packet) : Prop :=
  packet.transport.protocol = some .tcp ∧
    ∃ cidr ∈ subnets, inNetwork cidr packet.destination = true

/-- A query to a name server, or to any where none is known. -/
def ToNameserver (nameservers : List Ipv4Addr) (packet : Packet) : Prop :=
  packet.transport = .udp 53 ∧
    (nameservers = [] ∨
      ∃ server ∈ nameservers, packet.destination = .v4 server)

instance : Decidable (ToSubnet subnets packet) :=
  inferInstanceAs (Decidable (_ ∧ _))

instance : Decidable (ToNameserver nameservers packet) :=
  inferInstanceAs (Decidable (_ ∧ _))

theorem matches_subnetRules :
    (∃ rule ∈ subnetRules subnets tcpPort, rule.matches packet = true) ↔
      ToSubnet subnets packet := by
  have rules : (∃ rule ∈ subnetRules subnets tcpPort,
      rule.matches packet = true) ↔
        ∃ cidr ∈ subnets, packet.transport.protocol = some .tcp ∧
          inNetwork cidr packet.destination = true := by
    simp [subnetRules, Rule.matches]
  rw [rules, ToSubnet]
  constructor
  · rintro ⟨cidr, given, tcp, within⟩
    exact ⟨tcp, cidr, given, within⟩
  · rintro ⟨tcp, cidr, given, within⟩
    exact ⟨cidr, given, tcp, within⟩

theorem udp53_iff :
    packet.transport.protocol = some .udp ∧
        packet.transport.dport = some 53 ↔
      packet.transport = .udp 53 := by
  cases packet.transport <;> simp [Transport.protocol, Transport.dport]

theorem matches_dnsRules :
    (∃ rule ∈ dnsRules dns (nameservers.map Ipv4Addr.toText) dnsPort,
        rule.matches packet = true) ↔
      dns = true ∧ ToNameserver nameservers packet := by
  rw [ToNameserver, ← udp53_iff]
  cases dns with
  | false => simp [dnsRules]
  | true =>
      cases nameservers with
      | nil => simp [dnsRules, Rule.matches]
      | cons first others =>
          have rules : (∃ rule ∈ dnsRules true
              ((first :: others).map Ipv4Addr.toText) dnsPort,
                rule.matches packet = true) ↔
              ∃ server ∈ first :: others,
                packet.transport.protocol = some .udp ∧
                  packet.destination = .v4 server ∧
                    packet.transport.dport = some 53 := by
            simp only [dnsRules, if_true]
            rw [if_neg (by simp)]
            constructor
            · rintro ⟨rule, member, matched⟩
              rcases List.mem_map.mp member with ⟨text, listed, rfl⟩
              rcases List.mem_map.mp listed with ⟨server, given, rfl⟩
              refine ⟨server, given, ?_⟩
              simpa [Rule.matches, inNetwork_toText, and_assoc] using matched
            · rintro ⟨server, given, udp, same, port⟩
              refine ⟨_, List.mem_map_of_mem
                (List.mem_map_of_mem given), ?_⟩
              simp [Rule.matches, inNetwork_toText, udp, same, port]
          rw [rules]
          constructor
          · rintro ⟨server, given, udp, same, port⟩
            exact ⟨rfl, ⟨udp, port⟩, .inr ⟨server, given, same⟩⟩
          · rintro ⟨_, ⟨udp, port⟩, none | ⟨server, given, same⟩⟩
            · cases none
            · exact ⟨server, given, udp, same, port⟩

theorem verdict_subnetRules {rule : Rule}
    (member : rule ∈ subnetRules subnets tcpPort)
    (matched : rule.matches packet = true) :
    rule.target.verdict packet = .redirected .tcp tcpPort := by
  rcases List.mem_map.mp member with ⟨cidr, _, rfl⟩
  simp only [Rule.matches, Option.all_some, Bool.and_eq_true,
    beq_iff_eq] at matched
  simp [Target.verdict, matched.1.1.1.1]

theorem verdict_dnsRules {servers : List Text} {rule : Rule}
    (member : rule ∈ dnsRules dns servers dnsPort)
    (matched : rule.matches packet = true) :
    rule.target.verdict packet = .redirected .udp dnsPort := by
  have shape : rule.protocol = some .udp ∧
      rule.target = .redirect dnsPort := by
    cases dns with
    | false => simp [dnsRules] at member
    | true =>
        simp only [dnsRules, if_true] at member
        split at member
        · rw [List.mem_singleton.mp member]
          exact ⟨rfl, rfl⟩
        · rcases List.mem_map.mp member with ⟨server, _, rfl⟩
          exact ⟨rfl, rfl⟩
  simp only [Rule.matches, shape.1, Option.all_some, Bool.and_eq_true,
    beq_iff_eq] at matched
  simp [Target.verdict, shape.2, matched.1.1.1.1]

/-! ## The verdicts of the chains -/

/-- What the chain for IPv4 does. -/
theorem chainVerdict_v4 (packet : Packet) (tcpPort dnsPort : UInt16)
    (subnets : List Text) (dns : Bool) (nameservers : List Ipv4Addr) :
    chainVerdict packet
        (dnsRules dns (nameservers.map Ipv4Addr.toText) dnsPort ++
          subnetRules subnets tcpPort ++ [localRule]) =
      if dns = true ∧ ToNameserver nameservers packet then
        .redirected .udp dnsPort
      else if ToSubnet subnets packet then .redirected .tcp tcpPort
      else .untouched := by
  have escape : chainVerdict packet [localRule] = .untouched := by
    rw [chainVerdict]
    split <;> rfl
  rw [List.append_assoc,
    chainVerdict_append fun _ member matched =>
      verdict_dnsRules member matched,
    chainVerdict_append fun _ member matched =>
      verdict_subnetRules member matched]
  simp only [matches_dnsRules, matches_subnetRules, escape]

/-- What the chain for IPv6 does. -/
theorem chainVerdict_v6 (packet : Packet) (tcpPort : UInt16)
    (subnets : List Text) :
    chainVerdict packet (loopbackRule :: subnetRules subnets tcpPort) =
      if packet.destination ≠ loopbackV6 ∧ ToSubnet subnets packet then
        .redirected .tcp tcpPort
      else .untouched := by
  have address : loopbackRule.matches packet =
      inNetwork "::1/128".toList packet.destination := by
    simp [Rule.matches, loopbackRule, Rule.always]
  have loopback : loopbackRule.matches packet = true ↔
      packet.destination = loopbackV6 := by
    rw [address, inNetwork_loopback]
  rw [chainVerdict, ← List.append_nil (subnetRules subnets tcpPort),
    chainVerdict_append fun _ member matched =>
      verdict_subnetRules member matched]
  simp only [loopback, matches_subnetRules]
  by_cases own : packet.destination = loopbackV6
  · simp [own, loopbackRule, Rule.always, Target.verdict]
  · simp [own, chainVerdict]

end Verdicts

/-! ## What a successful installation leaves -/

/-- The chain holds the rules, and the last rule of `OUTPUT` jumps to it. -/
structure Hooked (bin : Backend) (chain : ChainName) (rules : List Rule)
    (tables : NatTables) : Prop where
  filled : (tables.of bin).rules chain = some rules
  jump : ∃ earlier, (tables.of bin).rules outputChain =
    some (earlier ++ [.jumpTo chain])

/-- Only the table of one backend has changed. -/
def AloneOn (bin : Backend) (before after : NatTables) : Prop :=
  ∀ other, other ≠ bin → after.of other = before.of other

section Installed

variable {bin : Backend} {chain : ChainName} {rules : List Rule}
  {tables middle final : NatTables}

theorem AloneOn.trans (first : AloneOn bin tables middle)
    (second : AloneOn bin middle final) : AloneOn bin tables final :=
  fun other apart => (second other apart).trans (first other apart)

theorem aloneOn_of_apply {command : Command}
    (applied : command.apply tables = some final) :
    AloneOn command.bin tables final := by
  rcases Command.apply_eq_some applied with ⟨table, _, rfl⟩
  exact fun other apart => NatTables.of_put_of_ne _ _ apart

/-- What an operation that succeeds makes of the table. -/
theorem of_apply {operation : Operation}
    (applied : Command.apply ⟨bin, operation⟩ tables = some final) :
    operation.apply (tables.of bin) = some (final.of bin) := by
  rcases Command.apply_eq_some applied with ⟨table, done, rfl⟩
  rw [NatTables.of_put]
  exact done

theorem rules_of_append {name : ChainName} {rule : Rule}
    (applied : Command.apply ⟨bin, .append name rule⟩ tables = some final) :
    ∃ earlier, (tables.of bin).rules name = some earlier ∧
      (final.of bin).rules =
        Function.update (tables.of bin).rules name
          (some (earlier ++ [rule])) := by
  have done := of_apply applied
  simp only [Operation.apply] at done
  split at done
  · cases done
  · next earlier found =>
      simp only [Option.ite_none_right_eq_some, Option.some.injEq] at done
      exact ⟨earlier, found, by rw [← done.2, NatTable.rules_set]⟩

theorem rules_of_flush {name : ChainName}
    (applied : Command.apply ⟨bin, .flush name⟩ tables = some final) :
    (final.of bin).rules name = some [] := by
  have done := of_apply applied
  simp only [Operation.apply, Option.ite_none_right_eq_some,
    Option.some.injEq] at done
  rw [← done.2, NatTable.rules_set, Function.update_self]

/-- The rules are appended in their order. -/
theorem filled_of_appends {earlier : List Rule}
    (applied : (rules.map fun rule =>
        (⟨bin, .append chain rule⟩ : Command)).foldlM
      (fun tables command => command.apply tables) tables = some final)
    (found : (tables.of bin).rules chain = some earlier) :
    (final.of bin).rules chain = some (earlier ++ rules) ∧
      AloneOn bin tables final := by
  induction rules generalizing tables earlier with
  | nil =>
      rcases Option.some.inj applied with rfl
      exact ⟨by simpa using found, fun _ _ => rfl⟩
  | cons rule others induction =>
      rw [List.map_cons, List.foldlM_cons] at applied
      rcases Option.bind_eq_some_iff.mp applied with
        ⟨middle, first, rest⟩
      rcases rules_of_append first with ⟨known, same, updated⟩
      rcases Option.some.inj (found.symm.trans same) with rfl
      have grown : (middle.of bin).rules chain =
          some (earlier ++ [rule]) := by
        rw [updated, Function.update_self]
      rcases induction rest grown with ⟨filled, alone⟩
      rw [List.append_assoc] at filled
      exact ⟨filled, (aloneOn_of_apply first).trans alone⟩

theorem aloneOn_of_create {result : Except Command Unit}
    (outcome : Outcome Command.apply (iptablesCreateChain bin chain) tables
      result final) : AloneOn bin tables final := by
  refine outcome.invariant (fun command before after mentioned applied
    known => ?_) (fun _ _ => rfl)
  have own := (fillsOnly_of_create command mentioned).1
  exact AloneOn.trans known (own ▸ aloneOn_of_apply applied)

theorem hooked_of_installOne (apart : chain ≠ outputChain)
    (outcome : Outcome Command.apply (installOne bin chain rules) tables
      (.ok ()) final) :
    Hooked bin chain rules final ∧ AloneOn bin tables final := by
  rcases outcome.ok_of_andThen with ⟨created, first, filled⟩
  have applied := filled.of_all
  rw [fillChain, List.cons_append, List.foldlM_cons] at applied
  rcases Option.bind_eq_some_iff.mp applied with ⟨flushed, flush, more⟩
  rw [List.foldlM_append] at more
  rcases Option.bind_eq_some_iff.mp more with ⟨full, appends, last⟩
  rw [List.foldlM_cons] at last
  rcases Option.bind_eq_some_iff.mp last with ⟨hooked, hook, rest⟩
  rcases Option.some.inj rest with rfl
  rcases filled_of_appends appends (rules_of_flush flush) with
    ⟨holds, appendsAlone⟩
  rcases rules_of_append hook with ⟨earlier, _, updated⟩
  refine ⟨⟨?_, earlier, ?_⟩, ?_⟩
  · rw [updated, Function.update_of_ne apart, holds, List.nil_append]
  · rw [updated, Function.update_self]
  · exact (aloneOn_of_create first).trans ((aloneOn_of_apply flush).trans
      (appendsAlone.trans (aloneOn_of_apply hook)))

end Installed

/-! ## The classification -/

/-- What the chain for IPv4 does with a packet. -/
structure ClassifiesV4 (tcpPort dnsPort : UInt16) (subnets : List Text)
    (dns : Bool) (nameservers : List Ipv4Addr) (rules : List Rule)
    (packet : Packet) : Prop where
  tcp : chainVerdict packet rules = .redirected .tcp tcpPort ↔
    ToSubnet subnets packet
  query : chainVerdict packet rules = .redirected .udp dnsPort ↔
    dns = true ∧ ToNameserver nameservers packet
  other : ¬ ToSubnet subnets packet →
    ¬ (dns = true ∧ ToNameserver nameservers packet) →
      chainVerdict packet rules = .untouched

/-- What the chain for IPv6 does with a packet. -/
structure ClassifiesV6 (tcpPort : UInt16) (subnets : List Text)
    (rules : List Rule) (packet : Packet) : Prop where
  tcp : chainVerdict packet rules = .redirected .tcp tcpPort ↔
    packet.destination ≠ loopbackV6 ∧ ToSubnet subnets packet
  other : ¬ (packet.destination ≠ loopbackV6 ∧ ToSubnet subnets packet) →
    chainVerdict packet rules = .untouched

section Classify

variable {chain : ChainName} {tcpPort dnsPort : UInt16}
  {subnetsV4 subnetsV6 : List Text} {dns : Bool}
  {nameservers : List Ipv4Addr} {tables final : NatTables}

/-- A packet to a subnet is not a query. -/
theorem not_toNameserver {subnets : List Text} {packet : Packet}
    (subnet : ToSubnet subnets packet) :
    ¬ ToNameserver nameservers packet := by
  rintro ⟨udp, _⟩
  have tcp := subnet.1
  rw [udp] at tcp
  cases tcp

theorem classifiesV4 (packet : Packet) :
    ClassifiesV4 tcpPort dnsPort subnetsV4 dns nameservers
      (dnsRules dns (nameservers.map Ipv4Addr.toText) dnsPort ++
        subnetRules subnetsV4 tcpPort ++ [localRule]) packet := by
  have verdict := chainVerdict_v4 packet tcpPort dnsPort subnetsV4 dns
    nameservers
  constructor
  · rw [verdict]
    by_cases subnet : ToSubnet subnetsV4 packet
    · have apart : ¬ ToNameserver nameservers packet :=
        not_toNameserver subnet
      simp [subnet, apart]
    · split <;> simp [subnet]
  · rw [verdict]
    split
    · next query => simp [query]
    · next query => split <;> simp [query]
  · intro subnet query
    rw [verdict, if_neg query, if_neg subnet]

theorem classifiesV6 (packet : Packet) :
    ClassifiesV6 tcpPort subnetsV6
      (loopbackRule :: subnetRules subnetsV6 tcpPort) packet := by
  have verdict := chainVerdict_v6 packet tcpPort subnetsV6
  constructor
  · rw [verdict]
    split
    · next subnet => simp [subnet]
    · next subnet => simp [subnet]
  · intro subnet
    rw [verdict, if_neg subnet]

/--
After a successful installation each packet that reaches the jump of its
family is classified as intended; without subnets for IPv6 there is none.
-/
theorem install_classifies (apart : chain ≠ outputChain)
    (outcome : Outcome Command.apply
      (install chain tcpPort dnsPort subnetsV4 subnetsV6 dns
        (nameservers.map Ipv4Addr.toText)) tables (.ok ()) final) :
    (∃ rules, Hooked .iptables chain rules final ∧
      ∀ packet, packet.destination.isIpv4 = true →
        ClassifiesV4 tcpPort dnsPort subnetsV4 dns nameservers rules
          packet) ∧
      (subnetsV6 ≠ [] → ∃ rules, Hooked .ip6tables chain rules final ∧
        ∀ packet, packet.destination.isIpv4 = false →
          ClassifiesV6 tcpPort subnetsV6 rules packet) ∧
      (subnetsV6 = [] → final.v6 = tables.v6) := by
  rcases outcome.ok_of_andThen with ⟨middle, first, second⟩
  rcases hooked_of_installOne apart first with ⟨hooked, alone⟩
  have v6Same : middle.v6 = tables.v6 := alone .ip6tables (by decide)
  split at second
  · next none =>
      have same := second.of_finished.2
      subst same
      exact ⟨⟨_, hooked, fun packet _ => classifiesV4 packet⟩,
        fun some_ => (some_ none).elim, fun _ => v6Same⟩
  · next some_ =>
      rcases hooked_of_installOne apart second with ⟨hooked6, alone6⟩
      have v4Same : final.v4 = middle.v4 := alone6 .iptables (by decide)
      have kept : Hooked .iptables chain
          (dnsRules dns (nameservers.map Ipv4Addr.toText) dnsPort ++
            subnetRules subnetsV4 tcpPort ++ [localRule]) final := by
        constructor
        · rw [NatTables.of, v4Same]
          exact hooked.filled
        · rw [NatTables.of, v4Same]
          exact hooked.jump
      exact ⟨⟨_, kept, fun packet _ => classifiesV4 packet⟩,
        fun _ => ⟨_, hooked6, fun packet _ => classifiesV6 packet⟩,
        fun none => (some_ none).elim⟩

end Classify

/-- The stub resolver of the host, and a query to it. -/
def stubResolver : Ipv4Addr := ⟨127, 0, 0, 53⟩

/-- A query to a resolver of the host itself. -/
def stubQuery : Packet where
  destination := .v4 stubResolver
  transport := .udp 53
  dstLocal := true

/-- The query is caught although its destination is local. -/
theorem install_classifies_stub :
    ∃ rules final, Hooked .iptables someChain rules final ∧
      chainVerdict stubQuery rules = .redirected .udp 12353 := by
  have apart : someChain ≠ outputChain := by decide
  let script := install someChain 12300 12353 ["10.0.0.0/8".toList]
    ["fd00::/8".toList] true ([stubResolver].map Ipv4Addr.toText)
  have succeeds : (script.eval Command.apply staleTables).1 = .ok () := by
    decide
  have outcome : Outcome Command.apply script staleTables _ _ :=
    outcome_eval script staleTables
  rw [succeeds] at outcome
  rcases install_classifies apart outcome with
    ⟨⟨rules, hooked, classifies⟩, _⟩
  exact ⟨rules, _, hooked, (classifies stubQuery rfl).query.mpr (by decide)⟩

end KubectlSshuttle.Rushtle.Firewall
