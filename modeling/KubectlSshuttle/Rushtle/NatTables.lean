import Mathlib.Logic.Function.Basic
import KubectlSshuttle.Lib.CommandScript
import KubectlSshuttle.Lib.RustText

/-!
# The NAT tables of the host

One `nat` table for IPv4 and one for IPv6, each a set of named chains of
rules, with the commands that the client runs on them.  `-D` removes the first
rule that matches, a rule may only jump to a chain that exists, and a chain
can only be deleted when it is empty and no rule refers to it.
-/

namespace KubectlSshuttle.Rushtle.Firewall

open KubectlSshuttle.Lib
open KubectlSshuttle.Lib.RustText

/-! ## Rules and chains -/

/-- Chains are named by texts. -/
abbrev ChainName := Text

/-- The chain that locally generated packets pass. -/
def outputChain : ChainName := "OUTPUT".toList

/-- The protocols that a rule can ask for. -/
inductive Protocol where
  | tcp
  | udp
deriving DecidableEq, Repr

/-- What a rule does with a packet. -/
inductive Target where
  /-- `-j REDIRECT --to-ports` -/
  | redirect (toPorts : UInt16)
  /-- `-j RETURN` -/
  | returns
  /-- `-j` with the name of a chain -/
  | jump (chain : ChainName)
  /-- a target that the client never uses -/
  | foreign (text : Text)
deriving DecidableEq, Repr

/-- A rule: what a packet has to match, and where it goes then. -/
structure Rule where
  /-- `-p` -/
  protocol : Option Protocol
  /-- `-d` -/
  destination : Option Text
  /-- `--dport` -/
  dport : Option UInt16
  /-- `-m addrtype --dst-type LOCAL` -/
  dstLocal : Bool
  /-- matches that the client never uses -/
  foreign : List Text
  target : Target
deriving DecidableEq, Repr

/-- A rule that every packet matches. -/
def Rule.always (target : Target) : Rule where
  protocol := none
  destination := none
  dport := none
  dstLocal := false
  foreign := []
  target := target

/-- `-j chain` -/
def Rule.jumpTo (chain : ChainName) : Rule := .always (.jump chain)

/-- The rule jumps to the chain. -/
def Rule.refersTo (chain : ChainName) (rule : Rule) : Bool :=
  rule.target = .jump chain

/-- The chains of a table; every chain that exists is among the names. -/
structure NatTable where
  rules : ChainName → Option (List Rule)
  names : List ChainName
  complete : ∀ name, rules name ≠ none → name ∈ names

/-- The chain exists. -/
def NatTable.has (table : NatTable) (chain : ChainName) : Bool :=
  (table.rules chain).isSome

/-- A rule of some chain refers to the chain. -/
def NatTable.referenced (table : NatTable) (chain : ChainName) : Bool :=
  table.names.any fun name =>
    ((table.rules name).getD []).any (Rule.refersTo chain)

/-- No chain exists. -/
def NatTable.empty : NatTable where
  rules := fun _ => none
  names := []
  complete := fun _ present => (present rfl).elim

/-- Replace the rules of a chain. -/
def NatTable.set (table : NatTable) (chain : ChainName)
    (rules : Option (List Rule)) : NatTable where
  rules := Function.update table.rules chain rules
  names := if chain ∈ table.names then table.names else chain :: table.names
  complete := by
    intro name present
    by_cases same : name = chain
    · subst same
      split
      · assumption
      · exact List.mem_cons_self
    · rw [Function.update_of_ne same] at present
      have member := table.complete name present
      split
      · exact member
      · exact List.mem_cons_of_mem _ member

@[simp]
theorem NatTable.rules_set (table : NatTable) (chain : ChainName)
    (rules : Option (List Rule)) :
    (table.set chain rules).rules =
      Function.update table.rules chain rules := rfl

theorem NatTable.referenced_eq_true {table : NatTable} {chain : ChainName} :
    table.referenced chain = true ↔
      ∃ name rules rule, table.rules name = some rules ∧ rule ∈ rules ∧
        rule.refersTo chain = true := by
  simp only [NatTable.referenced, List.any_eq_true]
  constructor
  · rintro ⟨name, _, rule, member, refers⟩
    cases found : table.rules name with
    | none => simp [found] at member
    | some rules => exact ⟨name, rules, rule, found, by simpa [found]
        using member, refers⟩
  · rintro ⟨name, rules, rule, found, member, refers⟩
    exact ⟨name, table.complete name (by simp [found]), rule,
      by simpa [found] using member, refers⟩

/-! ## Commands -/

/-- The program that is run. -/
inductive Backend where
  | iptables
  | ip6tables
deriving DecidableEq, Repr

/-- What follows `-t nat`. -/
inductive Operation where
  /-- `-N` -/
  | newChain (chain : ChainName)
  /-- `-L` -/
  | list (chain : ChainName)
  /-- `-F` -/
  | flush (chain : ChainName)
  /-- `-A` -/
  | append (chain : ChainName) (rule : Rule)
  /-- `-D` -/
  | delete (chain : ChainName) (rule : Rule)
  /-- `-X` -/
  | deleteChain (chain : ChainName)
deriving DecidableEq, Repr

/-- One run of iptables or ip6tables. -/
structure Command where
  bin : Backend
  operation : Operation
deriving DecidableEq, Repr

/-- The chain that a rule jumps to exists. -/
def NatTable.accepts (table : NatTable) (rule : Rule) : Bool :=
  match rule.target with
  | .jump chain => table.has chain
  | _ => true

/-- What an operation does to its table; `none` is a failure. -/
def Operation.apply (table : NatTable) : Operation → Option NatTable
  | .newChain chain =>
      if table.has chain then none
      else some (table.set chain (some []))
  | .list chain => if table.has chain then some table else none
  | .flush chain =>
      if table.has chain then some (table.set chain (some []))
      else none
  | .append chain rule =>
      match table.rules chain with
      | none => none
      | some rules =>
          if table.accepts rule then
            some (table.set chain (some (rules ++ [rule])))
          else none
  | .delete chain rule =>
      match table.rules chain with
      | none => none
      | some rules =>
          if rule ∈ rules then
            some (table.set chain (some (rules.erase rule)))
          else none
  | .deleteChain chain =>
      if table.rules chain = some [] ∧ ¬ table.referenced chain then
        some (table.set chain none)
      else none

/-- The tables of both backends. -/
structure NatTables where
  v4 : NatTable
  v6 : NatTable

/-- The table that a backend works on. -/
def NatTables.of (tables : NatTables) : Backend → NatTable
  | .iptables => tables.v4
  | .ip6tables => tables.v6

/-- The table that a backend works on is replaced. -/
def NatTables.put (tables : NatTables) (table : NatTable) :
    Backend → NatTables
  | .iptables => { tables with v4 := table }
  | .ip6tables => { tables with v6 := table }

/-- A command changes the table of its backend, or fails. -/
def Command.apply (command : Command) (tables : NatTables) :
    Option NatTables :=
  (command.operation.apply (tables.of command.bin)).map fun table =>
    tables.put table command.bin

@[simp]
theorem NatTables.of_put (tables : NatTables) (table : NatTable)
    (bin : Backend) : (tables.put table bin).of bin = table := by
  cases bin <;> rfl

theorem NatTables.of_put_of_ne (tables : NatTables) (table : NatTable)
    {bin other : Backend} (apart : other ≠ bin) :
    (tables.put table bin).of other = tables.of other := by
  cases bin <;> cases other <;> first | rfl | exact (apart rfl).elim

/-- A command that succeeds changes the table of its backend. -/
theorem Command.apply_eq_some {command : Command}
    {before after : NatTables} (applied : command.apply before = some after) :
    ∃ table, command.operation.apply (before.of command.bin) = some table ∧
      after = before.put table command.bin := by
  rcases Option.map_eq_some_iff.mp applied with ⟨table, done, rfl⟩
  exact ⟨table, done, rfl⟩

end KubectlSshuttle.Rushtle.Firewall
