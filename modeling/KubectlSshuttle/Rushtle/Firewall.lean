import KubectlSshuttle.Rushtle.NatTables

/-!
# Installing and removing the redirect

The Linux firewall module puts its rules in a chain of its own, in front of
which it hooks a jump in `OUTPUT`, and takes both away again.  Whatever point
an installation reaches, and whatever an earlier one has left behind, the
removal restores the tables, as long as there are not more jumps than it
drains.
-/

namespace KubectlSshuttle.Rushtle.Firewall

open KubectlSshuttle.Lib
open KubectlSshuttle.Lib.Script
open KubectlSshuttle.Lib.RustText

/-! ## The scripts -/

/-- `iptables_create_chain`: a chain that is there already is reused. -/
def iptablesCreateChain (bin : Backend) (chain : ChainName) :
    Fallible Command :=
  .run ⟨bin, .newChain chain⟩ fun created =>
    if created then .finished (.ok ())
    else
      .run ⟨bin, .list chain⟩ fun listed =>
        if listed then .finished (.ok ())
        else all [⟨bin, .newChain chain⟩]

/-- The rules for UDP port 53. -/
def dnsRules (dns : Bool) (nameservers : List Text) (dnsPort : UInt16) :
    List Rule :=
  let redirect (destination : Option Text) : Rule :=
    { protocol := some .udp
      destination := destination
      dport := some 53
      dstLocal := false
      foreign := []
      target := .redirect dnsPort }
  if dns then
    if nameservers = [] then [redirect none]
    else nameservers.map fun ns => redirect (some ns)
  else []

/-- A redirect for each subnet. -/
def subnetRules (subnets : List Text) (tcpPort : UInt16) : List Rule :=
  subnets.map fun cidr =>
    { protocol := some .tcp
      destination := some cidr
      dport := none
      dstLocal := false
      foreign := []
      target := .redirect tcpPort }

/-- The rule that leaves other local traffic alone. -/
def localRule : Rule :=
  { Rule.always .returns with dstLocal := true }

/-- The loopback address is excepted. -/
def loopbackRule : Rule :=
  { Rule.always .returns with destination := some "::1/128".toList }

/-- Fill the flushed chain, and hook it into `OUTPUT` last. -/
def fillChain (bin : Backend) (chain : ChainName) (rules : List Rule) :
    List Command :=
  ⟨bin, .flush chain⟩ :: rules.map (fun rule => ⟨bin, .append chain rule⟩) ++
    [⟨bin, .append outputChain (.jumpTo chain)⟩]

/-- The commands of one backend. -/
def installOne (bin : Backend) (chain : ChainName) (rules : List Rule) :
    Fallible Command :=
  (iptablesCreateChain bin chain).andThen (all (fillChain bin chain rules))

/-- `install`; the name servers are those of `read_local_nameservers_v4`. -/
def install (chain : ChainName) (tcpPort dnsPort : UInt16)
    (subnetsV4 subnetsV6 : List Text) (dns : Bool)
    (nameservers : List Text) : Fallible Command :=
  (installOne .iptables chain
    (dnsRules dns nameservers dnsPort ++ subnetRules subnetsV4 tcpPort ++
      [localRule])).andThen
    (if subnetsV6 = [] then .finished (.ok ())
    else
      installOne .ip6tables chain
        (loopbackRule :: subnetRules subnetsV6 tcpPort))

/-- The loop is left once more than this many jumps are drained. -/
def maxDrained : Nat := 16

/-- Drain at most so many jumps, then go on. -/
def drainJumps (bin : Backend) (chain : ChainName)
    (rest : Script Command Unit) : Nat → Script Command Unit
  | 0 => rest
  | left + 1 =>
      .run ⟨bin, .delete outputChain (.jumpTo chain)⟩ fun ok =>
        if ok then drainJumps bin chain rest left else rest

/-- The end of `remove_one`, with its second attempt. -/
def dropChain (bin : Backend) (chain : ChainName) : Script Command Unit :=
  .run ⟨bin, .flush chain⟩ fun _ =>
    .run ⟨bin, .deleteChain chain⟩ fun ok =>
      if ok then .finished ()
      else .run ⟨bin, .deleteChain chain⟩ fun _ => .finished ()

/-- `remove_one` -/
def removeOne (bin : Backend) (chain : ChainName) : Script Command Unit :=
  drainJumps bin chain (dropChain bin chain) (maxDrained + 1)

/-- `remove` -/
def remove (chain : ChainName) (hasV6 : Bool) : Script Command Unit :=
  (removeOne .iptables chain).bind fun _ =>
    if hasV6 then removeOne .ip6tables chain else .finished ()

/-! ## What a removal needs, and what it leaves -/

/-- The rules of a chain without those that refer to another. -/
def unhooked (chain : ChainName) (rules : List Rule) : List Rule :=
  rules.filter fun rule => !rule.refersTo chain

/--
The chain is referred to by plain jumps from `OUTPUT` only, and there are at
most so many of them.
-/
structure Removable (chain : ChainName) (jumps : Nat) (table : NatTable) :
    Prop where
  plain : ∀ rules, table.rules outputChain = some rules →
    ∀ rule ∈ rules, rule.refersTo chain = true → rule = .jumpTo chain
  few : ∀ rules, table.rules outputChain = some rules →
    rules.count (.jumpTo chain) ≤ jumps
  elsewhere : ∀ name rules, name ≠ outputChain → name ≠ chain →
    table.rules name = some rules →
      ∀ rule ∈ rules, rule.refersTo chain = false

/-- The chain and its jumps are gone, and everything else is as before. -/
structure Restored (chain : ChainName) (before after : NatTable) : Prop where
  gone : after.rules chain = none
  output : after.rules outputChain =
    (before.rules outputChain).map (unhooked chain)
  others : ∀ name, name ≠ outputChain → name ≠ chain →
    after.rules name = before.rules name

/-- At most the chain and its jumps from `OUTPUT` have changed. -/
structure Touched (chain : ChainName) (jumps : Nat)
    (before after : NatTable) : Prop where
  removable : Removable chain jumps after
  output : (after.rules outputChain).map (unhooked chain) =
    (before.rules outputChain).map (unhooked chain)
  others : ∀ name, name ≠ outputChain → name ≠ chain →
    after.rules name = before.rules name

theorem Touched.refl {chain : ChainName} {jumps : Nat} {table : NatTable}
    (removable : Removable chain jumps table) :
    Touched chain jumps table table where
  removable := removable
  output := rfl
  others _ _ _ := rfl

theorem Removable.mono {chain : ChainName} {fewer jumps : Nat}
    {table : NatTable} (removable : Removable chain fewer table)
    (le : fewer ≤ jumps) : Removable chain jumps table where
  plain := removable.plain
  few rules found := Nat.le_trans (removable.few rules found) le
  elsewhere := removable.elsewhere

theorem refersTo_jumpTo (chain : ChainName) :
    (Rule.jumpTo chain).refersTo chain = true := by
  simp [Rule.refersTo, Rule.jumpTo, Rule.always]

/-! ## The commands of an installation -/

section Install

variable {chain : ChainName} {jumps : Nat} {before after : NatTable}

/-- Whatever is done with the rules of the chain itself. -/
theorem Touched.set_chain (apart : chain ≠ outputChain)
    (touched : Touched chain jumps before after)
    (rules : Option (List Rule)) :
    Touched chain jumps before (after.set chain rules) := by
  have output : (after.set chain rules).rules outputChain =
      after.rules outputChain := by
    simp [Function.update_of_ne apart.symm]
  constructor
  · constructor
    · rw [output]
      exact touched.removable.plain
    · rw [output]
      exact touched.removable.few
    · intro name found notOutput notChain
      rw [NatTable.rules_set, Function.update_of_ne notChain]
      exact touched.removable.elsewhere name found notOutput notChain
  · rw [output]
    exact touched.output
  · intro name notOutput notChain
    rw [NatTable.rules_set, Function.update_of_ne notChain]
    exact touched.others name notOutput notChain

/-- One more jump at the end of `OUTPUT`. -/
theorem Touched.hook (touched : Touched chain jumps before after)
    {rules : List Rule} (found : after.rules outputChain = some rules) :
    Touched chain (jumps + 1) before
      (after.set outputChain (some (rules ++ [.jumpTo chain]))) := by
  constructor
  · constructor
    · intro hooked same rule member refers
      rw [NatTable.rules_set, Function.update_self] at same
      rcases Option.some.inj same with rfl
      rcases List.mem_append.mp member with old | new
      · exact touched.removable.plain rules found rule old refers
      · exact List.mem_singleton.mp new
    · intro hooked same
      rw [NatTable.rules_set, Function.update_self] at same
      rcases Option.some.inj same with rfl
      have few := touched.removable.few rules found
      rw [List.count_append, List.count_singleton_self]
      omega
    · intro name others notOutput notChain same
      rw [NatTable.rules_set, Function.update_of_ne notOutput] at same
      exact touched.removable.elsewhere name others notOutput notChain same
  · have same : unhooked chain (rules ++ [.jumpTo chain]) =
        unhooked chain rules := by
      simp [unhooked, refersTo_jumpTo]
    rw [NatTable.rules_set, Function.update_self, Option.map_some, same,
      ← touched.output, found]
    rfl
  · intro name notOutput notChain
    rw [NatTable.rules_set, Function.update_of_ne notOutput]
    exact touched.others name notOutput notChain

end Install

/-- Touched in the table of one backend, and nothing in the other. -/
structure TouchedOn (bin : Backend) (chain : ChainName) (jumps : Nat)
    (before after : NatTables) : Prop where
  touched : Touched chain jumps (before.of bin) (after.of bin)
  alone : ∀ other, other ≠ bin → after.of other = before.of other

/-- The commands that work on the rules of the chain alone. -/
def fillsOnly (bin : Backend) (chain : ChainName) (command : Command) :
    Prop :=
  command.bin = bin ∧
    match command.operation with
    | .newChain name | .list name | .flush name | .append name _ =>
        name = chain
    | .delete _ _ | .deleteChain _ => False

section Scripts

variable {bin : Backend} {chain : ChainName} {jumps : Nat}
  {before tables final : NatTables}

theorem TouchedOn.put (touched : TouchedOn bin chain jumps before tables)
    {more : Nat} {table : NatTable}
    (step : Touched chain more (before.of bin) table) :
    TouchedOn bin chain more before (tables.put table bin) where
  touched := by simpa using step
  alone other apart := by
    rw [NatTables.of_put_of_ne _ _ apart, touched.alone other apart]

theorem TouchedOn.fill (apart : chain ≠ outputChain)
    (touched : TouchedOn bin chain jumps before tables) {command : Command}
    (fills : fillsOnly bin chain command)
    (applied : command.apply tables = some final) :
    TouchedOn bin chain jumps before final := by
  rcases Command.apply_eq_some applied with ⟨table, done, rfl⟩
  rcases command with ⟨found, operation⟩
  rcases fills with ⟨same, fills⟩
  dsimp only at same fills done ⊢
  subst same
  have set (rules : Option (List Rule)) :=
    touched.touched.set_chain apart rules
  apply touched.put
  cases operation with
  | newChain name =>
      subst fills
      simp only [Operation.apply, Option.ite_none_left_eq_some,
        Option.some.injEq] at done
      rcases done with ⟨_, rfl⟩
      exact set _
  | list name =>
      simp only [Operation.apply, Option.ite_none_right_eq_some,
        Option.some.injEq] at done
      rcases done with ⟨_, rfl⟩
      exact touched.touched
  | flush name =>
      subst fills
      simp only [Operation.apply, Option.ite_none_right_eq_some,
        Option.some.injEq] at done
      rcases done with ⟨_, rfl⟩
      exact set _
  | append name rule =>
      subst fills
      simp only [Operation.apply] at done
      split at done
      · cases done
      · simp only [Option.ite_none_right_eq_some,
          Option.some.injEq] at done
        rcases done with ⟨_, rfl⟩
        exact set _
  | delete name rule => exact fills.elim
  | deleteChain name => exact fills.elim

/-- Creating the chain takes commands on that chain alone. -/
theorem fillsOnly_of_create (command : Command)
    (mentioned : (iptablesCreateChain bin chain).Mentions command) :
    fillsOnly bin chain command := by
  cases mentioned with
  | here => exact ⟨rfl, rfl⟩
  | later created mentioned =>
      cases created with
      | true => cases mentioned
      | false =>
          cases mentioned with
          | here => exact ⟨rfl, rfl⟩
          | later listed mentioned =>
              cases listed with
              | true => cases mentioned
              | false =>
                  rcases List.mem_singleton.mp
                    (mem_of_mentions_all mentioned) with rfl
                  exact ⟨rfl, rfl⟩

/-- A script that fills the chain touches nothing else. -/
theorem TouchedOn.of_outcome (apart : chain ≠ outputChain)
    {script : Fallible Command} {result : Except Command Unit}
    (outcome : Outcome Command.apply script tables result final)
    (fills : ∀ command, script.Mentions command →
      fillsOnly bin chain command)
    (touched : TouchedOn bin chain jumps before tables) :
    TouchedOn bin chain jumps before final :=
  outcome.invariant
    (fun command _ _ mentioned applied known =>
      known.fill apart (fills command mentioned) applied) touched

theorem TouchedOn.hook (touched : TouchedOn bin chain jumps before tables)
    (applied : Command.apply ⟨bin, .append outputChain (.jumpTo chain)⟩
      tables = some final) :
    TouchedOn bin chain (jumps + 1) before final := by
  rcases Command.apply_eq_some applied with ⟨table, done, rfl⟩
  apply touched.put
  simp only [Operation.apply] at done
  split at done
  · cases done
  · next rules found =>
      simp only [Option.ite_none_right_eq_some, Option.some.injEq] at done
      rcases done with ⟨_, rfl⟩
      exact touched.touched.hook found

theorem Touched.mono {fewer : Nat} {first second : NatTable}
    (touched : Touched chain fewer first second) (le : fewer ≤ jumps) :
    Touched chain jumps first second where
  removable := touched.removable.mono le
  output := touched.output
  others := touched.others

theorem TouchedOn.mono {fewer : Nat}
    (touched : TouchedOn bin chain fewer before tables)
    (le : fewer ≤ jumps) : TouchedOn bin chain jumps before tables where
  touched := touched.touched.mono le
  alone := touched.alone

/-- However far an installation gets, it adds one jump at most. -/
theorem TouchedOn.installOne (apart : chain ≠ outputChain)
    {rules : List Rule} {result : Except Command Unit}
    (outcome : Outcome Command.apply (installOne bin chain rules) tables
      result final)
    (touched : TouchedOn bin chain jumps before tables) :
    TouchedOn bin chain (jumps + 1) before final := by
  have more : jumps ≤ jumps + 1 := Nat.le_succ jumps
  rcases outcome.of_andThen with
    ⟨command, failed⟩ | ⟨middle, created, filled⟩
  · exact (TouchedOn.of_outcome apart failed fillsOnly_of_create
      touched).mono more
  have fresh := TouchedOn.of_outcome apart created fillsOnly_of_create
    touched
  rw [fillChain, all_append] at filled
  have fills : ∀ command, (all (⟨bin, .flush chain⟩ ::
      rules.map fun rule => ⟨bin, .append chain rule⟩)).Mentions command →
        fillsOnly bin chain command := by
    intro command mentioned
    rcases List.mem_cons.mp (mem_of_mentions_all mentioned) with
      rfl | appended
    · exact ⟨rfl, rfl⟩
    · rcases List.mem_map.mp appended with ⟨rule, _, rfl⟩
      exact ⟨rfl, rfl⟩
  rcases filled.of_andThen with
    ⟨command, failed⟩ | ⟨full, appended, hooked⟩
  · exact (TouchedOn.of_outcome apart failed fills fresh).mono more
  have known := TouchedOn.of_outcome apart appended fills fresh
  cases hooked with
  | succeeded applied rest =>
      rcases rest.of_finished with ⟨_, rfl⟩
      exact known.hook applied
  | failed rest =>
      rcases rest.of_finished with ⟨_, rfl⟩
      exact known.mono more

end Scripts

/-! ## The commands of a removal -/

theorem unhooked_erase (chain : ChainName) (rules : List Rule) :
    unhooked chain (rules.erase (.jumpTo chain)) = unhooked chain rules := by
  induction rules with
  | nil => rfl
  | cons rule rest induction =>
      by_cases same : rule = .jumpTo chain
      · subst same
        simp [unhooked, refersTo_jumpTo]
      · have apart : ¬ (rule == Rule.jumpTo chain) = true := by
          simpa using same
        rw [List.erase_cons_tail apart]
        simp only [unhooked, List.filter_cons] at induction ⊢
        rw [induction]

/-- Without a plain jump there is nothing to unhook. -/
theorem unhooked_eq_self {chain : ChainName} {rules : List Rule}
    (plain : ∀ rule ∈ rules, rule.refersTo chain = true →
      rule = .jumpTo chain)
    (absent : .jumpTo chain ∉ rules) : unhooked chain rules = rules := by
  rw [unhooked, List.filter_eq_self]
  intro rule member
  rw [Bool.not_eq_true', Bool.eq_false_iff]
  intro refers
  exact absent (plain rule member refers ▸ member)

/-- The jumps from `OUTPUT` are gone, and everything else is as before. -/
structure Drained (chain : ChainName) (before after : NatTable) : Prop where
  output : after.rules outputChain =
    (before.rules outputChain).map (unhooked chain)
  others : ∀ name, name ≠ outputChain →
    after.rules name = before.rules name

section Remove

variable {bin : Backend} {chain : ChainName} {tables : NatTables}

/-- Without a jump there is nothing to drain. -/
theorem Drained.refl {table : NatTable} {jumps : Nat}
    (removable : Removable chain jumps table)
    (absent : ∀ rules, table.rules outputChain = some rules →
      .jumpTo chain ∉ rules) : Drained chain table table where
  output := by
    cases found : table.rules outputChain with
    | none => rfl
    | some rules =>
        rw [Option.map_some, unhooked_eq_self
          (removable.plain rules found) (absent rules found)]
  others _ _ := rfl

/-- Without a jump the loop ends at once. -/
theorem eval_drainJumps_absent {rest : Script Command Unit} (jumps : Nat)
    (absent : ∀ rules, (tables.of bin).rules outputChain = some rules →
      .jumpTo chain ∉ rules) :
    (drainJumps bin chain rest jumps).eval Command.apply tables =
      rest.eval Command.apply tables := by
  have fails : Command.apply ⟨bin, .delete outputChain (.jumpTo chain)⟩
      tables = none := by
    rw [Command.apply, Option.map_eq_none_iff, Operation.apply]
    split
    · rfl
    · next rules found => rw [if_neg (absent rules found)]
  cases jumps with
  | zero => rfl
  | succ jumps =>
      rw [drainJumps, eval, fails]
      rfl

/-- `OUTPUT` with one jump less. -/
def unhookOne (chain : ChainName) (table : NatTable)
    (rules : List Rule) : NatTable :=
  table.set outputChain (some (rules.erase (.jumpTo chain)))

theorem eval_drainJumps_present {rest : Script Command Unit} (jumps : Nat)
    {rules : List Rule}
    (found : (tables.of bin).rules outputChain = some rules)
    (member : .jumpTo chain ∈ rules) :
    (drainJumps bin chain rest (jumps + 1)).eval Command.apply tables =
      (drainJumps bin chain rest jumps).eval Command.apply
        (tables.put (unhookOne chain (tables.of bin) rules) bin) := by
  have deletes : Command.apply ⟨bin, .delete outputChain (.jumpTo chain)⟩
      tables = some
        (tables.put (unhookOne chain (tables.of bin) rules) bin) := by
    rw [Command.apply, Operation.apply, found]
    dsimp only
    rw [if_pos member]
    rfl
  rw [drainJumps, eval, deletes]
  rfl

theorem Removable.unhookOne {table : NatTable} {jumps : Nat}
    (removable : Removable chain (jumps + 1) table) {rules : List Rule}
    (found : table.rules outputChain = some rules) :
    Removable chain jumps (unhookOne chain table rules) := by
  constructor
  · intro left same rule member refers
    rw [Firewall.unhookOne, NatTable.rules_set, Function.update_self] at same
    rcases Option.some.inj same with rfl
    exact removable.plain rules found rule (List.mem_of_mem_erase member)
      refers
  · intro left same
    rw [Firewall.unhookOne, NatTable.rules_set, Function.update_self] at same
    rcases Option.some.inj same with rfl
    have few := removable.few rules found
    rw [List.count_erase_self]
    omega
  · intro name others notOutput notChain same
    rw [Firewall.unhookOne, NatTable.rules_set,
      Function.update_of_ne notOutput] at same
    exact removable.elsewhere name others notOutput notChain same

theorem Drained.of_unhookOne {table drained : NatTable} {rules : List Rule}
    (found : table.rules outputChain = some rules)
    (later : Drained chain (unhookOne chain table rules) drained) :
    Drained chain table drained := by
  constructor
  · rw [later.output, unhookOne, NatTable.rules_set, Function.update_self,
      Option.map_some, unhooked_erase, found]
    rfl
  · intro name apart
    rw [later.others name apart, unhookOne, NatTable.rules_set,
      Function.update_of_ne apart]

/--
The loop drains all jumps if it may take enough of them.  The induction is on
the number it may take.
-/
theorem eval_drainJumps (rest : Script Command Unit) {jumps : Nat}
    (removable : Removable chain jumps (tables.of bin)) :
    ∃ drained : NatTables,
      (drainJumps bin chain rest jumps).eval Command.apply tables =
        rest.eval Command.apply drained ∧
      Drained chain (tables.of bin) (drained.of bin) ∧
      ∀ other, other ≠ bin → drained.of other = tables.of other := by
  induction jumps generalizing tables with
  | zero =>
      have absent : ∀ rules, (tables.of bin).rules outputChain =
          some rules → .jumpTo chain ∉ rules := by
        intro rules found member
        have few := removable.few rules found
        have some := List.count_pos_iff.mpr member
        omega
      exact ⟨tables, rfl, .refl removable absent, fun _ _ => rfl⟩
  | succ jumps induction =>
      by_cases hooked : ∃ rules,
          (tables.of bin).rules outputChain = some rules ∧
            Rule.jumpTo chain ∈ rules
      · rcases hooked with ⟨rules, found, member⟩
        have fewer := removable.unhookOne found
        rw [← NatTables.of_put tables (unhookOne chain _ rules) bin] at fewer
        rcases induction fewer with ⟨drained, same, later, alone⟩
        refine ⟨drained, ?_, ?_, ?_⟩
        · rw [eval_drainJumps_present jumps found member, same]
        · rw [NatTables.of_put] at later
          exact later.of_unhookOne found
        · intro other apart
          rw [alone other apart, NatTables.of_put_of_ne _ _ apart]
      · have absent : ∀ rules, (tables.of bin).rules outputChain =
            some rules → .jumpTo chain ∉ rules :=
          fun rules found member => hooked ⟨rules, found, member⟩
        exact ⟨tables, eval_drainJumps_absent _ absent,
          .refl removable absent, fun _ _ => rfl⟩

/-- A chain that is not there is not dropped. -/
theorem eval_dropChain_absent
    (gone : (tables.of bin).rules chain = none) :
    (dropChain bin chain).eval Command.apply tables = ((), tables) := by
  have noFlush : Command.apply ⟨bin, .flush chain⟩ tables = none := by
    simp [Command.apply, Operation.apply, NatTable.has, gone]
  have noDelete : Command.apply ⟨bin, .deleteChain chain⟩ tables = none := by
    simp [Command.apply, Operation.apply, gone]
  rw [dropChain, eval, noFlush]
  dsimp only
  rw [eval, noDelete]
  dsimp only
  rw [if_neg (by decide), eval, noDelete]
  rfl

/-- A chain that nothing else refers to is flushed and deleted. -/
theorem eval_dropChain_present {rules : List Rule}
    (there : (tables.of bin).rules chain = some rules)
    (unreferenced : ∀ name others, name ≠ chain →
      (tables.of bin).rules name = some others →
        ∀ rule ∈ others, rule.refersTo chain = false) :
    (dropChain bin chain).eval Command.apply tables =
      ((), (tables.put ((tables.of bin).set chain (some [])) bin).put
        (((tables.of bin).set chain (some [])).set chain none) bin) := by
  have flushes : Command.apply ⟨bin, .flush chain⟩ tables =
      some (tables.put ((tables.of bin).set chain (some [])) bin) := by
    simp [Command.apply, Operation.apply, NatTable.has, there]
  have free : ((tables.of bin).set chain (some [])).referenced chain =
      false := by
    rw [Bool.eq_false_iff, ne_eq, NatTable.referenced_eq_true]
    rintro ⟨name, others, rule, found, member, refers⟩
    by_cases same : name = chain
    · subst same
      rw [NatTable.rules_set, Function.update_self] at found
      rcases Option.some.inj found with rfl
      cases member
    · rw [NatTable.rules_set, Function.update_of_ne same] at found
      rw [unreferenced name others same found rule member] at refers
      cases refers
  have deletes : Command.apply ⟨bin, .deleteChain chain⟩
      (tables.put ((tables.of bin).set chain (some [])) bin) =
      some ((tables.put ((tables.of bin).set chain (some [])) bin).put
        (((tables.of bin).set chain (some [])).set chain none) bin) := by
    rw [Command.apply, NatTables.of_put, Operation.apply,
      if_pos ⟨by simp, by simp [free]⟩]
    rfl
  rw [dropChain, eval, flushes]
  dsimp only
  rw [eval, deletes]
  rfl

/-- One backend is restored, and the other left alone. -/
theorem eval_removeOne (apart : chain ≠ outputChain)
    (removable : Removable chain (maxDrained + 1) (tables.of bin)) :
    Restored chain (tables.of bin)
        (((removeOne bin chain).eval Command.apply tables).2.of bin) ∧
      ∀ other, other ≠ bin →
        ((removeOne bin chain).eval Command.apply tables).2.of other =
          tables.of other := by
  rcases eval_drainJumps (dropChain bin chain) removable with
    ⟨drained, same, unhooks, alone⟩
  rw [removeOne, same]
  cases there : (drained.of bin).rules chain with
  | none =>
      rw [eval_dropChain_absent there]
      exact ⟨⟨there, unhooks.output,
        fun name notOutput _ => unhooks.others name notOutput⟩, alone⟩
  | some rules =>
      have unreferenced : ∀ name others, name ≠ chain →
          (drained.of bin).rules name = some others →
            ∀ rule ∈ others, rule.refersTo chain = false := by
        intro name others notChain found rule member
        by_cases isOutput : name = outputChain
        · subst isOutput
          rw [unhooks.output] at found
          rcases Option.map_eq_some_iff.mp found with ⟨before, _, rfl⟩
          simpa [unhooked] using (List.mem_filter.mp member).2
        · rw [unhooks.others name isOutput] at found
          exact removable.elsewhere name others isOutput notChain found
            rule member
      rw [eval_dropChain_present there unreferenced]
      refine ⟨⟨?_, ?_, ?_⟩, ?_⟩
      · simp
      · simp [Function.update_of_ne apart.symm, unhooks.output]
      · intro name notOutput notChain
        simp [Function.update_of_ne notChain, unhooks.others name notOutput]
      · intro other notBin
        rw [NatTables.of_put_of_ne _ _ notBin,
          NatTables.of_put_of_ne _ _ notBin, alone other notBin]

/-- Where the chain and its jumps are gone, a removal changes nothing. -/
theorem eval_removeOne_idle (gone : (tables.of bin).rules chain = none)
    (absent : ∀ rules, (tables.of bin).rules outputChain = some rules →
      .jumpTo chain ∉ rules) :
    (removeOne bin chain).eval Command.apply tables = ((), tables) := by
  rw [removeOne, eval_drainJumps_absent _ absent, eval_dropChain_absent gone]

end Remove

/-! ## Installation and removal -/

section Restore

variable {chain : ChainName} {tables : NatTables}

theorem Restored.of_touched {jumps : Nat} {before middle after : NatTable}
    (touched : Touched chain jumps before middle)
    (restored : Restored chain middle after) :
    Restored chain before after where
  gone := restored.gone
  output := restored.output.trans touched.output
  others name notOutput notChain :=
    (restored.others name notOutput notChain).trans
      (touched.others name notOutput notChain)

theorem Restored.jumpTo_notMem {before after : NatTable}
    (restored : Restored chain before after) {rules : List Rule}
    (found : after.rules outputChain = some rules) :
    .jumpTo chain ∉ rules := by
  intro member
  rw [restored.output] at found
  rcases Option.map_eq_some_iff.mp found with ⟨others, _, rfl⟩
  have kept := (List.mem_filter.mp member).2
  rw [refersTo_jumpTo] at kept
  cases kept

/-- However far `install` gets, each table is touched as allowed. -/
theorem touched_of_install (apart : chain ≠ outputChain)
    (stale : ∀ bin, Removable chain maxDrained (tables.of bin))
    {tcpPort dnsPort : UInt16} {subnetsV4 subnetsV6 : List Text}
    {dns : Bool} {nameservers : List Text} {result : Except Command Unit}
    {installed : NatTables}
    (outcome : Outcome Command.apply
      (install chain tcpPort dnsPort subnetsV4 subnetsV6 dns nameservers)
      tables result installed) :
    (∀ bin, Touched chain (maxDrained + 1) (tables.of bin)
        (installed.of bin)) ∧
      (subnetsV6 = [] → installed.v6 = tables.v6) := by
  have start (bin : Backend) :
      TouchedOn bin chain maxDrained tables tables :=
    ⟨.refl (stale bin), fun _ _ => rfl⟩
  have untouched (bin : Backend) : Touched chain (maxDrained + 1)
      (tables.of bin) (tables.of bin) :=
    (Touched.refl (stale bin)).mono (Nat.le_succ _)
  have v4Only {final : NatTables}
      (touched : TouchedOn .iptables chain (maxDrained + 1) tables final) :
      ∀ bin, Touched chain (maxDrained + 1) (tables.of bin)
        (final.of bin) := by
    intro bin
    cases bin with
    | iptables => exact touched.touched
    | ip6tables =>
        rw [touched.alone .ip6tables (by decide)]
        exact untouched .ip6tables
  rcases outcome.of_andThen with
    ⟨command, failed⟩ | ⟨middle, installedV4, rest⟩
  · have touched := TouchedOn.installOne apart failed (start .iptables)
    exact ⟨v4Only touched, fun _ => touched.alone .ip6tables (by decide)⟩
  have touched := TouchedOn.installOne apart installedV4 (start .iptables)
  split at rest
  · rcases rest.of_finished with ⟨_, rfl⟩
    exact ⟨v4Only touched, fun _ => touched.alone .ip6tables (by decide)⟩
  · next hasV6 =>
      have middleV6 : TouchedOn .ip6tables chain maxDrained middle middle := by
        refine ⟨.refl ?_, fun _ _ => rfl⟩
        rw [touched.alone .ip6tables (by decide)]
        exact stale .ip6tables
      have second := TouchedOn.installOne apart rest middleV6
      refine ⟨fun bin => ?_, fun none => (hasV6 none).elim⟩
      cases bin with
      | iptables =>
          rw [second.alone .iptables (by decide)]
          exact touched.touched
      | ip6tables =>
          rw [← touched.alone .ip6tables (by decide)]
          exact second.touched

/-- What a removal makes of tables in which it can drain all jumps. -/
theorem eval_remove (apart : chain ≠ outputChain)
    (removable : ∀ bin, Removable chain (maxDrained + 1) (tables.of bin))
    (hasV6 : Bool) :
    (∀ bin, bin = .iptables ∨ hasV6 = true →
      Restored chain (tables.of bin)
        (((remove chain hasV6).eval Command.apply tables).2.of bin)) ∧
      (hasV6 = false →
        ((remove chain hasV6).eval Command.apply tables).2.v6 =
          tables.v6) := by
  rcases eval_removeOne apart (removable .iptables) with ⟨first, alone⟩
  rw [remove, eval_bind]
  cases hasV6 with
  | false =>
      refine ⟨fun bin asked => ?_, fun _ => alone .ip6tables (by decide)⟩
      rcases asked with rfl | never
      · exact first
      · cases never
  | true =>
      have removableV6 := removable .ip6tables
      rw [← alone .ip6tables (by decide)] at removableV6
      rcases eval_removeOne apart removableV6 with ⟨second, aloneV6⟩
      refine ⟨fun bin _ => ?_, fun never => by cases never⟩
      cases bin with
      | iptables =>
          rw [if_pos rfl, aloneV6 .iptables (by decide)]
          exact first
      | ip6tables =>
          rw [← alone .ip6tables (by decide)]
          exact second

/-- A second removal finds nothing. -/
theorem eval_remove_idle {hasV6 : Bool}
    (restored : ∀ bin, bin = .iptables ∨ hasV6 = true →
      ∃ before, Restored chain before (tables.of bin)) :
    (remove chain hasV6).eval Command.apply tables = ((), tables) := by
  have idle (bin : Backend) (asked : bin = .iptables ∨ hasV6 = true) :
      (removeOne bin chain).eval Command.apply tables = ((), tables) := by
    rcases restored bin asked with ⟨before, known⟩
    exact eval_removeOne_idle known.gone fun rules => known.jumpTo_notMem
  rw [remove, eval_bind, idle .iptables (.inl rfl)]
  cases hasV6 with
  | false => rfl
  | true => exact idle .ip6tables (.inr rfl)

/--
Whatever an earlier run left in the tables, up to sixteen jumps, and however
far `install` gets, `remove` restores every table that `install` works on, and
a second `remove` changes nothing.
-/
theorem remove_restores (apart : chain ≠ outputChain)
    (stale : ∀ bin, Removable chain maxDrained (tables.of bin))
    (tcpPort dnsPort : UInt16) (subnetsV4 subnetsV6 : List Text)
    (dns : Bool) (nameservers : List Text) {result : Except Command Unit}
    {installed : NatTables}
    (outcome : Outcome Command.apply
      (install chain tcpPort dnsPort subnetsV4 subnetsV6 dns nameservers)
      tables result installed) :
    let hasV6 := !subnetsV6.isEmpty
    let removed := ((remove chain hasV6).eval Command.apply installed).2
    (∀ bin, bin = .iptables ∨ hasV6 = true →
      Restored chain (tables.of bin) (removed.of bin)) ∧
      (hasV6 = false → removed.v6 = tables.v6) ∧
      (remove chain hasV6).eval Command.apply removed = ((), removed) := by
  intro hasV6 removed
  rcases touched_of_install apart stale outcome with ⟨touched, noV6⟩
  rcases eval_remove apart (fun bin => (touched bin).removable) hasV6 with
    ⟨restored, alone⟩
  refine ⟨?_, ?_, ?_⟩
  · exact fun bin asked => (restored bin asked).of_touched (touched bin)
  · intro without
    have empty : subnetsV6 = [] := by simpa [hasV6] using without
    exact (alone without).trans (noV6 empty)
  · exact eval_remove_idle fun bin asked => ⟨_, restored bin asked⟩

end Restore

/-! ## A table that an earlier run has left -/

/-- The chain of one process. -/
def someChain : ChainName := "RUSHTLE_4711".toList

/-- The start of a foreign rule in `OUTPUT`. -/
def dockerRule : Rule :=
  { Rule.always (.jump "DOCKER".toList) with dstLocal := true }

/-- A stale chain with two jumps to it, around a foreign rule. -/
def staleTable : NatTable :=
  (NatTable.empty.set outputChain
    (some [.jumpTo someChain, dockerRule, .jumpTo someChain])).set someChain
      (some [localRule])

/-- Both tables have a stale chain. -/
def staleTables : NatTables := ⟨staleTable, staleTable⟩

theorem removable_staleTable : Removable someChain maxDrained staleTable := by
  have output : staleTable.rules outputChain =
      some [.jumpTo someChain, dockerRule, .jumpTo someChain] := by decide
  constructor
  · intro rules found rule member refers
    rcases Option.some.inj (output.symm.trans found) with rfl
    simp only [List.mem_cons, List.not_mem_nil, or_false] at member
    rcases member with rfl | rfl | rfl
    · rfl
    · exact absurd refers (by decide)
    · rfl
  · intro rules found
    rcases Option.some.inj (output.symm.trans found) with rfl
    decide
  · intro name rules notOutput notChain found
    rw [staleTable, NatTable.rules_set, Function.update_of_ne notChain,
      NatTable.rules_set, Function.update_of_ne notOutput] at found
    cases found

/-- Two stale jumps and one of the new installation are removed. -/
theorem remove_restores_staleTables :
    let installed := ((install someChain 12300 12353 ["10.0.0.0/8".toList]
      ["fd00::/8".toList] true []).eval Command.apply staleTables).2
    let removed := ((remove someChain true).eval Command.apply installed).2
    removed.v6.rules someChain = none ∧
      removed.v6.rules outputChain = some [dockerRule] := by
  have apart : someChain ≠ outputChain := by decide
  have stale : ∀ bin, Removable someChain maxDrained (staleTables.of bin) := by
    intro bin
    cases bin <;> exact removable_staleTable
  have restored := (remove_restores apart stale 12300 12353
    ["10.0.0.0/8".toList] ["fd00::/8".toList] true []
    (outcome_eval _ staleTables)).1 .ip6tables (.inr rfl)
  refine ⟨restored.gone, restored.output.trans ?_⟩
  decide

end KubectlSshuttle.Rushtle.Firewall
