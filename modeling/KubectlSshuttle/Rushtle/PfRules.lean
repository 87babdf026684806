import Mathlib.Data.List.Perm.Basic
import KubectlSshuttle.Lib.RustText

/-!
# The rule text for pf

On macOS, `install` writes its rules into one text and feeds that to `pfctl`.
pf reads a rule set in a fixed order: every translation rule has to stand in
front of every filter rule.
-/

namespace KubectlSshuttle.Rushtle.PfFirewall

open KubectlSshuttle.Lib.RustText

/-! ## The text -/

/-- The two address families of pf. -/
inductive Family where
  | inet
  | inet6
deriving DecidableEq, Repr

/-- The family as a rule names it. -/
def Family.text : Family → Text
  | .inet => "inet".toList
  | .inet6 => "inet6".toList

/-- Where connections of a family are redirected to. -/
def Family.listener : Family → Text
  | .inet => "127.0.0.1".toList
  | .inet6 => "::1".toList

/-- The translation rule for a subnet. -/
def rdrTcp (family : Family) (tcpPort : UInt16) (cidr : Text) : Text :=
  "rdr pass on lo0 ".toList ++ family.text ++
    " proto tcp from any to ".toList ++ cidr ++ " -> ".toList ++
    family.listener ++ " port ".toList ++ decimal tcpPort.toNat

/-- The filter rule for a subnet. -/
def passOut (family : Family) (cidr : Text) : Text :=
  "pass out route-to lo0 ".toList ++ family.text ++
    " proto tcp from any to ".toList ++ cidr ++ " keep state".toList

/-- The translation rule for UDP port 53. -/
def rdrUdp (dnsPort : UInt16) : Text :=
  "rdr pass on lo0 inet proto udp from any to any port 53 -> ".toList ++
    "127.0.0.1 port ".toList ++ decimal dnsPort.toNat

/-- One turn of the loop over the subnets of a family. -/
def subnetRules (family : Family) (tcpPort : UInt16) (cidr : Text) :
    List Text :=
  [rdrTcp family tcpPort cidr, passOut family cidr]

/-- The lines that `install` pushes, in their order. -/
def ruleLines (tcpPort dnsPort : UInt16) (subnetsV4 subnetsV6 : List Text)
    (dns : Bool) : List Text :=
  subnetsV4.flatMap (subnetRules .inet tcpPort) ++
    (if dns then [rdrUdp dnsPort] else []) ++
    subnetsV6.flatMap (subnetRules .inet6 tcpPort)

/-- The rule text; every line is pushed with its line feed. -/
def ruleText (tcpPort dnsPort : UInt16) (subnetsV4 subnetsV6 : List Text)
    (dns : Bool) : Text :=
  (ruleLines tcpPort dnsPort subnetsV4 subnetsV6 dns).flatMap (· ++ ['\n'])

/-! ## What the text should be -/

/-- A translation rule. -/
def IsRdr (line : Text) : Prop := "rdr ".toList <+: line

/-- A filter rule. -/
def IsPass (line : Text) : Prop := "pass ".toList <+: line

/-- No filter rule stands in front of a translation rule. -/
def Ordered (rules : List Text) : Prop :=
  rules.Pairwise fun earlier later => IsRdr later → ¬ IsPass earlier

/-- The rules that are asked for, the translation rules first. -/
def wantedRules (tcpPort dnsPort : UInt16)
    (subnetsV4 subnetsV6 : List Text) (dns : Bool) : List Text :=
  subnetsV4.map (rdrTcp .inet tcpPort) ++
    subnetsV6.map (rdrTcp .inet6 tcpPort) ++
    (if dns then [rdrUdp dnsPort] else []) ++
    subnetsV4.map (passOut .inet) ++ subnetsV6.map (passOut .inet6)

/-- The text has each rule that is asked for once, in pf's order. -/
structure WellOrdered (tcpPort dnsPort : UInt16)
    (subnetsV4 subnetsV6 : List Text) (dns : Bool) (text : Text) : Prop where
  ordered : Ordered (lines text)
  complete : (lines text).Perm
    (wantedRules tcpPort dnsPort subnetsV4 subnetsV6 dns)

/-! ## The lines of the text -/

section Text

variable {family : Family} {tcpPort dnsPort : UInt16} {cidr : Text}
  {subnetsV4 subnetsV6 : List Text} {dns : Bool}

theorem isRdr_rdrTcp : IsRdr (rdrTcp family tcpPort cidr) := by
  have starts : "rdr ".toList <+: "rdr pass on lo0 ".toList := by decide
  unfold IsRdr rdrTcp
  simp only [List.append_assoc]
  exact starts.trans (List.prefix_append _ _)

theorem isRdr_rdrUdp : IsRdr (rdrUdp dnsPort) := by
  have starts : "rdr ".toList <+:
      "rdr pass on lo0 inet proto udp from any to any port 53 -> ".toList :=
    by decide
  unfold IsRdr rdrUdp
  simp only [List.append_assoc]
  exact starts.trans (List.prefix_append _ _)

theorem isPass_passOut : IsPass (passOut family cidr) := by
  have starts : "pass ".toList <+: "pass out route-to lo0 ".toList := by
    decide
  unfold IsPass passOut
  simp only [List.append_assoc]
  exact starts.trans (List.prefix_append _ _)

/-- No rule is of both kinds. -/
theorem IsRdr.not_isPass {line : Text} (rdr : IsRdr line) :
    ¬ IsPass line := by
  intro pass
  rcases rdr with ⟨_, rfl⟩
  rcases pass with ⟨_, same⟩
  have first := congrArg List.head? same
  simp at first

theorem mem_ruleLines {line : Text} :
    line ∈ ruleLines tcpPort dnsPort subnetsV4 subnetsV6 dns ↔
      (∃ cidr ∈ subnetsV4, line ∈ subnetRules .inet tcpPort cidr) ∨
        (dns = true ∧ line = rdrUdp dnsPort) ∨
          ∃ cidr ∈ subnetsV6, line ∈ subnetRules .inet6 tcpPort cidr := by
  cases dns <;> simp [ruleLines]

/-- A line that ends with a number. -/
theorem getLast?_append_decimal (front : Text) (number : Nat) :
    (front ++ decimal number).getLast? ≠ some '\r' := by
  rcases decimal_eq_concat number with ⟨initial, last, whole, digit⟩
  rw [whole, ← List.append_assoc, List.getLast?_concat]
  intro same
  rw [Option.some.inj same] at digit
  exact absurd digit (by decide)

theorem newline_notMem_decimal (number : Nat) : '\n' ∉ decimal number := by
  intro member
  exact absurd (isDigit_of_mem_decimal member) (by decide)

theorem getLast?_passOut :
    (passOut family cidr).getLast? ≠ some '\r' := by
  have ends : " keep state".toList.getLast? = some 'e' := by decide
  unfold passOut
  rw [List.getLast?_append, ends, Option.some_or]
  decide

theorem newline_notMem_subnetRules (oneLine : '\n' ∉ cidr) {line : Text}
    (member : line ∈ subnetRules family tcpPort cidr) : '\n' ∉ line := by
  have name : '\n' ∉ family.text := by cases family <;> decide
  have listener : '\n' ∉ family.listener := by cases family <;> decide
  have port := newline_notMem_decimal tcpPort.toNat
  rcases List.mem_pair.mp member with rfl | rfl
  · unfold rdrTcp
    simp only [List.mem_append, not_or]
    exact ⟨⟨⟨⟨⟨⟨⟨by decide, name⟩, by decide⟩, oneLine⟩, by decide⟩,
      listener⟩, by decide⟩, port⟩
  · unfold passOut
    simp only [List.mem_append, not_or]
    exact ⟨⟨⟨⟨by decide, name⟩, by decide⟩, oneLine⟩, by decide⟩

/-- pf reads back the lines that were pushed. -/
theorem lines_ruleText
    (oneLine : ∀ cidr ∈ subnetsV4 ++ subnetsV6, '\n' ∉ cidr) :
    lines (ruleText tcpPort dnsPort subnetsV4 subnetsV6 dns) =
      ruleLines tcpPort dnsPort subnetsV4 subnetsV6 dns := by
  rw [ruleText, lines_flatMap]
  · intro line member
    rcases mem_ruleLines.mp member with
      ⟨cidr, given, pushed⟩ | ⟨_, rfl⟩ | ⟨cidr, given, pushed⟩
    · exact newline_notMem_subnetRules
        (oneLine cidr (List.mem_append_left _ given)) pushed
    · unfold rdrUdp
      simp only [List.mem_append, not_or]
      exact ⟨⟨by decide, by decide⟩, newline_notMem_decimal _⟩
    · exact newline_notMem_subnetRules
        (oneLine cidr (List.mem_append_right _ given)) pushed
  · have plain {family : Family} {cidr line : Text}
        (pushed : line ∈ subnetRules family tcpPort cidr) :
        line.getLast? ≠ some '\r' := by
      rcases List.mem_pair.mp pushed with rfl | rfl
      · exact getLast?_append_decimal _ _
      · exact getLast?_passOut
    intro line member
    rcases mem_ruleLines.mp member with
      ⟨cidr, _, pushed⟩ | ⟨_, rfl⟩ | ⟨cidr, _, pushed⟩
    · exact plain pushed
    · exact getLast?_append_decimal _ _
    · exact plain pushed

/-! ## Which rules there are -/

theorem flatMap_subnetRules_perm (family : Family) (tcpPort : UInt16)
    (subnets : List Text) :
    (subnets.flatMap (subnetRules family tcpPort)).Perm
      (subnets.map (rdrTcp family tcpPort) ++
        subnets.map (passOut family)) := by
  rw [List.map_eq_flatMap, List.map_eq_flatMap]
  exact (List.flatMap_append_perm subnets
    (fun cidr => [rdrTcp family tcpPort cidr])
    fun cidr => [passOut family cidr]).symm

/-- Each rule that is asked for is pushed once. -/
theorem ruleLines_perm (tcpPort dnsPort : UInt16)
    (subnetsV4 subnetsV6 : List Text) (dns : Bool) :
    (ruleLines tcpPort dnsPort subnetsV4 subnetsV6 dns).Perm
      (wantedRules tcpPort dnsPort subnetsV4 subnetsV6 dns) := by
  rw [List.perm_iff_count]
  intro rule
  have first := (flatMap_subnetRules_perm .inet tcpPort subnetsV4).count_eq
    rule
  have second := (flatMap_subnetRules_perm .inet6 tcpPort
    subnetsV6).count_eq rule
  simp only [ruleLines, wantedRules, List.count_append] at first second ⊢
  omega

/-! ## In which order they are -/

/-- Behind a filter rule there is no translation rule. -/
theorem Ordered.not_isRdr {front rest : List Text} {pass line : Text}
    (ordered : Ordered (front ++ pass :: rest)) (isPass : IsPass pass)
    (member : line ∈ rest) : ¬ IsRdr line := by
  intro isRdr
  have tail := (List.pairwise_append.mp ordered).2.1
  exact (List.pairwise_cons.mp tail).1 line member isRdr isPass

variable (family) in
/-- Behind the rules of one subnet there are none for another. -/
theorem Ordered.last_subnet (front : List Text) {rest : List Text}
    (ordered : Ordered (front ++ subnetRules family tcpPort cidr ++ rest))
    (other : Family) {subnets : List Text}
    (within : ∀ line ∈ subnets.flatMap (subnetRules other tcpPort),
      line ∈ rest) : subnets = [] := by
  cases subnets with
  | nil => rfl
  | cons next others =>
      have shape : front ++ subnetRules family tcpPort cidr ++ rest =
          (front ++ [rdrTcp family tcpPort cidr]) ++
            passOut family cidr :: rest := by
        simp [subnetRules]
      rw [shape] at ordered
      have member := within (rdrTcp other tcpPort next)
        (by simp [subnetRules])
      exact (ordered.not_isRdr isPass_passOut member isRdr_rdrTcp).elim

/-- The rules of one subnet are in order, whatever translates before. -/
theorem ordered_subnetRules (family : Family) (tcpPort : UInt16)
    (cidr : Text) {front : List Text} (rdrs : ∀ line ∈ front, IsRdr line) :
    Ordered (front ++ subnetRules family tcpPort cidr) := by
  have noPass (line : Text) (member : line ∈ front) : ¬ IsPass line :=
    (rdrs line member).not_isPass
  refine List.pairwise_append.mpr ⟨?_, ?_, ?_⟩
  · exact List.pairwise_of_forall_mem_list
      fun line member _ _ _ => noPass line member
  · have first : ¬ IsPass (rdrTcp family tcpPort cidr) :=
      isRdr_rdrTcp.not_isPass
    simp [subnetRules, first]
  · exact fun line member _ _ _ => noPass line member

/-- A second subnet, or a query rule behind one, breaks the order. -/
theorem Ordered.few_subnets
    (ordered : Ordered (ruleLines tcpPort dnsPort subnetsV4 subnetsV6 dns)) :
    subnetsV4.length + subnetsV6.length ≤ 1 ∧
      (dns = true → subnetsV4 = []) := by
  cases subnetsV4 with
  | nil =>
      refine ⟨?_, fun _ => rfl⟩
      cases subnetsV6 with
      | nil => simp
      | cons cidr others =>
          rw [ruleLines, List.flatMap_nil, List.nil_append,
            List.flatMap_cons, ← List.append_assoc] at ordered
          have rest : others = [] :=
            ordered.last_subnet .inet6 _ .inet6 fun _ member => member
          simp [rest]
  | cons cidr others =>
      have shape : ruleLines tcpPort dnsPort (cidr :: others) subnetsV6
          dns = [] ++ subnetRules .inet tcpPort cidr ++
            ruleLines tcpPort dnsPort others subnetsV6 dns := by
        simp [ruleLines]
      rw [shape] at ordered
      have firstRest : others = [] := by
        refine ordered.last_subnet .inet _ .inet ?_
        intro line member
        exact List.mem_append_left _ (List.mem_append_left _ member)
      have secondRest : subnetsV6 = [] := by
        refine ordered.last_subnet .inet _ .inet6 ?_
        exact fun line member => List.mem_append_right _ member
      refine ⟨by simp [firstRest, secondRest], fun asked => ?_⟩
      have behind : rdrUdp dnsPort ∈
          ruleLines tcpPort dnsPort others subnetsV6 dns :=
        mem_ruleLines.mpr (.inr (.inl ⟨asked, rfl⟩))
      have pass : Ordered ([rdrTcp .inet tcpPort cidr] ++
          passOut .inet cidr ::
            ruleLines tcpPort dnsPort others subnetsV6 dns) := ordered
      exact (pass.not_isRdr isPass_passOut behind isRdr_rdrUdp).elim

theorem ordered_of_few_subnets
    (few : subnetsV4.length + subnetsV6.length ≤ 1)
    (alone : dns = true → subnetsV4 = []) :
    Ordered (ruleLines tcpPort dnsPort subnetsV4 subnetsV6 dns) := by
  cases subnetsV4 with
  | nil =>
      have rdrs : ∀ line ∈ if dns then [rdrUdp dnsPort] else [],
          IsRdr line := by
        cases dns <;> simp [isRdr_rdrUdp]
      cases subnetsV6 with
      | nil =>
          cases dns <;> simp [ruleLines, Ordered]
      | cons cidr others =>
          have none : others = [] := List.length_eq_zero_iff.mp
            (by simpa using few)
          subst none
          simpa [ruleLines] using
            ordered_subnetRules .inet6 tcpPort cidr rdrs
  | cons cidr others =>
      have off : dns = false := by
        rw [Bool.eq_false_iff]
        exact fun asked => List.cons_ne_nil _ _ (alone asked)
      rw [List.length_cons] at few
      have first : others = [] := List.length_eq_zero_iff.mp (by omega)
      have second : subnetsV6 = [] :=
        List.length_eq_zero_iff.mp (by omega)
      have single := ordered_subnetRules .inet tcpPort cidr
        (List.forall_mem_nil _)
      simpa [ruleLines, off, first, second] using single

/--
The rules are in order exactly if they are for one subnet at most, and for
none of IPv4 beside the rule for UDP port 53.
-/
theorem ordered_ruleLines_iff :
    Ordered (ruleLines tcpPort dnsPort subnetsV4 subnetsV6 dns) ↔
      subnetsV4.length + subnetsV6.length ≤ 1 ∧
        (dns = true → subnetsV4 = []) :=
  ⟨Ordered.few_subnets,
    fun condition => ordered_of_few_subnets condition.1 condition.2⟩

/-- Only subnets without a line feed can all be read back. -/
theorem WellOrdered.oneLine {text : Text}
    (well : WellOrdered tcpPort dnsPort subnetsV4 subnetsV6 dns text) :
    ∀ cidr ∈ subnetsV4 ++ subnetsV6, '\n' ∉ cidr := by
  intro cidr given newline
  have asked : ∃ family, passOut family cidr ∈
      wantedRules tcpPort dnsPort subnetsV4 subnetsV6 dns := by
    rcases List.mem_append.mp given with first | second
    · exact ⟨.inet, List.mem_append_left _
        (List.mem_append_right _ (List.mem_map_of_mem first))⟩
    · exact ⟨.inet6, List.mem_append_right _ (List.mem_map_of_mem second)⟩
  rcases asked with ⟨family, wanted⟩
  have line := newline_notMem_of_mem_lines
    (well.complete.mem_iff.mpr wanted)
  unfold passOut at line
  exact line (List.mem_append_left _ (List.mem_append_right _ newline))

/--
The text that `pfctl` reads is in pf's order and complete exactly in these
cases; where each subnet is on one line, complete it always is.
-/
theorem ruleText_wellOrdered_iff :
    WellOrdered tcpPort dnsPort subnetsV4 subnetsV6 dns
        (ruleText tcpPort dnsPort subnetsV4 subnetsV6 dns) ↔
      (∀ cidr ∈ subnetsV4 ++ subnetsV6, '\n' ∉ cidr) ∧
        subnetsV4.length + subnetsV6.length ≤ 1 ∧
          (dns = true → subnetsV4 = []) := by
  constructor
  · intro well
    have oneLine := well.oneLine
    have ordered := well.ordered
    rw [lines_ruleText oneLine] at ordered
    exact ⟨oneLine, ordered_ruleLines_iff.mp ordered⟩
  · rintro ⟨oneLine, few⟩
    constructor
    · rw [lines_ruleText oneLine]
      exact ordered_ruleLines_iff.mpr few
    · rw [lines_ruleText oneLine]
      exact ruleLines_perm _ _ _ _ _

end Text

/-- The rule for the second subnet stands behind the filter for the first. -/
theorem second_subnet_unordered :
    ¬ WellOrdered 12300 12301 ["10.0.0.0/8".toList, "172.16.0.0/12".toList]
      [] false (ruleText 12300 12301
        ["10.0.0.0/8".toList, "172.16.0.0/12".toList] [] false) := by
  intro well
  have ordered := well.ordered
  rw [lines_ruleText (by decide), ordered_ruleLines_iff] at ordered
  exact absurd ordered (by decide)

end KubectlSshuttle.Rushtle.PfFirewall
