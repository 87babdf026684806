import Mathlib.Logic.Function.Basic
import KubectlSshuttle.Rushtle.PfRules

/-!
# Undoing an installation in pf

On macOS, `install` loads its rules into an anchor of its own and then enables
pf, which hands out a token.  What `remove` has to undo is kept in a global
that is written last, so an installation that fails in between is not undone.
-/

namespace KubectlSshuttle.Rushtle.PfFirewall

open KubectlSshuttle.Lib.RustText

/-! ## pf -/

/-- The part of pf that `pfctl` works on. -/
structure Pf where
  /-- the rules of each anchor -/
  anchors : Text → Text
  /-- pf has been enabled without a token -/
  plain : Bool
  /-- the tokens of `pfctl -E` that are not released -/
  tokens : List Nat

/-- pf stays enabled until the last reference to it is gone. -/
def Pf.enabled (pf : Pf) : Bool :=
  pf.plain || !pf.tokens.isEmpty

/-- `pfctl -a anchor -f -` -/
def Pf.load (anchor rules : Text) (pf : Pf) : Pf :=
  { pf with anchors := Function.update pf.anchors anchor rules }

/-- `pfctl -a anchor -F all` -/
def Pf.flush (anchor : Text) (pf : Pf) : Pf :=
  pf.load anchor []

/-- `pfctl -E` -/
def Pf.enable (token : Nat) (pf : Pf) : Pf :=
  { pf with tokens := token :: pf.tokens }

/-- `pfctl -X token` -/
def Pf.release (token : Text) (pf : Pf) : Pf :=
  { pf with tokens := pf.tokens.eraseP fun held => decimal held = token }

/-- What a successful `pfctl -E` prints: its remarks, then the token. -/
structure EnableReply where
  remarks : List Text
  token : Nat
  oneLine : ∀ remark ∈ remarks, '\n' ∉ remark
  apart : ∀ remark ∈ remarks, ¬ "Token : ".toList <+: remark

/-- The whole text, line by line. -/
def EnableReply.stderr (reply : EnableReply) : Text :=
  reply.remarks.flatMap (· ++ ['\n']) ++
    ("Token : ".toList ++ decimal reply.token ++ ['\n'])

/-- The reply of a kernel without ALTQ, which most have. -/
def withoutAltq (token : Nat) : EnableReply where
  remarks :=
    ["No ALTQ support in kernel".toList,
      "ALTQ related functions disabled".toList, "pf enabled".toList]
  token := token
  oneLine := by decide
  apart := by decide

/-- How the commands of an installation end. -/
structure PfctlRuns where
  /-- `pfctl -a anchor -f -` succeeds -/
  loads : Bool
  /-- what `pfctl -E` prints, if it succeeds -/
  enables : Option EnableReply

/-! ## Installing and removing -/

/-- What `install` records for `remove`. -/
structure State where
  anchor : Text
  enableToken : Option Text

/-- pf, and the global of the process. -/
structure Host where
  pf : Pf
  state : Option State

/-- A process that has installed nothing. -/
def Host.start (pf : Pf) : Host where
  pf := pf
  state := none

/-- What an installation fails at. -/
inductive InstallError where
  /-- `no subnets to install` -/
  | noSubnets
  /-- `loading pf anchor rules` -/
  | loading
  /-- `enable pf` -/
  | enabling
deriving DecidableEq, Repr

/-- The anchor is named after the chain. -/
def anchorOf (chain : Text) : Text := "com.rushtle/".toList ++ chain

/-- The token in what `pfctl -E` prints. -/
def findToken (stderr : Text) : Option Text :=
  (lines stderr).findSome? fun line =>
    (stripPrefix "Token : ".toList line).map trim

/-- `install`, which writes the global last. -/
def install (chain : Text) (tcpPort dnsPort : UInt16)
    (subnetsV4 subnetsV6 : List Text) (dns : Bool) (runs : PfctlRuns)
    (host : Host) : Except InstallError Unit × Host :=
  let anchor := anchorOf chain
  let rules := ruleText tcpPort dnsPort subnetsV4 subnetsV6 dns
  if rules = [] then (.error .noSubnets, host)
  else if runs.loads then
    let loaded := host.pf.load anchor rules
    match runs.enables with
    | none => (.error .enabling, { host with pf := loaded })
    | some reply =>
        (.ok (),
          { pf := loaded.enable reply.token
            state := some
              { anchor := anchor
                enableToken := findToken reply.stderr } })
  else (.error .loading, host)

/-- `remove`, which undoes what the global names. -/
def remove (host : Host) : Host :=
  match host.state with
  | none => host
  | some state =>
      let flushed := host.pf.flush state.anchor
      { pf :=
          match state.enableToken with
          | none => flushed
          | some token => flushed.release token
        state := none }

/-! ## The token is found -/

theorem stripPrefix_eq_none {pattern text : Text}
    (other : ¬ pattern <+: text) : stripPrefix pattern text = none := by
  rw [Option.eq_none_iff_forall_ne_some]
  intro rest found
  exact other ⟨rest, (stripPrefix_eq_some.mp found).symm⟩

/-- A remark is not taken for the token. -/
theorem stripPrefix_remark {remark : Text}
    (apart : ¬ "Token : ".toList <+: remark) :
    stripPrefix "Token : ".toList (stripLineEnd (remark ++ ['\n'])) =
      none := by
  apply stripPrefix_eq_none
  exact fun starts =>
    apart (starts.trans (stripLineEnd_concat_isPrefix remark))

/-- Remarks in front are skipped. -/
theorem findToken_append {remarks : List Text} (rest : Text)
    (oneLine : ∀ remark ∈ remarks, '\n' ∉ remark)
    (apart : ∀ remark ∈ remarks, ¬ "Token : ".toList <+: remark) :
    findToken (remarks.flatMap (· ++ ['\n']) ++ rest) = findToken rest := by
  induction remarks with
  | nil => rfl
  | cons remark others induction =>
      have later := induction
        (fun other member => oneLine other (List.mem_cons_of_mem _ member))
        (fun other member => apart other (List.mem_cons_of_mem _ member))
      unfold findToken at later ⊢
      rw [List.flatMap_cons, List.append_assoc, List.append_assoc,
        List.singleton_append, lines_append (oneLine remark
          List.mem_cons_self), List.findSome?_cons,
        stripPrefix_remark (apart remark List.mem_cons_self)]
      exact later

theorem findToken_stderr (reply : EnableReply) :
    findToken reply.stderr = some (decimal reply.token) := by
  have tokenLine : stripLineEnd ("Token : ".toList ++ decimal reply.token ++
      ['\n']) = "Token : ".toList ++ decimal reply.token :=
    stripLineEnd_concat (getLast?_append_decimal _ _)
  have oneLine : '\n' ∉ "Token : ".toList ++ decimal reply.token := by
    rw [List.mem_append, not_or]
    exact ⟨by decide, newline_notMem_decimal _⟩
  have found : stripPrefix "Token : ".toList
      ("Token : ".toList ++ decimal reply.token) =
        some (decimal reply.token) := stripPrefix_eq_some.mpr rfl
  unfold EnableReply.stderr
  rw [findToken_append _ reply.oneLine reply.apart, findToken,
    lines_append oneLine, tokenLine, List.findSome?_cons, found,
    Option.map_some, trim_decimal]

/-! ## What is undone -/

/-- The anchor is empty, and the rest of pf is as it was. -/
structure Undone (anchor : Text) (before after : Pf) : Prop where
  emptied : after.anchors anchor = []
  others : ∀ other, other ≠ anchor →
    after.anchors other = before.anchors other
  plain : after.plain = before.plain
  tokens : after.tokens = before.tokens

theorem Undone.enabled {anchor : Text} {before after : Pf}
    (undone : Undone anchor before after) :
    after.enabled = before.enabled := by
  rw [Pf.enabled, Pf.enabled, undone.plain, undone.tokens]

/-- Something to redirect is asked for. -/
def Asked (subnetsV4 subnetsV6 : List Text) (dns : Bool) : Prop :=
  subnetsV4 ≠ [] ∨ subnetsV6 ≠ [] ∨ dns = true

section Undo

variable {chain : Text} {tcpPort dnsPort : UInt16}
  {subnetsV4 subnetsV6 : List Text} {dns : Bool} {runs : PfctlRuns} {pf : Pf}

variable (tcpPort dnsPort) in
theorem ruleText_ne_nil_iff :
    ruleText tcpPort dnsPort subnetsV4 subnetsV6 dns ≠ [] ↔
      Asked subnetsV4 subnetsV6 dns := by
  unfold Asked
  cases subnetsV4 <;> cases subnetsV6 <;> cases dns <;>
    simp [ruleText, ruleLines, subnetRules]

/-- Rules that are not loaded leave everything as it was. -/
theorem install_of_not_loaded
    (unloaded : ¬ (Asked subnetsV4 subnetsV6 dns ∧ runs.loads = true)) :
    (install chain tcpPort dnsPort subnetsV4 subnetsV6 dns runs
      (.start pf)).2 = .start pf := by
  rw [← ruleText_ne_nil_iff tcpPort dnsPort] at unloaded
  rw [install]
  split
  · rfl
  · next some_ =>
      rw [if_neg fun loads => unloaded ⟨some_, loads⟩]

/-- The token of a successful installation is the one released. -/
theorem undone_of_enabled {reply : EnableReply}
    (asked : Asked subnetsV4 subnetsV6 dns) (loads : runs.loads = true)
    (enables : runs.enables = some reply) :
    Undone (anchorOf chain) pf
      (remove (install chain tcpPort dnsPort subnetsV4 subnetsV6 dns runs
        (.start pf)).2).pf := by
  have some_ := (ruleText_ne_nil_iff tcpPort dnsPort).mpr asked
  rw [install, if_neg some_, if_pos loads, enables]
  simp only [remove, findToken_stderr]
  refine ⟨?_, fun other apart => ?_, rfl, ?_⟩
  · simp [Pf.release, Pf.flush, Pf.load]
  · simp [Pf.release, Pf.flush, Pf.load, Pf.enable,
      Function.update_of_ne apart, Host.start]
  · simp [Pf.release, Pf.flush, Pf.load, Pf.enable, Host.start]

/--
An installation is undone exactly if pf is enabled after the rules have been
loaded and, where no rules are loaded, the anchor has been empty before.
-/
theorem remove_undoes_iff :
    Undone (anchorOf chain) pf
        (remove (install chain tcpPort dnsPort subnetsV4 subnetsV6 dns runs
          (.start pf)).2).pf ↔
      (Asked subnetsV4 subnetsV6 dns ∧ runs.loads = true →
          runs.enables ≠ none) ∧
        (¬ (Asked subnetsV4 subnetsV6 dns ∧ runs.loads = true) →
          pf.anchors (anchorOf chain) = []) := by
  by_cases loaded : Asked subnetsV4 subnetsV6 dns ∧ runs.loads = true
  · rcases loaded with ⟨asked, loads⟩
    cases enables : runs.enables with
    | none =>
        have some_ := (ruleText_ne_nil_iff tcpPort dnsPort).mpr asked
        refine iff_of_false (fun undone => ?_)
          (fun condition => condition.1 ⟨asked, loads⟩ rfl)
        have emptied := undone.emptied
        rw [install, if_neg some_, if_pos loads, enables] at emptied
        simp only [remove, Host.start, Pf.load,
          Function.update_self] at emptied
        exact some_ emptied
    | some reply =>
        exact iff_of_true (undone_of_enabled asked loads enables)
          ⟨fun _ => Option.some_ne_none reply,
            fun unloaded => (unloaded ⟨asked, loads⟩).elim⟩
  · rw [install_of_not_loaded loaded, remove]
    constructor
    · exact fun undone => ⟨fun asked => (loaded asked).elim,
        fun _ => undone.emptied⟩
    · exact fun condition => ⟨condition.2 loaded, fun _ _ => rfl, rfl, rfl⟩

end Undo

/-- pf without rules, which nobody has enabled. -/
def untouchedPf : Pf where
  anchors := fun _ => []
  plain := false
  tokens := []

/-- Another process has enabled pf, and its token is still held. -/
example :
    Undone (anchorOf "RUSHTLE_7".toList) (untouchedPf.enable 4)
      (remove (install "RUSHTLE_7".toList 12300 12301
        ["10.0.0.0/8".toList] [] false ⟨true, some (withoutAltq 9)⟩
          (.start (untouchedPf.enable 4))).2).pf :=
  undone_of_enabled (.inl (List.cons_ne_nil _ _)) rfl rfl

/-- `pfctl -E` fails behind the loaded rules, and they stay. -/
theorem loaded_rules_stay :
    ¬ Undone (anchorOf "RUSHTLE_7".toList) untouchedPf
      (remove (install "RUSHTLE_7".toList 12300 12301
        ["10.0.0.0/8".toList] [] false ⟨true, none⟩
          (.start untouchedPf)).2).pf := by
  intro undone
  have asked : Asked ["10.0.0.0/8".toList] [] false :=
    .inl (List.cons_ne_nil _ _)
  have stays := (ruleText_ne_nil_iff 12300 12301).mpr asked
  have emptied := undone.emptied
  rw [install, if_neg stays] at emptied
  simp only [remove, Host.start, Pf.load, Function.update_self,
    if_true] at emptied
  exact stays emptied

end KubectlSshuttle.Rushtle.PfFirewall
