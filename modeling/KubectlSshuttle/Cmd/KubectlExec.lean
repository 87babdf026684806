import KubectlSshuttle.Lib.Shell

/-!
# The two ways to call kubectl

`ssh-proxy` hands kubectl an argument vector.  The local rushtle client hands
`sh -c` a command text instead, which `kubectlExecRushtleServer` joins from
its parts without quoting them.
-/

namespace KubectlSshuttle.Cmd.KubectlExec

open KubectlSshuttle.Lib.RustText
open KubectlSshuttle.Lib.Shell

/-! ## The two calls -/

/-- `BuildKubectlExecArgs` -/
def buildKubectlExecArgs (context namespaceName name : Text)
    (remoteCmd : List Text) : List Text :=
  (if context ≠ [] then ["--context".toList, context] else []) ++
    (if namespaceName ≠ [] then ["-n".toList, namespaceName] else []) ++
    ["exec".toList, "-i".toList, "deploy/".toList ++ name, "--".toList] ++
    remoteCmd

/-- What `kubectlExecRushtleServer` joins; `name` is `effectiveName()`. -/
def rushtleServerParts (context namespaceName name : Text) : List Text :=
  ["kubectl".toList] ++
    (if context ≠ [] then ["--context".toList, context] else []) ++
    ["-n".toList, namespaceName, "exec".toList, "-i".toList,
      "deploy/".toList ++ name, "--".toList, "rushtle".toList,
      "server".toList]

/-- `kubectlExecRushtleServer` -/
def kubectlExecRushtleServer (context namespaceName name : Text) : Text :=
  join (rushtleServerParts context namespaceName name)

/-- The call of the `ssh-proxy` path, for the same remote command. -/
def sshProxyCall (context namespaceName name : Text) : List Text :=
  "kubectl".toList :: buildKubectlExecArgs context namespaceName name
    ["rushtle".toList, "server".toList]

/-- Whatever its environment, the shell makes the same call of the text. -/
def SameCall (context namespaceName name : Text) : Prop :=
  ∀ environment,
    argumentVector environment
        (kubectlExecRushtleServer context namespaceName name) =
      some (sshProxyCall context namespaceName name)

/-! ## Which names survive -/

/-- The shell passes the word on as it is. -/
def Survives (word : Text) : Prop :=
  IsRaw word ∧ Unexpanded word

/-- The names that the shell passes on as they are. -/
structure NamesSurvive (context namespaceName name : Text) : Prop where
  context : context ≠ [] → Survives context
  namespaceName : Survives namespaceName
  /-- it stands behind `deploy/` -/
  name : isRawTail name = true ∧ isPattern (bare name) = false

section Names

variable {context namespaceName name : Text}

instance : Decidable (Survives name) :=
  inferInstanceAs (Decidable (_ ∧ _))

/-- The name decides, as what stands in front of it is inert. -/
theorem survives_deploy :
    Survives ("deploy/".toList ++ name) ↔
      isRawTail name = true ∧ isPattern (bare name) = false := by
  have inert : "deploy/".toList.all isInert = true := by decide
  rw [Survives, isRaw_iff, unexpanded_iff, isRawTail_append inert,
    isPattern_append inert]
  constructor
  · rintro ⟨⟨_, tail, _⟩, _, pattern⟩
    exact ⟨tail, pattern⟩
  · rintro ⟨tail, pattern⟩
    have first : ("deploy/".toList ++ name).head? = some 'd' := rfl
    rw [first]
    exact ⟨⟨List.cons_ne_nil _ _, tail, by decide⟩, by decide, pattern⟩

theorem fixed_survive :
    ∀ word ∈ ["kubectl".toList, "--context".toList, "-n".toList,
      "exec".toList, "-i".toList, "--".toList, "rushtle".toList,
      "server".toList], Survives word := by
  decide

/-- Besides the names, the parts are harmless. -/
theorem parts_survive_iff :
    (∀ word ∈ rushtleServerParts context namespaceName name,
        Survives word) ↔
      NamesSurvive context namespaceName name := by
  have option : (∀ word ∈ if context ≠ [] then
      ["--context".toList, context] else [], Survives word) ↔
        (context ≠ [] → Survives context) := by
    by_cases given : context ≠ []
    · have flag := fixed_survive "--context".toList (by decide)
      rw [if_pos given, List.forall_mem_cons, List.forall_mem_singleton]
      exact ⟨fun both _ => both.2, fun context => ⟨flag, context given⟩⟩
    · rw [if_neg given]
      exact iff_of_true (List.forall_mem_nil _) fun some_ => (given some_).elim
  rw [rushtleServerParts, List.forall_mem_append, List.forall_mem_append,
    List.forall_mem_singleton, option]
  iterate 8 rw [List.forall_mem_cons]
  rw [survives_deploy]
  have fixed := fixed_survive
  iterate 8 rw [List.forall_mem_cons] at fixed
  rcases fixed with
    ⟨kubectl, _, flag, exec, stdin, dashes, rushtle, server, none⟩
  constructor
  · rintro ⟨⟨_, context⟩, _, namespaceName, _, _, name, _⟩
    exact ⟨context, namespaceName, name⟩
  · intro names
    exact ⟨⟨kubectl, names.context⟩, flag, names.namespaceName, exec,
      stdin, names.name, dashes, rushtle, server, none⟩

/-- With a namespace, the parts are the words of the other call. -/
theorem sshProxyCall_eq (given : namespaceName ≠ []) :
    sshProxyCall context namespaceName name =
      rushtleServerParts context namespaceName name := by
  rw [sshProxyCall, buildKubectlExecArgs, rushtleServerParts, if_pos given]
  split <;> rfl

/-- Without one, the text has an option that the other call leaves out. -/
theorem count_parts_of_empty (char : Char) :
    (rushtleServerParts context [] name).flatten.count char =
      "-n".toList.count char +
        (sshProxyCall context [] name).flatten.count char := by
  rw [rushtleServerParts, sshProxyCall, buildKubectlExecArgs,
    if_neg (not_not.mpr rfl)]
  simp only [List.flatten_append, List.flatten_cons, List.flatten_nil,
    List.count_append, List.append_nil, List.count_nil]
  omega

/-- The option can only be lost in a comment, and then its sign is lost. -/
theorem not_sameCall_of_empty : ¬ SameCall context [] name := by
  intro same
  rcases lex_of_barren (same barren) with ⟨found, read, texts⟩
  rw [kubectlExecRushtleServer] at read
  have counts (char : Char) (apart : char ≠ ' ') :
      (dropped .between (join (rushtleServerParts context [] name))).count
        char = "-n".toList.count char := by
    have counted := count_dropped_join read apart
    rw [texts, count_parts_of_empty] at counted
    omega
  have lost : '-' ∈ dropped .between
      (join (rushtleServerParts context [] name)) := by
    rw [← List.count_pos_iff, counts '-' (by decide)]
    decide
  have sign := sign_of_dropped read Mode.noConfusion
    ⟨by decide, by decide, by decide⟩ lost
  rw [← List.count_pos_iff, counts '#' (by decide)] at sign
  exact absurd sign (by decide)

/--
The two paths make the same call exactly for the names that the shell passes
on as they are.
-/
theorem sameCall_iff :
    SameCall context namespaceName name ↔
      NamesSurvive context namespaceName name := by
  by_cases given : namespaceName = []
  · subst given
    refine iff_of_false not_sameCall_of_empty fun survive => ?_
    exact survive.namespaceName.1.nonempty rfl
  · rw [← parts_survive_iff, SameCall, sshProxyCall_eq given]
    exact argumentVector_join_iff

end Names

/-- A space in the name of a context splits it. -/
theorem spaced_context_split :
    ¬ SameCall "my ctx".toList "default".toList "proxy".toList := by
  intro same
  exact absurd (same barren) (by decide)

end KubectlSshuttle.Cmd.KubectlExec
